import Crowfoot.Proofs.Outcome
import Crowfoot.Proofs.Store.Line

/-
What a store says of itself: the mark of unsaved changes, and the schemas that listeners are told of. The mark is set
and taken away in other places than the schema is changed in, and listeners are told in a third.

- `Deed`: the changes of a store, and saving it. What cannot be carried out changes nothing.
- `filed?`, `lastFiled`: the schema that a deed puts into a file or takes out of one, and the latest of them over a run.
  A store does not keep it; it is what the mark is about.
- `Reported`: what one deed leaves: listeners are told or nothing changes, and the mark stays away only if nothing
  changes or something is filed. `carryOut_reported` says it of every deed, with one lemma for each operation.
- `Candid`: the invariant. Without the mark, the schema is the one that was filed last; and listeners were told of the
  schema last, if they were told of any.
- `carryOuts_candid`: what holds of a store after any run.
-/

namespace Crowfoot.Store

/-- what is done with a store that keeps its schema in files -/
inductive Deed where
  | change (c : Change)
  | save (files : Files) (path : Option Path)

variable {σ : Type} [IdSupply σ]

/-- the store after a deed; what cannot be carried out changes nothing -/
def carryOut (st : Store Float σ) : Deed → Store Float σ
  | .change c => (st.perform c).2
  | .save files path =>
    match (st.saveFile files path).1 with
    | .ok (st, _) => st
    | .error _ => st

def carryOuts (st : Store Float σ) (ds : List Deed) : Store Float σ := ds.foldl carryOut st

/-- the schema that a deed puts into a file or takes out of one -/
def filed? (st : Store Float σ) : Deed → Option (Schema Float)
  | .change (.open files path) => (contents files path).toOption
  | .change _ => none
  | .save files path => (st.saveFile files path).1.toOption.map fun _ => st.schema

/-- the schema that was filed last over a run, when a first one was filed before it -/
def lastFiled (st : Store Float σ) (first : Schema Float) : List Deed → Schema Float
  | [] => first
  | d :: ds => lastFiled (st.carryOut d) ((st.filed? d).getD first) ds

/-- whether listeners are to hear of a deed: another schema is committed, steps are made along the history, or a file
is opened -/
def tells (st : Store Float σ) : Deed → Bool
  | .change (.commit s) => !s.same st.schema
  | .change .reset => !Schema.empty.same st.schema
  | .change (.undo steps) => decide (0 < (st.undo steps).1)
  | .change (.redo steps) => decide (0 < (st.redo steps).1)
  | .change (.open files path) => (contents files path).isOk
  | .save _ _ => false

/-! ## One deed -/

section Reports

variable {κ τ : Type}

/-- what a deed leaves of which listeners are told or not, and by which a schema is filed or not -/
structure Reported (told : Bool) (filed : Option (Schema κ)) (st st' : Store κ τ) : Prop where
  announced : st'.announced = if told then st'.schema :: st.announced else st.announced
  quiet : told = false → st'.schema = st.schema
  clean : st'.dirty = false → filed = some st'.schema ∨ filed = none ∧ st.dirty = false ∧ st'.schema = st.schema

variable (st : Store κ τ)

theorem Reported.none : Reported false none st st :=
  ⟨rfl, fun _ => rfl, fun hclean => Or.inr ⟨rfl, hclean, rfl⟩⟩

/-- a move by no step is none, and any other is told of and marks the store -/
theorem moved_reported (n : ℕ) (t : Timeline (Schema κ)) :
    Reported (decide (0 < (st.moved n t).1)) .none st (st.moved n t).2 := by
  unfold moved
  split_ifs with hzero
  · exact Reported.none st
  · rw [decide_eq_true (Nat.pos_of_ne_zero hzero)]
    exact ⟨rfl, by simp, by simp [announce]⟩

theorem saved_reported (path : Path) : Reported false (some st.schema) st (st.saved path) :=
  ⟨rfl, fun _ => rfl, fun _ => Or.inl rfl⟩

/-- a schema that can be saved is the one of the store, and nothing else becomes of it -/
theorem saveFile_saved {st : Store Float τ} {files : Files} {path : Option Path} {saved : Store Float τ × Path}
    (h : (st.saveFile files path).1 = .ok saved) : ∃ p, saved.1 = st.saved p := by
  unfold saveFile at h
  cases hpath : path.or st.filePath with
  | none =>
    rw [hpath] at h
    cases h
  | some p =>
    rw [hpath] at h
    dsimp only at h
    cases hencode : Document.encode st.schema with
    | ok text =>
      rw [hencode] at h
      dsimp only at h
      split at h
      · cases h
        exact ⟨p, rfl⟩
      · cases h
    | error c =>
      rw [hencode] at h
      dsimp only at h
      split at h <;> cases h

variable [IdSupply τ]

theorem opened_reported (path : Path) (s : Schema κ) : Reported true (some s) st (st.opened path s) :=
  ⟨rfl, by simp, fun _ => Or.inl rfl⟩

variable [Coordinate κ]

theorem commit_reported (s : Schema κ) : Reported (!s.same st.schema) .none st (st.commit s).2 := by
  unfold commit
  cases s.same st.schema with
  | true => exact Reported.none st
  | false => exact ⟨rfl, by simp, by simp [announce]⟩

end Reports

theorem carryOut_reported (st : Store Float σ) (d : Deed) : Reported (st.tells d) (st.filed? d) st (st.carryOut d) := by
  cases d with
  | change c =>
    cases c with
    | commit s => exact st.commit_reported s
    | reset => exact st.commit_reported Schema.empty
    | undo steps => exact st.moved_reported _ _
    | redo steps => exact st.moved_reported _ _
    | «open» files path =>
      simp only [carryOut, perform, openFile_eq, tells, filed?]
      cases contents files path with
      | error e => exact Reported.none st
      | ok s => exact st.opened_reported path s
  | save files path =>
    simp only [carryOut, tells, filed?]
    cases hsaved : (st.saveFile files path).1 with
    | error e => exact Reported.none st
    | ok saved =>
      obtain ⟨p, hp⟩ := saveFile_saved hsaved
      show Reported false (some st.schema) st saved.1
      rw [hp]
      exact st.saved_reported p

/-! ## Runs -/

/-- what a store says of itself is so: without the mark of changes the schema is the one that was filed last, and
listeners were told of the schema last, or of none since the first one -/
structure Candid (first filed : Schema Float) (st : Store Float σ) : Prop where
  clean : st.dirty = false → st.schema = filed
  heard : st.announced.head?.getD first = st.schema

theorem ofSchema_candid (s : Schema Float) (limit : ℕ) (ids : σ) : Candid s s (ofSchema s limit ids) :=
  ⟨fun _ => rfl, rfl⟩

theorem carryOut_candid {st : Store Float σ} {first filed : Schema Float} (h : Candid first filed st) (d : Deed) :
    Candid first ((st.filed? d).getD filed) (st.carryOut d) := by
  obtain ⟨hannounced, hquiet, hclean⟩ := st.carryOut_reported d
  constructor
  · intro hdirty
    rcases hclean hdirty with hfiled | ⟨hfiled, hbefore, hsame⟩
    · rw [hfiled, Option.getD_some]
    · rw [hfiled, Option.getD_none, hsame, h.clean hbefore]
  · rw [hannounced]
    cases htold : st.tells d with
    | true => rfl
    | false => rw [hquiet htold, if_neg Bool.false_ne_true, h.heard]

theorem carryOuts_candid {st : Store Float σ} {first filed : Schema Float} (h : Candid first filed st)
    (ds : List Deed) : Candid first (st.lastFiled filed ds) (st.carryOuts ds) := by
  induction ds generalizing st filed with
  | nil => exact h
  | cons d ds ih => exact ih (carryOut_candid h d)

/-- **The mark of changes and the listeners.** After any run from a schema, a store without the mark of unsaved changes
has the schema that was put into a file or taken out of one last, or the first one. Whatever is done then, listeners are
told once of the schema after it if another schema is committed, steps are made along the history or a file is opened,
and not at all otherwise; so what they were told last is the schema of the store. -/
theorem carryOuts_ofSchema (s : Schema Float) (limit : ℕ) (ids : σ) (ds : List Deed) :
    let st := (ofSchema s limit ids).carryOuts ds
    (st.dirty = false → st.schema = (ofSchema s limit ids).lastFiled s ds) ∧
      (∀ d, (st.carryOut d).announced =
        if st.tells d then (st.carryOut d).schema :: st.announced else st.announced) ∧
      st.announced.head?.getD s = st.schema := by
  intro st
  have hcandid := carryOuts_candid (ofSchema_candid s limit ids) ds
  exact ⟨hcandid.clean, fun d => (st.carryOut_reported d).announced, hcandid.heard⟩

end Crowfoot.Store

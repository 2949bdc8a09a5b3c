import Mathlib.Tactic
import Crowfoot.Store.Basic

/-
The history of a store as a line of schemas with a cursor. The past and the future that a store keeps are the two sides
of the cursor; what the store is asked to do either moves the cursor or rewrites the line.

- `Line`: a list with a cursor, and what `commit`, `undo` and `redo` mean on it. Nothing here knows of two stacks.
- `line_push`, `line_backBy`, `line_forwardBy`: each change of a timeline, seen on its line.
- `Bounded`: past and future together stay within the limit. Only a commit looks at the limit; a step forward keeps to
  it because it takes from the future what it gives to the past.
- `Stepwise`: neighbours on the line are different.
- `perform_line`, `run_line`: a store does what the line does, answer by answer.
- `run_ofSchema`: the same from a new store, with what holds of every line that it comes to.
-/

namespace Crowfoot

/-! ## Lines -/

/-- some values in order, and the place of the current one -/
structure Line (α : Type) where
  entries : List α
  cursor : ℕ
  deriving DecidableEq, Repr

namespace Line

variable {α : Type}

def only (x : α) : Line α := ⟨[x], 0⟩

def current? (l : Line α) : Option α := l.entries[l.cursor]?

/-- drop the oldest entries until at most `limit` of them are left of the cursor -/
def trim (limit : ℕ) (l : Line α) : Line α := ⟨l.entries.drop (l.cursor - limit), min l.cursor limit⟩

/-- a value that is the same as the current one changes nothing; another one takes the place of all that is right of
the cursor, and the cursor moves to it -/
def commit (same : α → α → Bool) (limit : ℕ) (x : α) (l : Line α) : Bool × Line α :=
  if l.current?.any (same x) then (false, l)
  else (true, trim limit ⟨l.entries.take (l.cursor + 1) ++ [x], l.cursor + 1⟩)

/-- move the cursor left by as many entries as wanted, or as there are -/
def undo (steps : ℤ) (l : Line α) : ℕ × Line α :=
  let n := min (max steps 0).toNat l.cursor
  (n, { l with cursor := l.cursor - n })

/-- move the cursor right by as many entries as wanted, or as there are -/
def redo (steps : ℤ) (l : Line α) : ℕ × Line α :=
  let n := min (max steps 0).toNat (l.entries.length - 1 - l.cursor)
  (n, { l with cursor := l.cursor + n })

end Line

/-! ## Timelines -/

namespace Timeline

variable {α : Type}

/-- the line that a timeline stands for -/
def line (t : Timeline α) : Line α := ⟨t.toList, t.past.length⟩

theorem line_entries (t : Timeline α) : t.line.entries = t.past.reverse ++ t.present :: t.future := rfl

theorem line_cursor (t : Timeline α) : t.line.cursor = t.past.length := rfl

theorem line_current? (t : Timeline α) : t.line.current? = some t.present := by
  simp [Line.current?, line_entries, line_cursor]

theorem line_take (t : Timeline α) :
    t.line.entries.take (t.line.cursor + 1) = (t.present :: t.past).reverse := by
  rw [line_entries, line_cursor, List.take_append, List.length_reverse, Nat.add_sub_cancel_left]
  simp

/-- a new value ends the line up to the cursor, and then the limit is looked at -/
theorem line_push (limit : ℕ) (x : α) (t : Timeline α) :
    (t.push limit x).line = Line.trim limit ⟨t.line.entries.take (t.line.cursor + 1) ++ [x], t.line.cursor + 1⟩ := by
  have hkept : (t.present :: t.past).length - (t.past.length + 1 - limit) = min limit (t.past.length + 1) := by
    rw [List.length_cons]
    omega
  rw [line_take]
  unfold Line.trim
  dsimp only
  rw [line_cursor, List.drop_append_of_le_length (by simp), List.drop_reverse, hkept, ← List.length_cons,
    ← List.take_eq_take_min]
  simp [line, toList, push, min_comm]

theorem back_toList (t : Timeline α) : t.back.toList = t.toList := by
  unfold back
  split
  · rfl
  · rename_i hpast
    simp [toList, hpast]

theorem forward_toList (t : Timeline α) : t.forward.toList = t.toList := by
  unfold forward
  split
  · rfl
  · rename_i hfuture
    simp [toList, hfuture]

theorem back_past_length (t : Timeline α) : t.back.past.length = t.past.length - 1 := by
  unfold back
  split <;> simp_all

/-- a step forward lengthens the past, unless there is nothing ahead -/
theorem forward_past_length {t : Timeline α} (h : t.future ≠ []) : t.forward.past.length = t.past.length + 1 := by
  unfold forward
  split
  · contradiction
  · rfl

/-- what lies on both sides of the present value -/
theorem sides_length (t : Timeline α) : t.toList.length = t.past.length + t.future.length + 1 := by
  simp [toList]
  omega

/-- the cursor moves left on a line that stays -/
theorem line_backBy (n : ℕ) (t : Timeline α) : (t.backBy n).line = { t.line with cursor := t.line.cursor - n } := by
  induction n generalizing t with
  | zero => rfl
  | succ n ih =>
    rw [backBy, ih]
    simp only [line, back_toList, back_past_length]
    congr 1
    omega

theorem line_forwardBy {n : ℕ} {t : Timeline α} (h : n ≤ t.future.length) :
    (t.forwardBy n).line = { t.line with cursor := t.line.cursor + n } := by
  induction n generalizing t with
  | zero => rfl
  | succ n ih =>
    have hfuture : t.future ≠ [] := List.ne_nil_of_length_pos (by omega)
    have hsides := t.forward.sides_length
    rw [forward_toList, sides_length, forward_past_length hfuture] at hsides
    rw [forwardBy, ih (by omega)]
    simp only [line, forward_toList, forward_past_length hfuture]
    congr 1
    omega

/-- a timeline is told by its line -/
theorem eq_of_line {t u : Timeline α} (h : t.line = u.line) : t = u := by
  obtain ⟨past, present, future⟩ := t
  obtain ⟨past', present', future'⟩ := u
  simp only [line, toList, Line.mk.injEq] at h
  obtain ⟨hpast, hrest⟩ := List.append_inj h.1 (by simpa using h.2)
  obtain ⟨rfl, rfl⟩ := List.cons.inj hrest
  rw [List.reverse_inj.1 hpast]

/-- as many steps forward as were taken back lead to where one was -/
theorem forwardBy_backBy {n : ℕ} {t : Timeline α} (h : n ≤ t.past.length) : (t.backBy n).forwardBy n = t := by
  have hcursor : (t.backBy n).past.length = t.past.length - n := congrArg Line.cursor (line_backBy n t)
  have hentries : (t.backBy n).toList = t.toList := congrArg Line.entries (line_backBy n t)
  have hsides := congrArg List.length hentries
  rw [sides_length, sides_length, hcursor] at hsides
  refine eq_of_line ?_
  rw [line_forwardBy (by omega), line_backBy]
  simp only [line]
  congr 1
  omega

/-! ## What every timeline of a store keeps to -/

/-- past and future together stay within a limit -/
def Bounded (limit : ℕ) (t : Timeline α) : Prop := t.past.length + t.future.length ≤ limit

/-- every value differs from the one before it -/
def Stepwise (same : α → α → Bool) (t : Timeline α) : Prop :=
  t.toList.IsChain fun older newer => same newer older = false

variable {limit : ℕ} {same : α → α → Bool} {t u : Timeline α}

/-- to move the cursor changes neither -/
theorem Bounded.of_entries (h : Bounded limit t) (hentries : u.toList = t.toList) : Bounded limit u := by
  have hsides := congrArg List.length hentries
  rw [sides_length, sides_length] at hsides
  unfold Bounded at h ⊢
  omega

theorem Bounded.push (x : α) : Bounded limit (t.push limit x) := by
  simp [Bounded, Timeline.push]

theorem Stepwise.of_entries (h : Stepwise same t) (hentries : u.toList = t.toList) : Stepwise same u := by
  unfold Stepwise
  rw [hentries]
  exact h

/-- a new value comes after the present one, whatever is dropped on the far side -/
theorem Stepwise.push {x : α} (h : Stepwise same t) (hx : same x t.present = false) :
    Stepwise same (t.push limit x) := by
  have hline := congrArg Line.entries (t.line_push limit x)
  have hleft : (t.line.entries.take (t.line.cursor + 1)).IsChain fun older newer => same newer older = false :=
    List.IsChain.take h _
  unfold Stepwise
  change (t.push limit x).line.entries.IsChain _
  rw [hline]
  rw [line_take] at hleft ⊢
  refine List.IsChain.drop (List.isChain_append.2 ⟨hleft, List.isChain_singleton x, ?_⟩) _
  simp [hx]

end Timeline

/-! ## Stores -/

namespace Store

/-- what moves a store along its history or gives it another schema -/
inductive Change where
  | commit (s : Schema Float)
  | reset
  | undo (steps : ℤ)
  | redo (steps : ℤ)
  | open (files : Files) (path : Path)

/-- what comes back from a change -/
inductive Answer where
  | changed (yes : Bool)
  | moved (steps : ℕ)
  | opened (error : Option OpenError)
  deriving DecidableEq, Repr

/-- one change after another, with what comes back from each -/
def runWith {τ : Type} (perform : τ → Change → Answer × τ) : τ → List Change → List Answer × τ
  | x, [] => ([], x)
  | x, c :: cs => ((perform x c).1 :: (runWith perform (perform x c).2 cs).1, (runWith perform (perform x c).2 cs).2)

/-- the schema in a file -/
def contents (files : Files) (path : Path) : Except OpenError (Schema Float) := do
  if !files.contains path then throw (.missing path)
  let text ← (files.read path).mapError OpenError.unreadable
  (Document.decode (unifiedLines text)).mapError OpenError.malformed

variable {σ : Type} [IdSupply σ]

theorem openFile_eq (st : Store Float σ) (files : Files) (path : Path) :
    st.openFile files path = (contents files path).map (st.opened path) := by
  unfold openFile contents
  cases files.contains path with
  | false => rfl
  | true =>
    cases files.read path with
    | error e => rfl
    | ok text => cases Document.decode (unifiedLines text) <;> rfl

/-- carry out a change; a file that cannot be opened changes nothing -/
def perform (st : Store Float σ) : Change → Answer × Store Float σ
  | .commit s => (.changed (st.commit s).1, (st.commit s).2)
  | .reset => (.changed st.reset.1, st.reset.2)
  | .undo steps => (.moved (st.undo steps).1, (st.undo steps).2)
  | .redo steps => (.moved (st.redo steps).1, (st.redo steps).2)
  | .open files path =>
    match st.openFile files path with
    | .ok st => (.opened none, st)
    | .error e => (.opened (some e), st)

def run (st : Store Float σ) (cs : List Change) : List Answer × Store Float σ := runWith perform st cs

end Store

/-- what a change is on a line of schemas, of which so many may be left of the cursor -/
def Line.perform (limit : ℕ) (l : Line (Schema Float)) : Store.Change → Store.Answer × Line (Schema Float)
  | .commit s => (.changed (l.commit Schema.same limit s).1, (l.commit Schema.same limit s).2)
  | .reset => (.changed (l.commit Schema.same limit Schema.empty).1, (l.commit Schema.same limit Schema.empty).2)
  | .undo steps => (.moved (l.undo steps).1, (l.undo steps).2)
  | .redo steps => (.moved (l.redo steps).1, (l.redo steps).2)
  | .open files path =>
    match Store.contents files path with
    | .ok s => (.opened none, Line.only s)
    | .error e => (.opened (some e), l)

def Line.run (limit : ℕ) (l : Line (Schema Float)) (cs : List Store.Change) :
    List Store.Answer × Line (Schema Float) :=
  Store.runWith (Line.perform limit) l cs

namespace Store

section Steps

variable {κ σ : Type} (st : Store κ σ)

/-- a move by no step is no move, but leaves the same timeline -/
theorem moved_eq (n : ℕ) {t : Timeline (Schema κ)} (h : n = 0 → t = st.timeline) :
    (st.moved n t).1 = n ∧ (st.moved n t).2.timeline = t ∧ (st.moved n t).2.maxHistory = st.maxHistory := by
  unfold moved
  split_ifs with hzero
  · exact ⟨hzero.symm, (h hzero).symm, rfl⟩
  · exact ⟨rfl, rfl, rfl⟩

/-- how many steps back are made of those wanted -/
def stepsBack (steps : ℤ) : ℕ := min steps.toNat st.timeline.past.length

def stepsForward (steps : ℤ) : ℕ := min steps.toNat st.timeline.future.length

theorem stepsForward_le (steps : ℤ) : st.stepsForward steps ≤ st.timeline.future.length := min_le_right _ _

theorem undo_eq (steps : ℤ) : (st.undo steps).1 = st.stepsBack steps ∧
    (st.undo steps).2.timeline = st.timeline.backBy (st.stepsBack steps) ∧
    (st.undo steps).2.maxHistory = st.maxHistory :=
  st.moved_eq _ fun hzero => by rw [hzero]; rfl

theorem redo_eq (steps : ℤ) : (st.redo steps).1 = st.stepsForward steps ∧
    (st.redo steps).2.timeline = st.timeline.forwardBy (st.stepsForward steps) ∧
    (st.redo steps).2.maxHistory = st.maxHistory :=
  st.moved_eq _ fun hzero => by rw [hzero]; rfl

theorem undo_line (steps : ℤ) : ((st.undo steps).1, (st.undo steps).2.timeline.line) = st.timeline.line.undo steps := by
  obtain ⟨hsteps, htimeline, -⟩ := st.undo_eq steps
  have hwanted : (max steps 0).toNat = steps.toNat := by omega
  rw [hsteps, htimeline, Timeline.line_backBy, Line.undo, hwanted]
  rfl

theorem redo_line (steps : ℤ) : ((st.redo steps).1, (st.redo steps).2.timeline.line) = st.timeline.line.redo steps := by
  obtain ⟨hsteps, htimeline, -⟩ := st.redo_eq steps
  have hwanted : (max steps 0).toNat = steps.toNat := by omega
  have hahead : st.timeline.line.entries.length - 1 - st.timeline.line.cursor = st.timeline.future.length := by
    have hsides := st.timeline.sides_length
    show st.timeline.toList.length - 1 - st.timeline.past.length = _
    omega
  rw [hsteps, htimeline, Timeline.line_forwardBy (st.stepsForward_le steps), Line.redo, hwanted, hahead]
  rfl

/-- as many steps as were taken back can be repeated, and lead to the same history -/
theorem redo_undo (steps : ℤ) : ((st.undo steps).2.redo (st.undo steps).1).1 = (st.undo steps).1 ∧
    ((st.undo steps).2.redo (st.undo steps).1).2.timeline = st.timeline := by
  obtain ⟨hsteps, htimeline, -⟩ := st.undo_eq steps
  obtain ⟨hagain, htimeline', -⟩ := (st.undo steps).2.redo_eq (st.undo steps).1
  have hback : st.stepsBack steps ≤ st.timeline.past.length := min_le_right _ _
  have hahead : st.stepsBack steps ≤ (st.timeline.backBy (st.stepsBack steps)).future.length := by
    have hcursor := congrArg Line.cursor (st.timeline.line_backBy (st.stepsBack steps))
    have hentries := congrArg (List.length ∘ Line.entries) (st.timeline.line_backBy (st.stepsBack steps))
    simp only [Function.comp_apply, Timeline.line, Timeline.sides_length] at hcursor hentries
    omega
  have hn : (st.undo steps).2.stepsForward (st.undo steps).1 = st.stepsBack steps := by
    rw [stepsForward, htimeline, hsteps, Int.toNat_natCast]
    exact min_eq_left hahead
  refine ⟨by rw [hagain, hn, hsteps], ?_⟩
  rw [htimeline', hn, htimeline, Timeline.forwardBy_backBy hback]

variable [Coordinate κ]

/-- what every store keeps to -/
structure Kept : Prop where
  bounded : st.timeline.Bounded st.maxHistory
  stepwise : st.timeline.Stepwise Schema.same

/-- to move along the history changes neither what is on it nor how much may be -/
theorem Kept.of_entries {st st' : Store κ σ} (h : st.Kept) (hentries : st'.timeline.toList = st.timeline.toList)
    (hlimit : st'.maxHistory = st.maxHistory) : st'.Kept :=
  ⟨hlimit ▸ h.bounded.of_entries hentries, h.stepwise.of_entries hentries⟩

theorem Kept.undo {st : Store κ σ} (h : st.Kept) (steps : ℤ) : (st.undo steps).2.Kept := by
  obtain ⟨-, htimeline, hlimit⟩ := st.undo_eq steps
  refine h.of_entries ?_ hlimit
  rw [htimeline]
  exact congrArg Line.entries (Timeline.line_backBy _ _)

theorem Kept.redo {st : Store κ σ} (h : st.Kept) (steps : ℤ) : (st.redo steps).2.Kept := by
  obtain ⟨-, htimeline, hlimit⟩ := st.redo_eq steps
  refine h.of_entries ?_ hlimit
  rw [htimeline]
  exact congrArg Line.entries (Timeline.line_forwardBy (st.stepsForward_le steps))

variable [IdSupply σ]

theorem ofSchema_kept (s : Schema κ) (limit : ℕ) (ids : σ) : (ofSchema s limit ids).Kept :=
  ⟨Nat.zero_le _, List.isChain_singleton s⟩

theorem commit_same {s : Schema κ} (h : s.same st.schema = true) : st.commit s = (false, st) := if_pos h

theorem commit_line (s : Schema κ) : ((st.commit s).1, (st.commit s).2.timeline.line) =
    st.timeline.line.commit Schema.same st.maxHistory s := by
  unfold commit Line.commit
  rw [Timeline.line_current?, Option.any_some]
  by_cases hsame : s.same st.timeline.present = true
  · rw [if_pos hsame, if_pos (show s.same st.schema = true from hsame)]
  · rw [if_neg hsame, if_neg (show ¬ s.same st.schema = true from hsame), ← Timeline.line_push]
    rfl

theorem commit_maxHistory (s : Schema κ) : (st.commit s).2.maxHistory = st.maxHistory := by
  unfold commit
  split_ifs <;> rfl

theorem Kept.commit {st : Store κ σ} (h : st.Kept) (s : Schema κ) : (st.commit s).2.Kept := by
  unfold Store.commit
  split_ifs with hsame
  · exact h
  · exact ⟨Timeline.Bounded.push s, h.stepwise.push (Bool.eq_false_iff.2 hsame)⟩

theorem Kept.opened (path : Path) (s : Schema κ) : (st.opened path s).Kept :=
  ⟨Nat.zero_le _, List.isChain_singleton s⟩

end Steps

/-! ## Runs -/

variable {σ : Type} [IdSupply σ]

theorem perform_line (st : Store Float σ) (c : Change) :
    ((st.perform c).1, (st.perform c).2.timeline.line) = st.timeline.line.perform st.maxHistory c := by
  cases c with
  | commit s => simp only [perform, Line.perform, ← commit_line]
  | reset => simp only [perform, Line.perform, reset, ← commit_line]
  | undo steps => simp only [perform, Line.perform, ← undo_line]
  | redo steps => simp only [perform, Line.perform, ← redo_line]
  | «open» files path =>
    simp only [perform, Line.perform, openFile_eq]
    cases contents files path <;> rfl

theorem perform_maxHistory (st : Store Float σ) (c : Change) : (st.perform c).2.maxHistory = st.maxHistory := by
  cases c with
  | commit s => exact st.commit_maxHistory s
  | reset => exact st.commit_maxHistory Schema.empty
  | undo steps => exact (st.undo_eq steps).2.2
  | redo steps => exact (st.redo_eq steps).2.2
  | «open» files path =>
    simp only [perform, openFile_eq]
    cases contents files path <;> rfl

theorem run_maxHistory (st : Store Float σ) (cs : List Change) : (st.run cs).2.maxHistory = st.maxHistory := by
  induction cs generalizing st with
  | nil => rfl
  | cons c cs ih => exact (ih (st.perform c).2).trans (st.perform_maxHistory c)

theorem perform_kept {st : Store Float σ} (h : st.Kept) (c : Change) : (st.perform c).2.Kept := by
  cases c with
  | commit s => exact h.commit s
  | reset => exact h.commit Schema.empty
  | undo steps => exact h.undo steps
  | redo steps => exact h.redo steps
  | «open» files path =>
    simp only [perform, openFile_eq]
    cases contents files path with
    | error e => exact h
    | ok s => exact Kept.opened st path s

theorem run_kept {st : Store Float σ} (h : st.Kept) (cs : List Change) : (st.run cs).2.Kept := by
  induction cs generalizing st with
  | nil => exact h
  | cons c cs ih => exact ih (perform_kept h c)

theorem run_line (st : Store Float σ) (cs : List Change) :
    ((st.run cs).1, (st.run cs).2.timeline.line) = st.timeline.line.run st.maxHistory cs := by
  induction cs generalizing st with
  | nil => rfl
  | cons c cs ih =>
    have hrest := ih (st.perform c).2
    rw [perform_maxHistory] at hrest
    show _ = ((st.timeline.line.perform st.maxHistory c).1 ::
      ((st.timeline.line.perform st.maxHistory c).2.run st.maxHistory cs).1,
      ((st.timeline.line.perform st.maxHistory c).2.run st.maxHistory cs).2)
    rw [← perform_line, ← hrest]
    rfl

/-- **A store is a line.** From any schema, with any limit, and under any changes, what comes back from the store is what
comes back from the line, and the line is what the store holds. Past and future together stay within the limit,
neighbours differ, a schema that is the same changes nothing, and steps taken back can be repeated exactly. -/
theorem run_ofSchema (s : Schema Float) (limit : ℕ) (ids : σ) (cs : List Change) :
    let st := ((ofSchema s limit ids).run cs).2
    (((ofSchema s limit ids).run cs).1, st.timeline.line) = (Line.only s).run limit cs ∧
      st.timeline.line.current? = some st.schema ∧
      st.timeline.past.length + st.timeline.future.length ≤ limit ∧
      (st.timeline.toList.IsChain fun older newer => newer.same older = false) ∧
      (∀ s', s'.same st.schema = true → st.commit s' = (false, st)) ∧
      ∀ steps, ((st.undo steps).2.redo (st.undo steps).1).1 = (st.undo steps).1 ∧
        ((st.undo steps).2.redo (st.undo steps).1).2.timeline = st.timeline := by
  intro st
  have hkept : st.Kept := run_kept (ofSchema_kept s limit ids) cs
  have hlimit : st.maxHistory = limit := run_maxHistory _ cs
  refine ⟨run_line _ cs, st.timeline.line_current?, ?_, hkept.stepwise, fun _ => st.commit_same, st.redo_undo⟩
  rw [← hlimit]
  exact hkept.bounded

end Store

end Crowfoot

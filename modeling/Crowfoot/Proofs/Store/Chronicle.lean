import Crowfoot.Proofs.Ddl.Growth
import Crowfoot.Proofs.Editing.Growth
import Crowfoot.Proofs.Store.Line
import Crowfoot.Store.Batch

/-
The ids that a store hands out over its life. Schemas come and go: they are taken back, pushed out of the history or
left behind when a file is opened. The source remembers what the history forgets.

- `Use`: what may be done with a store: changes, and everything that draws ids from it.
- `chronicle`: what is seen of a store that is used, the ids that are handed out and the schemas that it holds.
- `Passes`: what one use leaves behind. No id is forgotten, and whatever comes into the history has its ids known.
  `use_passes` says it of every use, with one case for each kind.
- `Reserved`: the invariant. The ids of every schema in the history are known to the source. It does not suffice that
  the current schema's are, since a schema that is taken back comes again without passing a commit.
- `issued_once`: no id is handed out that was handed out before or that the store has ever held.
-/

namespace Crowfoot

open scoped List
open IdSupply

/-! ## What a counting source has handed out -/

namespace Counting

/-- the ids that a source has handed out from one state to another, in order; it writes down each of them -/
def handedOut (before after : Counting) : List String :=
  (after.taken.take (after.taken.length - before.taken.length)).reverse

theorem taken_of_draws {drawn : List String} {s s' : Counting} (h : Draws s drawn s') :
    s'.taken = drawn.reverse ++ s.taken := by
  induction h with
  | none s => rfl
  | next letter rest ih =>
    rw [ih, List.reverse_cons, List.append_assoc]
    rfl

theorem handedOut_of_draws {drawn : List String} {s s' : Counting} (h : Draws s drawn s') : handedOut s s' = drawn := by
  rw [handedOut, taken_of_draws h, List.length_append, Nat.add_sub_cancel, List.take_left, List.reverse_reverse]

end Counting

namespace Store

/-! ## Uses -/

/-- what may be done with a store: it is changed, or ids are drawn from it, for no purpose or for a schema that is then
committed -/
inductive Use where
  | change (c : Change)
  | draw (letter : String)
  | edit (o : Operation Float)
  | act (place : Placer Float) (a : Action)
  | importScript (read : Ddl.Reader) (script : String) (dialect : Option String)

namespace Use

/-- a schema that comes from outside -/
def brought : Use → Option (Schema Float)
  | change (.commit s) => some s
  | change (.open files path) => (contents files path).toOption
  | _ => none

end Use

/-- the schema that a use makes with ids from the store, and the source after these -/
def made (st : Store Float Counting) : Use → Option (Schema Float × Counting)
  | .edit o => (o.apply st.schema st.ids).toOption
  | .act place a => (a.apply place st.schema st.ids).toOption.map fun after => (after.schema, after.ids)
  | .importScript read script dialect => (Ddl.importTextWith read script dialect st.ids).toOption
  | _ => none

/-- the source when a use has drawn its ids, and before anything is committed; one that fails has drawn those that it
came to -/
def source (st : Store Float Counting) : Use → Counting
  | .change _ => st.ids
  | .draw letter => (newId letter st.ids).2
  | .edit o => ((o.apply st.schema st.ids).toOption.map (·.2)).getD st.ids
  | .act place a => a.idsAfter place st.schema st.ids
  | .importScript read script dialect => (Ddl.importing (κ := Float) read script dialect st.ids).2

/-- the ids that are handed out for a use -/
def issues (st : Store Float Counting) (u : Use) : List String := st.ids.handedOut (st.source u)

/-- the store after a use; what cannot be carried out commits nothing, and the ids that it has drawn are gone -/
def use (st : Store Float Counting) : Use → Store Float Counting
  | .change c => (st.perform c).2
  | .act place a =>
    match st.act place a with
    | .ok (_, _, st) => st
    | .error _ => st.tried place a
  | u =>
    match st.made u with
    | some made => (st.commitDrawn made).2
    | none => { st with ids := st.source u }

/-- what is seen of a store -/
inductive Event where
  | issued (id : String)
  | held (s : Schema Float)

namespace Event

/-- the ids that are seen -/
def ids : Event → List String
  | issued id => [id]
  | held s => s.allIds

/-- those of them that are handed out just then -/
def issuedIds : Event → List String
  | issued id => [id]
  | held _ => []

end Event

/-- what is seen of a store over some uses: for each the ids that are handed out, then the schema that is held -/
def chronicle : Store Float Counting → List Use → List Event
  | _, [] => []
  | st, u :: us => (st.issues u).map .issued ++ .held (st.use u).schema :: chronicle (st.use u) us

/-! ## One use -/

variable {st : Store Float Counting}

/-- a schema is made of the current one, or of none -/
theorem made_grows {u : Use} {made : Schema Float × Counting} (h : st.made u = some made) :
    Schema.Grows (st.schema, st.ids) made := by
  cases u with
  | change c => cases h
  | draw letter => cases h
  | edit o => exact Operation.apply_grows (except_toOption_eq_some.1 h)
  | act place a =>
    obtain ⟨after, hafter, rfl⟩ := Option.map_eq_some_iff.1 h
    exact Action.apply_grows (except_toOption_eq_some.1 hafter)
  | importScript read script dialect =>
    obtain ⟨drawn, hdraws, hids⟩ := Ddl.importTextWith_grows (except_toOption_eq_some.1 h)
    exact ⟨drawn, hdraws, hids.trans ((List.subperm_append_left drawn).2 List.nil_subperm)⟩

theorem source_made {u : Use} {made : Schema Float × Counting} (h : st.made u = some made) :
    st.source u = made.2 := by
  cases u with
  | change c => cases h
  | draw letter => cases h
  | edit o =>
    have hmade : (o.apply st.schema st.ids).toOption = some made := h
    simp only [source, hmade, Option.map_some, Option.getD_some]
  | act place a =>
    obtain ⟨after, hafter, rfl⟩ := Option.map_eq_some_iff.1 h
    simp only [source, Action.idsAfter, except_toOption_eq_some.1 hafter]
  | importScript read script dialect =>
    have himport := except_toOption_eq_some.1 h
    rw [Ddl.importTextWith_eq] at himport
    obtain ⟨s, -, rfl⟩ := except_map_eq_ok.1 himport
    rfl

/-- the ids that are handed out for a use are drawn from the source, and nothing else happens to it -/
theorem source_draws (st : Store Float Counting) (u : Use) : Draws st.ids (st.issues u) (st.source u) := by
  have hdraws : ∃ drawn, Draws st.ids drawn (st.source u) := by
    cases u with
    | change c => exact ⟨[], Draws.none _⟩
    | draw letter => exact ⟨_, Draws.one letter _⟩
    | edit o =>
      cases hmade : st.made (.edit o) with
      | some made =>
        obtain ⟨drawn, hdraws, -⟩ := made_grows hmade
        exact ⟨drawn, source_made hmade ▸ hdraws⟩
      | none =>
        simp only [made] at hmade
        simp only [source, hmade]
        exact ⟨[], Draws.none _⟩
    | act place a => exact a.idsAfter_draws place st.schema st.ids
    | importScript read script dialect => exact Ddl.importing_draws read script dialect st.ids
  obtain ⟨drawn, hdraws⟩ := hdraws
  rw [issues, Counting.handedOut_of_draws hdraws]
  exact hdraws

/-- a placer with room for one table -/
def firstOnly : Placer Float := fun s => if s.tables.isEmpty then .ok ⟨0, 0⟩ else .error .infinite

/-- two tables, for which there is no room -/
def crowding : Use := .act firstOnly (.createMultipleTables [⟨"shops", []⟩, ⟨"offers", []⟩])

-- by the time that the second table finds no place, the first one has its ids
example : (ofSchema Schema.empty 2 ⟨"", 0, []⟩).issues crowding = ["t_1", "c_2", "c_3", "c_4"] := by decide +kernel

/-- what becomes of a store: the ids that a source knows stay known, and a schema comes into the history only with
some property and with its ids known -/
structure Passes (P : Schema Float → Prop) (source : Counting) (st st' : Store Float Counting) : Prop where
  taken : source.taken ⊆ st'.ids.taken
  timeline : ∀ s ∈ st'.timeline.toList, s ∈ st.timeline.toList ∨ P s ∧ s.allIds ⊆ st'.ids.taken

variable {st' : Store Float Counting} {P Q : Schema Float → Prop}

theorem Passes.imp {ids : Counting} (h : Passes P ids st st') (himp : ∀ s, P s → Q s) : Passes Q ids st st' :=
  ⟨h.taken, fun s hs => (h.timeline s hs).imp_right (And.imp_left (himp s))⟩

/-- nothing comes into a history that stays -/
theorem Passes.of_entries {ids : Counting} (hentries : st'.timeline.toList = st.timeline.toList)
    (hids : st'.ids = ids) : Passes P ids st st' :=
  ⟨hids ▸ List.Subset.refl _, fun _ hs => Or.inl (hentries ▸ hs)⟩

theorem commitDrawn_passes (st : Store Float Counting) (made : Schema Float × Counting) :
    Passes (· = made.1) made.2 st (st.commitDrawn made).2 := by
  unfold commitDrawn commit
  split_ifs
  · exact Passes.of_entries rfl rfl
  · refine ⟨fun id hid => Counting.mem_reserve_taken.2 (Or.inr hid), fun s hs => ?_⟩
    simp only [announce, Timeline.push, Timeline.toList, List.mem_append, List.mem_reverse, List.mem_singleton] at hs
    rcases hs with hs | rfl
    · rcases List.mem_cons.1 (List.mem_of_mem_take hs) with rfl | hs
      · exact Or.inl (by simp [Timeline.toList])
      · exact Or.inl (by simp [Timeline.toList, hs])
    · exact Or.inr ⟨rfl, fun id hid => Counting.mem_reserve_taken.2 (Or.inl hid)⟩

theorem commit_passes (st : Store Float Counting) (s : Schema Float) : Passes (· = s) st.ids st (st.commit s).2 :=
  st.commitDrawn_passes (s, st.ids)

theorem moved_ids (st : Store Float Counting) (n : ℕ) (t : Timeline (Schema Float)) :
    (st.moved n t).2.ids = st.ids := by
  unfold moved
  split_ifs <;> rfl

theorem undo_passes (st : Store Float Counting) (steps : ℤ) : Passes P st.ids st (st.undo steps).2 := by
  refine Passes.of_entries ?_ (st.moved_ids _ _)
  rw [(st.undo_eq steps).2.1]
  exact congrArg Line.entries (Timeline.line_backBy _ _)

theorem redo_passes (st : Store Float Counting) (steps : ℤ) : Passes P st.ids st (st.redo steps).2 := by
  refine Passes.of_entries ?_ (st.moved_ids _ _)
  rw [(st.redo_eq steps).2.1]
  exact congrArg Line.entries (Timeline.line_forwardBy (st.stepsForward_le steps))

theorem opened_passes (st : Store Float Counting) (path : Path) (s : Schema Float) :
    Passes (· = s) st.ids st (st.opened path s) := by
  refine ⟨fun id hid => Counting.mem_reserve_taken.2 (Or.inr hid), fun s' hs' => Or.inr ?_⟩
  have heq : s' = s := List.mem_singleton.1 hs'
  exact ⟨heq, fun id hid => Counting.mem_reserve_taken.2 (Or.inl (heq ▸ hid))⟩

/-- how a schema comes into the history: from outside, or with no ids but some that are handed out for it and those of
the current schema -/
def Arrives (st : Store Float Counting) (u : Use) (s : Schema Float) : Prop :=
  s ∈ u.brought ∨ s.allIds <+~ st.issues u ++ st.schema.allIds

/-- to commit a schema that was made for it is all that a use does then -/
theorem made_passes {u : Use} {made : Schema Float × Counting} (h : st.made u = some made) :
    Passes (st.Arrives u) (st.source u) st (st.commitDrawn made).2 := by
  obtain ⟨drawn, hdraws, hids⟩ := made_grows h
  rw [source_made h]
  refine (st.commitDrawn_passes made).imp fun s hs => Or.inr ?_
  rw [hs, issues, source_made h, Counting.handedOut_of_draws hdraws]
  exact hids

/-- an action that does not move along the history commits what it makes -/
theorem act_passes {place : Placer Float} {a : Action} (h : st.act place a = do
      let r ← a.apply place st.schema st.ids
      let (changed, st) := st.commitDrawn (r.schema, r.ids)
      return (changed, r.warnings, st)) :
    Passes (st.Arrives (.act place a)) (st.source (.act place a)) st (st.use (.act place a)) := by
  cases happly : a.apply place st.schema st.ids with
  | error e =>
    rw [happly] at h
    simp only [use, h]
    exact Passes.of_entries rfl rfl
  | ok after =>
    have hmade : st.made (.act place a) = some (after.schema, after.ids) := by
      simp only [made, happly]
      rfl
    rw [happly] at h
    simp only [use, h]
    exact made_passes hmade

theorem use_passes (st : Store Float Counting) (u : Use) : Passes (st.Arrives u) (st.source u) st (st.use u) := by
  cases u with
  | change c =>
    cases c with
    | commit s => exact (st.commit_passes s).imp fun _ h => Or.inl (by rw [h]; rfl)
    | reset => exact (st.commit_passes Schema.empty).imp fun _ h => Or.inr (by rw [h]; exact List.nil_subperm)
    | undo steps => exact st.undo_passes steps
    | redo steps => exact st.redo_passes steps
    | «open» files path =>
      simp only [use, perform, openFile_eq]
      cases hcontents : contents files path with
      | error e => exact Passes.of_entries rfl rfl
      | ok s =>
        refine (st.opened_passes path s).imp fun _ h => Or.inl ?_
        rw [h, Use.brought, hcontents]
        rfl
  | draw letter => exact Passes.of_entries rfl rfl
  | act place a =>
    cases a with
    | undo steps => exact st.undo_passes steps
    | redo steps => exact st.redo_passes steps
    | _ => exact act_passes rfl
  | _ =>
    simp only [use]
    split
    · rename_i hmade
      exact made_passes hmade
    · exact Passes.of_entries rfl rfl

/-! ## The invariant -/

/-- the source knows the ids of every schema in the history -/
def Reserved (st : Store Float Counting) : Prop := ∀ s ∈ st.timeline.toList, s.allIds ⊆ st.ids.taken

/-- every schema in the history has different ids -/
def Distinct (st : Store Float Counting) : Prop := ∀ s ∈ st.timeline.toList, s.allIds.Nodup

theorem schema_mem (st : Store Float Counting) : st.schema ∈ st.timeline.toList := by
  simp [schema, Timeline.toList]

theorem ofSchema_reserved (s : Schema Float) (limit : ℕ) (ids : Counting) : (ofSchema s limit ids).Reserved := by
  intro s' hs' id hid
  rw [List.mem_singleton.1 hs'] at hid
  exact Counting.mem_reserve_taken.2 (Or.inl hid)

theorem ids_taken (st : Store Float Counting) (u : Use) : st.issues u ++ st.ids.taken ⊆ (st.use u).ids.taken := by
  refine List.Subset.trans ?_ (st.use_passes u).taken
  rw [Counting.taken_of_draws (st.source_draws u)]
  exact ((List.reverse_perm _).symm.append_right _).subset

theorem Reserved.use (h : st.Reserved) (u : Use) : (st.use u).Reserved := by
  intro s hs
  rcases (st.use_passes u).timeline s hs with hs | ⟨-, hids⟩
  · exact fun id hid => st.ids_taken u (List.mem_append_right _ (h s hs hid))
  · exact hids

/-- different ids stay different, as those that are handed out are new to a schema whose ids are known -/
theorem Distinct.use (h : st.Distinct) (hreserved : st.Reserved) (u : Use) (hu : ∀ s ∈ u.brought, s.allIds.Nodup) :
    (st.use u).Distinct := by
  intro s hs
  rcases (st.use_passes u).timeline s hs with hs | ⟨hs | hs, -⟩
  · exact h s hs
  · exact hu s hs
  · have hahead : Ahead st.schema.allIds st.ids :=
      ⟨h _ st.schema_mem, Counting.fresh_of_subset (hreserved _ st.schema_mem)⟩
    exact ((hahead.draws (st.source_draws u)).subperm hs).nodup

/-! ## Over a life -/

/-- what is handed out is new to the source, and so to everything that the source knows -/
theorem chronicle_new (h : st.Reserved) (us : List Use) :
    (∀ e ∈ chronicle st us, ∀ id ∈ e.issuedIds, id ∉ st.ids.taken) ∧
      (chronicle st us).Pairwise fun earlier later => ∀ id ∈ later.issuedIds, id ∉ earlier.ids := by
  induction us generalizing st with
  | nil => simp [chronicle]
  | cons u us ih =>
    obtain ⟨hlater, hrest⟩ := ih (h.use u)
    obtain ⟨hnodup, hnew⟩ := (Counting.fresh_of_subset (List.Subset.refl st.ids.taken)).draws (st.source_draws u)
    -- what is handed out later is new to a source that knows the ids of this use, and of the schema after it
    have hlater' : ∀ e ∈ chronicle (st.use u) us, ∀ id ∈ e.issuedIds, id ∉ st.issues u ++ st.ids.taken :=
      fun e he id hid hmem => hlater e he id hid (st.ids_taken u hmem)
    have hheld : ∀ e ∈ chronicle (st.use u) us, ∀ id ∈ e.issuedIds, id ∉ (st.use u).schema.allIds :=
      fun e he id hid hmem => hlater e he id hid (h.use u _ (st.use u).schema_mem hmem)
    constructor
    · intro e he id hid
      rcases List.mem_append.1 he with he | he
      · obtain ⟨id', hid', rfl⟩ := List.mem_map.1 he
        rw [List.mem_singleton.1 hid]
        exact hnew id' hid'
      · rcases List.mem_cons.1 he with rfl | he
        · cases hid
        · exact fun hmem => hlater' e he id hid (List.mem_append_right _ hmem)
    · refine List.pairwise_append.2 ⟨?_, List.pairwise_cons.2 ⟨hheld, hrest⟩, ?_⟩
      · refine List.pairwise_map.2 (hnodup.imp ?_)
        simp [Event.issuedIds, Event.ids, eq_comm]
      · intro e he later hl id hid hmem
        obtain ⟨id', hid', rfl⟩ := List.mem_map.1 he
        rcases List.mem_cons.1 hl with rfl | hl
        · cases hid
        · rw [List.mem_singleton.1 hmem] at hid
          exact hlater' later hl id' hid (List.mem_append_left _ hid')

/-- a schema that is held has different ids, if those from outside have -/
theorem chronicle_distinct (h : st.Distinct) (hreserved : st.Reserved) (us : List Use)
    (hus : ∀ u ∈ us, ∀ s ∈ u.brought, s.allIds.Nodup) :
    ∀ s, .held s ∈ chronicle st us → s.allIds.Nodup := by
  induction us generalizing st with
  | nil => simp [chronicle]
  | cons u us ih =>
    intro s hs
    have hnext := h.use hreserved u (hus u List.mem_cons_self)
    rcases List.mem_append.1 hs with hs | hs
    · simp at hs
    · rcases List.mem_cons.1 hs with heq | hs
      · rw [Event.held.inj heq]
        exact hnext _ (st.use u).schema_mem
      · exact ih hnext (hreserved.use u) (fun u' hu' => hus u' (List.mem_cons_of_mem u hu')) s hs

/-- **No id twice.** Whatever is done with a store that numbers its ids, each id that is handed out differs from those
handed out before and from all ids of all schemas that the store has held until then. If the schemas from outside have
different ids, then so has every schema that the store holds. -/
theorem issued_once (s : Schema Float) (limit : ℕ) (ids : Counting) (us : List Use) :
    let seen := .held s :: chronicle (ofSchema s limit ids) us
    (seen.Pairwise fun earlier later => ∀ id ∈ later.issuedIds, id ∉ earlier.ids) ∧
      (s.allIds.Nodup → (∀ u ∈ us, ∀ s' ∈ u.brought, s'.allIds.Nodup) → ∀ s', .held s' ∈ seen → s'.allIds.Nodup) := by
  intro seen
  have hreserved := ofSchema_reserved s limit ids
  obtain ⟨hnew, hpairwise⟩ := chronicle_new hreserved us
  refine ⟨List.pairwise_cons.2 ⟨fun e he id hid hmem => ?_, hpairwise⟩, fun hs hus s' hs' => ?_⟩
  · exact hnew e he id hid (hreserved s (schema_mem _) hmem)
  · have hstart : (ofSchema s limit ids).Distinct := fun s'' hs'' => by rw [List.mem_singleton.1 hs'']; exact hs
    rcases List.mem_cons.1 hs' with heq | hs'
    · rw [Event.held.inj heq]
      exact hs
    · exact chronicle_distinct hstart hreserved us hus s' hs'

/-- people who are known from a file -/
def people : Schema Float := ⟨1, [⟨"t_2", "people", ⟨0, 0⟩, [⟨"c_4", "id", .integer, [.primaryKey]⟩]⟩], []⟩

/-- a table is made and taken back, people come in and go, two tables cannot be made, and ids are wanted all the time -/
def peopleUses : List Use :=
  [.edit (.addTable "orders" ⟨0, 0⟩ []), .change (.undo 1), .draw tableLetter, .change (.commit people),
    .change .reset, crowding, .act (placeNear ⟨0, 0⟩) (.createTable "shops"), .change (.undo 2),
    .edit (.junction "t_2" "t_2")]

theorem issued_once_people :
    (Schema.empty : Schema Float).allIds.Nodup ∧ (∀ u ∈ peopleUses, ∀ s' ∈ u.brought, s'.allIds.Nodup) ∧
      ∀ s', .held s' ∈ .held Schema.empty :: chronicle (ofSchema Schema.empty 2 ⟨"", 0, []⟩) peopleUses →
        s'.allIds.Nodup := by
  have hs : (Schema.empty : Schema Float).allIds.Nodup := List.nodup_nil
  have hus : ∀ u ∈ peopleUses, ∀ s' ∈ u.brought, s'.allIds.Nodup := by
    simp [peopleUses, crowding, Use.brought, people, Schema.allIds]
  exact ⟨hs, hus, (issued_once Schema.empty 2 ⟨"", 0, []⟩ peopleUses).2 hs hus⟩

end Store

end Crowfoot

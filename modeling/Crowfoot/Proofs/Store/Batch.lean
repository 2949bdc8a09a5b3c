import Crowfoot.Proofs.Outcome
import Crowfoot.Proofs.Schema.Positions
import Crowfoot.Proofs.Store.Line
import Crowfoot.Store.Batch

/-
What a batch of actions leaves in the history. Every action is committed on its own, and so is the layout that closes a
batch; a commit of what is there already leaves no step. So the steps of a batch can be counted without looking at the
history, and that many steps back lead to where it began.

- `Turn`, `course`: the schemas before and after each action, when every action is applied to what the one before it
  left. Nothing here knows of a history.
- `Behind`: how many steps back a schema is. `commit_behind`: a commit moves it one step further away, if it changes
  something. `Behind.undo`: that many steps back lead to it, and forward again to where one was.
- `requestStep_spec`, `requestSteps_spec`: one action of a batch takes one turn, and all of them take their course.
- `runBatch_undo`: the messages of a batch, the layout that closes it and the steps that take it back.
-/

namespace Crowfoot

/-! ## Schemas that are the same -/

theorem Schema.same_refl (s : Schema Float) : s.same s = true := s.same_self fun x => by simp [Coordinate.same]

/-! ## Turns -/

/-- an action that moves along the history and makes no schema -/
def Action.isMove : Action → Bool
  | undo _ | redo _ => true
  | _ => false

/-- the schemas before and after something that may have changed one into the other -/
structure Turn (κ : Type) where
  before : Schema κ
  after : Schema κ

namespace Turn

variable {κ : Type}

/-- how many tables came in -/
def growth (t : Turn κ) : ℕ := t.after.tables.length - t.before.tables.length

/-- the schema that some turns lead to -/
def lastOf (s : Schema κ) (ts : List (Turn κ)) : Schema κ := (ts.getLast?.map (·.after)).getD s

theorem lastOf_cons (s : Schema κ) (t : Turn κ) (ts : List (Turn κ)) : lastOf s (t :: ts) = lastOf t.after ts := by
  cases hts : ts.getLast? <;> simp [lastOf, List.getLast?_cons, hts]

variable [Coordinate κ]

def changes (t : Turn κ) : Bool := !t.after.same t.before

/-- what is said of an action that took a turn -/
def report (t : Turn κ) (r : ActionRequest) : String := if t.changes then r.describe else r.action.unchangedMessage

end Turn

/-- what takes the place of a schema when another one is made of it: that one, unless it is the same -/
def Schema.settled {κ : Type} [Coordinate κ] (s made : Schema κ) : Schema κ := if made.same s then s else made

theorem Turn.changes_settled (s made : Schema Float) : Turn.changes ⟨s, s.settled made⟩ = !made.same s := by
  unfold Turn.changes Schema.settled
  split_ifs with hsame
  · rw [hsame, s.same_refl]
  · rfl

section Courses

variable {κ σ : Type} [Coordinate κ] [IdSupply σ]

/-- a source of ids knows those of a schema that took the place of another -/
def IdSupply.known (s made : Schema κ) (ids : σ) : σ := if made.same s then ids else IdSupply.reserve made.allIds ids

/-- the turns that actions take, each from the schema and the source of ids that the one before it left -/
def course (place : Placer κ) : Schema κ → σ → List Action → Except NotFinite (List (Turn κ))
  | _, _, [] => .ok []
  | s, ids, a :: as => do
    let made ← a.apply place s ids
    let rest ← course place (s.settled made.schema) (IdSupply.known s made.schema made.ids) as
    return ⟨s, s.settled made.schema⟩ :: rest

end Courses

/-! ## Steps back -/

namespace Timeline

variable {α : Type}

/-- the present value and those before it are where steps back lead -/
theorem backBy_present {n : ℕ} {t : Timeline α} {x : α} (h : (t.present :: t.past)[n]? = some x) :
    (t.backBy n).present = x := by
  induction n generalizing t with
  | zero => simpa [backBy] using h
  | succ n ih =>
    obtain ⟨past, present, future⟩ := t
    cases past with
    | nil => simp at h
    | cons y past => exact ih (t := ⟨past, y, present :: future⟩) (by simpa using h)

end Timeline

namespace Store

section Behind

variable {κ σ : Type}

/-- the schema of one store is so many steps back in the history of another, if the limit allows so many -/
structure Behind (n : ℕ) (st st' : Store κ σ) : Prop where
  limit : st'.maxHistory = st.maxHistory
  there : n ≤ st.maxHistory → (st'.timeline.present :: st'.timeline.past)[n]? = some st.schema

variable {n : ℕ} {st st' : Store κ σ}

theorem Behind.refl (st : Store κ σ) : Behind 0 st st := ⟨rfl, fun _ => rfl⟩

/-- so many steps back lead to it, and forward again to where one was -/
theorem Behind.undo (h : Behind n st st') (hn : n ≤ st.maxHistory) :
    (st'.undo n).1 = n ∧ (st'.undo n).2.schema = st.schema ∧ ((st'.undo n).2.redo n).1 = n ∧
      ((st'.undo n).2.redo n).2.timeline = st'.timeline := by
  have hthere := h.there hn
  have hlength : n ≤ st'.timeline.past.length := by
    obtain ⟨hlt, -⟩ := List.getElem?_eq_some_iff.1 hthere
    simpa [Nat.lt_succ_iff] using hlt
  have hback : st'.stepsBack n = n := by
    rw [stepsBack, Int.toNat_natCast]
    exact min_eq_left hlength
  obtain ⟨hsteps, htimeline, -⟩ := st'.undo_eq n
  rw [hback] at hsteps htimeline
  obtain ⟨hagain, hforward⟩ := st'.redo_undo n
  rw [hsteps] at hagain hforward
  refine ⟨hsteps, ?_, hagain, hforward⟩
  rw [schema, htimeline]
  exact Timeline.backBy_present hthere

variable [Coordinate κ] [IdSupply σ]

/-- what a commit of a schema that was made with ids from the store leaves -/
theorem commitDrawn_settled (st : Store κ σ) (made : Schema κ × σ) :
    (st.commitDrawn made).1 = !made.1.same st.schema ∧
      (st.commitDrawn made).2.schema = st.schema.settled made.1 ∧
      (st.commitDrawn made).2.ids = IdSupply.known st.schema made.1 made.2 := by
  have hschema : ({ st with ids := made.2 } : Store κ σ).schema = st.schema := rfl
  unfold commitDrawn commit Schema.settled IdSupply.known
  rw [hschema]
  split_ifs with hsame
  · exact ⟨by rw [hsame]; rfl, rfl, rfl⟩
  · exact ⟨by rw [Bool.eq_false_iff.2 hsame]; rfl, rfl, rfl⟩

end Behind

variable {σ : Type} [IdSupply σ]

/-- a commit takes a store one step further away, if it changes something -/
theorem Behind.commitDrawn {n : ℕ} {st st' : Store Float σ} (h : Behind n st st') (made : Schema Float × σ) :
    Behind (n + if Turn.changes ⟨st'.schema, (st'.commitDrawn made).2.schema⟩ then 1 else 0) st
      (st'.commitDrawn made).2 := by
  obtain ⟨-, hsettled, -⟩ := st'.commitDrawn_settled made
  rw [hsettled, Turn.changes_settled]
  have hschema : ({ st' with ids := made.2 } : Store Float σ).schema = st'.schema := rfl
  unfold Store.commitDrawn commit
  rw [hschema]
  cases made.1.same st'.schema with
  | true => exact ⟨h.limit, h.there⟩
  | false =>
    refine ⟨h.limit, fun hn => ?_⟩
    have hlt : n < st.maxHistory := hn
    show (made.1 :: (st'.timeline.present :: st'.timeline.past).take st'.maxHistory)[n + 1]? = _
    rw [List.getElem?_cons_succ, List.getElem?_take, if_pos (by rwa [h.limit])]
    exact h.there hlt.le

/-! ## Batches -/

/-- an action that makes a schema is carried out by committing what it makes -/
theorem act_eq {a : Action} (h : a.isMove = false) (place : Placer Float) (st : Store Float σ) :
    st.act place a = (a.apply place st.schema st.ids).map fun made =>
      ((st.commitDrawn (made.schema, made.ids)).1, made.warnings, (st.commitDrawn (made.schema, made.ids)).2) := by
  have hmade : ∀ made : Except NotFinite (Applied Float σ), (do
      let r ← made
      let committed := st.commitDrawn (r.schema, r.ids)
      return (committed.1, r.warnings, committed.2)) = made.map fun r =>
        ((st.commitDrawn (r.schema, r.ids)).1, r.warnings, (st.commitDrawn (r.schema, r.ids)).2) := by
    intro made
    cases made <;> rfl
  cases a with
  | undo steps => cases h
  | redo steps => cases h
  | _ => exact hmade _

/-- what one action of a batch does: it takes the turn from the schema that is there -/
theorem requestStep_spec {place : Placer Float} {b b' : BatchState Float σ} {r : ActionRequest}
    (hmove : r.action.isMove = false) (h : requestStep place b r = .ok b') :
    ∃ made, r.action.apply place b.store.schema b.store.ids = .ok made ∧
      b'.store = (b.store.commitDrawn (made.schema, made.ids)).2 ∧
      b'.messages = b.messages ++ [Turn.report ⟨b.store.schema, b'.store.schema⟩ r] ∧
      b'.created = b.created + Turn.growth ⟨b.store.schema, b'.store.schema⟩ := by
  unfold requestStep at h
  rw [act_eq hmove] at h
  obtain ⟨_, hact, h⟩ := except_bind_eq_ok.1 h
  obtain ⟨made, hmade, rfl⟩ := except_map_eq_ok.1 hact
  obtain ⟨hchanged, hschema, -⟩ := b.store.commitDrawn_settled (made.schema, made.ids)
  cases h
  refine ⟨made, hmade, rfl, ?_, ?_⟩
  · rw [Turn.report, hschema, Turn.changes_settled, ← hchanged]
  · cases haction : r.action with
    | undo steps => rw [haction] at hmove; cases hmove
    | redo steps => rw [haction] at hmove; cases hmove
    | _ => rfl

/-- what the actions of a batch do: they take their course -/
theorem requestSteps_spec {place : Placer Float} {requests : List ActionRequest} {b b' : BatchState Float σ}
    (hmoves : ∀ r ∈ requests, r.action.isMove = false) (h : requestSteps place requests b = (b', none)) :
    ∃ turns, course place b.store.schema b.store.ids (requests.map (·.action)) = .ok turns ∧
      turns.length = requests.length ∧
      b'.messages = b.messages ++ turns.zipWith Turn.report requests ∧
      b'.created = b.created + (turns.map Turn.growth).sum ∧
      b'.store.schema = Turn.lastOf b.store.schema turns ∧
      ∀ {n : ℕ} {st : Store Float σ}, Behind n st b.store → Behind (n + turns.countP Turn.changes) st b'.store := by
  induction requests generalizing b with
  | nil =>
    cases h
    exact ⟨[], rfl, rfl, by simp, by simp, rfl, fun hbehind => hbehind⟩
  | cons r rs ih =>
    simp only [List.mem_cons, forall_eq_or_imp] at hmoves
    rw [requestSteps] at h
    cases hstep : requestStep place b r with
    | error e => simp [hstep] at h
    | ok next =>
      rw [hstep] at h
      obtain ⟨made, hmade, hstore, hmessages, hcreated⟩ := requestStep_spec hmoves.1 hstep
      obtain ⟨-, hschema, hids⟩ := b.store.commitDrawn_settled (made.schema, made.ids)
      rw [← hstore] at hschema hids
      obtain ⟨turns, hturns, hlength, hrest, hgrowth, hlast, hbehind⟩ := ih hmoves.2 h
      refine ⟨⟨b.store.schema, next.store.schema⟩ :: turns, ?_, by simp [hlength], ?_, ?_, ?_, fun hn => ?_⟩
      · rw [List.map_cons, course, hmade, except_ok_bind, ← hids, ← hschema, hturns]
        rfl
      · rw [hrest, hmessages, List.append_assoc]
        rfl
      · rw [hgrowth, hcreated, List.map_cons, List.sum_cons, Nat.add_assoc]
      · rw [hlast, Turn.lastOf_cons]
      · have hnext := hbehind (hstore ▸ hn.commitDrawn (made.schema, made.ids))
        rw [List.countP_cons, Nat.add_comm (turns.countP Turn.changes), ← Nat.add_assoc]
        exact hnext

/-- what closes a batch: a layout, if more than one table was created -/
theorem closeBatch_spec {b b' : BatchState Float σ} (h : closeBatch b = (b', none)) :
    b'.messages = b.messages ∧
      (b.created ≤ 1 → b'.store = b.store) ∧
      (1 < b.created → ∃ arranged, b.store.schema.relayout = .ok arranged ∧
        b'.store.schema = b.store.schema.settled arranged) ∧
      ∀ {n : ℕ} {st : Store Float σ}, Behind n st b.store →
        Behind (n + if Turn.changes ⟨b.store.schema, b'.store.schema⟩ then 1 else 0) st b'.store := by
  unfold closeBatch at h
  split_ifs at h with hcreated
  · cases h
    refine ⟨rfl, fun _ => rfl, fun hmore => absurd hmore (by omega), fun hn => ?_⟩
    have hsame : Turn.changes ⟨b.store.schema, b.store.schema⟩ = false := by
      rw [Turn.changes, Schema.same_refl, Bool.not_true]
    rw [hsame]
    exact hn
  · cases harranged : b.store.schema.relayout with
    | error e => simp [harranged] at h
    | ok arranged =>
      rw [harranged] at h
      cases h
      obtain ⟨-, hsettled, -⟩ := b.store.commitDrawn_settled (arranged, b.store.ids)
      exact ⟨rfl, fun hfew => absurd hfew hcreated, fun _ => ⟨arranged, rfl, hsettled⟩,
        fun hn => hn.commitDrawn (arranged, b.store.ids)⟩

/-- **A batch step by step.** When a batch of actions that do not move along the history is carried out to its end,
each action was applied to what the one before it left, and what is said of it tells whether it changed something. The
schema is laid out at the end only if the tables that came in are more than one. With one step for every action that
changed something, and one for the layout if it did, so many steps back lead to the schema before the batch, and
forward again to the one after it, as long as the limit allows so many. -/
theorem runBatch_undo (st : Store Float σ) (centre : Position Float) (requests : List ActionRequest)
    (hmoves : ∀ r ∈ requests, r.action.isMove = false) {b : BatchState Float σ}
    (h : st.runBatch centre requests = (b, none)) :
    ∃ turns, course (placeNear centre) st.schema st.ids (requests.map (·.action)) = .ok turns ∧
      turns.length = requests.length ∧ b.messages = turns.zipWith Turn.report requests ∧
      let closing : Turn Float := ⟨Turn.lastOf st.schema turns, b.store.schema⟩
      let growth := (turns.map Turn.growth).sum
      let n := (turns ++ [closing]).countP Turn.changes
      (growth ≤ 1 → closing.after = closing.before) ∧
      (1 < growth → ∃ arranged, closing.before.relayout = .ok arranged ∧
        closing.after = closing.before.settled arranged) ∧
      (n ≤ st.maxHistory →
        (b.store.undo n).1 = n ∧ (b.store.undo n).2.schema = st.schema ∧
          ((b.store.undo n).2.redo n).1 = n ∧ ((b.store.undo n).2.redo n).2.schema = b.store.schema) := by
  unfold runBatch at h
  cases hcarried : requestSteps (placeNear centre) requests ⟨st, [], [], 0⟩ with
  | mk carried fault =>
    rw [hcarried] at h
    cases fault with
    | some fault => simp at h
    | none =>
      obtain ⟨turns, hturns, hlength, hmessages, hgrowth, hlast, hbehind⟩ := requestSteps_spec hmoves hcarried
      obtain ⟨hsaid, hfew, hmany, hclosed⟩ := closeBatch_spec h
      have hcount : carried.created = (turns.map Turn.growth).sum := by rw [hgrowth, Nat.zero_add]
      rw [hlast, hcount] at hmany
      have hall := hclosed (hbehind (Behind.refl st))
      rw [hlast, Nat.zero_add, ← List.countP_singleton, ← List.countP_append] at hall
      refine ⟨turns, hturns, hlength, by rw [hsaid, hmessages, List.nil_append], fun hle => ?_, hmany, fun hn => ?_⟩
      · rw [← hlast, hfew (hcount ▸ hle)]
      · obtain ⟨hback, hstart, hforward, hend⟩ := hall.undo hn
        exact ⟨hback, hstart, hforward, congrArg Timeline.present hend⟩

/-- two tables and a name that means nothing -/
def shopRequests : List ActionRequest :=
  [⟨"", .createTable "shops"⟩, ⟨"", .renameTable "staff" "people"⟩, ⟨"", .createTable "items"⟩]

def emptyStore : Store Float Counting := ofSchema Schema.empty 5 ⟨"s", 0, []⟩

def shopBatch : BatchState Float Counting := (emptyStore.runBatch ⟨0, 0⟩ shopRequests).1

theorem runBatch_undo_shop :
    (∀ r ∈ shopRequests, r.action.isMove = false) ∧ emptyStore.runBatch ⟨0, 0⟩ shopRequests = (shopBatch, none) ∧
      shopBatch.messages =
        ["Created table \"shops\"", "renameTable: nothing changed", "Created table \"items\""] ∧
      ∃ n : ℕ, n ≤ 4 ∧ (shopBatch.store.undo n).2.schema = Schema.empty ∧
        ((shopBatch.store.undo n).2.redo n).2.schema = shopBatch.store.schema := by
  have hmoves : ∀ r ∈ shopRequests, r.action.isMove = false := by decide
  have hfault : (emptyStore.runBatch ⟨0, 0⟩ shopRequests).2 = none := by decide +kernel
  have hends : emptyStore.runBatch ⟨0, 0⟩ shopRequests = (shopBatch, none) := Prod.ext (by rw [shopBatch]) hfault
  obtain ⟨turns, -, hlength, -, -, -, hback⟩ := runBatch_undo emptyStore ⟨0, 0⟩ shopRequests hmoves hends
  let closing : Turn Float := ⟨Turn.lastOf emptyStore.schema turns, shopBatch.store.schema⟩
  have hfew : (turns ++ [closing]).countP Turn.changes ≤ 4 := by
    refine List.countP_le_length.trans ?_
    rw [List.length_append, hlength]
    exact le_refl 4
  have hlimit : (turns ++ [closing]).countP Turn.changes ≤ emptyStore.maxHistory := hfew.trans (by decide)
  obtain ⟨-, hstart, -, hend⟩ := hback hlimit
  exact ⟨hmoves, hends, by decide +kernel, _, hfew, hstart, hend⟩

end Store

end Crowfoot

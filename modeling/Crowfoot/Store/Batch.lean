import Crowfoot.Action.Apply
import Crowfoot.Store.Basic

/-
Batches of actions on a store. Every action that changes something is one step of the history. When a batch has
created more than one table, everything is laid out anew at its end, as one more step.
-/

namespace Crowfoot

/-- what stops a batch; the actions before it have been carried out -/
inductive BatchFault where
  | placing (cause : NotFinite)
  | layout (cause : Layout.Fault String)
  deriving DecidableEq, Repr

namespace Store

variable {κ σ : Type} [Coordinate κ] [IdSupply σ]

/-- a batch that is under way -/
structure BatchState (κ σ : Type) where
  store : Store κ σ
  messages : List String
  warnings : List Warning
  /-- how many tables were created so far -/
  created : Nat

/-- one action on the store: whether it changed something, and its warnings -/
def act (place : Placer κ) (st : Store κ σ) : Action → Except NotFinite (Bool × List Warning × Store κ σ)
  | .undo steps =>
    let (n, st) := st.undo steps
    .ok (decide (0 < n), [], st)
  | .redo steps =>
    let (n, st) := st.redo steps
    .ok (decide (0 < n), [], st)
  | a => do
    let r ← a.apply place st.schema st.ids
    let (changed, st) := st.commitDrawn (r.schema, r.ids)
    return (changed, r.warnings, st)

def requestStep (place : Placer κ) (b : BatchState κ σ) (r : ActionRequest) : Except NotFinite (BatchState κ σ) := do
  let before := b.store.schema.tables.length
  let (changed, warnings, st) ← b.store.act place r.action
  let text := if changed then r.describe else r.action.unchangedMessage
  let created := match r.action with
    | .undo _ | .redo _ => 0
    | _ => st.schema.tables.length - before
  return ⟨st, b.messages ++ [text], b.warnings ++ warnings, b.created + created⟩

/-- a store that has tried an action in vain: the ids that were drawn for it are gone -/
def tried (place : Placer κ) (st : Store κ σ) (a : Action) : Store κ σ :=
  { st with ids := a.idsAfter place st.schema st.ids }

/-- the actions of a batch in order, as far as they go -/
def requestSteps (place : Placer κ) : List ActionRequest → BatchState κ σ → BatchState κ σ × Option BatchFault
  | [], b => (b, none)
  | r :: rest, b =>
    match requestStep place b r with
    | .ok b => requestSteps place rest b
    | .error e => ({ b with store := b.store.tried place r.action }, some (.placing e))

/-- lay everything out anew when more than one table was created -/
def closeBatch (b : BatchState κ σ) : BatchState κ σ × Option BatchFault :=
  if b.created ≤ 1 then (b, none)
  else
    match b.store.schema.relayout with
    | .error e => (b, some (.layout e))
    | .ok s => ({ b with store := (b.store.commit s).2 }, none)

/-- carry out a batch, with new tables near a point; the messages are those of the actions that were carried out -/
def runBatch (st : Store κ σ) (centre : Position κ) (requests : List ActionRequest) :
    BatchState κ σ × Option BatchFault :=
  match requestSteps (placeNear centre) requests ⟨st, [], [], 0⟩ with
  | (b, none) => closeBatch b
  | stopped => stopped

end Store

end Crowfoot

import Crowfoot.Proofs.Outcome
import Crowfoot.Document.Interchange

/-
How schema documents are refused. A document that is no schema is refused with its flaws, with one exception: a plain
value where the constraints of a column are listed stops the reading, and what is then reported is not a fault of the
format.

- `Reading.stop?`: what stops a reading. Each way of putting readings together has a lemma about it: the first part
  that stops stops the whole, whatever the flaws of the others.
- `plainConstraints?`: the plain value that comes first, said of the document alone.
- `stop?_readSchema`: that value stops the reading, and nothing else does.
- `decodeJson_outcome`: which documents are accepted or refused with their flaws.
-/

namespace Crowfoot.Document

namespace Reading

variable {α β : Type}

/-- what stops a reading, if something does -/
def stop? : Reading α → Option Uniterable
  | .error (.notIterable u) => some u
  | _ => none

@[simp] theorem stop?_ok (x : α) : stop? (.ok x : Reading α) = none := rfl

@[simp] theorem stop?_flaw (k : FlawKind) : stop? (flaw k : Reading α) = none := rfl

/-- what is done with a value that was read stops nothing -/
theorem stop?_bind (r : Reading α) {f : α → Reading β} (hf : ∀ x, stop? (f x) = none) : stop? (r >>= f) = stop? r := by
  cases r with
  | error e => cases e <;> rfl
  | ok x => exact hf x

@[simp] theorem stop?_map (r : Reading α) (f : α → β) : stop? (r.map f) = stop? r := by
  cases r with
  | error e => cases e <;> rfl
  | ok x => rfl

@[simp] theorem stop?_within (step : Step) (r : Reading α) : stop? (within step r) = stop? r := by
  unfold within
  split <;> rfl

/-- of two parts the first that stops counts -/
@[simp] theorem stop?_both (a : Reading α) (b : Reading β) : stop? (both a b) = (stop? a).or (stop? b) := by
  unfold both
  split <;> simp_all [stop?]

theorem stop?_items (read : Json → Reading α) (vs : List Json) :
    stop? (items read vs) = vs.findSome? fun v => stop? (read v) := by
  have hfrom : ∀ i, stop? (itemsFrom read i vs) = vs.findSome? fun v => stop? (read v) := by
    induction vs with
    | nil => exact fun _ => rfl
    | cons v vs ih =>
      intro i
      rw [itemsFrom, stop?_map, stop?_both, stop?_within, ih (i + 1), List.findSome?_cons]
      cases stop? (read v) <;> rfl
  exact hfrom 0

end Reading

open Reading

/-! ## Fields -/

variable {α : Type}

theorem stop?_required (ms : List (String × Json)) (name : String) (read : Json → Reading α) :
    stop? (required ms name read) = (field? ms name).bind fun m => stop? (read m.2) := by
  unfold required
  cases field? ms name <;> simp

theorem stop?_optional (ms : List (String × Json)) (name : String) (default : α) (read : Json → Reading α) :
    stop? (optional ms name default read) = (field? ms name).bind fun m => stop? (read m.2) := by
  unfold optional
  cases field? ms name <;> simp

/-- a field whose name has one spelling -/
theorem field?_of_snakeCase {name : String} (h : snakeCase name = name) (ms : List (String × Json)) :
    field? ms name = (ms.lookup name).map fun v => (name, v) := by
  unfold field?
  rw [h]
  cases ms.lookup name <;> rfl

/-! ## Plain values -/

theorem stop?_readText (v : Json) : stop? (readText v) = none := by
  cases v <;> rfl

theorem stop?_readFloat (v : Json) : stop? (readFloat v) = none := by
  unfold readFloat
  repeat' split
  all_goals rfl

theorem stop?_intOfFloat (x : Float) : stop? (intOfFloat x) = none := by
  unfold intOfFloat
  dsimp only
  repeat' split
  all_goals rfl

theorem stop?_readInt (v : Json) : stop? (readInt v) = none := by
  unfold readInt
  split
  · rfl
  · rfl
  · exact stop?_intOfFloat _
  · repeat' split
    all_goals rfl
  · rfl

theorem stop?_readNamed (ofName? : String → Option α) (v : Json) : stop? (readNamed ofName? v) = none := by
  unfold readNamed
  repeat' split
  all_goals rfl

/-- what a plain value is, where something is to be listed -/
def plain? : Json → Option Uniterable
  | .bool _ => some .bool
  | .int _ => some .int
  | .float _ => some .float
  | _ => none

theorem stop?_readConstraints (v : Json) : stop? (readConstraints v) = plain? v := by
  cases v with
  | bool b => rfl
  | int n => rfl
  | float x => rfl
  | null => rfl
  | text s => simp only [readConstraints, constraintItems, plain?]; split <;> rfl
  | array vs => simp only [readConstraints, constraintItems, plain?]; split <;> rfl
  | object ms => simp only [readConstraints, constraintItems, plain?]; split <;> rfl

/-! ## Entities -/

/-- the items of a member that is a list -/
def listed (name : String) (v : Json) : List Json :=
  match v.member? name with
  | some (.array vs) => vs
  | _ => []

/-- the first plain value that a document has where the constraints of a column are listed -/
def plainConstraints? (v : Json) : Option Uniterable :=
  (listed "tables" v).findSome? fun t =>
    (listed "columns" t).findSome? fun c => (c.member? "constraints").bind plain?

/-- an entity is read from the members of an object, and anything else is a flaw -/
theorem stop?_members {β : Type} (o : Origin) (v : Json) (parts : List (String × Json) → Reading α)
    (make : α → Reading β) (hmake : ∀ x, stop? (make x) = none) :
    stop? (members o v >>= fun ms => parts ms >>= make) =
      match v with
      | .object ms => stop? (parts ms)
      | _ => none := by
  cases v with
  | object ms => exact stop?_bind _ hmake
  | _ => rfl

theorem stop?_readPosition (o : Origin) (v : Json) : stop? (readPosition o v) = none := by
  refine (stop?_members o v _ _ fun _ => rfl).trans ?_
  cases v <;> simp [stop?_optional, stop?_readFloat]

theorem stop?_readEndpoint (o : Origin) (v : Json) : stop? (readEndpoint o v) = none := by
  refine (stop?_members o v _ _ fun _ => rfl).trans ?_
  cases v <;> simp [stop?_required, stop?_readText]

theorem stop?_readRelationship (o : Origin) (v : Json) : stop? (readRelationship o v) = none := by
  refine (stop?_members o v _ _ fun _ => rfl).trans ?_
  cases v <;>
    simp [stop?_required, stop?_optional, stop?_readText, stop?_readEndpoint, readCardinality, stop?_readNamed]

/-- where entities of some kind are listed, the first of them that stops the reading stops it -/
theorem stop?_listField (ms : List (String × Json)) {name : String} (hname : snakeCase name = name)
    (default : List α) (read : Json → Reading α) :
    stop? (optional ms name default (readTuple read)) =
      (listed name (.object ms)).findSome? fun v => stop? (read v) := by
  rw [stop?_optional, field?_of_snakeCase hname, listed, Json.member?]
  cases ms.lookup name with
  | none => rfl
  | some v =>
    cases v with
    | array vs => exact stop?_items read vs
    | _ => rfl

theorem stop?_readColumn (o : Origin) (v : Json) :
    stop? (readColumn o v) = (v.member? "constraints").bind plain? := by
  refine (stop?_members o v _ _ fun _ => rfl).trans ?_
  cases v with
  | object ms =>
    have hname : snakeCase "constraints" = "constraints" := by decide
    simp [stop?_required, stop?_optional, stop?_readText, readColumnType, stop?_readNamed, stop?_readConstraints,
      field?_of_snakeCase hname, Json.member?, Option.bind_map]
  | _ => rfl

theorem stop?_readTable (o : Origin) (v : Json) :
    stop? (readTable o v) = (listed "columns" v).findSome? fun c => (c.member? "constraints").bind plain? := by
  refine (stop?_members o v _ _ fun _ => rfl).trans ?_
  cases v with
  | object ms =>
    have hname : snakeCase "columns" = "columns" := by decide
    simp [stop?_required, stop?_optional ms "position", stop?_readText, stop?_readPosition, stop?_listField ms hname,
      stop?_readColumn]
  | _ => rfl

/-- **What stops a document.** The first plain value where constraints are listed stops the reading of a schema, and
nothing else does. -/
theorem stop?_readSchema (o : Origin) (v : Json) : stop? (readSchema o v) = plainConstraints? v := by
  refine (stop?_members o v _ _ fun _ => rfl).trans ?_
  cases v with
  | object ms =>
    have htables : snakeCase "tables" = "tables" := by decide
    have hrelationships : snakeCase "relationships" = "relationships" := by decide
    have hnone : (listed "relationships" (.object ms)).findSome? (fun _ => (none : Option Uniterable)) = none :=
      List.findSome?_eq_none_iff.2 fun _ _ => rfl
    simp [stop?_optional ms "version", stop?_readInt, stop?_listField ms htables, stop?_listField ms hrelationships,
      stop?_readTable, stop?_readRelationship, plainConstraints?, hnone]
  | _ => rfl

/-! ## Documents -/

/-- a document with a version number and with lists of tables and of relationships -/
structure Framed (v : Json) : Prop where
  version : ∃ n, v.member? "version" = some n ∧ isNumber n = true
  tables : ∃ vs, v.member? "tables" = some (.array vs)
  relationships : ∃ vs, v.member? "relationships" = some (.array vs)

/-- a member of some kind is there -/
theorem member_ofKind {v : Json} {name : String} {kind : Json → Bool} :
    ((v.member? name).map kind).getD false = true ↔ ∃ m, v.member? name = some m ∧ kind m = true := by
  cases v.member? name <;> simp

theorem isArray_iff {v : Json} : isArray v = true ↔ ∃ vs, v = .array vs := by
  cases v <;> simp [isArray]

theorem framed_iff {v : Json} : Framed v ↔ ((v.member? "version").map isNumber).getD false = true ∧
    ((v.member? "tables").map isArray).getD false = true ∧
    ((v.member? "relationships").map isArray).getD false = true := by
  have hlist : ∀ name, (∃ m, v.member? name = some m ∧ isArray m = true) ↔ ∃ vs, v.member? name = some (.array vs) := by
    intro name
    simp only [isArray_iff]
    constructor
    · rintro ⟨m, hm, vs, rfl⟩
      exact ⟨vs, hm⟩
    · rintro ⟨vs, hvs⟩
      exact ⟨_, hvs, vs, rfl⟩
  simp only [member_ofKind, hlist]
  exact ⟨fun h => ⟨h.version, h.tables, h.relationships⟩, fun h => ⟨h.1, h.2.1, h.2.2⟩⟩

/-- a document that is not framed is refused for that -/
theorem decodeJson_of_not_framed {v : Json} (h : ¬ Framed v) : ∃ e, decodeJson v = .error e ∧ e.ofFormat = true := by
  rw [framed_iff] at h
  unfold decodeJson
  split_ifs with hversion htables hrelationships
  · exact ⟨_, rfl, rfl⟩
  · exact ⟨_, rfl, rfl⟩
  · exact ⟨_, rfl, rfl⟩
  · exact absurd ⟨by simpa using hversion, by simpa using htables, by simpa using hrelationships⟩ h

/-- a framed document is read as a schema -/
theorem decodeJson_of_framed {v : Json} (h : Framed v) : decodeJson v =
    match readSchema .value v with
    | .ok s => .ok s
    | .error (.flawed fs) => .error (.flawed fs)
    | .error (.notIterable u) => .error (.notIterable u) := by
  obtain ⟨hversion, htables, hrelationships⟩ := framed_iff.1 h
  rw [decodeJson, hversion, htables, hrelationships]
  rfl

/-- **Accepted or refused.** A document gives a schema or a fault of the format, but for a framed one that has a plain
value where the constraints of a column are listed: there the first such value is reported instead. -/
theorem decodeJson_outcome (v : Json) :
    (((∃ s, decodeJson v = .ok s) ∨ ∃ e, decodeJson v = .error e ∧ e.ofFormat = true) ↔
      ¬ (Framed v ∧ (plainConstraints? v).isSome)) ∧
    ∀ u, decodeJson v = .error (.notIterable u) ↔ Framed v ∧ plainConstraints? v = some u := by
  by_cases hframed : Framed v
  · have hstop := stop?_readSchema .value v
    rw [decodeJson_of_framed hframed]
    cases hread : readSchema .value v with
    | ok s =>
      rw [hread, stop?_ok] at hstop
      simp [← hstop]
    | error r =>
      rw [hread] at hstop
      cases r with
      | flawed fs =>
        have hnone : plainConstraints? v = none := hstop.symm
        simp [hnone, FormatError.ofFormat]
      | notIterable u =>
        have hsome : plainConstraints? v = some u := hstop.symm
        simp [hframed, hsome, FormatError.ofFormat]
  · obtain ⟨e, he, hformat⟩ := decodeJson_of_not_framed hframed
    rw [he]
    refine ⟨iff_of_true (Or.inr ⟨e, rfl, hformat⟩) fun h => hframed h.1, fun u => iff_of_false ?_ fun h => hframed h.1⟩
    rintro ⟨⟩
    cases hformat

/-- a column whose constraints are a number -/
def numberedColumn : Json :=
  .object [("version", .int 1),
    ("tables", .array [.object [("id", .text "t_1"), ("name", .text "users"),
      ("columns", .array [.object [("id", .text "c_1"), ("name", .text "id"), ("constraints", .int 5)]])]]),
    ("relationships", .array [])]

/-- Not every document is accepted or refused as one with a fault of its format. -/
theorem decodeJson_numberedColumn :
    ¬ ∀ v, (∃ s, decodeJson v = .ok s) ∨ ∃ e, decodeJson v = .error e ∧ e.ofFormat = true := by
  have hstopped : decodeJson numberedColumn = .error (.notIterable .int) := rfl
  intro h
  rcases h numberedColumn with ⟨s, hs⟩ | ⟨e, he, hformat⟩
  · rw [hstopped] at hs
    cases hs
  · rw [hstopped] at he
    cases he
    cases hformat

end Crowfoot.Document

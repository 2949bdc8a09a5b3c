import Crowfoot.Proofs.Document.Draft
import Crowfoot.Proofs.Json.RoundTrip
import Crowfoot.Document.Interchange

/-
Schema documents lose nothing. What is written of an entity is read back as the same entity, part by part; the text in
between is that of a JSON value in which no name comes twice. There is such a text unless the version of the schema, the
one integer in it, has too many digits.

- `decodeJson_schemaJson`: the JSON value of a schema stands for the schema;
- `isWritable_schemaJson`: it can be written if the version can;
- `decode_encode`: the text stands for the schema too. `encode_distantEdition`: not every schema has one.
-/

namespace Crowfoot.Document

open Reading Json

/-! ## Fields and lists -/

@[simp] theorem within_ok {α : Type} (step : Step) (x : α) : within step (.ok x) = .ok x := rfl

@[simp] theorem both_ok {α β : Type} (x : α) (y : β) : both (.ok x) (.ok y) = .ok (x, y) := rfl

theorem items_map {α : Type} {read : Json → Reading α} {write : α → Json} {xs : List α}
    (h : ∀ x ∈ xs, read (write x) = .ok x) : items read (xs.map write) = .ok xs := by
  have hfrom : ∀ i, itemsFrom read i (xs.map write) = .ok xs := by
    induction xs with
    | nil => exact fun _ => rfl
    | cons x xs ih =>
      obtain ⟨hx, hxs⟩ := List.forall_mem_cons.1 h
      intro i
      rw [List.map_cons, itemsFrom, hx, ih hxs (i + 1)]
      rfl
  exact hfrom 0

/-! ## Kinds -/

theorem readColumnType_name (t : ColumnType) : readColumnType (.text t.name) = .ok t := by
  cases t <;> rfl

theorem constraintOf_name (c : Constraint) : constraintOf (.text c.name) = .ok c := by
  cases c <;> rfl

theorem readCardinality_name (c : Cardinality) : readCardinality (.text c.name) = .ok c := by
  cases c <;> rfl

theorem readConstraints_constraintsJson {cs : List Constraint} (h : cs.Nodup) :
    readConstraints (constraintsJson cs) = .ok cs := by
  have hread : (cs.map fun c => Json.text c.name).mapM constraintOf = .ok cs := by
    rw [List.mapM_map]
    exact (except_mapM_of_forall fun c _ => constraintOf_name c).trans (by rw [List.map_id'])
  have hdistinct : distinctConstraints cs = cs := Layout.distinct_eq_self h
  rw [constraintsJson, Json.texts, List.map_map, readConstraints, constraintItems]
  dsimp only [Function.comp_def]
  rw [constraintsOf, hread, Except.map, hdistinct]

/-! ## Entities -/

theorem readPosition_positionJson (p : Position Float) : readPosition .value (positionJson p) = .ok p := rfl

theorem readEndpoint_endpointJson (e : Endpoint) : readEndpoint .value (endpointJson e) = .ok e := rfl

theorem readColumn_columnJson {c : Column} (h : c.constraints.Nodup) : readColumn .value (columnJson c) = .ok c := by
  simp [columnJson, readColumn, Document.members, required, optional, field?, List.lookup, readText,
    readColumnType_name, readConstraints_constraintsJson h, except_ok_bind]

theorem readTable_tableJson {t : Table Float} (h : ∀ c ∈ t.columns, c.constraints.Nodup) :
    readTable .value (tableJson t) = .ok t := by
  have hcolumns : readTuple (readColumn .value) (.array (t.columns.map columnJson)) = .ok t.columns :=
    items_map fun c hc => readColumn_columnJson (h c hc)
  simp [tableJson, readTable, Document.members, required, optional, field?, List.lookup, readText,
    readPosition_positionJson, hcolumns, except_ok_bind]

theorem readRelationship_relationshipJson (r : Relationship) :
    readRelationship .value (relationshipJson r) = .ok r := by
  simp [relationshipJson, readRelationship, Document.members, required, optional, field?, List.lookup, readText,
    readEndpoint_endpointJson, readCardinality_name, except_ok_bind]

/-- **Values.** The JSON value of a schema stands for the schema. -/
theorem decodeJson_schemaJson {s : Schema Float} (h : ∀ t ∈ s.tables, ∀ c ∈ t.columns, c.constraints.Nodup) :
    decodeJson (schemaJson s) = .ok s := by
  have htables : readTuple (readTable .value) (.array (s.tables.map tableJson)) = .ok s.tables :=
    items_map fun t ht => readTable_tableJson (h t ht)
  have hrelationships : readTuple (readRelationship .value) (.array (s.relationships.map relationshipJson))
      = .ok s.relationships := items_map fun r _ => readRelationship_relationshipJson r
  have hread : readSchema .value (schemaJson s) = .ok s := by
    simp [schemaJson, readSchema, Document.members, optional, field?, List.lookup, readInt, htables, hrelationships,
      except_ok_bind]
  rw [decodeJson, hread]
  rfl

/-! ## Texts -/

theorem faithful_texts (ss : List String) : Faithful (Json.texts ss) := by
  refine .array fun v hv => ?_
  obtain ⟨s, -, rfl⟩ := List.mem_map.1 hv
  exact .text s

theorem faithful_columnJson (c : Column) : Faithful (columnJson c) :=
  .object (by simp) (by simp [Faithful.text, constraintsJson, faithful_texts])

theorem faithful_positionJson (p : Position Float) : Faithful (positionJson p) :=
  .object (by simp) (by simp [Faithful.float])

theorem faithful_tableJson (t : Table Float) : Faithful (tableJson t) := by
  have hcolumns : Faithful (.array (t.columns.map columnJson)) :=
    .array (List.forall_mem_map.2 fun c _ => faithful_columnJson c)
  exact .object (by simp) (by simp [Faithful.text, faithful_positionJson, hcolumns])

theorem faithful_endpointJson (e : Endpoint) : Faithful (endpointJson e) :=
  .object (by simp) (by simp [Faithful.text])

theorem faithful_relationshipJson (r : Relationship) : Faithful (relationshipJson r) :=
  .object (by simp) (by simp [Faithful.text, faithful_endpointJson])

theorem faithful_tables (ts : List (Table Float)) : Faithful (.array (ts.map tableJson)) :=
  .array (List.forall_mem_map.2 fun t _ => faithful_tableJson t)

theorem faithful_relationships (rs : List Relationship) : Faithful (.array (rs.map relationshipJson)) :=
  .array (List.forall_mem_map.2 fun r _ => faithful_relationshipJson r)

theorem faithful_schemaJson {s : Schema Float} (h : Decimal.isWritable s.version) : Faithful (schemaJson s) :=
  .object (by simp) (by simp [Faithful.int h, faithful_tables, faithful_relationships])

/-- the version is the one integer in a document -/
theorem isWritable_schemaJson (s : Schema Float) : (schemaJson s).isWritable = Decimal.isWritable s.version := by
  have htables := (faithful_tables s.tables).isWritable
  have hrelationships := (faithful_relationships s.relationships).isWritable
  rw [Json.isWritable, every] at htables hrelationships
  simp only [Json.isWritable, schemaJson, every, everyMember, htables, hrelationships, Bool.and_true]

/-- a document is read back as its schema -/
theorem exists_encode {s : Schema Float} (h : ∀ t ∈ s.tables, ∀ c ∈ t.columns, c.constraints.Nodup)
    (hversion : Decimal.isWritable s.version) : ∃ text, encode s = .ok text ∧ decode text = .ok s := by
  obtain ⟨text, hwrite, hparse⟩ := parse_write indented_blank (faithful_schemaJson hversion)
  refine ⟨text, hwrite, ?_⟩
  rw [decode, hparse]
  exact decodeJson_schemaJson h

theorem encode_of_overlong {s : Schema Float} (h : Decimal.isWritable s.version = false) :
    encode s = .error .written := by
  rw [encode, pretty, write, isWritable_schemaJson, h]
  rfl

/-- **Nothing is lost.** A schema in which no column has a constraint twice has a document if its version has no more
digits than an integer may have, and its document is read back as the schema. With more digits there is no document. -/
theorem decode_encode {s : Schema Float} (h : ∀ t ∈ s.tables, ∀ c ∈ t.columns, c.constraints.Nodup) :
    (s.version.natAbs < 10 ^ Decimal.digitLimit → ∃ text, encode s = .ok text ∧ decode text = .ok s) ∧
      (10 ^ Decimal.digitLimit ≤ s.version.natAbs → encode s = .error .written) := by
  refine ⟨fun hversion => exists_encode h (Decimal.isWritable_iff.2 hversion), fun hversion => ?_⟩
  refine encode_of_overlong (Bool.eq_false_iff.2 fun hwritable => ?_)
  exact Nat.not_lt.2 hversion (Decimal.isWritable_iff.1 hwritable)

/-- names with quotes, line breaks and letters of two scripts, an empty id, and positions at the ends of the range -/
def album : Schema Float :=
  ⟨-3, [⟨"t_1", "the \"songs\"\n\\", ⟨-0.0, 0.1⟩,
        [⟨"c_1", "名前 😀", .varchar, [.unique, .notNull]⟩, ⟨"", "\x07", .timestamp, []⟩]⟩,
      ⟨"t_2", "", ⟨5e-324, 1 / 0⟩, []⟩],
    [⟨"r_1", ⟨"t_1", "c_1"⟩, ⟨"t_2", "c_9"⟩, .manyToMany⟩]⟩

theorem decode_encode_album : (∀ t ∈ album.tables, ∀ c ∈ t.columns, c.constraints.Nodup) ∧
    album.version.natAbs < 10 ^ Decimal.digitLimit ∧ ∃ text, encode album = .ok text ∧ decode text = .ok album := by
  have h : ∀ t ∈ album.tables, ∀ c ∈ t.columns, c.constraints.Nodup := by
    simp [album]
  have hversion : album.version.natAbs < 10 ^ Decimal.digitLimit := by decide +kernel
  exact ⟨h, hversion, (decode_encode h).1 hversion⟩

/-- a schema whose version has one digit too many -/
def distantEdition : Schema Float := ⟨10 ^ Decimal.digitLimit, [], []⟩

/-- Not every schema has a document. -/
theorem encode_distantEdition : encode distantEdition = .error .written ∧
    ¬ ∀ s : Schema Float, (∀ t ∈ s.tables, ∀ c ∈ t.columns, c.constraints.Nodup) →
      ∃ text, encode s = .ok text ∧ decode text = .ok s := by
  have hfails : encode distantEdition = .error .written := encode_of_overlong Decimal.isWritable_pow
  refine ⟨hfails, fun hall => ?_⟩
  obtain ⟨text, htext, -⟩ := hall distantEdition nofun
  rw [hfails] at htext
  cases htext

end Crowfoot.Document

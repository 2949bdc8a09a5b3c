import Crowfoot.Proofs.Ddl.Growth
import Crowfoot.Proofs.Ddl.Summary
import Crowfoot.Proofs.Layout.Renaming.Drawing
import Crowfoot.Proofs.Layout.Repetition

/-
The same statements with ids from two sources. Which columns are joined is decided by names and places, and so what
linking leaves with one source is what it leaves with the other, under other ids; and other ids change no drawing.

- `Draft.renamed`: a draft under other ids. `endAt?_renamed`: ends follow it.
- `Linked.drafts_renamed`, `relationships_renamed`: linking that joins the same places comes to the same.
- `placed_renamed`: tables under other ids are put in the same places.
- `assemble_renamed`: both schemas are the same up to the ids that they were given.
-/

namespace Crowfoot.Ddl

open IdSupply Layout

variable {f : String → String}

/-! ## Drafts under other ids -/

def DraftColumn.renamed (f : String → String) (c : DraftColumn) : DraftColumn := { c with id := f c.id }

def Draft.renamed (f : String → String) (d : Draft) : Draft :=
  { d with id := f d.id, columns := d.columns.map (DraftColumn.renamed f) }

theorem endAt?_renamed (f : String → String) (drafts : List Draft) (p : Place) :
    endAt? (drafts.map (Draft.renamed f)) p = (endAt? drafts p).map (Endpoint.renamed (.all f)) := by
  simp only [endAt?, List.getElem?_map, Option.bind_eq_bind]
  cases drafts[p.table]? with
  | none => rfl
  | some d =>
    simp only [Option.map_some, Option.bind_some, Draft.renamed, List.getElem?_map]
    cases d.columns[p.column]? <;> rfl

theorem Draft.tableAt_renamed {κ : Type} [Coordinate κ] (d : Draft) :
    ((d.renamed f).tableAt : Table κ) = d.tableAt.renamed (.all f) := by
  simp only [tableAt, renamed, Table.renamed, List.map_map, Table.mk.injEq, true_and]
  exact ⟨rfl, rfl⟩

/-- a list of the ids of tables, each before those of its columns, tells which are whose if it is known how many
columns there are -/
theorem ids_of_flatMap {xs xs' : List (String × List String)} (hshape : xs'.map (·.2.length) = xs.map (·.2.length))
    (h : xs'.flatMap (fun x => x.1 :: x.2) = (xs.flatMap fun x => x.1 :: x.2).map f) :
    xs' = xs.map (Prod.map f (List.map f)) := by
  induction xs generalizing xs' with
  | nil => exact List.map_eq_nil_iff.1 hshape
  | cons x xs ih =>
    cases xs' with
    | nil => cases hshape
    | cons x' xs' =>
      simp only [List.map_cons, List.cons.injEq] at hshape
      simp only [List.flatMap_cons, List.cons_append, List.map_cons, List.map_append, List.cons.injEq] at h
      obtain ⟨hcolumns, hrest⟩ := List.append_inj h.2 (by rw [hshape.1, List.length_map])
      rw [List.map_cons, ← ih hshape.2 hrest]
      exact congrArg (· :: xs') (Prod.ext h.1 hcolumns)

/-! ## Linking -/

section Linking

variable {σ τ : Type} {plain : List Draft} {done : List (Place × Place)} {l : Linking σ} {l' : Linking τ}

/-- there are as many columns in each table, whatever their ids -/
theorem Linked.shape (h : Linked plain done l) (h' : Linked plain done l') :
    (l'.drafts.map Draft.ids).map (·.2.length) = (l.drafts.map Draft.ids).map (·.2.length) := by
  have hlengths := congrArg (List.map fun d : Draft => d.columns.length) (h'.bare.trans h.bare.symm)
  simpa [Draft.bare, Draft.ids, Function.comp_def] using hlengths

/-- columns at one place differ in nothing but their ids -/
theorem Linked.column_renamed (h : Linked plain done l) (h' : Linked plain done l') {p : Place} {c c' : DraftColumn}
    (hc : columnAt? l.drafts p = some c) (hc' : columnAt? l'.drafts p = some c') (hlast : c.MarksLast)
    (hlast' : c'.MarksLast) (hid : c'.id = f c.id) : c' = c.renamed f := by
  have hbare : c'.bare = c.bare := by
    have hplain := columnAt?_bare l.drafts p
    have hplain' := columnAt?_bare l'.drafts p
    rw [h.bare, hc] at hplain
    rw [h'.bare, hplain, hc'] at hplain'
    exact (Option.some.inj hplain').symm
  have hmark : .foreignKey ∈ c'.constraints ↔ .foreignKey ∈ c.constraints :=
    (h'.marks p c' hc').trans (h.marks p c hc).symm
  have hconstraints : c'.constraints = c.constraints := by
    rw [hlast', hlast, hbare]
    simp only [hmark]
  have hplain := congrArg (fun c : DraftColumn => (c.name, c.type, c.reference)) hbare
  simp only [DraftColumn.bare, Prod.mk.injEq] at hplain
  obtain ⟨id', name', type', constraints', reference'⟩ := c'
  obtain ⟨rfl, rfl, rfl⟩ := hplain
  cases hid
  cases hconstraints
  rfl

/-- so do drafts at one place -/
theorem Linked.draft_renamed (h : Linked plain done l) (h' : Linked plain done l') {i : ℕ} {d d' : Draft}
    (hd : l.drafts[i]? = some d) (hd' : l'.drafts[i]? = some d') (hlast : ∀ c ∈ d.columns, c.MarksLast)
    (hlast' : ∀ c ∈ d'.columns, c.MarksLast) (hids : d'.ids = Prod.map f (List.map f) d.ids) : d' = d.renamed f := by
  have hbare : d'.bare = d.bare := by
    have hplain := congrArg (·[i]?) (h'.bare.trans h.bare.symm)
    simp only [List.getElem?_map, hd, hd', Option.map_some] at hplain
    exact Option.some.inj hplain
  obtain ⟨hid, hcolumnIds⟩ := Prod.mk.inj hids
  rw [List.map_map] at hcolumnIds
  have hcolumns : d'.columns = d.columns.map (DraftColumn.renamed f) := by
    refine eq_map_of_getElem? (length_eq_of_map_eq hcolumnIds) fun j c c' hc hc' => ?_
    have hid := congrArg (·[j]?) hcolumnIds
    simp only [List.getElem?_map, hc, hc', Option.map_some] at hid
    exact h.column_renamed h' (p := ⟨i, j⟩) (columnAt?_eq_some.2 ⟨d, hd, hc⟩) (columnAt?_eq_some.2 ⟨d', hd', hc'⟩)
      (hlast c (List.mem_of_getElem? hc)) (hlast' c' (List.mem_of_getElem? hc')) (Option.some.inj hid)
  have htable : d'.table = d.table := by
    have hplain := congrArg Draft.table hbare
    exact hplain
  obtain ⟨id', table', columns'⟩ := d'
  cases hid
  cases htable
  cases hcolumns
  rfl

/-- drafts in which the same columns are marked differ in nothing but their ids -/
theorem Linked.drafts_renamed (h : Linked plain done l) (h' : Linked plain done l')
    (hlast : ∀ d ∈ l.drafts, ∀ c ∈ d.columns, c.MarksLast) (hlast' : ∀ d ∈ l'.drafts, ∀ c ∈ d.columns, c.MarksLast)
    (hids : l'.draftIds = l.draftIds.map f) : l'.drafts = l.drafts.map (Draft.renamed f) := by
  have hpairs : l'.drafts.map Draft.ids = (l.drafts.map Draft.ids).map (Prod.map f (List.map f)) :=
    ids_of_flatMap (h.shape h') hids
  refine eq_map_of_getElem? (length_eq_of_map_eq (h'.bare.trans h.bare.symm)) fun i d d' hd hd' => ?_
  have hown := congrArg (·[i]?) hpairs
  simp only [List.getElem?_map, hd, hd', Option.map_some] at hown
  exact h.draft_renamed h' hd hd' (hlast d (List.mem_of_getElem? hd)) (hlast' d' (List.mem_of_getElem? hd'))
    (Option.some.inj hown)

/-- relationships between the same places differ in nothing but their ids, and in those of the ends -/
theorem Joins.renamed {drafts : List Draft} {r r' : Relationship} {k : Place × Place} (h : Joins plain drafts r k)
    (h' : Joins plain (drafts.map (Draft.renamed f)) r' k) (hid : r'.id = f r.id) : r' = r.renamed (.all f) := by
  have hsource : r'.source = r.source.renamed (.all f) := by
    have hend := h'.source
    rw [endAt?_renamed, h.source] at hend
    exact (Option.some.inj hend).symm
  have htarget : r'.target = r.target.renamed (.all f) := by
    have hend := h'.target
    rw [endAt?_renamed, h.target] at hend
    exact (Option.some.inj hend).symm
  have htype : r'.type = r.type := h'.type.trans h.type.symm
  obtain ⟨id', source', target', type'⟩ := r'
  cases hid
  cases hsource
  cases htarget
  cases htype
  rfl

theorem relationships_renamed {drafts : List Draft} {rs rs' : List Relationship}
    (h : List.Forall₂ (Joins plain drafts) rs done)
    (h' : List.Forall₂ (Joins plain (drafts.map (Draft.renamed f))) rs' done)
    (hids : rs'.map (·.id) = (rs.map (·.id)).map f) : rs' = rs.map (Relationship.renamed (.all f)) := by
  induction h generalizing rs' with
  | nil => exact List.forall₂_nil_right_iff.1 h'
  | cons hr _ ih =>
    cases h' with
    | cons hr' hrest =>
      simp only [List.map_cons, List.cons.injEq] at hids
      rw [List.map_cons, hr.renamed hr' hids.1, ih hrest hids.2]

/-- and so there are as many ids -/
theorem Linked.lengths (h : Linked plain done l) (h' : Linked plain done l') :
    l'.draftIds.length = l.draftIds.length ∧ l'.relationships.length = l.relationships.length := by
  refine ⟨?_, h'.relationships.length_eq.trans h.relationships.length_eq.symm⟩
  have hcount : ∀ xs : List (String × List String),
      (xs.flatMap fun x => x.1 :: x.2).length = ((xs.map (·.2.length)).map (· + 1)).sum := by
    intro xs
    simp [List.length_flatMap, Function.comp_def]
  rw [Linking.draftIds, Linking.draftIds, hcount, hcount, h.shape h']

end Linking

/-! ## Schemas -/

section Schemas

variable {κ : Type}

theorem allIds_renamed (f : String → String) (s : Schema κ) : (s.renamed (.all f)).allIds = s.allIds.map f := by
  simp only [Schema.allIds, Schema.renamed, List.map_append, List.map_map, List.map_flatMap, List.flatMap_map]
  congr 1
  refine List.flatMap_congr fun t _ => ?_
  simp only [Schema.tableIds, Table.renamed, List.map_cons, List.map_map]
  rfl

/-- where every end is a column of a table, new ids that are all different tell the tables apart -/
theorem toldApart_of_nodup {s : Schema κ} (h : s.Intact) (hids : (s.allIds.map f).Nodup) : s.ToldApart (.all f) := by
  have hown : ∀ t ∈ s.tables, t.id ∈ s.allIds := fun t ht =>
    List.mem_append_left _ (List.mem_flatMap.2 ⟨t, ht, List.mem_cons_self⟩)
  have hmentioned : s.mentionedTables ⊆ s.allIds := by
    intro id hid
    rcases List.mem_append.1 hid with hid | hid
    · obtain ⟨t, ht, rfl⟩ := List.mem_map.1 hid
      exact hown t ht
    · obtain ⟨r, hr, hend⟩ := List.mem_flatMap.1 hid
      obtain ⟨⟨t, ht, htid, -⟩, u, hu, huid, -⟩ := h r hr
      rcases List.mem_pair.1 hend with rfl | rfl
      · exact htid ▸ hown t ht
      · exact huid ▸ hown u hu
  exact fun t ht id hid heq => List.inj_on_of_nodup_map hids (hmentioned hid) (hown t ht) heq

variable [Coordinate κ]

/-- tables under other ids are put where they are put under their own -/
theorem placed_renamed {s : Schema κ} {ρ : Renaming} (h : s.ToldApart ρ) :
    placed (s.renamed ρ) = bimap (Fault.map ρ.table) (Schema.renamed ρ) (placed s) := by
  unfold placed
  rw [Schema.drawing_renamed h]
  cases hdrawing : s.drawing with
  | error fault => rfl
  | ok places =>
    have hlookup : ∀ t ∈ s.tables,
        (places.map (Prod.map ρ.table id)).lookup (ρ.table t.id) = places.lookup t.id := by
      intro t ht
      refine lookup_map_of_told fun entry hentry => h t ht entry.1 ?_
      have hkey : entry.1 ∈ places.map (·.1) := List.mem_map_of_mem hentry
      rw [Schema.drawing_ok hdrawing, mem_distinct] at hkey
      exact List.mem_append_left _ hkey
    refine congrArg Except.ok (congrArg (fun ts => Schema.mk s.version ts _) ?_)
    rw [Schema.renamed, List.map_map, List.map_map]
    refine List.map_congr_left fun t ht => ?_
    simp only [Function.comp_apply, Table.renamed, hlookup t ht]
    cases places.lookup t.id <;> rfl

/-! ## Statements -/

variable {σ τ : Type} [IdSupply σ] [IdSupply τ] {statements : List Statement}

/-- all ids that come out of linking are different -/
theorem linked_ids_nodup {ids : σ} {l : Linking σ} (hl : linked statements ids = .ok l) (hids : Fresh [] ids) :
    (l.draftIds ++ l.relationships.map (·.id)).Nodup := by
  have hahead : Ahead ([] : List String) ids := ⟨List.nodup_nil, hids⟩
  exact (List.nodup_append.1 (hahead.draws (linked_draws hl)).nodup).1

/-- what linking leaves with one source is what it leaves with the other, under other ids -/
theorem linked_renamed {ids : σ} {ids' : τ} (hids : Fresh [] ids) {l : Linking σ} {l' : Linking τ}
    (hl : linked statements ids = .ok l) (hl' : linked statements ids' = .ok l')
    (h : Linked (draftsOf statements) (resolvedKeys statements) l)
    (h' : Linked (draftsOf statements) (resolvedKeys statements) l') :
    ∃ f, l'.drafts = l.drafts.map (Draft.renamed f) ∧
      l'.relationships = l.relationships.map (Relationship.renamed (.all f)) := by
  obtain ⟨hdrafts, hrelationships⟩ := h.lengths h'
  have hlen : (l.draftIds ++ l.relationships.map (·.id)).length =
      (l'.draftIds ++ l'.relationships.map (·.id)).length := by
    simp [hdrafts, hrelationships]
  obtain ⟨f, hf⟩ := exists_map_eq (linked_ids_nodup hl hids) hlen
  rw [List.map_append] at hf
  obtain ⟨hfdrafts, hfrelationships⟩ := List.append_inj hf (by rw [List.length_map, hdrafts])
  have hrenamed := h.drafts_renamed h' (linked_marksLast hl) (linked_marksLast hl') hfdrafts.symm
  refine ⟨f, hrenamed, relationships_renamed h.relationships ?_ hfrelationships.symm⟩
  rw [← hrenamed]
  exact h'.relationships

/-- the two schemas, or what is in the way of both -/
theorem exists_renaming (statements : List Statement) {ids : σ} {ids' : τ} (hids : Fresh [] ids)
    (hids' : Fresh [] ids') :
    ∃ f, (assemble statements ids' : Except AssemblyError (Schema κ × τ)).map (·.1) =
      (assemble statements ids : Except AssemblyError (Schema κ × σ)).map fun made => made.1.renamed (.all f) := by
  by_cases hkeyless : Keyless statements
  · rw [assemble_keyless hkeyless, assemble_keyless hkeyless]
    exact ⟨id, rfl⟩
  obtain ⟨l, hl, h⟩ := linked_spec hkeyless hids
  obtain ⟨l', hl', h'⟩ := linked_spec hkeyless hids'
  obtain ⟨f, hdrafts, hrelationships⟩ := linked_renamed hids hl hl' h h'
  have hschema : (l'.schema : Schema κ) = l.schema.renamed (.all f) := by
    simp only [Linking.schema, Schema.renamed, hdrafts, hrelationships, List.map_map, Function.comp_def,
      Draft.tableAt_renamed]
  have htold : (l.schema : Schema κ).ToldApart (.all f) := by
    refine toldApart_of_nodup (h.built l.schema_parts rfl).intact ?_
    rw [← allIds_renamed, ← hschema, Schema.allIds, tableIds_of_parts l'.schema_parts]
    exact linked_ids_nodup hl' hids'
  refine ⟨f, ?_⟩
  rw [assemble_eq_placed hl, assemble_eq_placed hl', hschema, placed_renamed htold]
  cases hplaced : placed (l.schema : Schema κ) with
  | ok s => rfl
  | error fault =>
    obtain ⟨c, x, -, rfl⟩ := placed_error h.schema_ids hplaced
    rfl

/-- **Ids do not matter.** Of the same statements, two sources that hand out different ids make the same schema, but for
the ids: those in one, in the order in which they are drawn, take the place of those in the other. And a drawing has the
same corners under other ids, whatever schema is drawn. -/
theorem assemble_renamed (statements : List Statement) {ids : σ} {ids' : τ} (hids : Fresh [] ids)
    (hids' : Fresh [] ids') :
    (∃ f, (assemble statements ids' : Except AssemblyError (Schema κ × τ)).map (·.1) =
        (assemble statements ids : Except AssemblyError (Schema κ × σ)).map (fun made => made.1.renamed (.all f)) ∧
      ∀ (made : Schema κ × σ) (made' : Schema κ × τ), assemble statements ids = .ok made →
        assemble statements ids' = .ok made' →
        Draws ids made.1.allIds made.2 ∧ Draws ids' (made.1.allIds.map f) made'.2) ∧
    ∀ (s : Schema κ) (ρ : Renaming), s.ToldApart ρ →
      (s.renamed ρ).drawing = bimap (Fault.map ρ.table) (List.map (Prod.map ρ.table id)) s.drawing := by
  refine ⟨?_, fun s ρ htold => Schema.drawing_renamed htold⟩
  obtain ⟨f, hf⟩ := exists_renaming (κ := κ) statements hids hids'
  refine ⟨f, hf, fun made made' hmade hmade' => ⟨assemble_draws hmade, ?_⟩⟩
  rw [hmade, hmade'] at hf
  have hsame : made'.1 = made.1.renamed (.all f) := Except.ok.inj hf
  rw [← allIds_renamed, ← hsame]
  exact assemble_draws hmade'

/-- people with orders, and an order for a parcel that is not there -/
def sentOrders : Schema ℚ :=
  ⟨1, ["people", "orders"].map fun id => ⟨id, id, Position.origin, []⟩,
    [⟨"ordered", ⟨"orders", "person"⟩, ⟨"people", "id"⟩, .oneToMany⟩,
      ⟨"sent", ⟨"orders", "parcel"⟩, ⟨"parcels", "id"⟩, .oneToMany⟩]⟩

theorem assemble_renamed_orders :
    Fresh [] (⟨"", 0, []⟩ : Counting) ∧ Fresh [] (⟨"new", 7, []⟩ : Counting) ∧
      (∃ f, ∃ made made' : Schema ℚ × Counting, assemble orderStatements (⟨"", 0, []⟩ : Counting) = .ok made ∧
        assemble orderStatements (⟨"new", 7, []⟩ : Counting) = .ok made' ∧ made'.1 = made.1.renamed (.all f) ∧
        Draws (⟨"", 0, []⟩ : Counting) made.1.allIds made.2 ∧
        Draws (⟨"new", 7, []⟩ : Counting) (made.1.allIds.map f) made'.2) ∧
      sentOrders.ToldApart ⟨("new_" ++ ·), id, id⟩ ∧
      (sentOrders.renamed ⟨("new_" ++ ·), id, id⟩).drawing = .ok [("new_people", 0, 128), ("new_orders", 0, 0)] := by
  have hids : Fresh [] (⟨"", 0, []⟩ : Counting) := Counting.fresh_of_subset (List.Subset.refl _)
  have hids' : Fresh [] (⟨"new", 7, []⟩ : Counting) := Counting.fresh_of_subset (List.Subset.refl _)
  obtain ⟨⟨f, hf, hdraws⟩, hdrawings⟩ := assemble_renamed (κ := ℚ) orderStatements hids hids'
  have hok : (assemble orderStatements (⟨"", 0, []⟩ : Counting) :
      Except AssemblyError (Schema ℚ × Counting)).toOption.isSome = true := by decide +kernel
  obtain ⟨made, hmade⟩ := Option.isSome_iff_exists.1 hok
  rw [except_toOption_eq_some] at hmade
  rw [hmade] at hf
  obtain ⟨made', hmade', hsame⟩ := except_map_eq_ok.1 hf
  have htold : sentOrders.ToldApart ⟨("new_" ++ ·), id, id⟩ :=
    Schema.toldApart_of_injective _ fun _ _ heq => (String.append_right_inj _).1 heq
  have hdrawing : sentOrders.drawing = .ok [("people", 0, 128), ("orders", 0, 0)] := by decide +kernel
  refine ⟨hids, hids', ⟨f, made, made', hmade, hmade', hsame, hdraws made made' hmade hmade'⟩, htold, ?_⟩
  rw [hdrawings sentOrders _ htold, hdrawing]
  rfl

end Schemas

end Crowfoot.Ddl

import Crowfoot.Proofs.Ddl.Resolving
import Crowfoot.Proofs.Schema.Issuing

/-
Linking. Foreign keys are linked one after another; what a key does depends on the marks and relationships that the
ones before it left, but what it means does not.

- `Linked`: the invariant, with the pairs of places that have been joined so far. A column is marked exactly if a pair
  starts at it, and the relationships are the pairs without repetitions.
- `Linked.connect`, `Linked.link`: one key. A key that does not resolve adds no pair.
- `Linked.run`: a run of steps, of whatever kind, that each add some pairs.
- `linked_spec`: linking as a whole. `linked_keeps`: what it keeps, if joining one column to its target does.
-/

namespace Crowfoot.Ddl

open IdSupply

/-! ## Columns at places -/

theorem columnAt?_eq_some {drafts : List Draft} {p : Place} {c : DraftColumn} :
    columnAt? drafts p = some c ↔ ∃ d, drafts[p.table]? = some d ∧ d.columns[p.column]? = some c := by
  simp only [columnAt?, Option.bind_eq_bind, Option.bind_eq_some_iff]

theorem endAt?_eq_some {drafts : List Draft} {p : Place} {e : Endpoint} :
    endAt? drafts p = some e ↔
      ∃ d c, drafts[p.table]? = some d ∧ d.columns[p.column]? = some c ∧ e = ⟨d.id, c.id⟩ := by
  simp only [endAt?, Option.bind_eq_bind, Option.bind_eq_some_iff]
  constructor
  · rintro ⟨d, hd, c, hc, heq⟩
    exact ⟨d, c, hd, hc, (Option.some.inj heq).symm⟩
  · rintro ⟨d, c, hd, hc, rfl⟩
    exact ⟨d, hd, c, hc, rfl⟩

/-- the ids of a draft and of its columns -/
def Draft.ids (d : Draft) : String × List String := (d.id, d.columns.map (·.id))

/-- the ids of tables differ, and those of the columns of each -/
structure DistinctIds (drafts : List Draft) : Prop where
  tables : ((drafts.map Draft.ids).map (·.1)).Nodup
  columns : ∀ ids ∈ drafts.map Draft.ids, ids.2.Nodup

/-- where ids differ, no two places are the same end -/
theorem DistinctIds.endAt?_inj {drafts : List Draft} (h : DistinctIds drafts) {p q : Place} {e : Endpoint}
    (hp : endAt? drafts p = some e) (hq : endAt? drafts q = some e) : p = q := by
  obtain ⟨d, c, hd, hc, rfl⟩ := endAt?_eq_some.1 hp
  obtain ⟨d', c', hd', hc', heq⟩ := endAt?_eq_some.1 hq
  obtain ⟨htableId, hcolumnId⟩ := Endpoint.mk.inj heq
  have htables := h.tables
  rw [List.map_map] at htables
  have htable : p.table = q.table := getElem?_map_inj htables hd hd' htableId
  have hsame : d = d' := by rw [htable, hd'] at hd; exact (Option.some.inj hd).symm
  subst hsame
  have hcolumns : (d.columns.map (·.id)).Nodup := h.columns d.ids (List.mem_map_of_mem (List.mem_of_getElem? hd))
  have hcolumn : p.column = q.column := getElem?_map_inj hcolumns hc hc' hcolumnId
  exact Place.ext htable hcolumn

/-- the type of a relationship that starts at a place -/
def linkType (drafts : List Draft) (p : Place) : Cardinality :=
  if (columnAt? drafts p).any (·.constraints.contains .unique) then .oneToOne else .oneToMany

/-- drafts with the column at a place marked, given the draft and the column there -/
def marked (drafts : List Draft) (p : Place) (d : Draft) (c : DraftColumn) : List Draft :=
  drafts.set p.table { d with columns := d.columns.set p.column (c.add .foreignKey) }

theorem DraftColumn.add_bare (c : DraftColumn) : (c.add .foreignKey).bare = c.bare := by
  unfold DraftColumn.add
  split_ifs
  · rfl
  · simp [DraftColumn.bare, List.filter_append]

@[simp] theorem DraftColumn.add_id (c : DraftColumn) (k : Constraint) : (c.add k).id = c.id := by
  unfold DraftColumn.add
  split_ifs <;> rfl

variable {drafts : List Draft} {p : Place} {d : Draft} {c : DraftColumn}

theorem columnAt?_marked (hd : drafts[p.table]? = some d) (hc : d.columns[p.column]? = some c) (q : Place) :
    columnAt? (marked drafts p d c) q = if q = p then some (c.add .foreignKey) else columnAt? drafts q := by
  obtain ⟨hi, hget⟩ := List.getElem?_eq_some_iff.1 hd
  obtain ⟨hj, -⟩ := List.getElem?_eq_some_iff.1 hc
  obtain ⟨i, j⟩ := p
  obtain ⟨i', j'⟩ := q
  simp only at hget hi hj
  simp only [columnAt?, marked, List.getElem?_set, Place.mk.injEq]
  by_cases hti : i = i'
  · subst hti
    by_cases hcj : j = j'
    · subst hcj
      simp [hi, hj]
    · simp [hi, hget, hcj, Ne.symm hcj]
  · simp [hti, Ne.symm hti]

theorem marked_bare (hd : drafts[p.table]? = some d) (hc : d.columns[p.column]? = some c) :
    (marked drafts p d c).map Draft.bare = drafts.map Draft.bare := by
  refine map_set_of_eq hd ?_
  simp only [Draft.bare]
  rw [map_set_of_eq hc c.add_bare]

theorem marked_ids (hd : drafts[p.table]? = some d) (hc : d.columns[p.column]? = some c) :
    (marked drafts p d c).map Draft.ids = drafts.map Draft.ids := by
  refine map_set_of_eq hd ?_
  simp only [Draft.ids]
  rw [map_set_of_eq hc (c.add_id .foreignKey)]

theorem endAt?_congr {drafts' : List Draft} (h : drafts'.map Draft.ids = drafts.map Draft.ids) (p : Place) :
    endAt? drafts' p = endAt? drafts p := by
  have hids : ∀ ds : List Draft, endAt? ds p =
      (ds.map Draft.ids)[p.table]?.bind fun d => d.2[p.column]?.map fun c => ⟨d.1, c⟩ := by
    intro ds
    rw [List.getElem?_map, Option.bind_map]
    simp only [endAt?, Draft.ids, Function.comp_def, List.getElem?_map, Option.bind_eq_bind, Option.map_eq_bind,
      Option.bind_assoc]
    rfl
  rw [hids, hids, h]

theorem columnAt?_bare (drafts : List Draft) (p : Place) :
    columnAt? (drafts.map Draft.bare) p = (columnAt? drafts p).map DraftColumn.bare := by
  simp only [columnAt?, List.getElem?_map, Option.bind_eq_bind, Option.bind_map, Function.comp_def, Draft.bare,
    Option.map_bind]

/-! ## The invariant -/

/-- a relationship joins the columns at two places, with the type that the first of them gives it; types are read off
the plain drafts, ids off those that have some -/
structure Joins (plain drafts : List Draft) (r : Relationship) (k : Place × Place) : Prop where
  source : endAt? drafts k.1 = some r.source
  target : endAt? drafts k.2 = some r.target
  type : r.type = linkType plain k.1

/-- linking as far as it has come, with the pairs of places joined so far -/
structure Linked {σ : Type} (plain : List Draft) (done : List (Place × Place)) (l : Linking σ) : Prop where
  keys : l.keys = keysFrom 0 plain
  bare : l.drafts.map Draft.bare = plain
  ids : DistinctIds l.drafts
  relationships : List.Forall₂ (Joins plain l.drafts) l.relationships done.eraseDups
  marks : ∀ p c, columnAt? l.drafts p = some c → (Constraint.foreignKey ∈ c.constraints ↔ ∃ k ∈ done, k.1 = p)

variable {σ : Type} {plain : List Draft} {done : List (Place × Place)} {l : Linking σ}

/-- whether two ends are joined already is whether the pair of their places has come before -/
theorem Linked.joins_iff (h : Linked plain done l) {q : Place} {source target : Endpoint}
    (hp : endAt? l.drafts p = some source) (hq : endAt? l.drafts q = some target) :
    l.joins source target = true ↔ (p, q) ∈ done := by
  rw [← List.mem_eraseDups]
  simp only [Linking.joins, List.any_eq_true, Bool.and_eq_true, beq_iff_eq]
  constructor
  · rintro ⟨r, hr, rfl, rfl⟩
    obtain ⟨k, hk, hjoins⟩ := forall₂_mem_left h.relationships hr
    rw [h.ids.endAt?_inj hp hjoins.source, h.ids.endAt?_inj hq hjoins.target]
    exact hk
  · intro hmem
    obtain ⟨r, hr, hjoins⟩ := forall₂_mem_right h.relationships hmem
    exact ⟨r, hr, Option.some.inj (hjoins.source.symm.trans hp), Option.some.inj (hjoins.target.symm.trans hq)⟩

/-- marking the column that a pair starts at, and adding a relationship if the pair is new -/
theorem Linked.mark (h : Linked plain done l) {q : Place} (hd : l.drafts[p.table]? = some d)
    (hc : d.columns[p.column]? = some c) {l' : Linking σ} (hkeys : l'.keys = l.keys)
    (hdrafts : l'.drafts = marked l.drafts p d c)
    (hrelationships : List.Forall₂ (Joins plain l.drafts) l'.relationships (done ++ [(p, q)]).eraseDups) :
    Linked plain (done ++ [(p, q)]) l' := by
  have hids := marked_ids hd hc
  refine ⟨hkeys.trans h.keys, ?_, ⟨?_, ?_⟩, ?_, fun p' c' hc' => ?_⟩
  · rw [hdrafts, marked_bare hd hc, h.bare]
  · rw [hdrafts, hids]
    exact h.ids.tables
  · rw [hdrafts, hids]
    exact h.ids.columns
  · have hends := endAt?_congr hids
    rw [hdrafts]
    exact hrelationships.imp fun r k hr => ⟨(hends _).trans hr.source, (hends _).trans hr.target, hr.type⟩
  · rw [hdrafts, columnAt?_marked hd hc] at hc'
    simp only [List.mem_append, List.mem_singleton, or_and_right, exists_or, exists_eq_left]
    split_ifs at hc' with heq
    · cases hc'
      exact iff_of_true (c.mem_add.2 (Or.inr rfl)) (Or.inr heq.symm)
    · rw [h.marks p' c' hc']
      exact ⟨Or.inl, fun hor => hor.resolve_right fun h => heq h.symm⟩

/-- steps that each add some pairs, one after another -/
theorem Linked.run {β : Type} (step : Linking σ → β → Linking σ) (pairs : β → List (Place × Place)) (xs : List β)
    (h : Linked plain done l)
    (hstep : ∀ done l, ∀ x ∈ xs, Linked plain done l → Linked plain (done ++ pairs x) (step l x)) :
    Linked plain (done ++ xs.flatMap pairs) (xs.foldl step l) := by
  induction xs generalizing done l with
  | nil => simpa using h
  | cons x xs ih =>
    rw [List.flatMap_cons, ← List.append_assoc]
    exact ih (hstep done l x List.mem_cons_self h) fun done l y hy => hstep done l y (List.mem_cons_of_mem _ hy)

variable [IdSupply σ]

theorem Linked.connect (h : Linked plain done l) {q : Place} {target : Endpoint} (hd : l.drafts[p.table]? = some d)
    (hc : d.columns[p.column]? = some c) (hq : endAt? l.drafts q = some target) :
    Linked plain (done ++ [(p, q)]) (l.connect p.table p.column d c target) := by
  have hp : endAt? l.drafts p = some ⟨d.id, c.id⟩ := endAt?_eq_some.2 ⟨d, c, hd, hc, rfl⟩
  have htype : linkType plain p = if c.constraints.contains .unique then .oneToOne else .oneToMany := by
    rw [linkType, ← h.bare, columnAt?_bare, columnAt?_eq_some.2 ⟨d, hd, hc⟩, Option.map_some, Option.any_some,
      c.bare_contains (by decide)]
  have hjoins := h.joins_iff hp hq
  by_cases hold : (p, q) ∈ done
  · have hconnect : l.connect p.table p.column d c target = { l with drafts := marked l.drafts p d c } :=
      if_pos (hjoins.2 hold)
    rw [hconnect]
    refine h.mark hd hc rfl rfl ?_
    rw [List.eraseDups_append]
    simpa [List.removeAll, hold] using h.relationships
  · have hconnect : l.connect p.table p.column d c target = { l with
        drafts := marked l.drafts p d c
        relationships := l.relationships ++ [⟨(newId relationshipLetter l.ids).1, ⟨d.id, c.id⟩, target,
          if c.constraints.contains .unique then .oneToOne else .oneToMany⟩]
        ids := (newId relationshipLetter l.ids).2 } :=
      if_neg fun h => hold (hjoins.1 h)
    rw [hconnect]
    refine h.mark hd hc rfl rfl ?_
    have hsingle : ([(p, q)] : List (Place × Place)).removeAll done = [(p, q)] := by simp [List.removeAll, hold]
    rw [List.eraseDups_append, hsingle]
    exact List.rel_append h.relationships (List.Forall₂.cons ⟨hp, hq, htype.symm⟩ List.Forall₂.nil)

/-! ## Runs -/

/-- linking one declared foreign key -/
def linkKey (l : Linking σ) (k : DeclaredKey) : Linking σ := l.link k.table k.column k.target

/-- one foreign key adds the pair of places that it means, if it means one -/
theorem Linked.link (h : Linked plain done l) (k : DeclaredKey) :
    Linked plain (done ++ (resolve? plain k).toList) (linkKey l k) := by
  have hresolve : resolve? plain k = resolve? l.drafts k := by rw [← h.bare, resolve?_bare]
  have hkeys : l.keys = keysFrom 0 l.drafts := by rw [h.keys, ← h.bare, keysFrom_bare]
  rw [hresolve]
  unfold linkKey Linking.link resolve?
  rw [hkeys]
  cases hsource : l.drafts[k.table]? with
  | none => simpa using h
  | some source =>
    cases hkey : (keysFrom 0 l.drafts).lookup (nameKey k.target.table.qualified) with
    | none => simpa using h
    | some j =>
      cases htarget : l.drafts[j]? with
      | none => simpa [htarget] using h
      | some target =>
        cases hcolumn : columnIndex? source.columns k.column with
        | none => simpa [htarget, hcolumn] using h
        | some i =>
          cases hindex : targetIndex? target.columns k.target with
          | none => simpa [htarget, hcolumn, targetColumn?_eq, hindex] using h
          | some i' =>
            obtain ⟨c, hc⟩ := columnIndex?_getElem? hcolumn
            obtain ⟨c', hc'⟩ := targetIndex?_getElem? hindex
            have hq : endAt? l.drafts ⟨j, i'⟩ = some ⟨target.id, c'.id⟩ :=
              endAt?_eq_some.2 ⟨target, c', htarget, hc', rfl⟩
            simpa [htarget, hcolumn, targetColumn?_eq, hindex, hc, hc'] using
              h.connect (p := ⟨k.table, i⟩) hsource hc hq

theorem Linked.linkKeys (h : Linked plain done l) (ks : List DeclaredKey) :
    Linked plain (done ++ ks.filterMap (resolve? plain)) (ks.foldl linkKey l) := by
  rw [← flatMap_toList]
  exact h.run linkKey (fun k => (resolve? plain k).toList) ks fun done l k _ hl => hl.link k

/-- the references in the column definitions of one table -/
theorem Linked.linkInline (h : Linked plain done l) {i : ℕ} (hd : plain[i]? = some d) :
    Linked plain (done ++ (d.inlineKeys i).filterMap (resolve? plain)) (l.linkInline i) := by
  obtain ⟨d', hd', rfl⟩ : ∃ d', l.drafts[i]? = some d' ∧ d'.bare = d := by
    rw [← h.bare, List.getElem?_map] at hd
    exact Option.map_eq_some_iff.1 hd
  have hfold : l.linkInline i = (d'.inlineKeys i).foldl linkKey l := by
    unfold Linking.linkInline Draft.inlineKeys
    rw [hd', List.foldl_filterMap]
    dsimp only
    congr 1
    funext l c
    cases c.reference <;> rfl
  rw [hfold, inlineKeys_bare]
  exact h.linkKeys _

/-- a foreign key among constraints -/
theorem Linked.linkPending (h : Linked plain done l) (k : PendingKey) :
    Linked plain (done ++ (((tablePlace? plain k.table).map fun i => ⟨i, k.column, k.target⟩).bind
      (resolve? plain)).toList) (l.linkPending k) := by
  have hplace : l.source? k.table = tablePlace? plain k.table := by
    rw [Linking.source?, h.keys]
    rfl
  unfold Linking.linkPending
  rw [hplace]
  cases tablePlace? plain k.table with
  | none => simpa using h
  | some i => exact h.link ⟨i, k.column, k.target⟩

/-! ## From the start -/

/-- drawing ids changes nothing else about columns -/
theorem drawColumnIds_map {β : Type} {f : DraftColumn → β} (hf : ∀ c id, f { c with id := id } = f c)
    (cs : List DraftColumn) (ids : σ) : (drawColumnIds cs ids).1.map f = cs.map f := by
  induction cs generalizing ids with
  | nil => rfl
  | cons c cs ih => simp only [drawColumnIds, List.map_cons, hf, ih]

theorem drawIds_map {β : Type} {f : DraftColumn → β} (hf : ∀ c id, f { c with id := id } = f c) (ds : List Draft)
    (ids : σ) :
    (drawIds ds ids).1.map (fun d => (d.table, d.columns.map f)) = ds.map fun d => (d.table, d.columns.map f) := by
  induction ds generalizing ids with
  | nil => rfl
  | cons d ds ih => simp only [drawIds, List.map_cons, drawColumnIds_map hf, ih]

theorem drawIds_bare (ds : List Draft) (ids : σ) : (drawIds ds ids).1.map Draft.bare = ds.map Draft.bare := by
  have hmap := congrArg (List.map fun p : TableRef × List DraftColumn => (⟨"", p.1, p.2⟩ : Draft))
    (drawIds_map (f := DraftColumn.bare) (fun _ _ => rfl) ds ids)
  rw [List.map_map, List.map_map] at hmap
  exact hmap

/-- no column is marked before the first foreign key is linked -/
theorem drawIds_unmarked {ds : List Draft} (h : ∀ d ∈ ds, ∀ c ∈ d.columns, c.Plain) (ids : σ) :
    ∀ d ∈ (drawIds ds ids).1, ∀ c ∈ d.columns, Constraint.foreignKey ∉ c.constraints := by
  intro d hd c hc
  have hmem : (d.table, d.columns.map (·.constraints)) ∈ ds.map fun d => (d.table, d.columns.map (·.constraints)) := by
    rw [← drawIds_map (fun _ _ => rfl) ds ids]
    exact List.mem_map_of_mem (f := fun d => (d.table, d.columns.map (·.constraints))) hd
  obtain ⟨d', hd', heq⟩ := List.mem_map.1 hmem
  have hcs : c.constraints ∈ d'.columns.map (·.constraints) :=
    (Prod.mk.inj heq).2 ▸ List.mem_map_of_mem (f := (·.constraints)) hc
  obtain ⟨c', hc', hsame⟩ := List.mem_map.1 hcs
  rw [← hsame]
  exact (h d' hd' c' hc').2

theorem drawColumnIds_draws (cs : List DraftColumn) (ids : σ) :
    Draws ids ((drawColumnIds cs ids).1.map (·.id)) (drawColumnIds cs ids).2 := by
  induction cs generalizing ids with
  | nil => exact Draws.none ids
  | cons c cs ih => exact Draws.next columnLetter (ih _)

/-- the ids of drafts are drawn for them, table by table -/
theorem drawIds_draws (ds : List Draft) (ids : σ) :
    Draws ids (((drawIds ds ids).1.map Draft.ids).flatMap fun x => x.1 :: x.2) (drawIds ds ids).2 := by
  induction ds generalizing ids with
  | nil => exact Draws.none ids
  | cons d ds ih => exact Draws.next tableLetter ((drawColumnIds_draws d.columns _).trans (ih _))

theorem distinctIds_of_nodup {ds : List Draft} (h : ((ds.map Draft.ids).flatMap fun x => x.1 :: x.2).Nodup) :
    DistinctIds ds := by
  refine ⟨h.sublist ?_, fun x hx => (List.nodup_cons.1 ((List.nodup_flatMap.1 h).1 x hx)).2⟩
  induction ds.map Draft.ids with
  | nil => exact List.Sublist.refl _
  | cons x xs ih =>
    rw [List.map_cons, List.flatMap_cons, List.cons_append]
    exact (ih.trans (List.sublist_append_right _ _)).cons_cons _

/-- **Linking.** The foreign keys of statements, each with a column, are linked without failure, and what is joined in
the end are the pairs that they mean, in order. -/
theorem linked_spec {statements : List Statement} (hkeys : ¬ Keyless statements) {ids : σ} (hids : Fresh [] ids) :
    ∃ l, linked statements ids = .ok l ∧ Linked (draftsOf statements) (resolvedKeys statements) l := by
  let drawn := drawIds (draftsOf statements) ids
  have hbare : drawn.1.map Draft.bare = draftsOf statements := (drawIds_bare _ ids).trans (draftsOf_bare statements)
  have hahead : Ahead ([] : List String) ids := ⟨List.nodup_nil, hids⟩
  have hstart : Linked (draftsOf statements) [] (⟨keysFrom 0 drawn.1, drawn.1, [], drawn.2⟩ : Linking σ) := by
    refine ⟨by rw [← hbare, keysFrom_bare], hbare, ?_, List.Forall₂.nil, fun p c hc => ?_⟩
    · exact distinctIds_of_nodup (List.nodup_append.1 (hahead.draws (drawIds_draws _ ids)).nodup).1
    · obtain ⟨d, hd, hc⟩ := columnAt?_eq_some.1 hc
      have hunmarked := drawIds_unmarked (fun d hd => (draftsOf_plain hd).2) ids d (List.mem_of_getElem? hd) c
        (List.mem_of_getElem? hc)
      simp [hunmarked]
  have hinline := hstart.run (fun l x => l.linkInline x.2)
    (fun x => (x.1.inlineKeys x.2).filterMap (resolve? (draftsOf statements))) (draftsOf statements).zipIdx
    fun done l x hx hl => hl.linkInline (List.mem_zipIdx_iff_getElem?.1 hx)
  have hpending := hinline.run (fun l k => l.linkPending k) _ (createdKeys statements ++ alteredKeys statements)
    fun done l k _ hl => hl.linkPending k
  have hpairs : resolvedKeys statements =
      [] ++ (draftsOf statements).zipIdx.flatMap
          (fun x => (x.1.inlineKeys x.2).filterMap (resolve? (draftsOf statements))) ++
        (createdKeys statements ++ alteredKeys statements).flatMap fun k =>
          (((tablePlace? (draftsOf statements) k.table).map fun i => ⟨i, k.column, k.target⟩).bind
            (resolve? (draftsOf statements))).toList := by
    rw [flatMap_toList, List.nil_append, resolvedKeys, declaredKeys, List.filterMap_append, List.filterMap_flatMap,
      List.filterMap_filterMap]
  have hrange : List.range drawn.1.length = (draftsOf statements).zipIdx.map (·.2) := by
    have hlen : drawn.1.length = (draftsOf statements).length := by rw [← hbare, List.length_map]
    rw [hlen, List.range_eq_range']
    exact (List.zipIdx_map_snd 0 _).symm
  rw [← hpairs] at hpending
  refine ⟨_, ?_, hpending⟩
  rw [linked, foreignKeys_eq hkeys]
  show Except.ok (List.foldl Linking.linkPending (List.foldl Linking.linkInline _ (List.range drawn.1.length)) _) = _
  rw [hrange, List.foldl_map]
  rfl

/-! ## What every step keeps -/

namespace Linking

/-- a property of linking that joining a column to its target keeps -/
def ConnectKeeps (P : Linking σ → Prop) : Prop :=
  ∀ (l : Linking σ) (p : Place) (d : Draft) (c : DraftColumn) (target : Endpoint), l.drafts[p.table]? = some d →
    d.columns[p.column]? = some c → P l → P (l.connect p.table p.column d c target)

variable {P : Linking σ → Prop} {l : Linking σ}

theorem link_keeps (hconnect : ConnectKeeps P) (h : P l) (sourceTable : ℕ) (columnName : String) (r : Reference) :
    P (l.link sourceTable columnName r) := by
  unfold link
  split
  · rename_i source target hsource _
    split
    · rename_i i column _ _
      split
      · rename_i sourceColumn hcolumn
        exact hconnect l ⟨sourceTable, i⟩ source sourceColumn _ hsource hcolumn h
      · exact h
    · exact h
  · exact h

theorem linkInline_keeps (hconnect : ConnectKeeps P) (h : P l) (table : ℕ) : P (l.linkInline table) := by
  unfold linkInline
  split
  · refine List.foldlRecOn (motive := P) _ _ h fun l hl c _ => ?_
    split
    · exact link_keeps hconnect hl _ _ _
    · exact hl
  · exact h

theorem linkPending_keeps (hconnect : ConnectKeeps P) (h : P l) (k : PendingKey) : P (l.linkPending k) := by
  unfold linkPending
  split
  · exact link_keeps hconnect h _ _ _
  · exact h

end Linking

/-- what holds before the first foreign key is linked, and is kept whenever one is, holds in the end -/
theorem linked_keeps {P : Linking σ → Prop} (hconnect : Linking.ConnectKeeps P) {statements : List Statement} {ids : σ}
    {l : Linking σ} (h : linked statements ids = .ok l)
    (hstart : P ⟨keysFrom 0 (drawIds (draftsOf statements) ids).1, (drawIds (draftsOf statements) ids).1, [],
      (drawIds (draftsOf statements) ids).2⟩) : P l := by
  obtain ⟨pending, -, hl⟩ := except_bind_eq_ok.1 h
  cases hl
  have hinline := List.foldlRecOn (motive := P) (List.range (drawIds (draftsOf statements) ids).1.length)
    Linking.linkInline hstart fun l hl i _ => Linking.linkInline_keeps hconnect hl i
  exact List.foldlRecOn (motive := P) pending Linking.linkPending hinline
    fun l hl k _ => Linking.linkPending_keeps hconnect hl k

end Crowfoot.Ddl

import Crowfoot.Proofs.Ddl.Resolving

/-
The keys under which created tables are found.

- `TableRef.keys`: what a table claims. `FirstWith`: of the tables that claim a key, the first one has it.
- `Owner`: the table that a foreign key declared on some name is taken for. Only where nothing claims the qualified name
  the short one is looked for, and whoever claims that may be of another database schema.
- `Unambiguous`: no key is claimed twice. Then it does not matter which table comes first. `OwnedBy`: the owner, with no
  word of places.
-/

namespace Crowfoot.Ddl

/-- the keys that a table claims: that of its qualified name, and that of its short name if the two differ -/
def TableRef.keys (t : TableRef) : List String :=
  nameKey t.qualified :: if t.isQualified then [nameKey t.name] else []

/-- the tables that statements create -/
def createdTables (statements : List Statement) : List TableRef :=
  statements.filterMap fun
    | .createTable table _ _ => some table
    | .alterTable .. => none

theorem draftsOf_tables (statements : List Statement) :
    (draftsOf statements).map (·.table) = createdTables statements := by
  rw [draftsOf, createdTables, List.map_filterMap]
  congr 1
  funext statement
  cases statement <;> rfl

/-- the table at a place claims a key, and none before it does -/
def FirstWith (tables : List TableRef) (key : String) (i : ℕ) : Prop :=
  (∃ t, tables[i]? = some t ∧ key ∈ t.keys) ∧ ∀ j < i, ∀ t, tables[j]? = some t → key ∉ t.keys

theorem firstWith_iff {tables : List TableRef} {key : String} {i : ℕ} :
    FirstWith tables key i ↔ tables.findIdx? (fun t => t.keys.contains key) = some i := by
  simp only [List.findIdx?_eq_some_iff_getElem, List.contains_iff_mem]
  constructor
  · rintro ⟨⟨t, ht, hkey⟩, hbefore⟩
    obtain ⟨hi, rfl⟩ := List.getElem?_eq_some_iff.1 ht
    exact ⟨hi, hkey, fun j hj => hbefore j hj _ (List.getElem?_eq_getElem (hj.trans hi))⟩
  · rintro ⟨hi, hkey, hbefore⟩
    refine ⟨⟨_, List.getElem?_eq_getElem hi, hkey⟩, fun j hj t ht => ?_⟩
    obtain ⟨hj', rfl⟩ := List.getElem?_eq_some_iff.1 ht
    exact hbefore j hj

/-! ## Finding tables -/

/-- under a key the first table is found that claims it -/
theorem lookup_keysFrom_eq (first : ℕ) (ds : List Draft) (key : String) :
    (keysFrom first ds).lookup key =
      ((ds.map (·.table)).findIdx? fun t => t.keys.contains key).map (· + first) := by
  have hclaims : ∀ (keys : List String) (i : ℕ),
      (keys.map fun k => (k, i)).lookup key = if keys.contains key then some i else none := by
    intro keys i
    induction keys with
    | nil => rfl
    | cons k keys ih =>
      rw [List.map_cons, List.lookup_cons, ih, List.contains_cons]
      cases key == k <;> rfl
  induction ds generalizing first with
  | nil => rfl
  | cons d ds ih =>
    have hkeys : keysFrom first (d :: ds) = (d.table.keys.map fun k => (k, first)) ++ keysFrom (first + 1) ds := by
      unfold TableRef.keys
      split <;> simp [keysFrom, *]
    rw [hkeys, List.lookup_append, hclaims, ih, List.map_cons, List.findIdx?_cons]
    split
    · simp
    · simp [Function.comp_def, Nat.add_comm, Nat.add_left_comm]

theorem lookup_keysFrom_eq_some {ds : List Draft} {key : String} {i : ℕ} :
    (keysFrom 0 ds).lookup key = some i ↔ FirstWith (ds.map (·.table)) key i := by
  rw [lookup_keysFrom_eq, firstWith_iff]
  simp

theorem lookup_keysFrom_eq_none {ds : List Draft} {key : String} :
    (keysFrom 0 ds).lookup key = none ↔ ∀ t ∈ ds.map (·.table), key ∉ t.keys := by
  rw [lookup_keysFrom_eq, Option.map_eq_none_iff, List.findIdx?_eq_none_iff]
  simp

/-- the table that a foreign key declared on a name is taken for -/
inductive Owner (tables : List TableRef) (t : TableRef) (i : ℕ) : Prop where
  /-- the first that claims the qualified name -/
  | own (h : FirstWith tables (nameKey t.qualified) i)
  /-- where there is none, the first that claims the short name of a qualified one -/
  | short (hqualified : t.isQualified = true) (hnone : ∀ u ∈ tables, nameKey t.qualified ∉ u.keys)
    (h : FirstWith tables (nameKey t.name) i)

theorem tablePlace?_eq_some {ds : List Draft} {t : TableRef} {i : ℕ} :
    tablePlace? ds t = some i ↔ Owner (ds.map (·.table)) t i := by
  unfold tablePlace?
  constructor
  · intro h
    split at h
    · rename_i j hj
      cases h
      exact .own (lookup_keysFrom_eq_some.1 hj)
    · rename_i hnone
      split_ifs at h with hqualified
      exact .short hqualified (lookup_keysFrom_eq_none.1 hnone) (lookup_keysFrom_eq_some.1 h)
  · rintro (h | ⟨hqualified, hnone, h⟩)
    · rw [lookup_keysFrom_eq_some.2 h]
    · rw [lookup_keysFrom_eq_none.2 hnone, if_pos hqualified, lookup_keysFrom_eq_some.2 h]

/-! ## Keys that are claimed once -/

/-- no key is claimed by two tables -/
def Unambiguous (tables : List TableRef) : Prop := tables.Pairwise fun t u => t.keys.Disjoint u.keys

variable {tables : List TableRef} {key : String} {i j : ℕ} {t u : TableRef}

/-- where keys are claimed once, a key tells the place of its table -/
theorem Unambiguous.place_eq (h : Unambiguous tables) (ht : tables[i]? = some t) (hu : tables[j]? = some u)
    (hkey : key ∈ t.keys) (hkey' : key ∈ u.keys) : i = j := by
  obtain ⟨hi, rfl⟩ := List.getElem?_eq_some_iff.1 ht
  obtain ⟨hj, rfl⟩ := List.getElem?_eq_some_iff.1 hu
  have hpairs := List.pairwise_iff_getElem.1 h
  rcases lt_trichotomy i j with hlt | heq | hlt
  · exact absurd hkey' (hpairs i j hi hj hlt hkey)
  · exact heq
  · exact absurd hkey (hpairs j i hj hi hlt hkey')

theorem Unambiguous.firstWith_iff (h : Unambiguous tables) :
    FirstWith tables key i ↔ ∃ t, tables[i]? = some t ∧ key ∈ t.keys := by
  refine ⟨fun hfirst => hfirst.1, fun hclaims => ⟨hclaims, fun j hj u hu hkey => ?_⟩⟩
  obtain ⟨t, ht, hkey'⟩ := hclaims
  exact hj.ne (h.place_eq hu ht hkey hkey')

/-! ## Names of tables -/

/-- the table that a foreign key declared on a name is taken for, if keys are claimed once -/
inductive OwnedBy (tables : List TableRef) (t u : TableRef) : Prop where
  | own (hu : u ∈ tables) (h : nameKey t.qualified ∈ u.keys)
  | short (hu : u ∈ tables) (hqualified : t.isQualified = true) (hnone : ∀ v ∈ tables, nameKey t.qualified ∉ v.keys)
    (h : nameKey t.name ∈ u.keys)

theorem OwnedBy.mem (h : OwnedBy tables t u) : u ∈ tables := by
  cases h <;> assumption

theorem TableRef.qualified_mem_keys (t : TableRef) : nameKey t.qualified ∈ t.keys := List.mem_cons_self

theorem Unambiguous.owner_iff (h : Unambiguous tables) :
    Owner tables t i ↔ ∃ u, tables[i]? = some u ∧ OwnedBy tables t u := by
  constructor
  · rintro (hfirst | ⟨hqualified, hnone, hfirst⟩)
    · obtain ⟨u, hu, hkey⟩ := h.firstWith_iff.1 hfirst
      exact ⟨u, hu, .own (List.mem_of_getElem? hu) hkey⟩
    · obtain ⟨u, hu, hkey⟩ := h.firstWith_iff.1 hfirst
      exact ⟨u, hu, .short (List.mem_of_getElem? hu) hqualified hnone hkey⟩
  · rintro ⟨u, hu, ⟨-, hkey⟩ | ⟨-, hqualified, hnone, hkey⟩⟩
    · exact .own (h.firstWith_iff.2 ⟨u, hu, hkey⟩)
    · exact .short hqualified hnone (h.firstWith_iff.2 ⟨u, hu, hkey⟩)

/-- a name stands for one table -/
theorem Unambiguous.ownedBy_unique (h : Unambiguous tables) {v : TableRef} (hu : OwnedBy tables t u)
    (hv : OwnedBy tables t v) : u = v := by
  obtain ⟨i, hi⟩ := List.mem_iff_getElem?.1 hu.mem
  obtain ⟨j, hj⟩ := List.mem_iff_getElem?.1 hv.mem
  have hplace : i = j := by
    rcases hu with ⟨hu, hkey⟩ | ⟨hu, -, hnone, hkey⟩
    · rcases hv with ⟨-, hkey'⟩ | ⟨-, -, hnone, -⟩
      · exact h.place_eq hi hj hkey hkey'
      · exact absurd hkey (hnone u hu)
    · rcases hv with ⟨hv, hkey'⟩ | ⟨-, -, -, hkey'⟩
      · exact absurd hkey' (hnone v hv)
      · exact h.place_eq hi hj hkey hkey'
  rw [hplace, hj] at hi
  exact (Option.some.inj hi).symm

theorem OwnedBy.congr {tables' : List TableRef} (h : ∀ u, u ∈ tables ↔ u ∈ tables') (howned : OwnedBy tables t u) :
    OwnedBy tables' t u := by
  rcases howned with ⟨hu, hkey⟩ | ⟨hu, hqualified, hnone, hkey⟩
  · exact .own ((h u).1 hu) hkey
  · exact .short ((h u).1 hu) hqualified (fun v hv => hnone v ((h v).2 hv)) hkey

/-- of the tables it only matters which there are -/
theorem ownedBy_congr {tables' : List TableRef} (h : ∀ u, u ∈ tables ↔ u ∈ tables') :
    OwnedBy tables t u ↔ OwnedBy tables' t u :=
  ⟨.congr h, .congr fun u => (h u).symm⟩

end Crowfoot.Ddl

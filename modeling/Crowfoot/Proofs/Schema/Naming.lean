import Crowfoot.Proofs.Items
import Crowfoot.Proofs.Schema.Validity
import Crowfoot.Schema.Basic

/-
Names as addresses. Validation goes through the tables once and remembers the names that it has met; resolution looks
for the first table with a name. They agree place by place: what is reported as a duplicate is what its own name does
not lead to, because it leads to something earlier.

- `inTurn`: reports that are made on one item after another; `inTurn_eq`: what is said at each place.
- `Schema.reportOn`, `Table.reportOn`: what is said of the table, and of the column, at a place.
- `Schema.tablePlace?`, `Table.columnPlace?`, `Schema.columnPlace?`: the places that names lead to.
- `Schema.flagged_iff_unreached`: reports and places agree.
-/

namespace Crowfoot

variable {α κ : Type}

/-! ## Items with the key of an earlier one -/

section Keys

variable {f : α → String} {xs : List α} {i : ℕ} {x : α}

theorem mem_map_take_iff {k : String} :
    k ∈ ((xs.take i).map f).reverse ↔ ∃ j < i, ∃ y, xs[j]? = some y ∧ f y = k := by
  rw [List.mem_reverse, List.mem_map]
  constructor
  · rintro ⟨y, hy, hk⟩
    obtain ⟨j, hj⟩ := List.mem_iff_getElem?.1 hy
    rw [List.getElem?_take] at hj
    split_ifs at hj with hlt
    exact ⟨j, hlt, y, hj, hk⟩
  · rintro ⟨j, hlt, y, hj, hk⟩
    have htake : (xs.take i)[j]? = some y := by rw [List.getElem?_take, if_pos hlt, hj]
    exact ⟨y, List.mem_of_getElem? htake, hk⟩

/-- an earlier item has the key exactly if the key leads to an earlier place -/
theorem exists_earlier_iff (hx : xs[i]? = some x) :
    (∃ j < i, ∃ y, xs[j]? = some y ∧ f y = f x) ↔ ∃ j < i, xs.findIdx? (fun y => f y = f x) = some j := by
  constructor
  · rintro ⟨j, hlt, y, hy, hkey⟩
    have hfound : (xs.findIdx? fun y => f y = f x).isSome := by
      rw [List.findIdx?_isSome, List.any_eq_true]
      exact ⟨x, List.mem_of_getElem? hx, by simp⟩
    obtain ⟨k, hk⟩ := Option.isSome_iff_exists.1 hfound
    have hle : k ≤ j := (findIdx?_eq_some_iff_isLeast.1 hk).2 ⟨y, hy, by simpa using hkey⟩
    exact ⟨k, by omega, hk⟩
  · rintro ⟨j, hlt, hj⟩
    obtain ⟨y, hy, hkey⟩ := findIdx?_getElem? hj
    exact ⟨j, hlt, y, hy, of_decide_eq_true hkey⟩

/-- the key of an item leads to it exactly if no earlier item has the key -/
theorem findIdx?_self_iff (hx : xs[i]? = some x) :
    xs.findIdx? (fun y => f y = f x) = some i ↔ ¬ ∃ j < i, ∃ y, xs[j]? = some y ∧ f y = f x := by
  constructor
  · intro hi hearlier
    obtain ⟨j, hlt, hj⟩ := (exists_earlier_iff hx).1 hearlier
    rw [hi] at hj
    cases hj
    omega
  · intro hnone
    refine findIdx?_eq_some_iff_isLeast.2 ⟨⟨x, hx, by simp⟩, ?_⟩
    rintro j ⟨y, hy, hkey⟩
    by_contra hlt
    exact hnone ⟨j, by omega, y, hy, of_decide_eq_true hkey⟩

end Keys

/-! ## Reports, place by place -/

/-- what is said of items one after another, given the keys of those before -/
def inTurn (say : List String → α → List Issue) (key : α → String) : List String → List α → List Issue
  | _, [] => []
  | seen, x :: xs => say seen x ++ inTurn say key (key x :: seen) xs

theorem inTurn_append (say : List String → α → List Issue) (key : α → String) (seen : List String) (xs ys : List α) :
    inTurn say key seen (xs ++ ys) = inTurn say key seen xs ++ inTurn say key ((xs.map key).reverse ++ seen) ys := by
  induction xs generalizing seen with
  | nil => rfl
  | cons x xs ih => simp [inTurn, ih]

/-- a report is made of what is said at each place -/
theorem inTurn_eq (say : List String → α → List Issue) (key : α → String) (xs : List α) :
    inTurn say key [] xs =
      (List.range xs.length).flatMap fun i => xs[i]?.toList.flatMap (say ((xs.take i).map key).reverse) := by
  -- from the back: what is said of the last item takes all the others into account
  induction xs using List.reverseRecOn with
  | nil => rfl
  | append_singleton xs x ih =>
    have hbefore : ∀ i ∈ List.range xs.length,
        (xs ++ [x])[i]?.toList.flatMap (say (((xs ++ [x]).take i).map key).reverse) =
          xs[i]?.toList.flatMap (say ((xs.take i).map key).reverse) := by
      intro i hi
      have hlt : i < xs.length := List.mem_range.1 hi
      rw [List.getElem?_append_left hlt, List.take_append_of_le_length hlt.le]
    rw [inTurn_append, ih, List.length_append, List.length_singleton, List.range_succ, List.flatMap_append,
      List.flatMap_congr hbefore]
    simp [inTurn]

/-- what is said of a column, given the lower case names of those before it -/
def columnReport (t : Table κ) (seen : List String) (c : Column) : List Issue :=
  if seen.contains (Text.lower c.name) then [.duplicateColumn t.id t.name c.id c.name] else []

/-- what is said of a table and of its columns, given the lower case names of those before it -/
def tableReport (seen : List String) (t : Table κ) : List Issue :=
  (if seen.contains (Text.lower t.name) then [.duplicateTable t.id t.name] else []) ++ keyIssues t ++
    columnIssues t [] t.columns

theorem columnIssues_eq_inTurn (t : Table κ) (seen : List String) (cs : List Column) :
    columnIssues t seen cs = inTurn (columnReport t) (fun c => Text.lower c.name) seen cs := by
  induction cs generalizing seen with
  | nil => rfl
  | cons c cs ih => rw [columnIssues, inTurn, ih, columnReport]

theorem tableIssues_eq_inTurn (seen : List String) (ts : List (Table κ)) :
    tableIssues seen ts = inTurn tableReport (fun t => Text.lower t.name) seen ts := by
  induction ts generalizing seen with
  | nil => rfl
  | cons t ts ih => rw [tableIssues, inTurn, ih, tableReport]

/-- what is said of the column at a place -/
def Table.reportOn (t : Table κ) (j : ℕ) : List Issue :=
  t.columns[j]?.toList.flatMap (columnReport t ((t.columns.take j).map fun c => Text.lower c.name).reverse)

/-- the place of the first column that a name means -/
def Table.columnPlace? (t : Table κ) (name : String) : Option ℕ :=
  t.columns.findIdx? fun c => Text.lower c.name = Text.lower name

namespace Schema

/-- what is said of the table at a place -/
def reportOn (s : Schema κ) (i : ℕ) : List Issue :=
  s.tables[i]?.toList.flatMap (tableReport ((s.tables.take i).map fun t => Text.lower t.name).reverse)

/-- the place of the first table that a name means -/
def tablePlace? (s : Schema κ) (name : String) : Option ℕ :=
  s.tables.findIdx? fun t => Text.lower t.name = Text.lower name

/-- the places of a table and of a column in it that two names mean -/
def columnPlace? (s : Schema κ) (name columnName : String) : Option (ℕ × ℕ) := do
  let i ← s.tablePlace? name
  let t ← s.tables[i]?
  let j ← t.columnPlace? columnName
  return (i, j)

/-- the table and the column at two places -/
def columnOf? (s : Schema κ) (p : ℕ × ℕ) : Option (Table κ × Column) := do
  let t ← s.tables[p.1]?
  let c ← t.columns[p.2]?
  return (t, c)

end Schema

/-- a name is used twice -/
def Issue.isDuplicate : Issue → Bool
  | duplicateTable .. => true
  | duplicateColumn .. => true
  | _ => false

theorem Table.mem_reportOn_iff {t : Table κ} {j : ℕ} {c : Column} (hc : t.columns[j]? = some c) :
    .duplicateColumn t.id t.name c.id c.name ∈ t.reportOn j ↔
      ∃ k < j, ∃ d, t.columns[k]? = some d ∧ Text.lower d.name = Text.lower c.name := by
  rw [← mem_map_take_iff, reportOn, hc, Option.toList_some, List.flatMap_singleton, columnReport]
  simp

theorem keyIssues_isDuplicate (t : Table κ) : ∀ i ∈ keyIssues t, i.isDuplicate = false := by
  unfold keyIssues
  split_ifs <;> simp [Issue.isDuplicate]

namespace Schema

variable {s : Schema κ} {t : Table κ} {c : Column} {i j : ℕ}

theorem issues_eq_reports (s : Schema κ) :
    s.issues = (List.range s.tables.length).flatMap s.reportOn ++ s.relationships.flatMap s.relationshipIssues := by
  rw [issues, tableIssues_eq_inTurn, inTurn_eq]
  rfl

/-- of a table it is said whether its name is used before, then whether it lacks a key, then what is said of each of its
columns -/
theorem reportOn_eq (ht : s.tables[i]? = some t) :
    ∃ first, (first = [] ∨ first = [.duplicateTable t.id t.name]) ∧
      s.reportOn i = first ++ keyIssues t ++ (List.range t.columns.length).flatMap t.reportOn := by
  rw [reportOn, ht, Option.toList_some, List.flatMap_singleton, tableReport, columnIssues_eq_inTurn, inTurn_eq]
  refine ⟨_, ?_, rfl⟩
  split_ifs
  · exact Or.inr rfl
  · exact Or.inl rfl

theorem mem_reportOn_iff (ht : s.tables[i]? = some t) :
    .duplicateTable t.id t.name ∈ s.reportOn i ↔
      ∃ k < i, ∃ u, s.tables[k]? = some u ∧ Text.lower u.name = Text.lower t.name := by
  have hkeys : Issue.duplicateTable t.id t.name ∉ keyIssues t := fun h => by
    have := keyIssues_isDuplicate t _ h
    cases this
  have hcolumns : Issue.duplicateTable t.id t.name ∉ columnIssues t [] t.columns := fun h => by
    obtain ⟨c, -, hc⟩ := mem_columnIssues h
    cases hc
  rw [← mem_map_take_iff, reportOn, ht, Option.toList_some, List.flatMap_singleton, tableReport]
  simp [hkeys, hcolumns]

theorem tableNamed?_eq (s : Schema κ) (name : String) :
    s.tableNamed? name = (s.tablePlace? name).bind fun i => s.tables[i]? :=
  List.find?_eq_bind_findIdx?_getElem?

theorem columnNamed?_eq (s : Schema κ) (name columnName : String) :
    s.columnNamed? name columnName = (s.columnPlace? name columnName).bind s.columnOf? := by
  rw [columnNamed?, tableNamed?_eq, columnPlace?]
  cases hi : s.tablePlace? name with
  | none => rfl
  | some i =>
    cases ht : s.tables[i]? with
    | none => simp [ht]
    | some t =>
      have hcolumn : t.columnNamed? columnName = (t.columnPlace? columnName).bind fun j => t.columns[j]? :=
        List.find?_eq_bind_findIdx?_getElem?
      cases hj : t.columnPlace? columnName with
      | none => simp [ht, hcolumn, hj]
      | some j => simp [ht, hcolumn, hj, columnOf?]

/-- what is reported and what is found is told by places: the report is what is said of the table at each place, which
takes in what is said of the column at each place, and then of relationships; and names find what stands at the places
that they lead to -/
structure ToldByPlace (s : Schema κ) : Prop where
  issues : s.issues =
    (List.range s.tables.length).flatMap s.reportOn ++ s.relationships.flatMap s.relationshipIssues
  report : ∀ i t, s.tables[i]? = some t → ∃ first, (first = [] ∨ first = [.duplicateTable t.id t.name]) ∧
    s.reportOn i = first ++ keyIssues t ++ (List.range t.columns.length).flatMap t.reportOn
  table : ∀ name, s.tableNamed? name = (s.tablePlace? name).bind fun i => s.tables[i]?
  column : ∀ name columnName, s.columnNamed? name columnName = (s.columnPlace? name columnName).bind s.columnOf?

theorem toldByPlace (s : Schema κ) : s.ToldByPlace :=
  ⟨s.issues_eq_reports, fun _ _ => reportOn_eq, s.tableNamed?_eq, s.columnNamed?_eq⟩

/-- the table at a place is reported as a duplicate -/
def FlagsTable (s : Schema κ) (i : ℕ) : Prop :=
  ∃ t, s.tables[i]? = some t ∧ .duplicateTable t.id t.name ∈ s.reportOn i

/-- the column at two places is reported as a duplicate -/
def FlagsColumn (s : Schema κ) (i j : ℕ) : Prop :=
  ∃ t c, s.columnOf? (i, j) = some (t, c) ∧ .duplicateColumn t.id t.name c.id c.name ∈ t.reportOn j

theorem columnOf?_eq_some : s.columnOf? (i, j) = some (t, c) ↔ s.tables[i]? = some t ∧ t.columns[j]? = some c := by
  simp only [columnOf?, Option.bind_eq_bind, Option.bind_eq_some_iff]
  constructor
  · rintro ⟨u, hu, d, hd, heq⟩
    cases heq
    exact ⟨hu, hd⟩
  · rintro ⟨ht, hc⟩
    exact ⟨t, ht, c, hc, rfl⟩

theorem flagsTable_iff (ht : s.tables[i]? = some t) :
    s.FlagsTable i ↔ ∃ k < i, ∃ u, s.tables[k]? = some u ∧ Text.lower u.name = Text.lower t.name := by
  rw [← mem_reportOn_iff ht, FlagsTable]
  constructor
  · rintro ⟨u, hu, hflag⟩
    cases ht.symm.trans hu
    exact hflag
  · intro hflag
    exact ⟨t, ht, hflag⟩

theorem flagsColumn_iff (h : s.columnOf? (i, j) = some (t, c)) :
    s.FlagsColumn i j ↔ ∃ k < j, ∃ d, t.columns[k]? = some d ∧ Text.lower d.name = Text.lower c.name := by
  rw [← Table.mem_reportOn_iff (columnOf?_eq_some.1 h).2, FlagsColumn]
  constructor
  · rintro ⟨u, d, hud, hflag⟩
    cases h.symm.trans hud
    exact hflag
  · intro hflag
    exact ⟨t, c, h, hflag⟩

/-- two names lead to a column of a table exactly if the one leads to the table and the other to the column in it -/
theorem columnPlace?_eq_some_iff (h : s.columnOf? (i, j) = some (t, c)) :
    s.columnPlace? t.name c.name = some (i, j) ↔
      s.tablePlace? t.name = some i ∧ t.columnPlace? c.name = some j := by
  obtain ⟨ht, -⟩ := columnOf?_eq_some.1 h
  simp only [columnPlace?, Option.bind_eq_bind, Option.bind_eq_some_iff]
  constructor
  · rintro ⟨i', hi, u, hu, j', hj, heq⟩
    cases heq
    cases ht.symm.trans hu
    exact ⟨hi, hj⟩
  · rintro ⟨hi, hj⟩
    exact ⟨i, hi, t, ht, j, hj, rfl⟩

/-- a column is reached by its own names exactly if neither it nor its table is flagged -/
theorem columnPlace?_self_iff (h : s.columnOf? (i, j) = some (t, c)) :
    s.columnPlace? t.name c.name = some (i, j) ↔ ¬ s.FlagsTable i ∧ ¬ s.FlagsColumn i j := by
  obtain ⟨ht, hc⟩ := columnOf?_eq_some.1 h
  have htable : s.tablePlace? t.name = some i ↔ ¬ s.FlagsTable i := by
    rw [flagsTable_iff ht]
    exact findIdx?_self_iff ht
  have hcolumn : t.columnPlace? c.name = some j ↔ ¬ s.FlagsColumn i j := by
    rw [flagsColumn_iff h]
    exact findIdx?_self_iff hc
  rw [columnPlace?_eq_some_iff h, htable, hcolumn]

/-- what is said of the table at a place is in the report -/
theorem mem_issues_of_reportOn (ht : s.tables[i]? = some t) {issue : Issue} (h : issue ∈ s.reportOn i) :
    issue ∈ s.issues := by
  obtain ⟨hi, -⟩ := List.getElem?_eq_some_iff.1 ht
  rw [issues_eq_reports]
  exact List.mem_append_left _ (List.mem_flatMap.2 ⟨i, List.mem_range.2 hi, h⟩)

theorem not_flagsTable (hnone : ∀ issue ∈ s.issues, issue.isDuplicate = false) (i : ℕ) : ¬ s.FlagsTable i := by
  rintro ⟨t, ht, hflag⟩
  cases hnone _ (mem_issues_of_reportOn ht hflag)

theorem not_flagsColumn (hnone : ∀ issue ∈ s.issues, issue.isDuplicate = false) (i j : ℕ) : ¬ s.FlagsColumn i j := by
  rintro ⟨t, c, h, hflag⟩
  obtain ⟨ht, hc⟩ := columnOf?_eq_some.1 h
  obtain ⟨hj, -⟩ := List.getElem?_eq_some_iff.1 hc
  obtain ⟨first, -, hreport⟩ := reportOn_eq ht
  have hmem : Issue.duplicateColumn t.id t.name c.id c.name ∈ s.reportOn i := by
    rw [hreport]
    exact List.mem_append_right _ (List.mem_flatMap.2 ⟨j, List.mem_range.2 hj, hflag⟩)
  cases hnone _ (mem_issues_of_reportOn ht hmem)

/-- lookups do not tell names apart that are the same in lower case -/
theorem columnNamed?_congr {name name' columnName columnName' : String} (h : Text.lower name = Text.lower name')
    (hcolumn : Text.lower columnName = Text.lower columnName') :
    s.columnNamed? name columnName = s.columnNamed? name' columnName' := by
  simp only [columnNamed?, tableNamed?, Table.columnNamed?, h, hcolumn]

/-- **Duplicates are what names do not reach.** A table is reported as a duplicate exactly if its name leads to an
earlier one, and a column exactly if an earlier column of its table has its name in lower case. The names of a table and
of a column of it lead to this column of this table exactly if neither of them is reported. Where no duplicate is
reported, every table and every column is found by its names in any spelling that is the same in lower case. -/
theorem flagged_iff_unreached (s : Schema κ) :
    s.ToldByPlace ∧
    (∀ i t, s.tables[i]? = some t → (s.FlagsTable i ↔ ∃ k < i, s.tablePlace? t.name = some k)) ∧
    (∀ i j t c, s.columnOf? (i, j) = some (t, c) →
      (s.FlagsColumn i j ↔ ∃ k < j, ∃ d, t.columns[k]? = some d ∧ Text.lower d.name = Text.lower c.name) ∧
      (s.columnPlace? t.name c.name = some (i, j) ↔ ¬ s.FlagsTable i ∧ ¬ s.FlagsColumn i j)) ∧
    ((∀ issue ∈ s.issues, issue.isDuplicate = false) → ∀ t ∈ s.tables, ∀ name, Text.lower name = Text.lower t.name →
      s.tableNamed? name = some t ∧
      ∀ c ∈ t.columns, ∀ columnName, Text.lower columnName = Text.lower c.name →
        s.columnNamed? name columnName = some (t, c)) := by
  refine ⟨s.toldByPlace, fun i t ht => ?_, fun i j t c h => ⟨flagsColumn_iff h, columnPlace?_self_iff h⟩, ?_⟩
  · rw [flagsTable_iff ht]
    exact exists_earlier_iff ht
  · intro hnone t hmem name hname
    obtain ⟨i, ht⟩ := List.mem_iff_getElem?.1 hmem
    refine ⟨?_, fun c hc columnName hcolumn => ?_⟩
    · have hearlier : ¬ ∃ k < i, ∃ u, s.tables[k]? = some u ∧ Text.lower u.name = Text.lower t.name := by
        rw [← flagsTable_iff ht]
        exact not_flagsTable hnone i
      have hplace : s.tablePlace? name = some i := by
        rw [tablePlace?, hname]
        exact (findIdx?_self_iff ht).2 hearlier
      rw [tableNamed?_eq, hplace, Option.bind_some, ht]
    · obtain ⟨j, hj⟩ := List.mem_iff_getElem?.1 hc
      have hat : s.columnOf? (i, j) = some (t, c) := columnOf?_eq_some.2 ⟨ht, hj⟩
      have hplace := (columnPlace?_self_iff hat).2 ⟨not_flagsTable hnone i, not_flagsColumn hnone i j⟩
      rw [columnNamed?_congr hname hcolumn, columnNamed?_eq, hplace, Option.bind_some, hat]

end Schema

/-- rooms, by their numbers -/
def rooms : Table ℚ := ⟨"t_1", "Rooms", ⟨0, 0⟩, [⟨"c_1", "Number", .integer, [.primaryKey]⟩]⟩

def inn : Schema ℚ := ⟨1, [rooms], []⟩

/-- the rooms stand here twice, and the names of guests too -/
def hotel : Schema ℚ where
  version := 1
  tables := [rooms,
    ⟨"t_2", "guests", ⟨0, 300⟩, [⟨"c_2", "name", .text, [.primaryKey]⟩, ⟨"c_3", "NAME", .text, []⟩]⟩, rooms]
  relationships := []

theorem Schema.flagged_iff_unreached_hotel :
    (∀ issue ∈ inn.issues, issue.isDuplicate = false) ∧
      inn.columnNamed? "ROOMS" "number" = some (rooms, ⟨"c_1", "Number", .integer, [.primaryKey]⟩) ∧
      hotel.FlagsTable 2 ∧ hotel.columnPlace? "Rooms" "Number" = some (0, 0) ∧
      hotel.FlagsColumn 1 1 ∧ hotel.columnPlace? "guests" "NAME" ≠ some (1, 1) := by
  have hnone : ∀ issue ∈ inn.issues, issue.isDuplicate = false := by decide
  obtain ⟨-, -, -, hinn⟩ := Schema.flagged_iff_unreached inn
  obtain ⟨-, hnumber⟩ := hinn hnone rooms List.mem_cons_self "ROOMS" (by decide)
  obtain ⟨-, htables, hcolumns, -⟩ := Schema.flagged_iff_unreached hotel
  have hagain : hotel.FlagsTable 2 := (htables 2 rooms rfl).2 ⟨0, by decide, by decide⟩
  have hfirst : ¬ hotel.FlagsTable 0 := by
    intro hflag
    obtain ⟨k, hk, -⟩ := (htables 0 rooms rfl).1 hflag
    omega
  obtain ⟨hnumbers, hreached⟩ := hcolumns 0 0 rooms _ rfl
  have hsingle : ¬ hotel.FlagsColumn 0 0 := by
    intro hflag
    obtain ⟨k, hk, -⟩ := hnumbers.1 hflag
    omega
  obtain ⟨hnames, hmissed⟩ := hcolumns 1 1 _ _ rfl
  have hname : hotel.FlagsColumn 1 1 := hnames.2 ⟨0, by decide, _, rfl, by decide⟩
  exact ⟨hnone, hnumber _ List.mem_cons_self "number" (by decide), hagain, hreached.2 ⟨hfirst, hsingle⟩, hname,
    fun hplace => (hmissed.1 hplace).2 hname⟩

end Crowfoot

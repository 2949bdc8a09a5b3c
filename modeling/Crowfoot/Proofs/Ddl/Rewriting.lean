import Crowfoot.Proofs.Ddl.Summary

/-
Import does not depend on how or where foreign keys are written.

- `SameContent.of_perm`: statements in another order have the same content.
- `Rewritten`: a reference in a column definition becomes a constraint, of the statement that creates the table or of
  one that alters it. `Adds`: both ways of writing it add one key to the same other statements.
- `Alike`: two attempts to make a schema go the same way. `SameContent.alike`: so they do for statements with the same
  content.
- `assemble_rewritten`: the two together.
-/

namespace Crowfoot.Ddl

open IdSupply

variable {statements statements' : List Statement}

/-! ## Another order -/

theorem SameContent.of_perm (h : statements.Perm statements') : SameContent statements statements' := by
  have htables : (createdTables statements).Perm (createdTables statements') := h.filterMap _
  have hkeys : (writtenKeys statements).Perm (writtenKeys statements') := h.flatMap_right _
  refine ⟨(h.filterMap _).map _, fun u column target => ?_, ?_⟩
  · simp only [Writes, hkeys.mem_iff, ownedBy_congr fun u => htables.mem_iff]
  · simp only [Keyless, h.mem_iff]

/-! ## Another place -/

/-- some statements, but that the reference in one column definition becomes a foreign key of the same column -/
inductive Rewritten : List Statement → List Statement → Prop where
  /-- among the constraints of the same statement, wherever it stands there -/
  | constraint (front back : List Statement) (table : TableRef) (before after : List ColumnDef) {c : ColumnDef}
    {target : Reference} (htarget : c.reference = some target) (cs cs' : List ConstraintDef) (name : Option String) :
    Rewritten (front ++ .createTable table (before ++ c :: after) (cs ++ cs') :: back)
      (front ++ .createTable table (before ++ c.skeleton :: after)
        (cs ++ ⟨.foreignKey, [c.name], some target, name⟩ :: cs') :: back)
  /-- in a statement of its own, before or after any other, that alters the table under any name it goes by -/
  | alteration (front back front' back' : List Statement) (table : TableRef) (before after : List ColumnDef)
    {c : ColumnDef} {target : Reference} (htarget : c.reference = some target) (cs : List ConstraintDef)
    (name : Option String) {t : TableRef}
    (hname : OwnedBy (createdTables (front ++ .createTable table (before ++ c :: after) cs :: back)) t table)
    (hplace : front' ++ back' = front ++ .createTable table (before ++ c.skeleton :: after) cs :: back) :
    Rewritten (front ++ .createTable table (before ++ c :: after) cs :: back)
      (front' ++ .alterTable t [⟨.foreignKey, [c.name], some target, name⟩] :: back')

/-- statements that write one foreign key more than others, and are the same otherwise -/
structure Adds (base statements : List Statement) (u : TableRef) (column : String) (target : Reference) : Prop where
  skeletons : skeletons statements = skeletons base
  keys : ∃ t, OwnedBy (createdTables base) t u ∧
    ∀ k, k ∈ writtenKeys statements ↔ k ∈ writtenKeys base ∨ k = ⟨t, column, target⟩
  keyless : Keyless statements ↔ Keyless base

variable {base : List Statement} {u : TableRef} {column : String} {target : Reference}

theorem Adds.tables (h : Adds base statements u column target) : createdTables statements = createdTables base := by
  rw [← skeletons_tables, h.skeletons, skeletons_tables]

theorem Adds.writes_iff (h : Adds base statements u column target) (hkeys : Unambiguous (createdTables base))
    {u' : TableRef} {column' : String} {target' : Reference} :
    Writes statements u' column' target' ↔
      Writes base u' column' target' ∨ u' = u ∧ column' = column ∧ target' = target := by
  obtain ⟨t, howned, hmem⟩ := h.keys
  simp only [Writes, h.tables, hmem, PendingKey.mk.injEq, and_or_left, exists_or]
  refine or_congr_right ⟨?_, ?_⟩
  · rintro ⟨_, howned', rfl, rfl, rfl⟩
    exact ⟨hkeys.ownedBy_unique howned' howned, rfl, rfl⟩
  · rintro ⟨rfl, rfl, rfl⟩
    exact ⟨t, howned, rfl, rfl, rfl⟩

/-- two ways of adding one foreign key come to the same -/
theorem Adds.sameContent (h : Adds base statements u column target) (h' : Adds base statements' u column target)
    (hkeys : Unambiguous (createdTables base)) : SameContent statements statements' := by
  refine ⟨.of_eq (h.skeletons.trans h'.skeletons.symm), fun u' column' target' => ?_, h.keyless.trans h'.keyless.symm⟩
  rw [h.writes_iff hkeys, h'.writes_iff hkeys]

section Parts

variable (front back : List Statement) (statement : Statement)

theorem skeletons_append : skeletons (front ++ back) = skeletons front ++ skeletons back := by
  rw [skeletons, draftsOf, List.filterMap_append, List.map_append]
  rfl

theorem skeletons_cons : skeletons (statement :: back) =
    (statement.draft?.map Draft.skeleton).toList ++ skeletons back := by
  cases h : statement.draft? with
  | none => rw [skeletons, draftsOf, List.filterMap_cons_none h]; rfl
  | some d => rw [skeletons, draftsOf, List.filterMap_cons_some h]; rfl

theorem writtenKeys_append : writtenKeys (front ++ back) = writtenKeys front ++ writtenKeys back :=
  List.flatMap_append

theorem writtenKeys_cons : writtenKeys (statement :: back) = statement.writtenKeys ++ writtenKeys back :=
  List.flatMap_cons

theorem keyless_append : Keyless (front ++ back) ↔ Keyless front ∨ Keyless back := by
  simp only [Keyless, List.mem_append, or_and_right, exists_or]

theorem keyless_cons : Keyless (statement :: back) ↔ (∃ c ∈ statement.constraints, c.Keyless) ∨ Keyless back := by
  simp only [Keyless, List.mem_cons, or_and_right, exists_or, exists_eq_left]

variable (table : TableRef) (before after : List ColumnDef) (cs : List ConstraintDef)

/-- the reference in a column definition is a foreign key more -/
theorem adds_inline {c : ColumnDef} (htarget : c.reference = some target) :
    Adds (front ++ .createTable table (before ++ c.skeleton :: after) cs :: back)
      (front ++ .createTable table (before ++ c :: after) cs :: back) table c.name target := by
  have hcolumns : (before ++ c :: after).map ColumnDef.skeleton =
      (before ++ c.skeleton :: after).map ColumnDef.skeleton := by
    simp [ColumnDef.skeleton]
  have hkey : c.key? table = some ⟨table, c.name, target⟩ := by rw [ColumnDef.key?, htarget, Option.map_some]
  have hnone : c.skeleton.key? table = none := rfl
  have htable : table ∈ createdTables (front ++ .createTable table (before ++ c.skeleton :: after) cs :: back) :=
    mem_createdTables.2 ⟨before ++ c.skeleton :: after, cs, by simp⟩
  refine ⟨?_, ⟨table, .own htable table.qualified_mem_keys, fun k => ?_⟩, ?_⟩
  · simp only [skeletons_append, skeletons_cons, Statement.draft?, Option.map_some, draftTable_skeleton, hcolumns]
  · simp only [writtenKeys_append, writtenKeys_cons, Statement.writtenKeys, List.filterMap_append,
      List.filterMap_cons, hkey, hnone, List.mem_append, List.mem_cons]
    tauto
  · simp only [keyless_append, keyless_cons, Statement.constraints]

theorem not_keyless_singleton (name : Option String) :
    ¬ ConstraintDef.Keyless ⟨.foreignKey, [column], some target, name⟩ :=
  fun h => List.cons_ne_nil _ _ h.2.2

/-- so is one among the constraints of the table -/
theorem adds_constraint (columns : List ColumnDef) (cs' : List ConstraintDef) (name : Option String) :
    Adds (front ++ .createTable table columns (cs ++ cs') :: back)
      (front ++ .createTable table columns (cs ++ ⟨.foreignKey, [column], some target, name⟩ :: cs') :: back)
      table column target := by
  have hkey : ConstraintDef.pending? table ⟨.foreignKey, [column], some target, name⟩ =
      some ⟨table, column, target⟩ := rfl
  have hdraft : draftTable table columns (cs ++ ⟨.foreignKey, [column], some target, name⟩ :: cs') =
      draftTable table columns (cs ++ cs') := draftTable_foreignKey table columns rfl cs cs'
  have htable : table ∈ createdTables (front ++ .createTable table columns (cs ++ cs') :: back) :=
    mem_createdTables.2 ⟨columns, cs ++ cs', by simp⟩
  refine ⟨?_, ⟨table, .own htable table.qualified_mem_keys, fun k => ?_⟩, ?_⟩
  · simp only [skeletons_append, skeletons_cons, Statement.draft?, Option.map_some, hdraft]
  · simp only [writtenKeys_append, writtenKeys_cons, Statement.writtenKeys, List.filterMap_append,
      List.filterMap_cons, hkey, List.mem_append, List.mem_cons]
    tauto
  · simp only [keyless_append, keyless_cons, Statement.constraints, List.mem_append, List.mem_cons, or_and_right,
      exists_or, exists_eq_left, not_keyless_singleton, false_or]

/-- and one that is added to the table -/
theorem adds_alteration {t : TableRef} (hname : OwnedBy (createdTables (front ++ back)) t u) (name : Option String) :
    Adds (front ++ back) (front ++ .alterTable t [⟨.foreignKey, [column], some target, name⟩] :: back) u column
      target := by
  have hkey : Statement.writtenKeys (.alterTable t [⟨.foreignKey, [column], some target, name⟩]) =
      [⟨t, column, target⟩] := rfl
  refine ⟨?_, ⟨t, hname, fun k => ?_⟩, ?_⟩
  · simp only [skeletons_append, skeletons_cons, Statement.draft?, Option.map_none, Option.toList_none,
      List.nil_append]
  · simp only [writtenKeys_append, writtenKeys_cons, hkey, List.mem_append, List.mem_singleton]
    tauto
  · simp only [keyless_append, keyless_cons, Statement.constraints, List.mem_singleton, exists_eq_left,
      not_keyless_singleton, false_or]

end Parts

/-- however it is written, it is one foreign key more than the same other statements write -/
theorem Rewritten.adds (h : Rewritten statements statements') :
    ∃ base u column target, Adds base statements u column target ∧ Adds base statements' u column target := by
  cases h with
  | constraint front back table before after htarget cs cs' name =>
    exact ⟨_, _, _, _, adds_inline front back table before after (cs ++ cs') htarget,
      adds_constraint front back table cs _ cs' name⟩
  | alteration front back front' back' table before after htarget cs name hname hplace =>
    have hinline := adds_inline front back table before after cs htarget
    rw [hinline.tables, ← hplace] at hname
    exact ⟨_, _, _, _, hplace ▸ hinline, adds_alteration front' back' hname name⟩

/-- the same content, and the tables stay in order -/
theorem Rewritten.sameContent (h : Rewritten statements statements')
    (hkeys : Unambiguous (createdTables statements)) :
    SameContent statements statements' ∧ skeletons statements = skeletons statements' := by
  obtain ⟨base, u, column, target, hadds, hadds'⟩ := h.adds
  exact ⟨hadds.sameContent hadds' (hadds.tables ▸ hkeys), hadds.skeletons.trans hadds'.skeletons.symm⟩

/-- so it is for any number of foreign keys, one after another -/
theorem rewritten_sameContent (h : Relation.ReflTransGen Rewritten statements statements')
    (hkeys : Unambiguous (createdTables statements)) :
    SameContent statements statements' ∧ skeletons statements = skeletons statements' := by
  induction h with
  | refl => exact ⟨.refl _, rfl⟩
  | tail _ hstep ih =>
    obtain ⟨hsame, hskeletons⟩ := ih
    obtain ⟨hsame', hskeletons'⟩ := hstep.sameContent (hsame.unambiguous hkeys)
    exact ⟨hsame.trans hsame', hskeletons.trans hskeletons'⟩

/-! ## The same schema -/

variable {κ σ σ' : Type}

/-- two schemas that tell the same, their tables in some order -/
structure SameTold (s s' : Schema κ) : Prop where
  /-- the tables, with the types and constraints of their columns -/
  tables : (s.tables.map Table.told).Perm (s'.tables.map Table.told)
  /-- the relationships, by names -/
  relationships : (s.relationships.map s.named?).Perm (s'.relationships.map s'.named?)
  /-- so that every relationship has names -/
  intact : s.Intact ∧ s'.Intact

/-- a draft tells the same whatever the order in which columns are joined -/
theorem told_congr {js js' : List (Spot × Spot)} (h : js.Perm js') : Draft.told js = Draft.told js' := by
  funext d
  simp only [Draft.told, h.mem_iff]

theorem SameContent.sameTold (hsame : SameContent statements statements')
    (hkeys : Unambiguous (createdTables statements)) {s s' : Schema κ} (hs : Told statements s)
    (hs' : Told statements' s') : SameTold s s' := by
  refine ⟨?_, ?_, hs.intact, hs'.intact⟩
  · rw [hs.tables, hs'.tables, told_congr (hsame.joins_perm hkeys)]
    exact hsame.skeletons.map _
  · rw [hs.relationships, hs'.relationships]
    exact (hsame.joins_perm hkeys).map _

variable [Coordinate κ]

/-- two attempts to make a schema that go the same way: both give schemas, which are related, or both find a foreign
key over no columns. Only that one of them cannot be drawn, as a coordinate has no integer part, may set them apart. -/
inductive Alike (R : Schema κ → Schema κ → Prop) :
    Except AssemblyError (Schema κ × σ) → Except AssemblyError (Schema κ × σ') → Prop where
  | made {s s' : Schema κ} (ids : σ) (ids' : σ') (h : R s s') : Alike R (.ok (s, ids)) (.ok (s', ids'))
  | keyless : Alike R (.error .noColumns) (.error .noColumns)
  | unplaced {c : NotFinite} {x : κ} (h : Coordinate.floor x = .error c)
    {result : Except AssemblyError (Schema κ × σ')} (h' : MadeOrUnplaced id (fun _ => True) result) :
    Alike R (.error (.layout (.notFinite c))) result
  | unplaced' {c : NotFinite} {x : κ} (h : Coordinate.floor x = .error c)
    {result : Except AssemblyError (Schema κ × σ)} (h' : MadeOrUnplaced id (fun _ => True) result) :
    Alike R result (.error (.layout (.notFinite c)))

/-- where both attempts make something of their own, unless it cannot be drawn, they are alike -/
theorem MadeOrUnplaced.alike {R : Schema κ → Schema κ → Prop} {P P' : Schema κ → Prop}
    {result : Except AssemblyError (Schema κ × σ)} {result' : Except AssemblyError (Schema κ × σ')}
    (h : MadeOrUnplaced id P result) (h' : MadeOrUnplaced id P' result') (hR : ∀ s s', P s → P' s' → R s s') :
    Alike R result result' := by
  cases h with
  | made ids hs =>
    cases h' with
    | made ids' hs' => exact .made ids ids' (hR _ _ hs hs')
    | unplaced hfloor => exact .unplaced' hfloor (.made ids trivial)
  | unplaced hfloor => exact .unplaced hfloor (h'.imp fun _ _ => trivial)

variable [IdSupply σ] [IdSupply σ'] {ids : σ} {ids' : σ'}

/-- statements with the same content make the same, whatever ids they are given -/
theorem SameContent.alike (hsame : SameContent statements statements')
    (hkeys : Unambiguous (createdTables statements)) (hids : Fresh [] ids) (hids' : Fresh [] ids')
    {R : Schema κ → Schema κ → Prop} (hR : ∀ s s', Told statements s → Told statements' s' → R s s') :
    Alike R (assemble statements ids) (assemble statements' ids') := by
  rcases assemble_told (κ := κ) hkeys hids with ⟨hkeyless, heq⟩ | ⟨hkeyless, hmade⟩ <;>
    rcases assemble_told (κ := κ) (hsame.unambiguous hkeys) hids' with ⟨hkeyless', heq'⟩ | ⟨hkeyless', hmade'⟩
  · rw [heq, heq']
    exact .keyless
  · exact absurd (hsame.keyless.1 hkeyless) hkeyless'
  · exact absurd (hsame.keyless.2 hkeyless') hkeyless
  · exact hmade.alike hmade' hR

/-- **Order and place of foreign keys.** Where no key is claimed by two tables, statements make the same in any order:
the same tables, with types and constraints, and the same relationships. If references in column definitions are written
as constraints instead, or added to their tables later, they make the same tables in the same order, and the same
relationships. -/
theorem assemble_regardless (statements : List Statement) (ids : σ) (ids' : σ')
    (hkeys : Unambiguous (createdTables statements)) (hids : Fresh [] ids) (hids' : Fresh [] ids') :
    (∀ statements', statements.Perm statements' →
      Alike (fun s s' : Schema κ => SameTold s s') (assemble statements ids) (assemble statements' ids')) ∧
    ∀ statements', Relation.ReflTransGen Rewritten statements statements' →
      Alike (fun s s' : Schema κ => SameTold s s' ∧ s.tables.map Table.told = s'.tables.map Table.told)
        (assemble statements ids) (assemble statements' ids') := by
  refine ⟨fun statements' hperm => ?_, fun statements' hrewritten => ?_⟩
  · have hsame := SameContent.of_perm hperm
    exact hsame.alike hkeys hids hids' fun s s' hs hs' => hsame.sameTold hkeys hs hs'
  · obtain ⟨hsame, hskeletons⟩ := rewritten_sameContent hrewritten hkeys
    refine hsame.alike hkeys hids hids' fun s s' hs hs' => ⟨hsame.sameTold hkeys hs hs', ?_⟩
    rw [hs.tables, hs'.tables, hskeletons, told_congr (hsame.joins_perm hkeys)]

def postColumn (reference : Option Reference) : ColumnDef := ⟨"author", "INTEGER", false, true, false, reference⟩

def usersTable : Statement := .createTable ⟨"users", some "public"⟩ [⟨"id", "INTEGER", true, false, false, none⟩] []

/-- two tables, the first of which refers to the second before it is there -/
def posts : List Statement :=
  [.createTable ⟨"posts", none⟩ [postColumn (some ⟨⟨"users", none⟩, ["id"]⟩)] [], usersTable]

/-- the same, but that the foreign key comes first of all, on a qualified name -/
def postsAltered : List Statement :=
  [.alterTable ⟨"posts", some "public"⟩ [⟨.foreignKey, ["author"], some ⟨⟨"users", none⟩, ["id"]⟩, some "fk"⟩],
    .createTable ⟨"posts", none⟩ [postColumn none] [], usersTable]

theorem assemble_regardless_posts :
    Unambiguous (createdTables posts) ∧ Fresh [] (⟨"", 0, []⟩ : Counting) ∧ posts.Perm posts.reverse ∧
      Alike (fun s s' : Schema ℚ => SameTold s s') (assemble posts (⟨"", 0, []⟩ : Counting))
        (assemble posts.reverse (⟨"", 0, []⟩ : Counting)) ∧
      Rewritten posts postsAltered ∧
      Alike (fun s s' : Schema ℚ => SameTold s s' ∧ s.tables.map Table.told = s'.tables.map Table.told)
        (assemble posts (⟨"", 0, []⟩ : Counting)) (assemble postsAltered (⟨"", 0, []⟩ : Counting)) := by
  have hkeys : Unambiguous (createdTables posts) := by
    have hdisjoint : ∀ key ∈ (⟨"posts", none⟩ : TableRef).keys, key ∉ (⟨"users", some "public"⟩ : TableRef).keys := by
      decide +kernel
    exact List.pairwise_pair.2 fun key hkey hkey' => hdisjoint key hkey hkey'
  have hids : Fresh [] (⟨"", 0, []⟩ : Counting) := Counting.fresh_of_subset (List.Subset.refl _)
  have hperm : posts.Perm posts.reverse := (List.reverse_perm posts).symm
  have hname : OwnedBy (createdTables posts) ⟨"posts", some "public"⟩ ⟨"posts", none⟩ := by
    refine .short (by simp [createdTables, posts]) ?_ ?_ ?_ <;> decide +kernel
  have hrewritten : Rewritten posts postsAltered :=
    .alteration [] [usersTable] [] _ ⟨"posts", none⟩ [] [] rfl [] (some "fk") hname rfl
  obtain ⟨hany, hwritten⟩ := assemble_regardless (κ := ℚ) posts (⟨"", 0, []⟩ : Counting) (⟨"", 0, []⟩ : Counting) hkeys
    hids hids
  exact ⟨hkeys, hids, hperm, hany _ hperm, hrewritten, hwritten _ (.single hrewritten)⟩

end Crowfoot.Ddl

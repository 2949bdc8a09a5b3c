import Crowfoot.Proofs.Items
import Crowfoot.Proofs.Schema.Validity
import Crowfoot.Proofs.Ddl.Enclosure
import Crowfoot.Proofs.Ddl.Export

/-
The names of constraints. A script names the foreign key of a relationship after the table and the column that the
relationship starts at. In a valid schema these are told apart by their names, so that two foreign keys of a table have
the same name exactly if they are on the same column. Nothing keeps two relationships from starting there.

- `Command.added?`, `addedTo`: which constraints the commands of a script add to a table.
- `forall₂_added`: one for each relationship of a valid schema, in order.
- `StartsAt.same_iff`: what their names tell.
- `script_constraints`: when the constraints of a table have different names; `script_repeats_profiles`: they need not.
-/

namespace Crowfoot.Ddl

variable {κ : Type}

/-- the foreign keys on different columns of a table have different names -/
theorem constraintName_inj {table column column' : String} :
    constraintName table column = constraintName table column' ↔ column = column' := by
  refine ⟨fun h => ?_, congrArg _⟩
  have hchars := congrArg String.toList h
  simp only [constraintName, String.toList_append] at hchars
  exact String.toList_injective (List.append_cancel_left hchars)

/-- the table that a command adds a constraint to, and the name of the constraint, as they are written in a dialect -/
def Command.added? (d : Dialect) : Command → Option (String × String)
  | .createTable .. => none
  | .addForeignKey table constraint .. => some (quotedName d table, quotedName d constraint)

/-- the names of the constraints that some commands add to a table -/
def addedTo (d : Dialect) (table : String) (cs : List Command) : List String :=
  ((cs.filterMap (Command.added? d)).filter fun added => added.1 = quotedName d table).map (·.2)

/-- the text of a command shows what it adds -/
theorem Command.render_of_added? {d : Dialect} {c : Command} {table name : String}
    (h : c.added? d = some (table, name)) :
    ∃ key, c.render d = "ALTER TABLE " ++ table ++ " ADD CONSTRAINT " ++ name ++ " FOREIGN KEY (" ++ key := by
  cases c with
  | createTable => cases h
  | addForeignKey table' constraint column target targetColumn =>
    have hparts : quotedName d table' = table ∧ quotedName d constraint = name := by simpa [Command.added?] using h
    rw [← hparts.1, ← hparts.2]
    refine ⟨quotedName d column ++ (") REFERENCES " ++ (quotedName d target ++ (" (" ++ (quotedName d targetColumn ++
      ");")))), ?_⟩
    unfold Command.render
    simp only [String.append_assoc]

/-- a relationship starts at a column of a table, after both of which its constraint is named -/
def StartsAt (s : Schema κ) (d : Dialect) (r : Relationship) (added : String × String) : Prop :=
  ∃ t column, s.referred? r.source.tableId = some t ∧ t.column? r.source.columnId = some column ∧
    added = (quotedName d t.name, quotedName d (constraintName t.name column.name))

theorem AddsKeyOf.added? {s : Schema κ} {r : Relationship} {c : Command} (h : AddsKeyOf s r c) (d : Dialect) :
    ∃ added, c.added? d = some added ∧ StartsAt s d r added := by
  obtain ⟨t, column, u, targetColumn, ht, hcolumn, -, -, rfl⟩ := h
  exact ⟨_, rfl, t, column, ht, hcolumn, rfl⟩

variable {s : Schema κ}

/-- where nothing is wrong with any relationship, each adds a constraint, in order -/
theorem forall₂_added (hsound : ∀ r ∈ s.relationships, s.relationshipIssues r = []) (d : Dialect) :
    List.Forall₂ (StartsAt s d) s.relationships ((script s).filterMap (Command.added? d)) := by
  have hall : s.sound = s.relationships := List.filter_eq_self.2 fun r hr => by simp [hsound r hr]
  have htables : (s.tables.map tableCommand).filterMap (Command.added? d) = [] := by
    simp [tableCommand, Command.added?]
  have hkeys : List.Forall₂ (AddsKeyOf s) s.relationships (s.relationships.filterMap (relationshipCommand? s)) :=
    hall ▸ forall₂_sound s
  rw [script, List.filterMap_append, htables, List.nil_append]
  generalize s.relationships = rs, s.relationships.filterMap (relationshipCommand? s) = keys at hkeys
  induction hkeys with
  | nil => exact List.Forall₂.nil
  | cons hadds _ ih =>
    obtain ⟨added, hadded, hstarts⟩ := hadds.added? d
    rw [List.filterMap_cons_some hadded]
    exact List.Forall₂.cons hstarts ih

variable {d : Dialect} {r r' : Relationship} {added added' : String × String}

/-- relationships from one column add constraints with one name -/
theorem StartsAt.eq_of_source_eq (h : StartsAt s d r added) (h' : StartsAt s d r' added')
    (hsame : r.source = r'.source) : added = added' := by
  obtain ⟨t, column, ht, hcolumn, rfl⟩ := h
  obtain ⟨t', column', ht', hcolumn', rfl⟩ := h'
  rw [hsame, ht'] at ht
  cases ht
  rw [hsame, hcolumn'] at hcolumn
  cases hcolumn
  rfl

/-- where names differ, a constraint is added to the table that the relationship starts at, and to no other -/
theorem StartsAt.table_iff (hnames : (s.tables.map (·.name)).Nodup) (h : StartsAt s d r added) {t : Table κ}
    (ht : t ∈ s.tables) : added.1 = quotedName d t.name ↔ s.referred? r.source.tableId = some t := by
  obtain ⟨u, column, hu, -, rfl⟩ := h
  constructor
  · intro heq
    have hname : u.name = t.name := quotedName_injective d heq
    have hsame : u = t := List.inj_on_of_nodup_map hnames (Schema.referred?_eq_some hu).1 ht hname
    rw [hu, hsame]
  · intro ht
    rw [hu] at ht
    cases ht
    rfl

/-- **Same name, same column.** Where the names of tables differ, and those of the columns of each, two constraints of a
table have the same name exactly if their relationships start at the same column. -/
theorem StartsAt.same_iff (hnames : (s.tables.map (·.name)).Nodup)
    (hcolumns : ∀ t ∈ s.tables, (t.columns.map (·.name)).Nodup) (h : StartsAt s d r added)
    (h' : StartsAt s d r' added') : added = added' ↔ r.source = r'.source := by
  refine ⟨fun heq => ?_, h.eq_of_source_eq h'⟩
  obtain ⟨t, column, ht, hcolumn, rfl⟩ := h
  obtain ⟨t', column', ht', hcolumn', rfl⟩ := h'
  obtain ⟨htable, hconstraint⟩ := Prod.ext_iff.1 heq
  obtain ⟨hin, hid⟩ := Schema.referred?_eq_some ht
  obtain ⟨hin', hid'⟩ := Schema.referred?_eq_some ht'
  have hsame : t = t' := List.inj_on_of_nodup_map hnames hin hin' (quotedName_injective d htable)
  subst hsame
  obtain ⟨hcin, hcid⟩ := Table.column?_eq_some hcolumn
  obtain ⟨hcin', hcid'⟩ := Table.column?_eq_some hcolumn'
  have hname : column.name = column'.name := constraintName_inj.1 (quotedName_injective d hconstraint)
  have hcsame : column = column' := List.inj_on_of_nodup_map (hcolumns t hin) hcin hcin' hname
  subst hcsame
  calc r.source = ⟨t.id, column.id⟩ := by rw [hid, hcid]
    _ = r'.source := by rw [hid', hcid']

/-- **Names of constraints.** The script of a valid schema, in any dialect, adds one constraint for each relationship,
to the table that it starts at. Two constraints of a table have the same name exactly if their relationships start at
the same column; so all names for a table differ exactly if no two relationships start at the same column of it. -/
theorem script_constraints (hvalid : (IssueSummary.ofIssues s.issues).valid = true) (d : Dialect) :
    List.Forall₂ (StartsAt s d) s.relationships ((script s).filterMap (Command.added? d)) ∧
      (∀ c ∈ script s, ∀ table name, c.added? d = some (table, name) →
        ∃ key, c.render d = "ALTER TABLE " ++ table ++ " ADD CONSTRAINT " ++ name ++ " FOREIGN KEY (" ++ key) ∧
      (∀ r ∈ s.relationships, ∀ r' ∈ s.relationships, ∀ added added', StartsAt s d r added → StartsAt s d r' added' →
        (added = added' ↔ r.source = r'.source)) ∧
      ∀ t ∈ s.tables, (addedTo d t.name (script s)).Nodup ↔
        s.relationships.Pairwise fun r r' => s.referred? r.source.tableId = some t → r.source ≠ r'.source := by
  obtain ⟨hnames, hcolumns⟩ := Schema.names_nodup hvalid
  have hadded := forall₂_added (Schema.valid_iff.1 hvalid).2 d
  refine ⟨hadded, fun c _ table name h => Command.render_of_added? h,
    fun r _ r' _ added added' h h' => h.same_iff hnames hcolumns h', fun t ht => ?_⟩
  rw [addedTo, List.Nodup, List.pairwise_map, List.pairwise_filter]
  refine (forall₂_pairwise_iff hadded fun r r' added added' h h' => ?_).symm
  simp only [decide_eq_true_eq, h.table_iff hnames ht, h'.table_iff hnames ht]
  constructor
  · intro hne hr hr' heq
    have hpair : added = added' :=
      Prod.ext (((h.table_iff hnames ht).2 hr).trans ((h'.table_iff hnames ht).2 hr').symm) heq
    exact hne hr ((h.same_iff hnames hcolumns h').1 hpair)
  · intro hne hr heq
    exact hne hr (heq ▸ hr) (congrArg Prod.snd ((h.same_iff hnames hcolumns h').2 heq))

/-- accounts, and transfers from one of them to another -/
def transfers : Schema ℚ where
  version := 1
  tables := [⟨"t_1", "accounts", ⟨0, 0⟩, [⟨"c_1", "id", .integer, [.primaryKey]⟩]⟩,
    ⟨"t_2", "transfers", ⟨0, 240⟩, [⟨"c_2", "id", .integer, [.primaryKey]⟩, ⟨"c_3", "giver", .integer, [.foreignKey]⟩,
      ⟨"c_4", "taker", .integer, [.foreignKey]⟩]⟩]
  relationships := [⟨"r_1", ⟨"t_2", "c_3"⟩, ⟨"t_1", "c_1"⟩, .oneToMany⟩,
    ⟨"r_2", ⟨"t_2", "c_4"⟩, ⟨"t_1", "c_1"⟩, .oneToMany⟩]

/-- both relationships lead from transfers to accounts, and start at different columns -/
theorem script_constraints_transfers :
    (IssueSummary.ofIssues transfers.issues).valid = true ∧
      List.Forall₂ (StartsAt transfers .mysql) transfers.relationships
        ((script transfers).filterMap (Command.added? .mysql)) ∧
      addedTo .mysql "transfers" (script transfers) =
        ["\x60fk_transfers_giver\x60", "\x60fk_transfers_taker\x60"] ∧
      (addedTo .mysql "transfers" (script transfers)).Nodup := by
  have hvalid : (IssueSummary.ofIssues transfers.issues).valid = true := by decide +kernel
  obtain ⟨hadded, -, -, hnodup⟩ := script_constraints hvalid .mysql
  refine ⟨hvalid, hadded, by decide +kernel, (hnodup _ (List.mem_cons_of_mem _ List.mem_cons_self)).2 ?_⟩
  exact List.pairwise_pair.2 fun _ => by decide

/-- profiles of users, with two relationships from one column -/
def profiles : Schema ℚ where
  version := 1
  tables := [⟨"a1", "users", ⟨120, 80⟩, [⟨"a2", "id", .integer, [.primaryKey, .notNull]⟩]⟩,
    ⟨"b1", "profiles", ⟨120, 320⟩,
      [⟨"b2", "id", .integer, [.primaryKey]⟩, ⟨"b3", "user_id", .integer, [.unique, .notNull]⟩]⟩]
  relationships := [⟨"r1", ⟨"b1", "b3"⟩, ⟨"a1", "a2"⟩, .oneToOne⟩, ⟨"r2", ⟨"b1", "b3"⟩, ⟨"a1", "a2"⟩, .manyToMany⟩]

/-- both constraints of a valid schema may have one name -/
theorem script_repeats_profiles :
    (IssueSummary.ofIssues profiles.issues).valid = true ∧
      addedTo .postgres "profiles" (script profiles) = ["\"fk_profiles_user_id\"", "\"fk_profiles_user_id\""] ∧
      ¬ (addedTo .postgres "profiles" (script profiles)).Nodup := by
  decide +kernel

end Crowfoot.Ddl

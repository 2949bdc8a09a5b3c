import Mathlib.Tactic
import Crowfoot.Ddl.Script

/-
Names stay between their quotes. A reader of a script that knows only how a dialect quotes names finds exactly the names
that the script was made of, whatever characters they consist of, and outside of them one semicolon for each command,
which ends it.

- `readQuoted?_doubled`: a name is read back; `quotedName_injective`: so different names are written differently.
- `pieces?`: a text as names between quotes and characters outside of them.
- `Sealed`: every name is followed by a character that is none of some marks. `Sealed.pieces?`: such pieces are read as
  they were written, whatever follows.
- `Command.body_sealed`: the pieces of a command, up to its semicolon; outside of names there are neither quotes nor
  semicolons.
- `names_enclosed`: one name, and the script of a schema as a whole.
-/

namespace Crowfoot.Ddl

variable {κ : Type}

/-! ## One name -/

/-- the name is read back, and what follows is left, unless it begins with one more quote -/
theorem readQuoted?_doubled {quote : Char} {rest : List Char} (hrest : rest.head? ≠ some quote) (cs : List Char) :
    readQuoted? quote (doubled quote cs ++ quote :: rest) = some (cs, rest) := by
  induction cs with
  | nil =>
    cases rest with
    | nil => simp [doubled, readQuoted?]
    | cons c rest =>
      have hne : c ≠ quote := fun heq => hrest (congrArg some heq)
      simp [doubled, readQuoted?, hne]
  | cons c cs ih =>
    have hcons : doubled quote (c :: cs) = (if c = quote then [c, c] else [c]) ++ doubled quote cs := List.flatMap_cons
    rw [hcons]
    by_cases hc : c = quote
    · subst hc
      simp [readQuoted?, ih]
    · rw [if_neg hc, List.singleton_append, List.cons_append, readQuoted?.eq_def]
      simp only [if_neg hc, ih, Option.map_some]

/-- names that are written alike are the same -/
theorem quotedName_injective (d : Dialect) : Function.Injective (quotedName d) := by
  have hread : ∀ cs, readQuoted? d.nameQuote (doubled d.nameQuote cs ++ [d.nameQuote]) = some (cs, []) := fun cs =>
    readQuoted?_doubled (by simp) cs
  intro name name' h
  have hchars : quotedChars d.nameQuote name.toList = quotedChars d.nameQuote name'.toList := String.ofList_injective h
  have hrest : doubled d.nameQuote name.toList ++ [d.nameQuote] = doubled d.nameQuote name'.toList ++ [d.nameQuote] :=
    (List.cons.inj hchars).2
  have hboth : some (name.toList, ([] : List Char)) = some (name'.toList, []) := by rw [← hread, ← hread, hrest]
  have heq : name.toList = name'.toList := congrArg Prod.fst (Option.some.inj hboth)
  exact String.toList_injective heq

/-! ## Reading -/

/-- what a text consists of: names between quotes, and characters outside of them -/
inductive Piece where
  | plain (c : Char)
  | name (name : String)
  deriving DecidableEq, Repr

def Piece.name? : Piece → Option String
  | .plain _ => none
  | .name n => some n

/-- the name between quotes at the front of a text, and what follows -/
def readName? (d : Dialect) : List Char → Option (String × List Char)
  | [] => none
  | c :: cs => if c = d.nameQuote then (readQuoted? d.nameQuote cs).map (Prod.map String.ofList id) else none

theorem readQuoted?_length {quote : Char} {cs name rest : List Char} (h : readQuoted? quote cs = some (name, rest)) :
    rest.length < cs.length := by
  fun_induction readQuoted? quote cs generalizing name with
  | case1 => cases h
  | case2 => cases h; simp
  | case3 rest' ih =>
    obtain ⟨⟨name', after⟩, hread, heq⟩ := Option.map_eq_some_iff.1 h
    cases heq
    have hlt : after.length < rest'.length := ih hread
    simp only [List.length_cons]
    omega
  | case4 => cases h; simp
  | case5 c rest' hc ih =>
    obtain ⟨⟨name', after⟩, hread, heq⟩ := Option.map_eq_some_iff.1 h
    cases heq
    have hlt : after.length < rest'.length := ih hread
    simp only [List.length_cons]
    omega

theorem readName?_length {d : Dialect} {cs rest : List Char} {name : String} (h : readName? d cs = some (name, rest)) :
    rest.length < cs.length := by
  cases cs with
  | nil => cases h
  | cons c cs =>
    rw [readName?] at h
    split_ifs at h
    obtain ⟨⟨name', after⟩, hread, heq⟩ := Option.map_eq_some_iff.1 h
    cases heq
    exact (readQuoted?_length hread).trans (Nat.lt_succ_self _)

/-- a name between quotes is read back, unless one more quote follows it -/
theorem readName?_quotedName (d : Dialect) (name : String) {rest : List Char} (hrest : rest.head? ≠ some d.nameQuote) :
    readName? d ((quotedName d name).toList ++ rest) = some (name, rest) := by
  have hchars : (quotedName d name).toList ++ rest =
      d.nameQuote :: (doubled d.nameQuote name.toList ++ d.nameQuote :: rest) := by
    simp [quotedName, quotedChars]
  rw [hchars, readName?, if_pos rfl, readQuoted?_doubled hrest, Option.map_some, Prod.map_apply, String.ofList_toList]
  rfl

/-- a text as pieces, if every name in it ends -/
def pieces? (d : Dialect) : List Char → Option (List Piece)
  | [] => some []
  | c :: cs =>
    if c = d.nameQuote then
      match h : readName? d (c :: cs) with
      | none => none
      | some (name, rest) =>
        have : rest.length < cs.length + 1 := readName?_length h
        (pieces? d rest).map (.name name :: ·)
    else (pieces? d cs).map (.plain c :: ·)
termination_by cs => cs.length

theorem pieces?_plain {d : Dialect} {c : Char} (hc : c ≠ d.nameQuote) (cs : List Char) :
    pieces? d (c :: cs) = (pieces? d cs).map (.plain c :: ·) := by
  rw [pieces?, if_neg hc]

theorem pieces?_name (d : Dialect) (name : String) {rest : List Char} (hrest : rest.head? ≠ some d.nameQuote) :
    pieces? d ((quotedName d name).toList ++ rest) = (pieces? d rest).map (.name name :: ·) := by
  have hread := readName?_quotedName d name hrest
  obtain ⟨cs, hcs⟩ : ∃ cs, (quotedName d name).toList ++ rest = d.nameQuote :: cs :=
    ⟨doubled d.nameQuote name.toList ++ d.nameQuote :: rest, by simp [quotedName, quotedChars]⟩
  rw [hcs] at hread ⊢
  rw [pieces?, if_pos rfl]
  split
  · rename_i hnone
    rw [hread] at hnone
    cases hnone
  · rename_i hsome
    rw [hread] at hsome
    cases hsome
    rfl

/-! ## Intercalation -/

section Intercalation

variable {α β : Type}

/-- what goes part by part through an appended list does so through an intercalated one -/
theorem intercalate_hom {f : List α → List β} (hnil : f [] = []) (happend : ∀ xs ys, f (xs ++ ys) = f xs ++ f ys)
    (sep : List α) (xss : List (List α)) : f (sep.intercalate xss) = (f sep).intercalate (xss.map f) := by
  induction xss with
  | nil => exact hnil
  | cons xs xss ih =>
    cases xss with
    | nil => simp
    | cons ys xss =>
      calc f (sep.intercalate (xs :: ys :: xss))
          = f xs ++ f sep ++ f (sep.intercalate (ys :: xss)) := by rw [List.intercalate_cons_cons, happend, happend]
        _ = f xs ++ f sep ++ (f sep).intercalate (f ys :: xss.map f) := by rw [ih, List.map_cons]
        _ = (f sep).intercalate ((xs :: ys :: xss).map f) := List.intercalate_cons_cons.symm

theorem nil_intercalate (xss : List (List α)) : [].intercalate xss = xss.flatten := by
  induction xss with
  | nil => rfl
  | cons xs xss ih =>
    cases xss with
    | nil => simp
    | cons ys xss => rw [List.flatten_cons, List.intercalate_cons_cons, ih, List.append_nil]

end Intercalation

/-! ## Writing -/

/-- a piece as a dialect writes it -/
def Piece.chars (d : Dialect) : Piece → List Char
  | .plain c => [c]
  | .name n => (quotedName d n).toList

def written (d : Dialect) (ps : List Piece) : List Char := ps.flatMap (Piece.chars d)

/-- text outside of names -/
def plainText (text : String) : List Piece := text.toList.map .plain

section Writing

variable {d : Dialect} {ps qs : List Piece}

@[simp] theorem written_append : written d (ps ++ qs) = written d ps ++ written d qs := List.flatMap_append

@[simp] theorem written_plain {c : Char} : written d (.plain c :: ps) = c :: written d ps := rfl

@[simp] theorem written_name {name : String} :
    written d (.name name :: ps) = (quotedName d name).toList ++ written d ps := rfl

@[simp] theorem written_plainText (text : String) : written d (plainText text) = text.toList := by
  unfold written plainText
  rw [List.flatMap_map]
  exact List.flatMap_singleton' text.toList

theorem written_intercalate (pss : List (List Piece)) :
    written d (ps.intercalate pss) = (written d ps).intercalate (pss.map (written d)) :=
  intercalate_hom rfl (fun _ _ => written_append) ps pss

end Writing

/-- no character of a text is one of some marks -/
def clean (marks : List Char) (text : String) : Bool := text.toList.all fun c => !marks.contains c

/-- every name is followed by a character outside of names, and those are none of some marks -/
inductive Sealed (marks : List Char) : List Piece → Prop where
  | nil : Sealed marks []
  | plain {c : Char} {ps : List Piece} (hc : c ∉ marks) (hps : Sealed marks ps) : Sealed marks (.plain c :: ps)
  | name {name : String} {c : Char} {ps : List Piece} (hc : c ∉ marks) (hps : Sealed marks ps) :
    Sealed marks (.name name :: .plain c :: ps)

namespace Sealed

variable {marks marks' : List Char} {ps qs : List Piece}

theorem append (hp : Sealed marks ps) (hq : Sealed marks qs) : Sealed marks (ps ++ qs) := by
  induction hp with
  | nil => exact hq
  | plain hc _ ih => exact .plain hc ih
  | name hc _ ih => exact .name hc ih

theorem mono (hsub : marks' ⊆ marks) (h : Sealed marks ps) : Sealed marks' ps := by
  induction h with
  | nil => exact .nil
  | plain hc _ ih => exact .plain (fun hm => hc (hsub hm)) ih
  | name hc _ ih => exact .name (fun hm => hc (hsub hm)) ih

theorem intercalate {pss : List (List Piece)} (hsep : Sealed marks qs) (h : ∀ ps ∈ pss, Sealed marks ps) :
    Sealed marks (qs.intercalate pss) := by
  induction pss with
  | nil => exact .nil
  | cons ps pss ih =>
    obtain ⟨hps, hrest⟩ := List.forall_mem_cons.1 h
    cases pss with
    | nil => simpa using hps
    | cons rs pss =>
      rw [List.intercalate_cons_cons]
      exact (hps.append hsep).append (ih hrest)

theorem text {text : String} (h : clean marks text) : Sealed marks (plainText text) := by
  unfold clean at h
  unfold plainText
  generalize text.toList = cs at h
  induction cs with
  | nil => exact .nil
  | cons c cs ih =>
    obtain ⟨hc, hrest⟩ : c ∉ marks ∧ cs.all (fun c => !marks.contains c) = true := by simpa using h
    exact .plain hc (ih hrest)

/-- a name in front of text -/
theorem named {name text : String} (hne : text ≠ "") (h : clean marks text) :
    Sealed marks (.name name :: plainText text) := by
  obtain ⟨c, cs, hcs⟩ : ∃ c cs, text.toList = c :: cs := List.exists_cons_of_ne_nil (by simpa using hne)
  have htext : Sealed marks (plainText text) := .text h
  unfold plainText at htext ⊢
  rw [hcs, List.map_cons] at htext ⊢
  cases htext with
  | plain hc hps => exact .name hc hps

theorem plain_notMem {c : Char} (hc : c ∈ marks) (h : Sealed marks ps) : .plain c ∉ ps := by
  induction h with
  | nil => exact List.not_mem_nil
  | plain hc' _ ih =>
    intro hmem
    rcases List.mem_cons.1 hmem with heq | hmem
    · cases heq
      exact hc' hc
    · exact ih hmem
  | name hc' _ ih =>
    intro hmem
    rcases List.mem_cons.1 hmem with heq | hmem
    · cases heq
    rcases List.mem_cons.1 hmem with heq | hmem
    · cases heq
      exact hc' hc
    · exact ih hmem

/-- pieces are read as they were written, whatever follows -/
theorem pieces? {d : Dialect} (h : Sealed [d.nameQuote] ps) (rest : List Char) :
    pieces? d (written d ps ++ rest) = (Ddl.pieces? d rest).map (ps ++ ·) := by
  -- a name comes with the character behind it, so that its closing quote is never followed by another one
  induction h with
  | nil => simp [written]
  | @plain c ps hc _ ih =>
    have hne : c ≠ d.nameQuote := fun heq => hc (heq ▸ List.mem_singleton_self _)
    calc Ddl.pieces? d (written d (.plain c :: ps) ++ rest)
        = (Ddl.pieces? d (written d ps ++ rest)).map (.plain c :: ·) := pieces?_plain hne _
      _ = (Ddl.pieces? d rest).map (.plain c :: ps ++ ·) := by rw [ih, Option.map_map]; rfl
  | @name name c ps hc _ ih =>
    have hne : c ≠ d.nameQuote := fun heq => hc (heq ▸ List.mem_singleton_self _)
    have hhead : (c :: (written d ps ++ rest)).head? ≠ some d.nameQuote := fun heq => hne (Option.some.inj heq)
    calc Ddl.pieces? d (written d (.name name :: .plain c :: ps) ++ rest)
        = Ddl.pieces? d ((quotedName d name).toList ++ c :: (written d ps ++ rest)) := by simp
      _ = (Ddl.pieces? d (c :: (written d ps ++ rest))).map (.name name :: ·) := pieces?_name d name hhead
      _ = (Ddl.pieces? d rest).map (.name name :: .plain c :: ps ++ ·) := by
        rw [pieces?_plain hne, ih, Option.map_map, Option.map_map]
        rfl

end Sealed

/-! ## Commands -/

def ColumnLine.pieces (d : Dialect) (l : ColumnLine) : List Piece :=
  plainText "  " ++ .name l.name :: plainText " " ++
    (plainText " ").intercalate ((typeText d l.type :: l.constraints.map Constraint.name).map plainText)

/-- the pieces of a command up to the semicolon that ends it -/
def Command.body (d : Dialect) : Command → List Piece
  | .createTable name columns =>
    plainText "CREATE TABLE " ++ .name name :: plainText " (\n" ++
      (plainText ",\n").intercalate (columns.map (·.pieces d)) ++ plainText "\n)"
  | .addForeignKey table constraint column target targetColumn =>
    plainText "ALTER TABLE " ++ .name table :: plainText " ADD CONSTRAINT " ++ .name constraint ::
      plainText " FOREIGN KEY (" ++ .name column :: plainText ") REFERENCES " ++ .name target ::
        plainText " (" ++ .name targetColumn :: plainText ")"

/-- the names in a command, in order -/
def Command.names : Command → List String
  | .createTable name columns => name :: columns.map (·.name)
  | .addForeignKey table constraint column target targetColumn => [table, constraint, column, target, targetColumn]

def Command.pieces (d : Dialect) (c : Command) : List Piece := c.body d ++ plainText ";"

def scriptPieces (d : Dialect) (cs : List Command) : List Piece :=
  (plainText "\n\n").intercalate (cs.map (Command.pieces d))

theorem ColumnLine.written_pieces (d : Dialect) (l : ColumnLine) : written d (l.pieces d) = (l.render d).toList := by
  simp only [ColumnLine.pieces, ColumnLine.render, written_append, written_plainText, written_name, written_intercalate,
    List.map_map, Function.comp_def, List.map_cons, String.intercalate_cons_cons, String.toList_append,
    String.toList_intercalate, List.append_assoc]

theorem Command.written_pieces (d : Dialect) (c : Command) : written d (c.pieces d) = (c.render d).toList := by
  cases c with
  | createTable name columns =>
    have hrender : Command.render d (.createTable name columns) = "CREATE TABLE " ++ quotedName d name ++ " (\n" ++
        ",\n".intercalate (columns.map (·.render d)) ++ "\n);" := rfl
    have hcolumns : columns.map (fun l => written d (l.pieces d)) = columns.map fun l => (l.render d).toList :=
      List.map_congr_left fun l _ => l.written_pieces d
    have hend : "\n);".toList = "\n)".toList ++ ";".toList := rfl
    simp only [hrender, hend, hcolumns, Command.pieces, Command.body, written_append, written_plainText, written_name,
      written_intercalate, List.map_map, Function.comp_def, String.toList_append, String.toList_intercalate,
      List.append_assoc]
  | addForeignKey table constraint column target targetColumn =>
    have hrender : Command.render d (.addForeignKey table constraint column target targetColumn) =
        "ALTER TABLE " ++ quotedName d table ++ " ADD CONSTRAINT " ++ quotedName d constraint ++ " FOREIGN KEY (" ++
          quotedName d column ++ ") REFERENCES " ++ quotedName d target ++ " (" ++ quotedName d targetColumn ++ ");" :=
      rfl
    have hend : ");".toList = ")".toList ++ ";".toList := rfl
    simp only [hrender, hend, Command.pieces, Command.body, written_append, written_plainText, written_name,
      String.toList_append, List.append_assoc]

theorem written_scriptPieces (d : Dialect) (cs : List Command) :
    written d (scriptPieces d cs) = (render d cs).toList := by
  have hcommand : (fun c : Command => written d (c.pieces d)) = fun c => (c.render d).toList :=
    funext (Command.written_pieces d)
  simp [scriptPieces, render, written_intercalate, String.toList_intercalate, Function.comp_def, hcommand]

/-- no quote of any dialect, and no semicolon -/
def marks : List Char := ['\x60', '"', ';']

theorem Dialect.nameQuote_mem_marks (d : Dialect) : d.nameQuote ∈ marks := by cases d <;> decide

theorem typeText_clean (d : Dialect) (t : ColumnType) : clean marks (typeText d t) := by
  cases d <;> cases t <;> decide

theorem constraint_clean (k : Constraint) : clean marks k.name := by
  cases k <;> decide

theorem ColumnLine.pieces_sealed (d : Dialect) (l : ColumnLine) : Sealed marks (l.pieces d) := by
  have hwords : ∀ w ∈ typeText d l.type :: l.constraints.map Constraint.name, clean marks w := by
    refine List.forall_mem_cons.2 ⟨typeText_clean d l.type, ?_⟩
    exact List.forall_mem_map.2 fun k _ => constraint_clean k
  have hafter : Sealed marks
      ((plainText " ").intercalate ((typeText d l.type :: l.constraints.map Constraint.name).map plainText)) :=
    .intercalate (.text (by decide)) (List.forall_mem_map.2 fun w hw => .text (hwords w hw))
  exact ((Sealed.text (by decide)).append (.named (by decide) (by decide))).append hafter

theorem Command.body_sealed (d : Dialect) (c : Command) : Sealed marks (c.body d) := by
  cases c with
  | createTable name columns =>
    have hcolumns : Sealed marks ((plainText ",\n").intercalate (columns.map (·.pieces d))) :=
      .intercalate (.text (by decide)) (List.forall_mem_map.2 fun l _ => l.pieces_sealed d)
    exact (((Sealed.text (by decide)).append (.named (by decide) (by decide))).append hcolumns).append
      (.text (by decide))
  | addForeignKey table constraint column target targetColumn =>
    exact (((((Sealed.text (by decide)).append (.named (by decide) (by decide))).append
      (.named (by decide) (by decide))).append (.named (by decide) (by decide))).append
      (.named (by decide) (by decide))).append (.named (by decide) (by decide))

theorem Command.pieces_sealed (d : Dialect) (c : Command) : Sealed [d.nameQuote] (c.pieces d) := by
  have hbody : Sealed [d.nameQuote] (c.body d) :=
    (c.body_sealed d).mono (List.cons_subset.2 ⟨d.nameQuote_mem_marks, List.nil_subset _⟩)
  exact hbody.append (.text (by cases d <;> decide))

/-! ## Scripts -/

theorem scriptPieces_sealed (d : Dialect) (cs : List Command) : Sealed [d.nameQuote] (scriptPieces d cs) :=
  .intercalate (.text (by cases d <;> decide)) (List.forall_mem_map.2 fun c _ => c.pieces_sealed d)

/-- a text written from sealed pieces is read as these pieces -/
theorem pieces?_written {d : Dialect} {ps : List Piece} (h : Sealed [d.nameQuote] ps) :
    pieces? d (written d ps) = some ps := by
  simpa [Ddl.pieces?] using h.pieces? []

theorem pieces?_render (d : Dialect) (cs : List Command) :
    pieces? d (render d cs).toList = some (scriptPieces d cs) := by
  rw [← written_scriptPieces, pieces?_written (scriptPieces_sealed d cs)]

theorem Command.pieces?_render (d : Dialect) (c : Command) : pieces? d (c.render d).toList = some (c.pieces d) := by
  rw [← c.written_pieces, pieces?_written (c.pieces_sealed d)]

@[simp] theorem filterMap_name?_plainText (text : String) : (plainText text).filterMap Piece.name? = [] := by
  unfold plainText
  rw [List.filterMap_map]
  exact List.filterMap_eq_nil_iff.2 fun _ _ => rfl

/-- separators without names add none -/
theorem filterMap_name?_intercalate (text : String) (pss : List (List Piece)) :
    ((plainText text).intercalate pss).filterMap Piece.name? = pss.flatMap (List.filterMap Piece.name?) := by
  rw [intercalate_hom (f := List.filterMap Piece.name?) rfl (fun _ _ => List.filterMap_append),
    filterMap_name?_plainText, nil_intercalate]
  rfl

theorem ColumnLine.pieces_names (d : Dialect) (l : ColumnLine) : (l.pieces d).filterMap Piece.name? = [l.name] := by
  have hwords : ((typeText d l.type :: l.constraints.map Constraint.name).map plainText).flatMap
      (List.filterMap Piece.name?) = [] :=
    List.flatMap_eq_nil_iff.2 (List.forall_mem_map.2 fun w _ => filterMap_name?_plainText w)
  rw [ColumnLine.pieces, List.filterMap_append, filterMap_name?_intercalate, hwords]
  simp [Piece.name?]

theorem Command.body_names (d : Dialect) (c : Command) : (c.body d).filterMap Piece.name? = c.names := by
  cases c with
  | createTable name columns =>
    have hcolumns : (columns.map (·.pieces d)).flatMap (List.filterMap Piece.name?) = columns.map (·.name) := by
      rw [List.flatMap_map, funext fun l => ColumnLine.pieces_names d l]
      exact List.map_eq_flatMap.symm
    simp only [Command.body, Command.names, List.filterMap_append, List.filterMap_cons, Piece.name?,
      filterMap_name?_plainText, filterMap_name?_intercalate, hcolumns, List.nil_append, List.append_nil,
      List.cons_append]
  | addForeignKey =>
    simp only [Command.body, Command.names, List.filterMap_append, List.filterMap_cons, Piece.name?,
      filterMap_name?_plainText, List.nil_append, List.cons_append]

theorem scriptPieces_names (d : Dialect) (cs : List Command) :
    (scriptPieces d cs).filterMap Piece.name? = cs.flatMap Command.names := by
  have hcommand (c : Command) : (c.pieces d).filterMap Piece.name? = c.names := by
    rw [Command.pieces, List.filterMap_append, c.body_names, filterMap_name?_plainText, List.append_nil]
  rw [scriptPieces, filterMap_name?_intercalate, List.flatMap_map, funext hcommand]

theorem Command.body_unended (d : Dialect) (c : Command) : .plain ';' ∉ c.body d :=
  (c.body_sealed d).plain_notMem (by decide)

theorem Command.pieces_count (d : Dialect) (c : Command) : (c.pieces d).count (.plain ';') = 1 := by
  rw [Command.pieces, List.count_append, List.count_eq_zero_of_not_mem (c.body_unended d)]
  decide

/-- one semicolon for each command -/
theorem scriptPieces_count (d : Dialect) (cs : List Command) : (scriptPieces d cs).count (.plain ';') = cs.length := by
  have hsep : (plainText "\n\n").filter (· == .plain ';') = [] := by decide
  have hcommand (c : Command) : ((c.pieces d).filter (· == .plain ';')).length = 1 := by
    rw [← List.count_eq_length_filter, c.pieces_count d]
  calc (scriptPieces d cs).count (.plain ';')
      = ((scriptPieces d cs).filter (· == .plain ';')).length := List.count_eq_length_filter
    _ = (cs.map fun c => ((c.pieces d).filter (· == .plain ';')).length).sum := by
      rw [scriptPieces, intercalate_hom (f := List.filter (· == Piece.plain ';')) rfl List.filter_append,
        hsep, nil_intercalate, List.length_flatten, List.map_map, List.map_map]
      rfl
    _ = cs.length := by
      rw [funext hcommand]
      simp

/-- the names of a table and of its columns -/
def tableNames (t : Table κ) : List String := t.name :: t.columns.map (·.name)

/-- the names that a relationship whose ends exist is written with: those of its table, its constraint and its column,
then those of the table and the column it refers to -/
def relationshipNames (s : Schema κ) (r : Relationship) : List String :=
  match resolveEnd s r.source, resolveEnd s r.target with
  | some (t, c), some (u, e) => [t.name, "fk_" ++ t.name ++ "_" ++ c.name, c.name, u.name, e.name]
  | _, _ => []

/-- the names that the script of a schema is made of, in order -/
def scriptNames (s : Schema κ) : List String :=
  s.tables.flatMap tableNames ++ s.relationships.flatMap (relationshipNames s)

theorem relationshipCommand?_names (s : Schema κ) (r : Relationship) :
    (relationshipCommand? s r).toList.flatMap Command.names = relationshipNames s r := by
  unfold relationshipCommand? relationshipNames
  cases resolveEnd s r.source with
  | none => rfl
  | some source =>
    cases resolveEnd s r.target with
    | none => rfl
    | some target => rfl

theorem script_names (s : Schema κ) : (script s).flatMap Command.names = scriptNames s := by
  have htable (t : Table κ) : (tableCommand t).names = tableNames t := by
    simp [tableCommand, Command.names, tableNames]
  rw [script, List.flatMap_append, List.flatMap_map, funext htable, List.filterMap_eq_flatMap_toList,
    List.flatMap_assoc, funext (relationshipCommand?_names s)]
  rfl

/-- **Names cannot leave their quotes.** A name between quotes, whatever its characters, is read back up to exactly its
closing quote, unless one more quote follows. So the script of a schema in any dialect is read as commands with an empty
line between them; outside of names a command has one semicolon, which ends it, and the names that are read are those
that the script was made of, in order. -/
theorem names_enclosed :
    (∀ (d : Dialect) (name : String) (rest : List Char), rest.head? ≠ some d.nameQuote →
      readName? d ((quotedName d name).toList ++ rest) = some (name, rest)) ∧
    ∀ s : Schema κ,
      (∀ dialect, exportText s dialect =
        (Dialect.resolve? dialect).map fun d => render (d.getD .postgres) (script s)) ∧
      ∀ d, ∃ (ps : List Piece) (bodies : List (List Piece)),
        pieces? d (render d (script s)).toList = some ps ∧
        ps = (plainText "\n\n").intercalate (bodies.map (· ++ [.plain ';'])) ∧
        List.Forall₂ (fun c body => pieces? d (c.render d).toList = some (body ++ [.plain ';']) ∧
          .plain ';' ∉ body ∧ body.filterMap Piece.name? = c.names) (script s) bodies ∧
        ps.count (.plain ';') = (script s).length ∧
        ps.filterMap Piece.name? = scriptNames s := by
  refine ⟨fun d name rest hrest => readName?_quotedName d name hrest, fun s => ⟨fun dialect => ?_, fun d => ?_⟩⟩
  · cases hd : Dialect.resolve? dialect with
    | error e => rw [exportText, hd]; rfl
    | ok chosen => rw [exportText, hd]; rfl
  · have hbodies : List.Forall₂ (fun c body => pieces? d (c.render d).toList = some (body ++ [.plain ';']) ∧
        .plain ';' ∉ body ∧ body.filterMap Piece.name? = c.names) (script s) ((script s).map (Command.body d)) := by
      rw [List.forall₂_map_right_iff, List.forall₂_same]
      exact fun c _ => ⟨c.pieces?_render d, c.body_unended d, c.body_names d⟩
    refine ⟨scriptPieces d (script s), (script s).map (Command.body d), pieces?_render d _, ?_, hbodies,
      scriptPieces_count d _, (scriptPieces_names d _).trans (script_names s)⟩
    rw [List.map_map]
    rfl

/-- a table whose names are made to look like the end of a command, with a relationship to itself -/
def hostile : Schema ℚ where
  version := 1
  tables := [⟨"t_1", "a\");\nDROP TABLE \"b", ⟨0, 0⟩,
    [⟨"c_1", "\"", .integer, [.primaryKey]⟩, ⟨"c_2", ";", .text, []⟩]⟩]
  relationships := [⟨"r_1", ⟨"t_1", "c_2"⟩, ⟨"t_1", "c_1"⟩, .oneToMany⟩]

/-- one name of it, and all of its script -/
theorem names_enclosed_hostile :
    [';'].head? ≠ some (Dialect.nameQuote .sqlite) ∧
      readName? .sqlite ((quotedName .sqlite "a\");\nDROP TABLE \"b").toList ++ [';']) =
        some ("a\");\nDROP TABLE \"b", [';']) ∧
      ∃ ps, pieces? .sqlite (render .sqlite (script hostile)).toList = some ps ∧ ps.count (.plain ';') = 2 ∧
        ps.filterMap Piece.name? = ["a\");\nDROP TABLE \"b", "\"", ";", "a\");\nDROP TABLE \"b",
          "fk_a\");\nDROP TABLE \"b_;", ";", "a\");\nDROP TABLE \"b", "\""] := by
  obtain ⟨hname, hscript⟩ := names_enclosed (κ := ℚ)
  obtain ⟨-, hdialects⟩ := hscript hostile
  obtain ⟨ps, bodies, hread, -, -, hcount, hnames⟩ := hdialects .sqlite
  have hquote : [';'].head? ≠ some (Dialect.nameQuote .sqlite) := by decide
  have hlength : (script hostile).length = 2 := by decide +kernel
  have hwritten : scriptNames hostile = ["a\");\nDROP TABLE \"b", "\"", ";", "a\");\nDROP TABLE \"b",
      "fk_a\");\nDROP TABLE \"b_;", ";", "a\");\nDROP TABLE \"b", "\""] := by decide +kernel
  exact ⟨hquote, hname .sqlite _ _ hquote, ps, hread, hcount.trans hlength, hnames.trans hwritten⟩

end Crowfoot.Ddl

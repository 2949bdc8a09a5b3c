import Mathlib.Data.List.ReduceOption
import Mathlib.Tactic
import Crowfoot.Ddl.Source
import Crowfoot.Proofs.Outcome

/-
Raw alterations. Of a statement that starts with `ALTER` and is not understood only the text is known. It is refused
when the word `FOREIGN` stands in front of its first bracket, and passed over without a trace when it does not.

- `Stands`: a piece of a text with a boundary on either side. `mem_splitOnP`: the pieces of a split are those.
- `isUnparsedDdl_alter_iff`: which raw alterations are refused.
- `isUnparsedDdl_written`: one that writes a foreign key in front of every bracket is, in any letter case and spacing.
- `readPieces_refuses`, `readPieces_passes`: a raw statement that is refused fails its script; any other leaves no
  trace.
- `readStatements_alteration`: what a raw alteration does to its script.

A foreign key behind a bracket is lost without a message: `readStatements_loses_writer`.
-/

namespace Crowfoot

/-! ## Words of a text -/

/-- a piece of a text that ends at a boundary, or with the text, on either side -/
def Stands {α : Type} (p : α → Bool) (piece xs : List α) : Prop :=
  ∃ before after, xs = before ++ piece ++ after ∧ (∀ x ∈ before.getLast?, p x = true) ∧ ∀ x ∈ after.head?, p x = true

section Words

variable {α : Type} {p : α → Bool} {piece xs : List α}

/-- what stands between boundaries behind one of them does so in the whole text -/
theorem Stands.behind {before : List α} {x : α} (hx : p x = true) (h : Stands p piece xs) :
    Stands p piece (before ++ x :: xs) := by
  obtain ⟨front, back, rfl, hfront, hback⟩ := h
  refine ⟨before ++ x :: front, back, by simp, ?_, hback⟩
  intro y hy
  cases front with
  | nil =>
    have hxy : x = y := by simpa using hy
    exact hxy ▸ hx
  | cons z front => exact hfront y (by simpa using hy)

/-- a piece that ends at a boundary on both sides is one of the split -/
theorem Stands.mem_splitOnP (h : Stands p piece xs) (hpiece : ∀ x ∈ piece, p x = false) : piece ∈ xs.splitOnP p := by
  obtain ⟨before, after, rfl, hbefore, hafter⟩ := h
  have htail : piece ∈ (piece ++ after).splitOnP p := by
    cases after with
    | nil => simp [List.splitOnP_eq_singleton hpiece]
    | cons y after =>
      rw [List.splitOnP_append_cons _ _ (hafter y rfl), List.splitOnP_eq_singleton hpiece]
      exact List.mem_append_left _ List.mem_cons_self
  rcases List.eq_nil_or_concat before with rfl | ⟨front, y, rfl⟩
  · exact htail
  · have hy : p y = true := hbefore y (by simp)
    rw [List.append_assoc, List.concat_eq_append, List.append_assoc, List.singleton_append,
      List.splitOnP_append_cons _ _ hy]
    exact List.mem_append_right _ htail

/-- the pieces of a split are what stands between boundaries and has none inside -/
theorem mem_splitOnP : piece ∈ xs.splitOnP p ↔ (∀ x ∈ piece, p x = false) ∧ Stands p piece xs := by
  refine ⟨fun h => ?_, fun h => h.2.mem_splitOnP h.1⟩
  induction hn : xs.length using Nat.strong_induction_on generalizing xs with
  | h n ih =>
    cases hfind : xs.find? p with
    | none =>
      have hnone : ∀ x ∈ xs, p x = false := by simpa using List.find?_eq_none.1 hfind
      rw [List.splitOnP_eq_singleton hnone, List.mem_singleton] at h
      subst h
      exact ⟨hnone, [], [], by simp, by simp, by simp⟩
    | some x =>
      obtain ⟨hx, run, rest, rfl, hrun⟩ := List.find?_eq_some_iff_append.1 hfind
      have hrun' : ∀ y ∈ run, p y = false := by simpa using hrun
      rw [List.splitOnP_append_cons _ _ hx, List.splitOnP_eq_singleton hrun', List.singleton_append,
        List.mem_cons] at h
      rcases h with rfl | h
      · exact ⟨hrun', [], x :: rest, by simp, by simp, by simpa using hx⟩
      · have hless : rest.length < n := by
          rw [← hn, List.length_append, List.length_cons]
          omega
        obtain ⟨hpiece, hstands⟩ := ih rest.length hless h rfl
        exact ⟨hpiece, hstands.behind hx⟩

end Words

namespace Text

theorem mem_fields {p : Char → Bool} {w cs : List Char} :
    w ∈ fields p cs ↔ w ≠ [] ∧ (∀ c ∈ w, p c = false) ∧ Stands p w cs := by
  rw [fields, List.mem_filter, mem_splitOnP, decide_eq_true_eq, and_comm]

/-! ## Upper case and white space -/

theorem toList_upper (s : String) : (upper s).toList = s.toList.flatMap upperChar := by
  simp [upper]

theorem upper_append (s t : String) : upper (s ++ t) = upper s ++ upper t := by
  simp [upper, String.ofList_append]

/-- the codes of white space -/
def blankCodes : List Nat :=
  [9, 10, 11, 12, 13, 28, 29, 30, 31, 32, 133, 160, 5760, 8192, 8193, 8194, 8195, 8196, 8197, 8198, 8199, 8200, 8201,
    8202, 8232, 8233, 8239, 8287, 12288]

theorem toNat_mem_blankCodes {c : Char} (h : isBlank c = true) : c.toNat ∈ blankCodes := by
  simp only [isBlank, Bool.or_eq_true, Bool.and_eq_true, decide_eq_true_eq, beq_iff_eq] at h
  simp only [blankCodes, List.mem_cons, List.not_mem_nil, or_false]
  omega

/-- white space is no part of a word, and stays as it is in upper case -/
theorem blank_stands {c : Char} (h : isBlank c = true) :
    upperChar c = [c] ∧ isWordChar c = false ∧ c ≠ '(' := by
  have hcodes : ∀ n ∈ blankCodes, upperChar (Char.ofNat n) = [Char.ofNat n] ∧ isWordChar (Char.ofNat n) = false ∧
      Char.ofNat n ≠ '(' := by decide +kernel
  simpa using hcodes c.toNat (toNat_mem_blankCodes h)

end Text

namespace Ddl

variable {keyword rest text : String} {d : Dialect}

/-! ## Which raw alterations are refused -/

/-- the part of a text in front of its first bracket -/
def beforeBracket (text : String) : String := String.ofList (text.toList.takeWhile (· ≠ '('))

/-- the leading words of a text, by where they stand in its upper case -/
theorem mem_leadingWords {w : String} : w ∈ leadingWords text ↔ w.toList ≠ [] ∧ (∀ c ∈ w.toList, Text.isWordChar c) ∧
    Stands (fun c => !Text.isWordChar c) w.toList (Text.upper (beforeBracket text)).toList := by
  have hfields : w ∈ leadingWords text ↔
      w.toList ∈ Text.fields (fun c => !Text.isWordChar c) (Text.upper (beforeBracket text)).toList := by
    rw [leadingWords, List.mem_map]
    constructor
    · rintro ⟨cs, hcs, rfl⟩
      rw [String.toList_ofList]
      exact hcs
    · exact fun h => ⟨_, h, String.ofList_toList⟩
  rw [hfields, Text.mem_fields]
  simp only [Bool.not_eq_false']

/-- a raw alteration is refused when `FOREIGN` is a word of its upper case in front of its first bracket -/
theorem isUnparsedDdl_alter_iff (hkeyword : Text.upper keyword = "ALTER") :
    isUnparsedDdl keyword rest = true ↔
      Stands (fun c => !Text.isWordChar c) "FOREIGN".toList (Text.upper (beforeBracket rest)).toList := by
  have hcreate : ("ALTER" : String) ≠ "CREATE" := by decide
  have hletters : "FOREIGN".toList.all Text.isWordChar = true := by decide +kernel
  rw [isUnparsedDdl, hkeyword, if_neg hcreate, if_pos rfl, List.contains_iff_mem, mem_leadingWords]
  constructor
  · exact fun h => h.2.2
  · exact fun h => ⟨by decide, List.all_eq_true.1 hletters, h⟩

/-- a text that writes a foreign key in front of its first bracket, with no word that runs into it -/
def WritesKey (text : String) : Prop :=
  ∃ before foreign gap key after, text = before ++ foreign ++ gap ++ key ++ after ∧
    Text.upper foreign = "FOREIGN" ∧ Text.upper key = "KEY" ∧ gap ≠ "" ∧ Text.isAllBlank gap = true ∧
    '(' ∉ before.toList ∧ ∀ c ∈ (Text.upper before).toList.getLast?, Text.isWordChar c = false

theorem beforeBracket_append {before after : String} (h : '(' ∉ before.toList) :
    beforeBracket (before ++ after) = before ++ beforeBracket after := by
  have hopen : ∀ c ∈ before.toList, decide (c ≠ '(') = true := by
    intro c hc
    rw [decide_eq_true_eq]
    rintro rfl
    exact h hc
  rw [beforeBracket, String.toList_append, List.takeWhile_append_of_pos hopen, String.ofList_append,
    String.ofList_toList, beforeBracket]

/-- a text without a bracket in upper case has none -/
theorem bracket_notMem_of_upper {written : String} (h : '(' ∉ (Text.upper written).toList) :
    '(' ∉ written.toList := by
  intro hc
  rw [Text.toList_upper] at h
  exact h (List.mem_flatMap.2 ⟨'(', hc, by decide⟩)

/-- one that writes a foreign key there is refused -/
theorem isUnparsedDdl_written (hkeyword : Text.upper keyword = "ALTER") (h : WritesKey rest) :
    isUnparsedDdl keyword rest = true := by
  obtain ⟨before, foreign, gap, key, after, rfl, hforeign, -, hgap, hblank, hbefore, hbound⟩ := h
  have hblank' : ∀ c ∈ gap.toList, Text.isBlank c = true := by
    simpa [Text.isAllBlank, List.all_eq_true] using hblank
  have hopen : '(' ∉ (before ++ foreign ++ gap).toList := by
    rw [String.toList_append, String.toList_append, List.mem_append, List.mem_append]
    rintro ((hc | hc) | hc)
    · exact hbefore hc
    · exact bracket_notMem_of_upper (by rw [hforeign]; decide) hc
    · exact (Text.blank_stands (hblank' _ hc)).2.2 rfl
  have hhead : beforeBracket (before ++ foreign ++ gap ++ key ++ after) =
      before ++ foreign ++ gap ++ beforeBracket (key ++ after) := by
    rw [String.append_assoc]
    exact beforeBracket_append hopen
  rw [isUnparsedDdl_alter_iff hkeyword, hhead, Text.upper_append, Text.upper_append, Text.upper_append, hforeign]
  simp only [String.toList_append]
  refine ⟨_, _, List.append_assoc _ _ _, fun c hc => by simp [hbound c hc], ?_⟩
  intro c hc
  obtain ⟨b, gap', hgap'⟩ : ∃ b gap', gap.toList = b :: gap' :=
    List.exists_cons_of_ne_nil fun h => hgap (String.toList_eq_nil_iff.1 h)
  obtain ⟨hupper, hword, -⟩ := Text.blank_stands (hblank' b (hgap' ▸ List.mem_cons_self))
  have hcb : b = c := by
    simpa [Text.toList_upper, hgap', hupper] using hc
  simp [← hcb, hword]

/-! ## Statements without a trace -/

/-- the statements of a script, by their tokens -/
def statementTokens (ts : List Token) : List (List Token) := (ts.splitOnP (·.isSymbol ";")).filter (!·.isEmpty)

/-- what each statement is -/
def clausesOf (d : Dialect) (pieces : List (List Token)) : Except ScriptFault (List Clause) :=
  pieces.mapM fun piece => (Grammar.statement d piece).mapError fun _ => ScriptFault.statement

/-- the statements that clauses are, as far as they are about tables -/
def accepted (text : String) (clauses : List (List Token × Clause)) : Except ScriptFault (List (Option Statement)) :=
  clauses.mapM fun (piece, c) => accept text.toList piece c

/-- what some statements of a script say about tables, in order -/
def readPieces (d : Dialect) (text : String) (pieces : List (List Token)) : Except ScriptFault (List Statement) := do
  let clauses ← clausesOf d pieces
  let statements ← accepted text (pieces.zip clauses)
  return statements.reduceOption

theorem readStatements_eq {ts : List Token} (h : tokens d text = .ok ts) :
    readStatements d text = readPieces d text (statementTokens ts) := by
  rw [readStatements, h]
  rfl

/-- the first word of a statement -/
def firstWord (piece : List Token) : String := (piece.head?.map (·.text)).getD ""

/-- the text of a statement behind its first word -/
def remainder (text : String) (piece : List Token) : String :=
  String.ofList ((sourceOf text.toList piece).toList.drop (firstWord piece).length)

theorem accept_raw (text : String) (piece : List Token) :
    accept text.toList piece .raw =
      if isUnparsedDdl (firstWord piece) (remainder text piece) then
        .error (.unsupported (commandText (sourceOf text.toList piece)))
      else .ok none := rfl

section Pieces

variable {piece : List Token} {front back pieces : List (List Token)}

theorem clausesOf_length {clauses : List Clause} (h : clausesOf d pieces = .ok clauses) :
    pieces.length = clauses.length := by
  have hunits : clauses.map (fun _ => ()) = pieces.map fun _ => () :=
    except_mapM_map_eq (fun _ _ _ => rfl) h
  simpa using (congrArg List.length hunits).symm

theorem clausesOf_append : clausesOf d (front ++ back) = do
    let before ← clausesOf d front
    let after ← clausesOf d back
    return before ++ after := List.mapM_append

theorem accepted_append {before after : List (List Token × Clause)} : accepted text (before ++ after) = do
    let said ← accepted text before
    let more ← accepted text after
    return said ++ more := List.mapM_append

/-- two parts of a script are read one after the other, and then accepted one after the other -/
theorem readPieces_append : readPieces d text (front ++ back) = do
    let before ← clausesOf d front
    let after ← clausesOf d back
    let said ← accepted text (front.zip before)
    let more ← accepted text (back.zip after)
    return (said ++ more).reduceOption := by
  rw [readPieces, clausesOf_append]
  cases hfront : clausesOf d front with
  | error => rfl
  | ok before =>
    cases clausesOf d back with
    | error => rfl
    | ok after =>
      simp only [except_ok_bind, pure_bind, List.zip_append (clausesOf_length hfront), accepted_append, bind_assoc]

theorem clausesOf_raw (hraw : Grammar.statement d piece = .ok .raw) :
    clausesOf d (piece :: back) = clausesOf d back >>= fun clauses => pure (.raw :: clauses) := by
  rw [clausesOf, List.mapM_cons, hraw, except_mapError_ok, except_ok_bind]
  rfl

theorem accepted_raw {clauses : List (List Token × Clause)} : accepted text ((piece, .raw) :: clauses) =
    accept text.toList piece .raw >>= fun statement =>
      accepted text clauses >>= fun more => pure (statement :: more) := by
  rw [accepted, List.mapM_cons]
  rfl

/-- a raw statement that is refused fails its script -/
theorem readPieces_refuses (hraw : Grammar.statement d piece = .ok .raw)
    (hlost : isUnparsedDdl (firstWord piece) (remainder text piece) = true) :
    ∃ fault, readPieces d text (front ++ piece :: back) = .error fault := by
  cases hread : readPieces d text (front ++ piece :: back) with
  | error fault => exact ⟨fault, rfl⟩
  | ok statements =>
    rw [readPieces_append, clausesOf_raw hraw] at hread
    obtain ⟨before, -, hread⟩ := except_bind_eq_ok.1 hread
    obtain ⟨clauses, hclauses, hread⟩ := except_bind_eq_ok.1 hread
    obtain ⟨after, -, hafter⟩ := except_bind_eq_ok.1 hclauses
    obtain ⟨said, -, hread⟩ := except_bind_eq_ok.1 hread
    obtain ⟨more, hmore, -⟩ := except_bind_eq_ok.1 hread
    cases hafter
    rw [List.zip_cons_cons, accepted_raw, accept_raw, hlost, if_pos rfl] at hmore
    cases hmore

/-- a raw statement that is not refused leaves no trace -/
theorem readPieces_passes (hraw : Grammar.statement d piece = .ok .raw)
    (hlost : isUnparsedDdl (firstWord piece) (remainder text piece) = false) :
    readPieces d text (front ++ piece :: back) = readPieces d text (front ++ back) := by
  have haccept : accept text.toList piece .raw = .ok none := by
    rw [accept_raw, hlost, if_neg Bool.false_ne_true]
  rw [readPieces_append, readPieces_append, clausesOf_raw hraw]
  simp only [bind_assoc, pure_bind, List.zip_cons_cons, accepted_raw, haccept, except_ok_bind,
    List.reduceOption_append, List.reduceOption_cons_of_none]

end Pieces

/-! ## Raw alterations in a script -/

/-- a statement of a script, between the others, that starts with `ALTER` and is known by its text only -/
structure RawAlteration (d : Dialect) (text : String) (front : List (List Token)) (piece : List Token)
    (back : List (List Token)) : Prop where
  placed : ∃ ts, tokens d text = .ok ts ∧ statementTokens ts = front ++ piece :: back
  alters : piece.head?.map Token.word = some "ALTER"
  raw : Grammar.statement d piece = .ok .raw

theorem RawAlteration.upper_firstWord {front back : List (List Token)} {piece : List Token}
    (h : RawAlteration d text front piece back) : Text.upper (firstWord piece) = "ALTER" := by
  cases piece with
  | nil => cases h.alters
  | cons t piece =>
    have hword : t.word = "ALTER" := by simpa using h.alters
    rw [Token.word] at hword
    split at hword
    · exact hword
    · exact absurd hword (by decide)

/-- **Raw alterations.** One that writes a foreign key in front of its first bracket fails its script, in any letter
case and spacing and between quotes too. Those with the word `FOREIGN` there are the ones that are refused; every other
is passed over, as if it were not in the script. -/
theorem readStatements_alteration {front back : List (List Token)} {piece : List Token}
    (h : RawAlteration d text front piece back) :
    (WritesKey (remainder text piece) →
      isUnparsedDdl (firstWord piece) (remainder text piece) = true ∧
        ∃ fault, readStatements d text = .error fault) ∧
    (isUnparsedDdl (firstWord piece) (remainder text piece) = true ↔
      Stands (fun c => !Text.isWordChar c) "FOREIGN".toList
        (Text.upper (beforeBracket (remainder text piece))).toList) ∧
    (isUnparsedDdl (firstWord piece) (remainder text piece) = true → ∃ fault, readStatements d text = .error fault) ∧
    (isUnparsedDdl (firstWord piece) (remainder text piece) = false →
      readStatements d text = readPieces d text (front ++ back)) := by
  obtain ⟨ts, htokens, hpieces⟩ := h.placed
  have hread : readStatements d text = readPieces d text (front ++ piece :: back) := by
    rw [readStatements_eq htokens, hpieces]
  have hrefused (hlost : isUnparsedDdl (firstWord piece) (remainder text piece) = true) :
      ∃ fault, readStatements d text = .error fault := by
    rw [hread]
    exact readPieces_refuses h.raw hlost
  refine ⟨fun hwritten => ?_, isUnparsedDdl_alter_iff h.upper_firstWord, hrefused, fun hkept => ?_⟩
  · have hlost := isUnparsedDdl_written h.upper_firstWord hwritten
    exact ⟨hlost, hrefused hlost⟩
  · rw [hread, readPieces_passes h.raw hkept]

/-- an alteration of a foreign key that is not understood -/
def disabling : String := "alter table posts disable Foreign  key author"

def disablingTokens : List Token :=
  [⟨.word, "alter", 0, 5⟩, ⟨.word, "table", 6, 11⟩, ⟨.word, "posts", 12, 17⟩, ⟨.word, "disable", 18, 25⟩,
    ⟨.word, "FOREIGN KEY", 26, 38⟩, ⟨.word, "author", 39, 45⟩]

theorem readStatements_alteration_disabling :
    RawAlteration .sqlite disabling [] disablingTokens [] ∧ WritesKey (remainder disabling disablingTokens) ∧
      isUnparsedDdl (firstWord disablingTokens) (remainder disabling disablingTokens) = true ∧
      ∃ fault, readStatements .sqlite disabling = .error fault := by
  have hraw : RawAlteration .sqlite disabling [] disablingTokens [] :=
    ⟨⟨disablingTokens, by decide +kernel, by decide +kernel⟩, by decide +kernel, by decide +kernel⟩
  have hlast : (Text.upper " table posts disable ").toList.getLast? = some ' ' := by decide +kernel
  have hwritten : WritesKey (remainder disabling disablingTokens) := by
    refine ⟨" table posts disable ", "Foreign", "  ", "key", " author", by decide +kernel, by decide +kernel,
      by decide +kernel, by decide, by decide +kernel, by decide, ?_⟩
    intro c hc
    rw [hlast] at hc
    cases hc
    decide
  exact ⟨hraw, hwritten, (readStatements_alteration hraw).1 hwritten⟩

/-- two foreign keys of a table with brackets in its name, in one statement -/
def oldPosts : String :=
  "ALTER TABLE \"posts (old)\" ADD CONSTRAINT writer FOREIGN KEY (writer_id) REFERENCES users (id), " ++
    "ADD CONSTRAINT reader FOREIGN KEY (reader_id) REFERENCES users (id)"

def oldTokens : List Token :=
  [⟨.word, "ALTER", 0, 5⟩, ⟨.word, "TABLE", 6, 11⟩, ⟨.quoted, "posts (old)", 12, 25⟩, ⟨.word, "ADD", 26, 29⟩,
    ⟨.word, "CONSTRAINT", 30, 40⟩, ⟨.word, "writer", 41, 47⟩, ⟨.word, "FOREIGN KEY", 48, 59⟩, ⟨.symbol, "(", 60, 61⟩,
    ⟨.word, "writer_id", 61, 70⟩, ⟨.symbol, ")", 70, 71⟩, ⟨.word, "REFERENCES", 72, 82⟩, ⟨.word, "users", 83, 88⟩,
    ⟨.symbol, "(", 89, 90⟩, ⟨.word, "id", 90, 92⟩, ⟨.symbol, ")", 92, 93⟩, ⟨.symbol, ",", 93, 94⟩,
    ⟨.word, "ADD", 95, 98⟩, ⟨.word, "CONSTRAINT", 99, 109⟩, ⟨.word, "reader", 110, 116⟩,
    ⟨.word, "FOREIGN KEY", 117, 128⟩, ⟨.symbol, "(", 129, 130⟩, ⟨.word, "reader_id", 130, 139⟩,
    ⟨.symbol, ")", 139, 140⟩, ⟨.word, "REFERENCES", 141, 151⟩, ⟨.word, "users", 152, 157⟩, ⟨.symbol, "(", 158, 159⟩,
    ⟨.word, "id", 159, 161⟩, ⟨.symbol, ")", 161, 162⟩]

/-- behind a bracket a foreign key is lost, with no message -/
theorem readStatements_loses_writer :
    RawAlteration .sqlite oldPosts [] oldTokens [] ∧ (∃ t ∈ oldTokens, t.word = "FOREIGN KEY") ∧
      isUnparsedDdl (firstWord oldTokens) (remainder oldPosts oldTokens) = false ∧
      readStatements .sqlite oldPosts = .ok [] := by
  have htokens : tokens .sqlite oldPosts = .ok oldTokens := by decide +kernel
  have hpieces : statementTokens oldTokens = [oldTokens] := by decide +kernel
  have hraw : Grammar.statement .sqlite oldTokens = .ok .raw := by decide +kernel
  have hkept : isUnparsedDdl (firstWord oldTokens) (remainder oldPosts oldTokens) = false := by decide +kernel
  refine ⟨⟨⟨oldTokens, htokens, hpieces⟩, by decide +kernel, hraw⟩, by decide +kernel, hkept, ?_⟩
  rw [readStatements_eq htokens, hpieces, ← List.nil_append [oldTokens], readPieces_passes hraw hkept]
  rfl

end Ddl

end Crowfoot

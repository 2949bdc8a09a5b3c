import Crowfoot.Proofs.Json.Strings
import Crowfoot.Proofs.Json.Numbers
import Crowfoot.Proofs.Outcome

/-
Writing JSON and reading it. A value is read back from its text however it is set, on one line or over several, as long
as no object has a name twice and no integer has too many digits. The induction is on the value; what is carried through
is that reading stops exactly at the end of the text, so that the enclosing array or object goes on from there.

- `readItems_chars`, `readMembers_chars`: the items of an array and the members of an object;
- `readValue_chars`: a value, with anything behind it that does not go on with a number;
- `parse_write`: whole texts.
-/

namespace Crowfoot.Json

open Decimal

/-- values of which nothing is lost: an integer can be written, and an object keeps one value for each name -/
inductive Faithful : Json → Prop where
  | null : Faithful .null
  | bool (b : Bool) : Faithful (.bool b)
  | int {i : Int} (h : Decimal.isWritable i) : Faithful (.int i)
  | float (x : Float) : Faithful (.float x)
  | text (s : String) : Faithful (.text s)
  | array {vs : List Json} (h : ∀ v ∈ vs, Faithful v) : Faithful (.array vs)
  | object {ms : List (String × Json)} (hnames : (ms.map Prod.fst).Nodup) (h : ∀ m ∈ ms, Faithful m.2) :
      Faithful (.object ms)

/-! ## White space -/

/-- a style puts nothing but white space between values -/
structure Style.Blank (style : Style) : Prop where
  lineBreak : ∀ depth, ∀ c ∈ style.lineBreak depth, isSpace c
  afterComma : ∀ c ∈ style.afterComma, isSpace c

theorem indented_blank : indented.Blank where
  lineBreak := by
    intro depth c hc
    rcases List.mem_cons.1 hc with rfl | hc
    · rfl
    · rw [List.eq_of_mem_replicate hc]
      rfl
  afterComma := nofun

theorem isSpace_of_mem_blank {c : Char} (hc : c ∈ [' ']) : isSpace c := by
  rw [List.mem_singleton.1 hc]
  rfl

theorem oneLine_blank : oneLine.Blank where
  lineBreak := nofun
  afterComma := fun _ hc => isSpace_of_mem_blank hc

theorem skipSpace_cons {c : Char} (hc : isSpace c = false) (cs : List Char) : skipSpace (c :: cs) = c :: cs := by
  simp [skipSpace, hc]

theorem skipSpace_append {gap : List Char} (hgap : ∀ c ∈ gap, isSpace c) (cs : List Char) :
    skipSpace (gap ++ cs) = skipSpace cs :=
  List.dropWhile_append_of_pos hgap

theorem not_digit_of_isSpace {c : Char} (h : isSpace c) : c.isDigit = false ∧ c ≠ '.' ∧ c ≠ 'e' ∧ c ≠ 'E' := by
  simp only [isSpace, Bool.or_eq_true, decide_eq_true_eq] at h
  rcases h with ((rfl | rfl) | rfl) | rfl <;> decide

theorem Ends.cons {c : Char} (hc : c.isDigit = false ∧ c ≠ '.' ∧ c ≠ 'e' ∧ c ≠ 'E') (rest : List Char) :
    Ends (c :: rest) := by
  intro d hd
  cases hd
  exact hc

/-- a number ends at white space with a bracket behind it -/
theorem ends_of_blank {gap : List Char} (hgap : ∀ c ∈ gap, isSpace c) {c : Char}
    (hc : c.isDigit = false ∧ c ≠ '.' ∧ c ≠ 'e' ∧ c ≠ 'E') (rest : List Char) : Ends (gap ++ c :: rest) := by
  cases gap with
  | nil => exact Ends.cons hc rest
  | cons b gap => exact Ends.cons (not_digit_of_isSpace (hgap b List.mem_cons_self)) _

/-! ## How texts are put together -/

variable (style : Style) (depth : Nat)

theorem itemChars_eq_map (vs : List Json) : itemChars style depth vs = vs.map (chars style depth) := by
  induction vs with
  | nil => rfl
  | cons v vs ih => rw [itemChars, ih, List.map_cons]

/-- a member of an object: its name and its value -/
def memberText (m : String × Json) : List Char := stringText m.1 ++ ':' :: ' ' :: chars style depth m.2

theorem memberChars_eq_map (ms : List (String × Json)) :
    memberChars style depth ms = ms.map (memberText style depth) := by
  induction ms with
  | nil => rfl
  | cons m ms ih => rw [memberChars, ih, List.map_cons, memberText]

/-- the items after the first, each behind a comma -/
def moreText (items : List (List Char)) : List Char :=
  items.flatMap fun item => ',' :: style.afterComma ++ style.lineBreak depth ++ item

theorem moreText_cons (item : List Char) (items : List (List Char)) (rest : List Char) :
    moreText style depth (item :: items) ++ rest
      = ',' :: ((style.afterComma ++ style.lineBreak depth) ++ (item ++ (moreText style depth items ++ rest))) := by
  simp [moreText]

theorem length_moreText_cons (item : List Char) (items : List (List Char)) :
    (moreText style depth (item :: items)).length
      = 1 + (style.afterComma ++ style.lineBreak depth).length + item.length + (moreText style depth items).length := by
  simp [moreText]
  omega

theorem bracketed_cons (openBracket closeBracket : Char) (first : List Char) (items : List (List Char))
    (rest : List Char) :
    bracketed style depth openBracket closeBracket (first :: items) ++ rest
      = openBracket :: (style.lineBreak (depth + 1)
        ++ (first ++ (moreText style (depth + 1) items ++ (style.lineBreak depth ++ closeBracket :: rest)))) := by
  simp [bracketed, moreText]

/-- how a value may start: neither with white space, nor with the end of an array, nor with a byte order mark -/
def Opens (cs : List Char) : Prop := ∃ c rest, cs = c :: rest ∧ isSpace c = false ∧ c ≠ ']' ∧ c ≠ '\ufeff'

theorem Plain.opens {cs : List Char} (h : Plain cs) : Opens cs := by
  have hbracket := h.head_ne (d := ']') (by decide)
  have hmark := h.head_ne (d := '\ufeff') (by decide)
  have hspace : ∀ d : Char, isSpace d → cs.head? ≠ some d := by
    intro d hd
    refine h.head_ne ?_
    simp only [isSpace, Bool.or_eq_true, decide_eq_true_eq] at hd
    rcases hd with ((rfl | rfl) | rfl) | rfl <;> decide
  obtain ⟨c, rest, rfl, -⟩ := h
  refine ⟨c, rest, rfl, ?_, fun hc => hbracket (congrArg some hc), fun hc => hmark (congrArg some hc)⟩
  by_contra hc
  exact hspace c (by simpa using hc) rfl

theorem opens_chars (v : Json) : Opens (chars style depth v) := by
  cases v with
  | null => exact ⟨'n', _, rfl, by decide⟩
  | bool b =>
    cases b with
    | true => exact ⟨'t', _, rfl, by decide⟩
    | false => exact ⟨'f', _, rfl, by decide⟩
  | int i => exact (plain_int i).opens
  | float x => exact (plain_float x).opens
  | text s => exact ⟨'"', _, rfl, by decide⟩
  | array vs => cases vs <;> exact ⟨'[', _, rfl, by decide⟩
  | object ms => cases ms <;> exact ⟨'\x7b', _, rfl, by decide⟩

variable {style depth}

theorem Opens.skipSpace_append {cs : List Char} (h : Opens cs) {gap : List Char} (hgap : ∀ c ∈ gap, isSpace c)
    (rest : List Char) : skipSpace (gap ++ (cs ++ rest)) = cs ++ rest := by
  obtain ⟨c, cs', rfl, hc, -⟩ := h
  rw [Json.skipSpace_append hgap, List.cons_append, skipSpace_cons hc]

theorem Opens.length_pos {cs : List Char} (h : Opens cs) : 0 < cs.length := by
  obtain ⟨c, rest, rfl, -⟩ := h
  exact Nat.zero_lt_succ _

/-! ## Reading -/

/-- the text of a value is read as the value, and no further -/
def Reads (style : Style) (v : Json) : Prop :=
  ∀ (depth fuel : Nat) (rest : List Char), (chars style depth v).length ≤ fuel → Ends rest →
    readValue fuel (chars style depth v ++ rest) = .ok (v, rest)

theorem Style.Blank.beforeItem (hstyle : style.Blank) (depth : Nat) :
    ∀ c ∈ style.afterComma ++ style.lineBreak depth, isSpace c := by
  intro c hc
  rcases List.mem_append.1 hc with hc | hc
  · exact hstyle.afterComma c hc
  · exact hstyle.lineBreak depth c hc

section Items

variable {v : Json} (hv : Reads style v) {fuel : Nat} (hfuel : (chars style depth v).length ≤ fuel)
  {tail rest : List Char} (htail : Ends tail)

include hv hfuel htail

theorem readItems_last (hclose : skipSpace tail = ']' :: rest) :
    readItems (fuel + 1) (chars style depth v ++ tail) = .ok ([v], rest) := by
  rw [readItems, hv depth fuel tail hfuel htail, except_ok_bind]
  simp only [hclose]
  rfl

theorem readItems_more (hcomma : skipSpace tail = ',' :: rest) :
    readItems (fuel + 1) (chars style depth v ++ tail)
      = (readItems fuel (skipSpace rest)).map fun (vs, rest) => (v :: vs, rest) := by
  rw [readItems, hv depth fuel tail hfuel htail, except_ok_bind]
  simp only [hcomma]
  rfl

end Items

/-- the items of an array up to its closing bracket -/
theorem readItems_chars (hstyle : style.Blank) {v : Json} {vs : List Json} (hv : Reads style v)
    (hvs : ∀ w ∈ vs, Reads style w) {gap : List Char} (hgap : ∀ c ∈ gap, isSpace c) {fuel : Nat} (rest : List Char)
    (hfuel : (chars style depth v).length + (moreText style depth (vs.map (chars style depth))).length < fuel) :
    readItems fuel (chars style depth v
      ++ (moreText style depth (vs.map (chars style depth)) ++ (gap ++ ']' :: rest))) = .ok (v :: vs, rest) := by
  induction vs generalizing v fuel with
  | nil =>
    obtain ⟨fuel, rfl⟩ := Nat.exists_eq_succ_of_ne_zero (Nat.ne_zero_of_lt hfuel)
    have hclose : skipSpace (gap ++ ']' :: rest) = ']' :: rest := by
      rw [skipSpace_append hgap, skipSpace_cons rfl]
    exact readItems_last hv (Nat.le_of_lt_succ hfuel) (ends_of_blank hgap (by decide) rest) hclose
  | cons w ws ih =>
    obtain ⟨fuel, rfl⟩ := Nat.exists_eq_succ_of_ne_zero (Nat.ne_zero_of_lt hfuel)
    obtain ⟨hw, hws⟩ := List.forall_mem_cons.1 hvs
    have hpos := (opens_chars style depth v).length_pos
    rw [List.map_cons, length_moreText_cons] at hfuel
    rw [List.map_cons, moreText_cons, readItems_more hv (by omega) (Ends.cons (by decide) _) (skipSpace_cons rfl _),
      (opens_chars style depth w).skipSpace_append (hstyle.beforeItem depth), ih hw hws (by omega)]
    rfl

theorem stringText_append (s : String) (rest : List Char) :
    stringText s ++ rest = '"' :: (s.toList.flatMap escapedChar ++ '"' :: rest) := by
  simp [stringText]

theorem setMember_append {name : String} {v : Json} {ms : List (String × Json)} (h : name ∉ ms.map Prod.fst) :
    setMember name v ms = ms ++ [(name, v)] := by
  induction ms with
  | nil => rfl
  | cons m ms ih =>
    rw [List.map_cons, List.mem_cons, not_or] at h
    rw [setMember, if_neg (Ne.symm h.1), ih h.2]
    rfl

theorem opens_memberText (m : String × Json) : Opens (memberText style depth m) := ⟨'"', _, rfl, by decide⟩

theorem fresh_of_nodup {m : String × Json} {ms seen : List (String × Json)}
    (h : ((seen ++ m :: ms).map Prod.fst).Nodup) : m.1 ∉ seen.map Prod.fst := by
  rw [List.map_append, List.nodup_append] at h
  exact fun hmem => h.2.2 _ hmem _ (List.mem_map_of_mem List.mem_cons_self) rfl

section Members

variable {m : String × Json} (hm : Reads style m.2) {seen : List (String × Json)} {fuel : Nat}
  (hfuel : (memberText style depth m).length ≤ fuel) {tail rest : List Char} (htail : Ends tail)

include hm hfuel htail

/-- the name and the colon of a member, before its value -/
theorem readMembers_member :
    readMembers (fuel + 1) seen (memberText style depth m ++ tail) =
      match skipSpace tail with
      | '\x7d' :: rest => .ok (setMember m.1 m.2 seen, rest)
      | ',' :: rest => readMembers fuel (setMember m.1 m.2 seen) (skipSpace rest)
      | rest => fault .expectedComma rest := by
  have htext : memberText style depth m ++ tail
      = '"' :: (m.1.toList.flatMap escapedChar ++ '"' :: ':' :: ([' '] ++ (chars style depth m.2 ++ tail))) := by
    rw [memberText, List.append_assoc, stringText_append]
    rfl
  have hlength : (chars style depth m.2).length ≤ (memberText style depth m).length := by
    simp only [memberText, List.length_append, List.length_cons]
    omega
  have hspace : skipSpace ([' '] ++ (chars style depth m.2 ++ tail)) = chars style depth m.2 ++ tail :=
    (opens_chars style depth m.2).skipSpace_append (fun _ hc => isSpace_of_mem_blank hc) tail
  rw [htext, readMembers, readQuoted_flatMap, except_ok_bind]
  simp only [skipSpace_cons (c := ':') rfl, hspace, hm depth fuel tail (by omega) htail, except_ok_bind]
  rfl

theorem readMembers_last (hclose : skipSpace tail = '\x7d' :: rest) :
    readMembers (fuel + 1) seen (memberText style depth m ++ tail) = .ok (setMember m.1 m.2 seen, rest) := by
  rw [readMembers_member hm hfuel htail, hclose]
  rfl

theorem readMembers_more (hcomma : skipSpace tail = ',' :: rest) :
    readMembers (fuel + 1) seen (memberText style depth m ++ tail)
      = readMembers fuel (setMember m.1 m.2 seen) (skipSpace rest) := by
  rw [readMembers_member hm hfuel htail, hcomma]
  rfl

end Members

/-- the members of an object up to its closing bracket, where no name comes twice -/
theorem readMembers_chars (hstyle : style.Blank) {m : String × Json} {ms seen : List (String × Json)}
    (hm : Reads style m.2) (hms : ∀ k ∈ ms, Reads style k.2) (hnames : ((seen ++ m :: ms).map Prod.fst).Nodup)
    {gap : List Char} (hgap : ∀ c ∈ gap, isSpace c) {fuel : Nat} (rest : List Char)
    (hfuel : (memberText style depth m).length + (moreText style depth (ms.map (memberText style depth))).length
      < fuel) :
    readMembers fuel seen (memberText style depth m
      ++ (moreText style depth (ms.map (memberText style depth)) ++ (gap ++ '\x7d' :: rest)))
        = .ok (seen ++ m :: ms, rest) := by
  induction ms generalizing m seen fuel with
  | nil =>
    obtain ⟨fuel, rfl⟩ := Nat.exists_eq_succ_of_ne_zero (Nat.ne_zero_of_lt hfuel)
    have hclose : skipSpace (gap ++ '\x7d' :: rest) = '\x7d' :: rest := by
      rw [skipSpace_append hgap, skipSpace_cons rfl]
    rw [← setMember_append (fresh_of_nodup hnames)]
    exact readMembers_last hm (Nat.le_of_lt_succ hfuel) (ends_of_blank hgap (by decide) rest) hclose
  | cons k ks ih =>
    obtain ⟨fuel, rfl⟩ := Nat.exists_eq_succ_of_ne_zero (Nat.ne_zero_of_lt hfuel)
    obtain ⟨hk, hks⟩ := List.forall_mem_cons.1 hms
    have hopens : Opens (memberText style depth m) := opens_memberText m
    have hpos := hopens.length_pos
    have hnames' : ((seen ++ [m] ++ k :: ks).map Prod.fst).Nodup := by simpa using hnames
    rw [List.map_cons, length_moreText_cons] at hfuel
    rw [List.map_cons, moreText_cons, readMembers_more hm (by omega) (Ends.cons (by decide) _) (skipSpace_cons rfl _),
      (opens_memberText k).skipSpace_append (hstyle.beforeItem depth), setMember_append (fresh_of_nodup hnames),
      ih hk hks hnames' (by omega), List.append_assoc]
    rfl

theorem readValue_array (fuel : Nat) {rest inner : List Char} (hinner : skipSpace rest = inner)
    (hitem : inner.head? ≠ some ']') :
    readValue (fuel + 1) ('[' :: rest) = (readItems fuel inner).map fun (vs, rest) => (.array vs, rest) := by
  rw [readValue, hinner]
  split
  · simp at hitem
  · rfl

theorem readValue_object (fuel : Nat) {rest inner : List Char} (hinner : skipSpace rest = inner)
    (hmember : inner.head? ≠ some '\x7d') :
    readValue (fuel + 1) ('\x7b' :: rest) = (readMembers fuel [] inner).map fun (ms, rest) => (.object ms, rest) := by
  rw [readValue, hinner]
  split
  · simp at hmember
  · rfl

theorem reads_of_plain {v : Json} (hplain : ∀ depth, Plain (chars style depth v))
    (hread : ∀ depth {rest : List Char}, Ends rest → readPlain (chars style depth v ++ rest) = .ok (v, rest)) :
    Reads style v := by
  intro depth fuel rest hfuel hrest
  have hpos := (hplain depth).opens.length_pos
  obtain ⟨fuel, rfl⟩ := Nat.exists_eq_succ_of_ne_zero (show fuel ≠ 0 by omega)
  exact readValue_plain fuel ((hplain depth).append rest) (hread depth hrest)

theorem reads_array (hstyle : style.Blank) {vs : List Json} (hvs : ∀ v ∈ vs, Reads style v) :
    Reads style (.array vs) := by
  intro depth fuel rest hfuel _
  rw [chars, itemChars_eq_map] at hfuel ⊢
  cases vs with
  | nil =>
    obtain ⟨fuel, rfl⟩ := Nat.exists_eq_succ_of_ne_zero (show fuel ≠ 0 by simp [bracketed] at hfuel; omega)
    rfl
  | cons v vs =>
    obtain ⟨hv, hvs⟩ := List.forall_mem_cons.1 hvs
    have hopens := opens_chars style (depth + 1) v
    have hlength := congrArg List.length (bracketed_cons style depth '[' ']' (chars style (depth + 1) v)
      (vs.map (chars style (depth + 1))) [])
    rw [List.map_cons] at hfuel ⊢
    simp only [List.append_nil, List.length_append, List.length_cons] at hlength
    obtain ⟨fuel, rfl⟩ := Nat.exists_eq_succ_of_ne_zero (show fuel ≠ 0 by omega)
    have hitem : (chars style (depth + 1) v ++ (moreText style (depth + 1) (vs.map (chars style (depth + 1)))
        ++ (style.lineBreak depth ++ ']' :: rest))).head? ≠ some ']' := by
      obtain ⟨c, cs, hcs, -, hc, -⟩ := hopens
      simpa [hcs] using hc
    rw [bracketed_cons, readValue_array fuel (hopens.skipSpace_append (hstyle.lineBreak (depth + 1)) _) hitem,
      readItems_chars hstyle hv hvs (hstyle.lineBreak depth) rest (by omega)]
    rfl

theorem reads_object (hstyle : style.Blank) {ms : List (String × Json)} (hnames : (ms.map Prod.fst).Nodup)
    (hms : ∀ m ∈ ms, Reads style m.2) : Reads style (.object ms) := by
  intro depth fuel rest hfuel _
  rw [chars, memberChars_eq_map] at hfuel ⊢
  cases ms with
  | nil =>
    obtain ⟨fuel, rfl⟩ := Nat.exists_eq_succ_of_ne_zero (show fuel ≠ 0 by simp [bracketed] at hfuel; omega)
    rfl
  | cons m ms =>
    obtain ⟨hm, hms⟩ := List.forall_mem_cons.1 hms
    have hopens : Opens (memberText style (depth + 1) m) := opens_memberText m
    have hlength := congrArg List.length (bracketed_cons style depth '\x7b' '\x7d' (memberText style (depth + 1) m)
      (ms.map (memberText style (depth + 1))) [])
    rw [List.map_cons] at hfuel ⊢
    simp only [List.append_nil, List.length_append, List.length_cons] at hlength
    obtain ⟨fuel, rfl⟩ := Nat.exists_eq_succ_of_ne_zero (show fuel ≠ 0 by omega)
    rw [bracketed_cons, readValue_object fuel (hopens.skipSpace_append (hstyle.lineBreak (depth + 1)) _)
      (by simp [memberText, stringText]),
      readMembers_chars hstyle hm hms hnames (hstyle.lineBreak depth) rest (by omega)]
    rfl

/-- **Values.** The text of a value is read as the value, and reading stops at its end. -/
theorem readValue_chars (hstyle : style.Blank) {v : Json} (hv : Faithful v) : Reads style v := by
  induction hv with
  | null => exact reads_of_plain (fun _ => ⟨'n', _, rfl, .inl rfl⟩) fun _ _ _ => rfl
  | bool b =>
    cases b with
    | true => exact reads_of_plain (fun _ => ⟨'t', _, rfl, .inl rfl⟩) fun _ _ _ => rfl
    | false => exact reads_of_plain (fun _ => ⟨'f', _, rfl, .inl rfl⟩) fun _ _ _ => rfl
  | int hi => exact reads_of_plain (fun _ => plain_int _) fun _ _ h => readPlain_int hi h
  | float x => exact reads_of_plain (fun _ => plain_float x) fun _ _ h => readPlain_float x h
  | text s =>
    intro depth fuel rest hfuel _
    obtain ⟨fuel, rfl⟩ := Nat.exists_eq_succ_of_ne_zero (show fuel ≠ 0 by simp [chars, stringText] at hfuel; omega)
    rw [chars, stringText_append, readValue, readQuoted_flatMap]
    rfl
  | array _ ih => exact reads_array hstyle ih
  | object hnames _ ih => exact reads_object hstyle hnames ih

/-! ## Whole texts -/

/-- **Texts.** The characters of a value are parsed as the value. -/
theorem parseChars_chars (hstyle : style.Blank) {v : Json} (hv : Faithful v) (depth : Nat) :
    parseChars (chars style depth v) = .ok v := by
  obtain ⟨c, cs, hcs, hspace, -, hmark⟩ := opens_chars style depth v
  have hread := readValue_chars hstyle hv depth ((chars style depth v).length + 1) [] (Nat.le_succ _) Ends.nil
  rw [List.append_nil] at hread
  unfold parseChars
  split
  next heq =>
    rw [hcs] at heq
    exact absurd (List.cons.inj heq).1 hmark
  next =>
    rw [hcs, skipSpace_cons hspace, ← hcs, hread]
    rfl

theorem everyItem_iff {kind : Json → Bool} {vs : List Json} : everyItem kind vs ↔ ∀ v ∈ vs, every kind v := by
  induction vs with
  | nil => simp [everyItem]
  | cons v vs ih => simp [everyItem, ih]

theorem everyMember_iff {kind : Json → Bool} {ms : List (String × Json)} :
    everyMember kind ms ↔ ∀ m ∈ ms, every kind m.2 := by
  induction ms with
  | nil => simp [everyMember]
  | cons m ms ih => simp [everyMember, ih]

theorem Faithful.isWritable {v : Json} (hv : Faithful v) : v.isWritable := by
  induction hv with
  | int h => exact h
  | array _ ih => exact everyItem_iff.2 ih
  | object _ _ ih => exact everyMember_iff.2 ih
  | _ => rfl

/-- **Whole texts.** A value of which nothing is lost has a text in any style, and the text is parsed as the value. -/
theorem parse_write (hstyle : style.Blank) {v : Json} (hv : Faithful v) :
    ∃ text, write style v = .ok text ∧ parse text = .ok v := by
  refine ⟨_, if_pos hv.isWritable, ?_⟩
  rw [parse, String.toList_ofList, parseChars_chars hstyle hv 0]

end Crowfoot.Json

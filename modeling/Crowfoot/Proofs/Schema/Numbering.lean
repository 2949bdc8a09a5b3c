import Crowfoot.Proofs.Decimal.Numeral
import Crowfoot.Proofs.Schema.Counting

/-
A counting source looks at one number after another until it meets an id that is not taken, with no bound on how long,
or a number that has too many digits to be written into an id.

- `look`: one look. `Looks`: looking until there is an answer; it says nothing of an end.
- `newId?_eq`: what `newId?` does. It passes over numbers whose ids are taken, and ends at the first one that it does
  not pass over. Different numbers have different ids, so that there is at most one look more than there are taken ids.
- `newId?_looks`: this is what looking comes to. `exists_newId?`: when there is an id. `newId?_eq_newId`: it is the one
  of `newId`.
- `Call`: ids are reserved and asked for in any order. `mem_after_taken`: what is taken afterwards.
- `newId_answers`: all of it together. `newId_worn`: not every request is answered with an id.
-/

namespace Crowfoot.Counting

/-! ## Looking -/

/-- one look at the next number: its id is handed out and taken from then on, unless it is taken already; a number that
cannot be written is the end of looking, too -/
def look (letter : String) (s : Counting) : Option (Except Decimal.Overlong String) × Counting :=
  let n := s.counter + 1
  match candidate s.session letter n with
  | .error e => (some (.error e), { s with counter := n })
  | .ok id =>
    if id ∈ s.taken then (none, { s with counter := n })
    else (some (.ok id), { s with counter := n, taken := id :: s.taken })

/-- looking again and again until there is an answer: how many looks that takes, the answer and the source afterwards -/
inductive Looks (letter : String) : ℕ → Counting → Except Decimal.Overlong String → Counting → Prop where
  | ended {s s' : Counting} {a : Except Decimal.Overlong String} (h : look letter s = (some a, s')) :
    Looks letter 1 s a s'
  | again {k : ℕ} {s s' s'' : Counting} {a : Except Decimal.Overlong String} (h : look letter s = (none, s'))
    (rest : Looks letter k s' a s'') : Looks letter (k + 1) s a s''

variable {letter : String} {s : Counting}

theorem look_of_passesOver (h : passesOver letter s) : look letter s = (none, { s with counter := s.counter + 1 }) := by
  unfold passesOver at h
  unfold look
  split at h
  · rename_i id hid
    simp only [hid]
    exact if_pos (by simpa using h)
  · cases h

theorem look_of_not_passesOver (h : passesOver letter s = false) :
    look letter s = (some (handOut letter s).1, (handOut letter s).2) := by
  unfold passesOver at h
  unfold look handOut
  cases hid : candidate s.session letter (s.counter + 1) with
  | error e => simp only [hid]
  | ok id =>
    rw [hid] at h
    simp only [hid]
    exact if_neg (by simpa using h)

/-- looking can end in one way only -/
theorem Looks.unique {k k' : ℕ} {a a' : Except Decimal.Overlong String} {s' s'' : Counting} (h : Looks letter k s a s')
    (h' : Looks letter k' s a' s'') : k' = k ∧ a' = a ∧ s'' = s' := by
  induction h generalizing k' with
  | ended h =>
    cases h' with
    | ended h' => rw [h] at h'; cases h'; exact ⟨rfl, rfl, rfl⟩
    | again h' => rw [h] at h'; cases h'
  | again h rest ih =>
    cases h' with
    | ended h' => rw [h] at h'; cases h'
    | again h' rest' =>
      rw [h] at h'
      cases h'
      obtain ⟨rfl, rfl, rfl⟩ := ih rest'
      exact ⟨rfl, rfl, rfl⟩

theorem Looks.pos {k : ℕ} {a : Except Decimal.Overlong String} {s' : Counting} (h : Looks letter k s a s') : 0 < k := by
  cases h <;> exact Nat.succ_pos _

/-! ## Where looking ends -/

/-- the source some numbers further on -/
def forth (s : Counting) (k : ℕ) : Counting := { s with counter := s.counter + k }

@[simp] theorem forth_zero (s : Counting) : s.forth 0 = s := by
  simp [forth]

theorem forth_succ (s : Counting) (k : ℕ) :
    s.forth (k + 1) = ({ s with counter := s.counter + 1 } : Counting).forth k := by
  simp only [forth]
  congr 1
  push_cast
  ring

theorem passesOver_iff : passesOver letter s ↔
    Decimal.isWritable (s.counter + 1) ∧ idOf s.session letter (s.counter + 1) ∈ s.taken := by
  unfold passesOver candidate
  cases Decimal.isWritable (s.counter + 1) <;> simp

/-- numbers that follow one another have different ids, so that there are no more of them than ids that they have -/
theorem le_card_of_taken {session : String} {n : ℤ} {taken : List String} {k : ℕ}
    (h : ∀ i : ℕ, i < k → idOf session letter (n + i + 1) ∈ taken) : k ≤ taken.toFinset.card := by
  have hmaps : ∀ i ∈ Finset.range k, idOf session letter (n + i + 1) ∈ taken.toFinset := fun i hi =>
    List.mem_toFinset.2 (h i (Finset.mem_range.1 hi))
  have hinj : Set.InjOn (fun i : ℕ => idOf session letter (n + i + 1)) (Finset.range k) := by
    intro i _ j _ heq
    have := idOf_injective session letter heq
    omega
  simpa using Finset.card_le_card_of_injOn _ hmaps hinj

theorem le_card_of_passedOver {k : ℕ} (h : ∀ i < k, passesOver letter (s.forth i)) : k ≤ s.taken.toFinset.card :=
  le_card_of_taken fun i hi => (passesOver_iff.1 (h i hi)).2

theorem handOutFree_eq (letter : String) (tries : ℕ) (s : Counting) :
    ∃ k ≤ tries, (∀ i < k, passesOver letter (s.forth i)) ∧ (passesOver letter (s.forth k) = false ∨ k = tries) ∧
      handOutFree letter tries s = handOut letter (s.forth k) := by
  induction tries generalizing s with
  | zero => exact ⟨0, le_rfl, nofun, Or.inr rfl, by rw [forth_zero, handOutFree]⟩
  | succ tries ih =>
    unfold handOutFree
    split_ifs with hpassed
    · obtain ⟨k, hk, hall, hstop, heq⟩ := ih { s with counter := s.counter + 1 }
      refine ⟨k + 1, Nat.succ_le_succ hk, fun i hi => ?_, ?_, heq.trans (by rw [forth_succ])⟩
      · cases i with
        | zero => rwa [forth_zero]
        | succ i =>
          rw [forth_succ]
          exact hall i (Nat.lt_of_succ_lt_succ hi)
      · rw [forth_succ]
        exact hstop.imp id (congrArg (· + 1))
    · exact ⟨0, Nat.zero_le _, nofun, Or.inl (by simpa using hpassed), by rw [forth_zero]⟩

/-- numbers are passed over as long as their ids are taken, and the first one that is not decides -/
theorem newId?_eq (s : Counting) (letter : String) :
    ∃ k ≤ s.taken.toFinset.card, (∀ i < k, passesOver letter (s.forth i)) ∧ passesOver letter (s.forth k) = false ∧
      s.newId? letter = handOut letter (s.forth k) := by
  obtain ⟨k, hk, hall, hstop, heq⟩ := handOutFree_eq letter s.taken.length s
  refine ⟨k, le_card_of_passedOver hall, hall, hstop.elim id fun hlast => ?_, heq⟩
  by_contra hpassed
  have hmore : ∀ i < k + 1, passesOver letter (s.forth i) := by
    intro i hi
    rcases Nat.lt_succ_iff_lt_or_eq.1 hi with hlt | rfl
    · exact hall i hlt
    · simpa using hpassed
  have hcard := le_card_of_passedOver hmore
  have hlength := s.taken.toFinset_card_le
  omega

/-- where so many numbers are passed over and the one after them is not, looking ends there -/
theorem looks_of_passedOver {k : ℕ} (hall : ∀ i < k, passesOver letter (s.forth i))
    (hstop : passesOver letter (s.forth k) = false) :
    Looks letter (k + 1) s (handOut letter (s.forth k)).1 (handOut letter (s.forth k)).2 := by
  induction k generalizing s with
  | zero =>
    rw [forth_zero] at hstop ⊢
    exact Looks.ended (look_of_not_passesOver hstop)
  | succ k ih =>
    have hfirst := hall 0 (Nat.succ_pos k)
    rw [forth_zero] at hfirst
    rw [forth_succ] at hstop ⊢
    exact Looks.again (look_of_passesOver hfirst)
      (ih (fun i hi => forth_succ s i ▸ hall (i + 1) (Nat.succ_lt_succ hi)) hstop)

/-! ## What is handed out -/

theorem handOut_eq_ok {id : String} (h : (handOut letter s).1 = .ok id) :
    Decimal.isWritable (s.counter + 1) ∧ id = idOf s.session letter (s.counter + 1) ∧
      (handOut letter s).2 = { s with counter := s.counter + 1, taken := id :: s.taken } := by
  unfold handOut candidate at h ⊢
  by_cases hwritable : Decimal.isWritable (s.counter + 1)
  · simp only [hwritable, if_true] at h ⊢
    cases h
    exact ⟨trivial, rfl, rfl⟩
  · simp only [hwritable] at h
    cases h

theorem handOut_eq_error {e : Decimal.Overlong} (h : (handOut letter s).1 = .error e) :
    Decimal.isWritable (s.counter + 1) = false ∧ e = .written ∧
      (handOut letter s).2 = { s with counter := s.counter + 1 } := by
  unfold handOut candidate at h ⊢
  by_cases hwritable : Decimal.isWritable (s.counter + 1)
  · simp only [hwritable, if_true] at h
    cases h
  · simp only [hwritable] at h ⊢
    cases h
    exact ⟨trivial, rfl, rfl⟩

/-- what is not passed over and can be written is not taken -/
theorem notMem_of_not_passesOver (h : passesOver letter s = false) (hwritable : Decimal.isWritable (s.counter + 1)) :
    idOf s.session letter (s.counter + 1) ∉ s.taken := fun hmem =>
  Bool.eq_false_iff.1 h (passesOver_iff.2 ⟨hwritable, hmem⟩)

/-- an id that is handed out was not taken, and it alone is taken in addition -/
theorem newId?_eq_ok {id : String} (h : (s.newId? letter).1 = .ok id) :
    id ∉ s.taken ∧ (s.newId? letter).2.taken = id :: s.taken := by
  obtain ⟨k, -, -, hstop, heq⟩ := s.newId?_eq letter
  rw [heq] at h ⊢
  obtain ⟨hwritable, hid, hafter⟩ := handOut_eq_ok h
  exact ⟨hid ▸ notMem_of_not_passesOver hstop hwritable, by rw [hafter]; rfl⟩

/-- where there is none, nothing is taken in addition -/
theorem newId?_eq_error {e : Decimal.Overlong} (h : (s.newId? letter).1 = .error e) :
    (s.newId? letter).2.taken = s.taken := by
  obtain ⟨k, -, -, -, heq⟩ := s.newId?_eq letter
  rw [heq] at h ⊢
  rw [(handOut_eq_error h).2.2]
  rfl

/-- looking comes to what `newId?` is; where that is no id, the last number that was looked at has too many digits -/
theorem newId?_looks (s : Counting) (letter : String) :
    ∃ k ≤ s.taken.toFinset.card + 1, Looks letter k s (s.newId? letter).1 (s.newId? letter).2 ∧
      ∀ e, (s.newId? letter).1 = .error e → 10 ^ Decimal.digitLimit ≤ (s.counter + k).natAbs := by
  obtain ⟨k, hk, hall, hstop, heq⟩ := s.newId?_eq letter
  have hlooks := looks_of_passedOver hall hstop
  rw [← heq] at hlooks
  refine ⟨k + 1, Nat.succ_le_succ hk, hlooks, fun e he => ?_⟩
  rw [heq] at he
  have hoverlong := Bool.eq_false_iff.1 (handOut_eq_error he).1
  rw [Ne, Decimal.isWritable_iff, Nat.not_lt] at hoverlong
  simpa [forth, add_assoc] using hoverlong

/-- there is an id while the numbers that may be looked at have few enough digits -/
theorem exists_newId? (hlow : -10 ^ Decimal.digitLimit < s.counter + 1)
    (hhigh : s.counter + s.taken.toFinset.card + 1 < 10 ^ Decimal.digitLimit) (letter : String) :
    ∃ id, (s.newId? letter).1 = .ok id := by
  obtain ⟨k, hk, hlooks, hdigits⟩ := s.newId?_looks letter
  have hpos := hlooks.pos
  cases hanswer : (s.newId? letter).1 with
  | ok id => exact ⟨id, rfl⟩
  | error e =>
    have hlarge : ((10 ^ Decimal.digitLimit : ℕ) : ℤ) ≤ (s.counter + k).natAbs := Int.ofNat_le.2 (hdigits e hanswer)
    rw [Nat.cast_pow, Nat.cast_ofNat] at hlarge
    omega

/-- where the next number cannot be written, there is none -/
theorem newId?_of_overlong (letter : String) (h : Decimal.isWritable (s.counter + 1) = false) :
    (s.newId? letter).1 = .error .written := by
  obtain ⟨k, -, hall, -, heq⟩ := s.newId?_eq letter
  have hk : k = 0 := by
    by_contra hne
    have hfirst := hall 0 (Nat.pos_of_ne_zero hne)
    rw [forth_zero] at hfirst
    exact Bool.eq_false_iff.1 h (passesOver_iff.1 hfirst).1
  rw [heq, hk, forth_zero, handOut, candidate, h]
  rfl

/-- the two ways of drawing an id agree on every id that is handed out -/
theorem newId?_eq_newId {id : String} (h : (s.newId? letter).1 = .ok id) :
    s.newId? letter = (.ok (s.newId letter).1, (s.newId letter).2) := by
  obtain ⟨k, -, hall, hstop, heq⟩ := s.newId?_eq letter
  rw [heq] at h
  obtain ⟨hwritable, hid, hafter⟩ := handOut_eq_ok h
  obtain ⟨k', -, hsearch, hall', -⟩ := search_stop s.session letter s.taken s.taken.length s.counter
  have hfree := idOf_search_notMem s.session letter s.taken s.counter
  rw [hsearch] at hfree
  have hk : k' = k := by
    rcases Nat.lt_trichotomy k k' with hlt | rfl | hlt
    · exact absurd (hall' k hlt) (notMem_of_not_passesOver hstop hwritable)
    · rfl
    · exact absurd (passesOver_iff.1 (hall k' hlt)).2 hfree
  have hnewId : s.newId letter = (id, (handOut letter (s.forth k)).2) := by
    rw [newId, hsearch, hk, hafter, hid]
    rfl
  rw [heq, hnewId, ← h]

/-! ## Calls -/

/-- what a source is asked to do -/
inductive Call where
  | reserve (ids : List String)
  | newId (letter : String)

def perform (s : Counting) : Call → Counting
  | .reserve ids => s.reserve ids
  | .newId letter => (s.newId? letter).2

/-- a source after some calls -/
def after (s : Counting) (calls : List Call) : Counting := calls.foldl perform s

/-- the ids that are handed out for a call -/
def answer (s : Counting) : Call → List String
  | .reserve _ => []
  | .newId letter => (s.newId? letter).1.toOption.toList

/-- the ids that are handed out over some calls -/
def answers : Counting → List Call → List String
  | _, [] => []
  | s, c :: rest => s.answer c ++ answers (s.perform c) rest

/-- the ids that are reserved over some calls -/
def reserved (calls : List Call) : List String :=
  calls.flatMap fun c => match c with
    | .reserve ids => ids
    | .newId _ => []

theorem answers_append (s : Counting) (calls more : List Call) :
    s.answers (calls ++ more) = s.answers calls ++ (s.after calls).answers more := by
  induction calls generalizing s with
  | nil => rfl
  | cons c calls ih =>
    rw [List.cons_append, answers, ih, answers, List.append_assoc]
    rfl

/-- one call takes what is reserved by it and what is handed out for it, and that is new -/
theorem mem_perform_taken {c : Call} {id : String} :
    id ∈ (s.perform c).taken ↔ id ∈ s.taken ∨ id ∈ reserved [c] ∨ id ∈ s.answer c := by
  cases c with
  | reserve ids => simp [perform, mem_reserve_taken, reserved, answer, or_comm]
  | newId letter =>
    cases hnew : (s.newId? letter).1 with
    | ok id' => simp [perform, (newId?_eq_ok hnew).2, reserved, answer, hnew, Except.toOption, or_comm]
    | error e => simp [perform, newId?_eq_error hnew, reserved, answer, hnew, Except.toOption]

theorem answer_spec (s : Counting) (c : Call) : (s.answer c).Nodup ∧ ∀ id ∈ s.answer c, id ∉ s.taken := by
  cases c with
  | reserve ids => exact ⟨List.nodup_nil, nofun⟩
  | newId letter =>
    cases hnew : (s.newId? letter).1 with
    | ok id => simpa [answer, hnew, Except.toOption] using (newId?_eq_ok hnew).1
    | error e => simp [answer, hnew, Except.toOption]

/-- taken is what was taken before, what was reserved and what was handed out, and nothing else -/
theorem mem_after_taken {calls : List Call} {id : String} :
    id ∈ (s.after calls).taken ↔ id ∈ s.taken ∨ id ∈ reserved calls ∨ id ∈ s.answers calls := by
  induction calls generalizing s with
  | nil => simp [after, reserved, answers]
  | cons c calls ih =>
    have hrest : id ∈ (s.after (c :: calls)).taken ↔ _ := ih (s := s.perform c)
    have hreserved : id ∈ reserved (c :: calls) ↔ id ∈ reserved [c] ∨ id ∈ reserved calls := by
      simp [reserved]
    rw [hrest, mem_perform_taken, hreserved, answers, List.mem_append]
    tauto

theorem answers_notMem {calls : List Call} {id : String} (h : id ∈ s.answers calls) : id ∉ s.taken := by
  induction calls generalizing s with
  | nil => cases h
  | cons c calls ih =>
    rcases List.mem_append.1 h with h | h
    · exact (s.answer_spec c).2 id h
    · exact fun htaken => ih h (mem_perform_taken.2 (Or.inl htaken))

theorem answers_nodup (s : Counting) (calls : List Call) : (s.answers calls).Nodup := by
  induction calls generalizing s with
  | nil => exact List.nodup_nil
  | cons c calls ih =>
    refine List.nodup_append.2 ⟨(s.answer_spec c).1, ih _, fun id hid id' hid' heq => ?_⟩
    exact answers_notMem hid' (mem_perform_taken.2 (Or.inr (Or.inr (heq ▸ hid))))

/-- **Fresh ids.** A counting source comes to an answer for every request, whatever its session, its counter and the
taken ids are: looking for an id ends, in one way only and with no more looks than one for each taken id and one more.
Either an id is handed out that was not taken, and it alone is taken in addition, or the last number that was looked at
has too many digits, and nothing else is taken. While the numbers that may be looked at have few enough digits, there
is an id. Over calls in any order, ids that are handed out are pairwise different, and none was taken, reserved or
handed out before. -/
theorem newId_answers (s : Counting) :
    (∀ letter, ∃ k ≤ s.taken.toFinset.card + 1, Looks letter k s (s.newId? letter).1 (s.newId? letter).2 ∧
      (∀ k' a s', Looks letter k' s a s' → k' = k ∧ (a, s') = s.newId? letter) ∧
      (∀ id, (s.newId? letter).1 = .ok id → id ∉ s.taken ∧ (s.newId? letter).2.taken = id :: s.taken) ∧
      ∀ e, (s.newId? letter).1 = .error e →
        10 ^ Decimal.digitLimit ≤ (s.counter + k).natAbs ∧ (s.newId? letter).2.taken = s.taken) ∧
    (-10 ^ Decimal.digitLimit < s.counter + 1 → s.counter + s.taken.toFinset.card + 1 < 10 ^ Decimal.digitLimit →
      ∀ letter, ∃ id, (s.newId? letter).1 = .ok id) ∧
    ∀ calls : List Call, (s.answers calls).Nodup ∧ (∀ id ∈ s.answers calls, id ∉ s.taken) ∧
      ∀ letter id, ((s.after calls).newId? letter).1 = .ok id →
        s.answers (calls ++ [.newId letter]) = s.answers calls ++ [id] ∧
          id ∉ s.taken ++ reserved calls ++ s.answers calls := by
  refine ⟨fun letter => ?_, fun hlow hhigh letter => exists_newId? hlow hhigh letter, fun calls =>
    ⟨s.answers_nodup calls, fun id => answers_notMem, fun letter id hid => ⟨?_, ?_⟩⟩⟩
  · obtain ⟨k, hk, hlooks, hdigits⟩ := s.newId?_looks letter
    refine ⟨k, hk, hlooks, fun k' a s' h => ?_, fun id => newId?_eq_ok, fun e he =>
      ⟨hdigits e he, newId?_eq_error he⟩⟩
    obtain ⟨rfl, rfl, rfl⟩ := hlooks.unique h
    exact ⟨rfl, rfl⟩
  · rw [answers_append]
    simp [answers, answer, hid, Except.toOption]
  · have hnew := (newId?_eq_ok hid).1
    rw [mem_after_taken] at hnew
    simpa only [List.mem_append, or_assoc] using hnew

/-- a source without a session that counts from below zero: it passes over two ids, of which one is taken twice, and
later over one that is reserved -/
theorem newId_answers_negative :
    let s : Counting := ⟨"", -2, ["t_-1", "t_0", "t_-1"]⟩
    Looks "t" 3 s (.ok "t_1") ⟨"", 1, "t_1" :: s.taken⟩ ∧ "t_1" ∉ s.taken ∧
      s.answers [.newId "t", .reserve ["c_2"], .newId "c"] = ["t_1", "c_3"] ∧ ["t_1", "c_3"].Nodup := by
  intro s
  obtain ⟨hlooking, -, hcalls⟩ := newId_answers s
  have hgiven : s.newId? "t" = (.ok "t_1", ⟨"", 1, "t_1" :: s.taken⟩) := by decide +kernel
  have hanswers : s.answers [.newId "t", .reserve ["c_2"], .newId "c"] = ["t_1", "c_3"] := by decide +kernel
  have hfirst : look "t" s = (none, ⟨"", -1, s.taken⟩) := by decide +kernel
  have hsecond : look "t" ⟨"", -1, s.taken⟩ = (none, ⟨"", 0, s.taken⟩) := by decide +kernel
  have hthird : look "t" ⟨"", 0, s.taken⟩ = (some (.ok "t_1"), ⟨"", 1, "t_1" :: s.taken⟩) := by decide +kernel
  have hlooks : Looks "t" 3 s (.ok "t_1") ⟨"", 1, "t_1" :: s.taken⟩ := .again hfirst (.again hsecond (.ended hthird))
  obtain ⟨k, -, -, -, hnew, -⟩ := hlooking "t"
  exact ⟨hlooks, (hnew "t_1" (congrArg Prod.fst hgiven)).1, hanswers, hanswers ▸ (hcalls _).1⟩

/-- a source whose next number has one digit too many -/
def worn : Counting := ⟨"", 10 ^ Decimal.digitLimit - 1, []⟩

/-- Not every request is answered with an id. -/
theorem newId_worn : (worn.newId? tableLetter).1 = .error .written ∧
    ¬ ∀ (s : Counting) (letter : String), ∃ id, (s.newId? letter).1 = .ok id := by
  have hoverlong : Decimal.isWritable (worn.counter + 1) = false := by
    rw [worn, sub_add_cancel]
    exact Decimal.isWritable_pow
  have hfails := newId?_of_overlong tableLetter hoverlong
  refine ⟨hfails, fun hall => ?_⟩
  obtain ⟨id, hid⟩ := hall worn tableLetter
  rw [hfails] at hid
  cases hid

end Crowfoot.Counting

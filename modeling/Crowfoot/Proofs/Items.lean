import Mathlib.Tactic
import Crowfoot.Layout.Graph

/-
Lists: items and their places, lists that go together item by item, and lists without repetitions.
-/

namespace Crowfoot

variable {α β γ : Type}

/-! ## Places -/

/-- where some value differs for all items, it tells their places -/
theorem getElem?_map_inj {f : α → β} {xs : List α} (h : (xs.map f).Nodup) {i j : ℕ} {x y : α}
    (hx : xs[i]? = some x) (hy : xs[j]? = some y) (heq : f x = f y) : i = j := by
  obtain ⟨hi, -⟩ := List.getElem?_eq_some_iff.1 hx
  refine (List.getElem?_inj (by simpa using hi) h).1 ?_
  rw [List.getElem?_map, List.getElem?_map, hx, hy, Option.map_some, Option.map_some, heq]

theorem length_eq_of_map_eq {f : α → γ} {g : β → γ} {xs : List α} {ys : List β} (h : xs.map f = ys.map g) :
    xs.length = ys.length := by
  simpa using congrArg List.length h

/-- two lists that look the same have items that look the same at the same places -/
theorem getElem?_of_map_eq {f : α → γ} {g : β → γ} {xs : List α} {ys : List β} (h : xs.map f = ys.map g)
    {i : ℕ} {x : α} (hx : xs[i]? = some x) : ∃ y, ys[i]? = some y ∧ f x = g y := by
  have hget : (ys.map g)[i]? = some (f x) := by rw [← h, List.getElem?_map, hx, Option.map_some]
  rw [List.getElem?_map] at hget
  obtain ⟨y, hy, heq⟩ := Option.map_eq_some_iff.1 hget
  exact ⟨y, hy, heq.symm⟩

/-- a list is another with every item changed, if it is as long and its items are so changed -/
theorem eq_map_of_getElem? {f : α → β} {xs : List α} {ys : List β} (hlen : ys.length = xs.length)
    (h : ∀ (i : ℕ) x y, xs[i]? = some x → ys[i]? = some y → y = f x) : ys = xs.map f := by
  refine List.ext_getElem (by rw [hlen, List.length_map]) fun i hi hi' => ?_
  rw [List.getElem_map]
  exact h i _ _ (List.getElem?_eq_getElem (hlen ▸ hi)) (List.getElem?_eq_getElem hi)

/-- the place that is found is the first of those with an item that satisfies the test -/
theorem findIdx?_eq_some_iff_isLeast {p : α → Bool} {xs : List α} {j : ℕ} :
    xs.findIdx? p = some j ↔ IsLeast {i | ∃ x, xs[i]? = some x ∧ p x = true} j := by
  rw [List.findIdx?_eq_some_iff_getElem]
  constructor
  · rintro ⟨hj, hp, hbefore⟩
    refine ⟨⟨xs[j], List.getElem?_eq_getElem hj, hp⟩, fun i => ?_⟩
    rintro ⟨x, hx, hpx⟩
    obtain ⟨hi, rfl⟩ := List.getElem?_eq_some_iff.1 hx
    by_contra hlt
    exact hbefore i (not_le.1 hlt) hpx
  · rintro ⟨⟨x, hx, hpx⟩, hleast⟩
    obtain ⟨hj, rfl⟩ := List.getElem?_eq_some_iff.1 hx
    refine ⟨hj, hpx, fun i hij hpi => ?_⟩
    exact absurd (hleast ⟨_, List.getElem?_eq_getElem _, hpi⟩) (not_le.2 hij)

theorem findIdx?_getElem? {p : α → Bool} {xs : List α} {i : ℕ} (h : xs.findIdx? p = some i) :
    ∃ x, xs[i]? = some x ∧ p x = true := (findIdx?_eq_some_iff_isLeast.1 h).1

/-- the items that some value tells apart are found where they are -/
theorem findIdx?_of_nodup [DecidableEq β] {f : α → β} {xs : List α} (h : (xs.map f).Nodup) {i : ℕ} {x : α}
    (hx : xs[i]? = some x) : xs.findIdx? (fun y => f y = f x) = some i := by
  refine findIdx?_eq_some_iff_isLeast.2 ⟨⟨x, hx, by simp⟩, fun j => ?_⟩
  rintro ⟨y, hy, hp⟩
  exact (getElem?_map_inj h hx hy (of_decide_eq_true hp).symm).le

/-- what is found in a list comes before everything else that could be found -/
theorem find?_before {R : α → α → Prop} {xs : List α} (hxs : xs.Pairwise R) {p : α → Bool} {x : α}
    (h : xs.find? p = some x) {y : α} (hy : y ∈ xs) (hp : p y = true) : y = x ∨ R x y := by
  obtain ⟨-, before, after, rfl, hbefore⟩ := List.find?_eq_some_iff_append.1 h
  rcases List.mem_append.1 hy with hy | hy
  · have hnot := hbefore y hy
    simp [hp] at hnot
  · rcases List.mem_cons.1 hy with rfl | hy
    · exact Or.inl rfl
    · exact Or.inr ((List.pairwise_cons.1 (List.pairwise_append.1 hxs).2.1).1 y hy)

theorem find?_of_nodup [DecidableEq β] {f : α → β} {xs : List α} (h : (xs.map f).Nodup) {x : α} (hx : x ∈ xs) :
    xs.find? (fun y => f y = f x) = some x := by
  have hmem : ∃ y ∈ xs, decide (f y = f x) = true := ⟨x, hx, by simp⟩
  obtain ⟨y, hy⟩ := Option.isSome_iff_exists.1 (List.find?_isSome.2 hmem)
  have hsame : f y = f x := by simpa using List.find?_some hy
  rw [hy, List.inj_on_of_nodup_map h (List.mem_of_find?_eq_some hy) hx hsame]

/-- where some value differs for all items, it tells one of them from those before it and those behind it -/
theorem around_ne {f : α → β} {left right : List α} {x : α} (h : ((left ++ x :: right).map f).Nodup) :
    (∀ y ∈ left, f y ≠ f x) ∧ ∀ y ∈ right, f y ≠ f x := by
  rw [List.map_append, List.map_cons, List.nodup_append, List.nodup_cons] at h
  obtain ⟨-, ⟨hright, -⟩, hleft⟩ := h
  refine ⟨fun y hy => hleft _ (List.mem_map_of_mem hy) _ List.mem_cons_self, fun y hy heq => ?_⟩
  exact hright (heq ▸ List.mem_map_of_mem hy)

/-- the others are those before it and those behind it -/
theorem filter_around [DecidableEq β] {f : α → β} {left right : List α} {x : α}
    (h : ((left ++ x :: right).map f).Nodup) : (left ++ x :: right).filter (fun y => f y ≠ f x) = left ++ right := by
  obtain ⟨hleft, hright⟩ := around_ne h
  have hl : left.filter (fun y => f y ≠ f x) = left := List.filter_eq_self.2 fun y hy => by simpa using hleft y hy
  have hr : right.filter (fun y => f y ≠ f x) = right := List.filter_eq_self.2 fun y hy => by simpa using hright y hy
  rw [List.filter_append, List.filter_cons_of_neg (by simp), hl, hr]

/-- of items one of which satisfies a test, there is a last one that does -/
theorem exists_last {p : α → Bool} {xs : List α} (h : ∃ x ∈ xs, p x = true) :
    ∃ left x right, xs = left ++ x :: right ∧ p x = true ∧ ∀ y ∈ right, p y = false := by
  obtain ⟨x, hx, hp⟩ := h
  have hfound : (xs.reverse.find? p).isSome := List.find?_isSome.2 ⟨x, List.mem_reverse.2 hx, hp⟩
  obtain ⟨y, hy⟩ := Option.isSome_iff_exists.1 hfound
  obtain ⟨hpy, behind, before, hsplit, hbehind⟩ := List.find?_eq_some_iff_append.1 hy
  refine ⟨before.reverse, y, behind.reverse, ?_, hpy, fun z hz => ?_⟩
  · rw [← xs.reverse_reverse, hsplit]
    simp
  · simpa using hbehind z (List.mem_reverse.1 hz)

theorem map_set_of_eq {f : α → β} {xs : List α} {i : ℕ} {x y : α} (h : xs[i]? = some x) (hf : f y = f x) :
    (xs.set i y).map f = xs.map f := by
  obtain ⟨hi, rfl⟩ := List.getElem?_eq_some_iff.1 h
  rw [List.map_set, hf, ← List.getElem_map f (h := by simpa using hi), List.set_getElem_self]

/-- what is listed under a name of its own is found there -/
theorem lookup_of_mem [DecidableEq α] {entries : List (α × β)} (h : (entries.map (·.1)).Nodup) {a : α} {b : β}
    (hmem : (a, b) ∈ entries) : entries.lookup a = some b := by
  induction entries with
  | nil => cases hmem
  | cons entry entries ih =>
    rw [List.map_cons, List.nodup_cons] at h
    rcases List.mem_cons.1 hmem with rfl | hmem
    · simp
    · have hne : a ≠ entry.1 := fun heq => h.1 (heq ▸ List.mem_map_of_mem (f := (·.1)) hmem)
      rw [List.lookup_cons, beq_false_of_ne hne]
      exact ih h.2 hmem

/-- what is listed under a name is found under another, if no other name is changed to that one -/
theorem lookup_map_of_told [DecidableEq α] [DecidableEq γ] {f : α → γ} {entries : List (α × β)} {k : α}
    (h : ∀ entry ∈ entries, f entry.1 = f k → entry.1 = k) :
    (entries.map (Prod.map f id)).lookup (f k) = entries.lookup k := by
  induction entries with
  | nil => rfl
  | cons entry entries ih =>
    simp only [List.mem_cons, forall_eq_or_imp] at h
    have hsame : (f k == f entry.1) = (k == entry.1) := by
      rw [Bool.eq_iff_iff, beq_iff_eq, beq_iff_eq]
      exact ⟨fun heq => (h.1 heq.symm).symm, congrArg f⟩
    rw [List.map_cons, List.lookup_cons, List.lookup_cons, ih h.2, Prod.map_fst, hsame]
    rfl

theorem le_max?_getD [LinearOrder α] {xs : List α} {x : α} (h : x ∈ xs) (d : α) : x ≤ xs.max?.getD d := by
  cases hmax : xs.max? with
  | none => exact absurd (List.max?_eq_none_iff.1 hmax) (List.ne_nil_of_mem h)
  | some m => exact (List.max?_eq_some_iff.1 hmax).2 x h

/-! ## Lists that go together -/

section Together

variable {R : α → β → Prop} {xs : List α} {ys : List β}

theorem forall₂_mem_left (h : List.Forall₂ R xs ys) {x : α} (hx : x ∈ xs) : ∃ y ∈ ys, R x y := by
  induction h with
  | nil => cases hx
  | cons hxy _ ih =>
    rcases List.mem_cons.1 hx with rfl | hx
    · exact ⟨_, List.mem_cons_self, hxy⟩
    · obtain ⟨y, hy, hr⟩ := ih hx
      exact ⟨y, List.mem_cons_of_mem _ hy, hr⟩

theorem forall₂_mem_right (h : List.Forall₂ R xs ys) {y : β} (hy : y ∈ ys) : ∃ x ∈ xs, R x y :=
  forall₂_mem_left h.flip hy

theorem forall₂_of_getElem? (hlen : xs.length = ys.length)
    (h : ∀ (i : ℕ) x y, xs[i]? = some x → ys[i]? = some y → R x y) : List.Forall₂ R xs ys :=
  List.forall₂_iff_get.2 ⟨hlen, fun i hi hi' => h i _ _ (List.getElem?_eq_getElem hi) (List.getElem?_eq_getElem hi')⟩

theorem forall₂_getElem?_right (h : List.Forall₂ R xs ys) {i : ℕ} {y : β} (hy : ys[i]? = some y) :
    ∃ x, xs[i]? = some x ∧ R x y := by
  obtain ⟨hlen, hget⟩ := List.forall₂_iff_get.1 h
  obtain ⟨hi, rfl⟩ := List.getElem?_eq_some_iff.1 hy
  exact ⟨xs[i], List.getElem?_eq_getElem (hlen ▸ hi), hget i (hlen ▸ hi) hi⟩

/-- what holds of any two items of the one list holds of those of the other, if it goes together -/
theorem forall₂_pairwise_iff (h : List.Forall₂ R xs ys) {P : α → α → Prop} {Q : β → β → Prop}
    (hpq : ∀ x x' y y', R x y → R x' y' → (P x x' ↔ Q y y')) : xs.Pairwise P ↔ ys.Pairwise Q := by
  induction h with
  | nil => simp
  | @cons x y xs ys hxy hrest ih =>
    have hhead : (∀ x' ∈ xs, P x x') ↔ ∀ y' ∈ ys, Q y y' := by
      constructor
      · intro hall y' hy'
        obtain ⟨x', hx', hr⟩ := forall₂_mem_right hrest hy'
        exact (hpq x x' y y' hxy hr).1 (hall x' hx')
      · intro hall x' hx'
        obtain ⟨y', hy', hr⟩ := forall₂_mem_left hrest hx'
        exact (hpq x x' y y' hxy hr).2 (hall y' hy')
    rw [List.pairwise_cons, List.pairwise_cons, hhead, ih]

end Together

/-! ## Repetitions, and items left out -/

/-- different items can be changed into any others, one by one -/
theorem exists_map_eq [DecidableEq α] {xs : List α} (h : xs.Nodup) {ys : List α} (hlen : xs.length = ys.length) :
    ∃ f : α → α, xs.map f = ys := by
  induction xs generalizing ys with
  | nil => exact ⟨id, (List.eq_nil_of_length_eq_zero hlen.symm).symm⟩
  | cons x xs ih =>
    cases ys with
    | nil => cases hlen
    | cons y ys =>
      obtain ⟨hx, hxs⟩ := List.nodup_cons.1 h
      obtain ⟨f, rfl⟩ := ih hxs (Nat.succ.inj hlen)
      refine ⟨Function.update f x y, ?_⟩
      rw [List.map_cons, Function.update_self]
      congr 1
      exact List.map_congr_left fun z hz => Function.update_of_ne (ne_of_mem_of_not_mem hz hx) _ _

theorem eraseDups_map [BEq α] [LawfulBEq α] [BEq β] [LawfulBEq β] {f : α → β} {xs : List α}
    (h : ∀ x ∈ xs, ∀ y ∈ xs, f x = f y → x = y) : (xs.map f).eraseDups = xs.eraseDups.map f := by
  induction xs using List.reverseRecOn with
  | nil => rfl
  | append_singleton xs x ih =>
    have hxs : ∀ y ∈ xs, ∀ z ∈ xs, f y = f z → y = z := fun y hy z hz =>
      h y (List.mem_append_left _ hy) z (List.mem_append_left _ hz)
    have hmem : f x ∈ xs.map f ↔ x ∈ xs := by
      refine ⟨fun hfx => ?_, List.mem_map_of_mem⟩
      obtain ⟨y, hy, heq⟩ := List.mem_map.1 hfx
      exact h y (List.mem_append_left _ hy) x (by simp) heq ▸ hy
    rw [List.map_append, List.eraseDups_append, List.eraseDups_append, List.map_append, ih hxs]
    by_cases hx : x ∈ xs
    · simp [List.removeAll, hx, List.mem_map.1 (hmem.2 hx)]
    · have hfx : ¬ ∃ y ∈ xs, f y = f x := fun hex => hx (hmem.1 (List.mem_map.2 hex))
      simp [List.removeAll, hx, hfx, List.eraseDups_cons]

theorem nodup_eraseDups [BEq α] [LawfulBEq α] (xs : List α) : xs.eraseDups.Nodup := by
  induction xs using List.reverseRecOn with
  | nil => exact List.nodup_nil
  | append_singleton xs x ih =>
    rw [List.eraseDups_append]
    by_cases hx : x ∈ xs
    · simpa [List.removeAll, hx] using ih
    · have hfresh : x ∉ xs.eraseDups := fun hmem => hx (List.mem_eraseDups.1 hmem)
      simpa [List.removeAll, hx, List.eraseDups_cons] using List.concat_eq_append ▸ ih.concat hfresh

theorem flatMap_toList (f : α → Option β) (xs : List α) :
    xs.flatMap (fun x => (f x).toList) = xs.filterMap f := by
  induction xs with
  | nil => rfl
  | cons x xs ih => cases hx : f x <;> simp [hx, ih]

end Crowfoot

namespace Crowfoot.Layout

/-! ## The first of equal items -/

variable {α : Type} [DecidableEq α]

theorem distinct_concat (xs : List α) (x : α) :
    distinct (xs ++ [x]) = if x ∈ distinct xs then distinct xs else distinct xs ++ [x] := by
  simp [distinct, List.foldl_append]

theorem distinct_eq_eraseDups (xs : List α) : distinct xs = xs.eraseDups := by
  induction xs using List.reverseRecOn with
  | nil => rfl
  | append_singleton xs x ih =>
    rw [distinct_concat, List.eraseDups_append, ih]
    by_cases hx : x ∈ xs
    · simp [List.removeAll, hx]
    · simp [List.removeAll, hx, List.eraseDups_cons]

@[simp] theorem mem_distinct {xs : List α} {x : α} : x ∈ distinct xs ↔ x ∈ xs := by
  rw [distinct_eq_eraseDups, List.mem_eraseDups]

theorem distinct_nodup (xs : List α) : (distinct xs).Nodup := distinct_eq_eraseDups xs ▸ nodup_eraseDups xs

theorem distinct_eq_self {xs : List α} (h : xs.Nodup) : distinct xs = xs := by
  induction xs using List.reverseRecOn with
  | nil => rfl
  | append_singleton xs x ih =>
    obtain ⟨hxs, -, hdisjoint⟩ := List.nodup_append.1 h
    have hx : x ∉ xs := fun hmem => hdisjoint x hmem x List.mem_cons_self rfl
    rw [distinct_concat, ih hxs, if_neg hx]

/-- items that are there already are not added -/
theorem distinct_append {xs ys : List α} (h : ys ⊆ xs) : distinct (xs ++ ys) = distinct xs := by
  have hnothing : ys.removeAll xs = [] := by
    rw [List.removeAll, List.filter_eq_nil_iff]
    intro y hy
    simp [h hy]
  rw [distinct_eq_eraseDups, distinct_eq_eraseDups, List.eraseDups_append, hnothing]
  simp

end Crowfoot.Layout

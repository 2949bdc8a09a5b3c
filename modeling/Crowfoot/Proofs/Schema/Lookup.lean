import Mathlib.Tactic
import Mathlib.Data.List.Perm.Subperm
import Crowfoot.Schema.Edit

/-
Changing the first item that satisfies a test, and moving an item of a list: what becomes of the other items.

- `mapFirst_of_find?`: the list falls apart into what stands before the first such item, the item, and the rest.
- `mapFirst_append_singleton`: where only the last item satisfies the test, the last item is changed.
- `mem_mapFirst`, `mem_mapFirst_of_mem`: an item of the changed list is an old one or the changed one, and every old
  one is there, changed or not.
- `mapFirst_mapFirst`, `mapFirst_comm`, `filter_mapFirst`, `find?_mapFirst`: changing it twice, and changing others,
  taking them out or looking for them.
- `moveItem_perm`: moving an item loses and adds nothing. `getElem?_moveItem`, `eraseIdx_moveItem`: it stands where it
  was put, and the others are those that it left. `moveItem_moveItem`: moving it back.
-/

namespace Crowfoot

open scoped List

variable {α β : Type}

theorem mapFirst_of_find?_none {p : α → Bool} {xs : List α} (f : α → α) (h : xs.find? p = none) :
    mapFirst p f xs = xs := by
  induction xs with
  | nil => rfl
  | cons x xs ih =>
    rw [List.find?_cons] at h
    cases hx : p x with
    | true => simp [hx] at h
    | false =>
      simp only [hx] at h
      simp [mapFirst, hx, ih h]

/-- what stands before the first item that satisfies the test stays, the item is changed, and the rest stays -/
theorem mapFirst_of_find? {p : α → Bool} {xs : List α} {x : α} (f : α → α) (h : xs.find? p = some x) :
    ∃ before after, xs = before ++ x :: after ∧ (∀ y ∈ before, p y = false) ∧
      mapFirst p f xs = before ++ f x :: after := by
  obtain ⟨hx, before, after, rfl, hbefore⟩ := List.find?_eq_some_iff_append.1 h
  have hfalse : ∀ y ∈ before, p y = false := fun y hy => by simpa using hbefore y hy
  refine ⟨before, after, rfl, hfalse, ?_⟩
  clear h hbefore
  induction before with
  | nil => simp [mapFirst, hx]
  | cons y before ih =>
    simp only [List.mem_cons, forall_eq_or_imp] at hfalse
    simp [mapFirst, hfalse.1, ih hfalse.2]

theorem mapFirst_eq_self {p : α → Bool} {f : α → α} {xs : List α} (h : ∀ x, xs.find? p = some x → f x = x) :
    mapFirst p f xs = xs := by
  cases hfind : xs.find? p with
  | none => exact mapFirst_of_find?_none f hfind
  | some x =>
    obtain ⟨before, after, hxs, -, hmap⟩ := mapFirst_of_find? f hfind
    rw [hmap, h x hfind, ← hxs]

theorem mapFirst_mapFirst {p : α → Bool} {f g : α → α} (hf : ∀ x, p x = true → p (f x) = true) (xs : List α) :
    mapFirst p g (mapFirst p f xs) = mapFirst p (g ∘ f) xs := by
  induction xs with
  | nil => rfl
  | cons x xs ih =>
    cases hx : p x with
    | true => simp [mapFirst, hx, hf x hx]
    | false => simp [mapFirst, hx, ih]

theorem mapFirst_comm {p q : α → Bool} {f g : α → α} (hpq : ∀ x, p x = true → q x = false)
    (hf : ∀ x, q (f x) = q x) (hg : ∀ x, p (g x) = p x) (xs : List α) :
    mapFirst p f (mapFirst q g xs) = mapFirst q g (mapFirst p f xs) := by
  induction xs with
  | nil => rfl
  | cons x xs ih =>
    cases hp : p x with
    | true =>
      have hq : q x = false := hpq x hp
      simp [mapFirst, hp, hq, hf]
    | false =>
      cases hq : q x with
      | true => simp [mapFirst, hp, hq, hg]
      | false => simp [mapFirst, hp, hq, ih]

/-- a filter that keeps every item to be changed, before and after, may come first -/
theorem filter_mapFirst {p q : α → Bool} {f : α → α} (h : ∀ x, p x = true → q x = true ∧ q (f x) = true)
    (xs : List α) : (mapFirst p f xs).filter q = mapFirst p f (xs.filter q) := by
  induction xs with
  | nil => rfl
  | cons x xs ih =>
    cases hp : p x with
    | true =>
      obtain ⟨hq, hqf⟩ := h x hp
      simp [mapFirst, hp, hq, hqf]
    | false =>
      cases hq : q x with
      | true => simp [mapFirst, hp, hq, ih]
      | false => simp [mapFirst, hp, hq, ih]

theorem find?_mapFirst {p q : α → Bool} {f : α → α} (hpq : ∀ x, p x = true → q x = false) (hf : ∀ x, q (f x) = q x)
    (xs : List α) : (mapFirst p f xs).find? q = xs.find? q := by
  induction xs with
  | nil => rfl
  | cons x xs ih =>
    cases hp : p x with
    | true => simp [mapFirst, hp, hpq x hp, hf]
    | false => simp [mapFirst, hp, List.find?_cons, ih]

/-- where nothing before an item satisfies the test, the item is the first that does -/
theorem mapFirst_append_singleton {p : α → Bool} (f : α → α) {xs : List α} {x : α} (hxs : ∀ y ∈ xs, p y = false)
    (hx : p x = true) : mapFirst p f (xs ++ [x]) = xs ++ [f x] := by
  induction xs with
  | nil => simp [mapFirst, hx]
  | cons y xs ih =>
    simp only [List.mem_cons, forall_eq_or_imp] at hxs
    simp [mapFirst, hxs.1, ih hxs.2]

theorem mem_mapFirst {p : α → Bool} {f : α → α} {xs : List α} {y : α} (h : y ∈ mapFirst p f xs) :
    y ∈ xs ∨ ∃ x ∈ xs, p x = true ∧ y = f x := by
  cases hf : xs.find? p with
  | none => rw [mapFirst_of_find?_none f hf] at h; exact Or.inl h
  | some x =>
    obtain ⟨before, after, hxs, -, hmap⟩ := mapFirst_of_find? f hf
    rw [hmap] at h
    rw [hxs]
    rcases List.mem_append.1 h with h | h
    · exact Or.inl (List.mem_append_left _ h)
    · rcases List.mem_cons.1 h with rfl | h
      · exact Or.inr ⟨x, by simp, List.find?_some hf, rfl⟩
      · exact Or.inl (by simp [h])

/-- every item is in the changed list, unless it satisfies the test and is there changed -/
theorem mem_mapFirst_of_mem {p : α → Bool} {f : α → α} {xs : List α} {x : α} (h : x ∈ xs) :
    x ∈ mapFirst p f xs ∨ p x = true ∧ f x ∈ mapFirst p f xs := by
  induction xs with
  | nil => cases h
  | cons y xs ih =>
    simp only [mapFirst]
    rcases List.mem_cons.1 h with rfl | h
    · split_ifs with hx
      · exact Or.inr ⟨hx, List.mem_cons_self⟩
      · exact Or.inl List.mem_cons_self
    · split_ifs
      · exact Or.inl (List.mem_cons_of_mem _ h)
      · exact (ih h).imp (List.mem_cons_of_mem _) fun hf => ⟨hf.1, List.mem_cons_of_mem _ hf.2⟩

theorem flatMap_mapFirst_subperm {p : α → Bool} {f : α → α} {g : α → List β} {xs : List α}
    (h : ∀ x ∈ xs, p x = true → g (f x) <+~ g x) : (mapFirst p f xs).flatMap g <+~ xs.flatMap g := by
  induction xs with
  | nil => exact List.Subperm.refl _
  | cons x xs ih =>
    simp only [mapFirst]
    split_ifs with hx
    · exact (List.subperm_append_right _).2 (h x List.mem_cons_self hx)
    · exact (List.subperm_append_left _).2 (ih fun y hy => h y (List.mem_cons_of_mem _ hy))

theorem moveItem_perm (xs : List α) (source : Nat) {target : Nat} (ht : target ≤ xs.length - 1) :
    moveItem xs source target ~ xs := by
  unfold moveItem
  cases hx : xs[source]? with
  | none => exact List.Perm.refl _
  | some x =>
    obtain ⟨hlt, rfl⟩ := List.getElem?_eq_some_iff.1 hx
    have hlen : target ≤ (xs.eraseIdx source).length := by rw [List.length_eraseIdx_of_lt hlt]; exact ht
    exact (List.perm_insertIdx _ _ hlen).trans (List.getElem_cons_eraseIdx_perm hlt)

section Items

variable {xs : List α} {x : α} {i k : ℕ}

/-- the item is taken out and put in -/
theorem moveItem_eq (hx : xs[i]? = some x) (k : ℕ) : moveItem xs i k = (xs.eraseIdx i).insertIdx k x := by
  simp [moveItem, hx]

/-- it stands where it was put -/
theorem getElem?_moveItem (hx : xs[i]? = some x) (hk : k < xs.length) : (moveItem xs i k)[k]? = some x := by
  obtain ⟨hi, -⟩ := List.getElem?_eq_some_iff.1 hx
  have hle : k ≤ (xs.eraseIdx i).length := by
    rw [List.length_eraseIdx_of_lt hi]
    omega
  rw [moveItem_eq hx, List.getElem?_insertIdx_self, if_pos hle]

/-- the others are those that it left -/
theorem eraseIdx_moveItem (hx : xs[i]? = some x) (k : ℕ) : (moveItem xs i k).eraseIdx k = xs.eraseIdx i := by
  rw [moveItem_eq hx, List.eraseIdx_insertIdx_self]

/-- moved back, everything stands as before -/
theorem moveItem_moveItem (hi : i < xs.length) (hk : k < xs.length) : moveItem (moveItem xs i k) k i = xs := by
  have hx : xs[i]? = some xs[i] := List.getElem?_eq_getElem hi
  calc moveItem (moveItem xs i k) k i
      = ((moveItem xs i k).eraseIdx k).insertIdx i xs[i] := moveItem_eq (getElem?_moveItem hx hk) i
    _ = (xs.eraseIdx i).insertIdx i xs[i] := by rw [eraseIdx_moveItem hx]
    _ = xs := List.insertIdx_eraseIdx_getElem hi

end Items

end Crowfoot

import Mathlib
import Crowfoot.Proofs.Schema.Issuing

/-
The counting source of ids. It looks at one number after another until it meets an id that is not taken; since ids of
different numbers differ, one more try than there are taken ids meets one.

- `idOf_injective`: under one letter, different numbers give different ids, with a session and without.
- `search_stop`: the search passes over taken ids only, and stops at one that is not taken.
- `newId_notMem`: an id that is handed out was not taken.
- `fresh_of_subset`: a counting source is fresh for whatever ids are taken.
-/

namespace Crowfoot.Counting

open IdSupply

theorem idOf_injective (session letter : String) : Function.Injective (idOf session letter) := by
  intro m n h
  unfold idOf at h
  split_ifs at h <;> exact Int.repr_injective ((String.append_right_inj _).1 h)

/-- the search moves on by `k` numbers, all of them taken, and stops at one that is not, or when it runs out of tries -/
theorem search_stop (session letter : String) (taken : List String) (tries : ℕ) (n : ℤ) :
    ∃ k : ℕ, k ≤ tries ∧ search session letter taken tries n = n + k + 1 ∧
      (∀ i : ℕ, i < k → idOf session letter (n + i + 1) ∈ taken) ∧
      (idOf session letter (n + k + 1) ∉ taken ∨ k = tries) := by
  induction tries generalizing n with
  | zero => exact ⟨0, le_rfl, by simp [search], by simp, Or.inr rfl⟩
  | succ tries ih =>
    unfold search
    split_ifs with htaken
    · obtain ⟨k, hk, heq, hall, hstop⟩ := ih (n + 1)
      have hshift : ∀ i : ℕ, n + 1 + (i : ℤ) + 1 = n + ((i + 1 : ℕ) : ℤ) + 1 := fun i => by push_cast; ring
      refine ⟨k + 1, Nat.succ_le_succ hk, by rw [heq, hshift], ?_, ?_⟩
      · intro i hi
        cases i with
        | zero => simpa using htaken
        | succ i => rw [← hshift]; exact hall i (Nat.lt_of_succ_lt_succ hi)
      · rw [← hshift]
        exact hstop.imp id (congrArg (· + 1))
    · exact ⟨0, Nat.zero_le _, by simp, by simp, Or.inl (by simpa using htaken)⟩

/-- of one more number than there are taken ids, one has an id that is not taken -/
theorem exists_idOf_notMem (session letter : String) (taken : List String) (n : ℤ) :
    ∃ i : ℕ, i ≤ taken.length ∧ idOf session letter (n + i + 1) ∉ taken := by
  by_contra hall
  push Not at hall
  have hsub : (List.range (taken.length + 1)).map (fun i : ℕ => idOf session letter (n + i + 1)) ⊆ taken := by
    intro id hid
    obtain ⟨i, hi, rfl⟩ := List.mem_map.1 hid
    exact hall i (Nat.lt_succ_iff.1 (List.mem_range.1 hi))
  have hinj : Function.Injective fun i : ℕ => idOf session letter (n + i + 1) := by
    intro i j h
    have := idOf_injective session letter h
    omega
  have hlen := ((List.nodup_range.map hinj).subperm hsub).length_le
  simp at hlen

theorem idOf_search_notMem (session letter : String) (taken : List String) (n : ℤ) :
    idOf session letter (search session letter taken taken.length n) ∉ taken := by
  obtain ⟨k, hk, heq, hall, hstop⟩ := search_stop session letter taken taken.length n
  rw [heq]
  rcases hstop with hstop | rfl
  · exact hstop
  · obtain ⟨i, hi, hnot⟩ := exists_idOf_notMem session letter taken n
    rcases Nat.lt_or_eq_of_le hi with hlt | rfl
    · exact absurd (hall i hlt) hnot
    · exact hnot

variable (s : Counting) (letter : String)

theorem newId_notMem : (s.newId letter).1 ∉ s.taken := idOf_search_notMem s.session letter s.taken s.counter

/-- reserved ids are taken, and nothing else is that was not -/
theorem mem_reserve_taken {ids : List String} {s : Counting} {id : String} :
    id ∈ (s.reserve ids).taken ↔ id ∈ ids ∨ id ∈ s.taken := by
  simp only [reserve, List.mem_append, List.mem_filter, List.contains_eq_mem, Bool.not_eq_true', decide_eq_false_iff_not]
  tauto

/-- whatever ids are taken, the source hands out others, and none twice -/
theorem fresh_of_subset {known : List String} {s : Counting} (h : known ⊆ s.taken) : Fresh known s := by
  refine Fresh.of_step (fun known s => known ⊆ s.taken) (fun known s letter hsub => ?_) h
  refine ⟨fun hmem => s.newId_notMem letter (hsub hmem), ?_⟩
  exact List.cons_subset_cons _ hsub

end Crowfoot.Counting

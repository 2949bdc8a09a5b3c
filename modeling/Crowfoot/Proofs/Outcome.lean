import Mathlib.Tactic

/-
Computations that may fail: when a sequence of them succeeds, and with what.

- `bimap`: a result with its failure and its value changed. `bimap_bind`, `mapM_bimap` and others: computations whose
  steps go together are changed as a whole.
-/

namespace Crowfoot

variable {ε α β : Type}

theorem except_bind_eq_ok {a : Except ε α} {f : α → Except ε β} {y : β} :
    a >>= f = .ok y ↔ ∃ x, a = .ok x ∧ f x = .ok y := by
  cases a with
  | error e => simp [bind, Except.bind]
  | ok x => simp [bind, Except.bind]

theorem except_ok_bind (x : α) (f : α → Except ε β) : (Except.ok x >>= f) = f x := rfl

theorem except_map_eq_ok {a : Except ε α} {f : α → β} {y : β} : a.map f = .ok y ↔ ∃ x, a = .ok x ∧ f x = y := by
  cases a with
  | error e => simp [Except.map]
  | ok x => simp [Except.map]

theorem except_toOption_eq_some {a : Except ε α} {x : α} : a.toOption = some x ↔ a = .ok x := by
  cases a <;> simp [Except.toOption]

theorem except_bind_eq_error {a : Except ε α} {f : α → Except ε β} {e : ε} :
    a >>= f = .error e ↔ a = .error e ∨ ∃ x, a = .ok x ∧ f x = .error e := by
  cases a with
  | error e => simp [bind, Except.bind]
  | ok x => simp [bind, Except.bind]

theorem except_map_eq_error {a : Except ε α} {f : α → β} {e : ε} : a.map f = .error e ↔ a = .error e := by
  cases a <;> simp [Except.map]

theorem except_mapError_ok {ε' : Type} (x : α) (f : ε → ε') : (Except.ok x : Except ε α).mapError f = .ok x := rfl

theorem except_mapError_eq_ok {ε' : Type} {a : Except ε α} {f : ε → ε'} {x : α} :
    a.mapError f = .ok x ↔ a = .ok x := by
  cases a <;> simp [Except.mapError]

theorem except_mapError_eq_error {ε' : Type} {a : Except ε α} {f : ε → ε'} {e' : ε'} :
    a.mapError f = .error e' ↔ ∃ e, a = .error e ∧ f e = e' := by
  cases a with
  | error e =>
    constructor
    · exact fun h => ⟨e, rfl, Except.error.inj h⟩
    · rintro ⟨_, he, rfl⟩
      cases he
      rfl
  | ok x =>
    constructor
    · intro h
      cases h
    · rintro ⟨_, he, -⟩
      cases he

/-- where a computation succeeds on every item, it does on the list -/
theorem except_mapM_of_forall {f : α → Except ε β} {g : α → β} {xs : List α} (h : ∀ x ∈ xs, f x = .ok (g x)) :
    xs.mapM f = .ok (xs.map g) := by
  induction xs with
  | nil => rfl
  | cons x xs ih =>
    simp only [List.mem_cons, forall_eq_or_imp] at h
    rw [List.mapM_cons, h.1, ih h.2]
    rfl

/-- where it fails on the list, it fails so on one of the items -/
theorem except_mapM_eq_error {f : α → Except ε β} {xs : List α} {e : ε} (h : xs.mapM f = .error e) :
    ∃ x ∈ xs, f x = .error e := by
  induction xs with
  | nil => cases h
  | cons x xs ih =>
    rw [List.mapM_cons] at h
    cases hx : f x with
    | error e' =>
      rw [hx] at h
      cases h
      exact ⟨x, List.mem_cons_self, hx⟩
    | ok y =>
      rw [hx] at h
      cases hxs : xs.mapM f with
      | error e' =>
        have he : e' = e := by simpa [hxs, bind, Except.bind] using h
        obtain ⟨x', hx', hfail⟩ := ih (he ▸ hxs)
        exact ⟨x', List.mem_cons_of_mem _ hx', hfail⟩
      | ok ys => simp [hxs, bind, Except.bind, pure, Except.pure] at h

/-- where it succeeds on the list, it does on every item -/
theorem except_mapM_ok_of_mem {f : α → Except ε β} {xs : List α} {ys : List β} (h : xs.mapM f = .ok ys) {x : α}
    (hx : x ∈ xs) : ∃ y, f x = .ok y := by
  induction xs generalizing ys with
  | nil => cases hx
  | cons x' xs ih =>
    rw [List.mapM_cons] at h
    obtain ⟨y, hy, hrest⟩ := except_bind_eq_ok.1 h
    obtain ⟨ys, hys, -⟩ := except_bind_eq_ok.1 hrest
    rcases List.mem_cons.1 hx with rfl | hx
    · exact ⟨y, hy⟩
    · exact ih hys hx

/-- what the results of a list have to do with its items, one by one -/
theorem except_mapM_map_eq {γ : Type} {f : α → Except ε β} {g : β → γ} {k : α → γ} {xs : List α} {ys : List β}
    (hf : ∀ x y, f x = .ok y → g y = k x) (h : xs.mapM f = .ok ys) : ys.map g = xs.map k := by
  induction xs generalizing ys with
  | nil =>
    cases h
    rfl
  | cons x xs ih =>
    rw [List.mapM_cons] at h
    obtain ⟨y, hy, hrest⟩ := except_bind_eq_ok.1 h
    obtain ⟨ys, hys, hcons⟩ := except_bind_eq_ok.1 hrest
    cases hcons
    rw [List.map_cons, hf x y hy, ih hys, List.map_cons]

/-- where it fails in one way only, and does so on some item, it fails so on the list -/
theorem except_mapM_error {f : α → Except ε β} {xs : List α} {e : ε} (hone : ∀ x ∈ xs, ∀ e', f x = .error e' → e' = e)
    (h : ∃ x ∈ xs, f x = .error e) : xs.mapM f = .error e := by
  obtain ⟨x, hx, hfail⟩ := h
  cases hxs : xs.mapM f with
  | error e' =>
    obtain ⟨x', hx', hfail'⟩ := except_mapM_eq_error hxs
    rw [hone x' hx' e' hfail']
  | ok ys =>
    obtain ⟨y, hy⟩ := except_mapM_ok_of_mem hxs hx
    rw [hfail] at hy
    cases hy

/-! ## Changed results -/

section Changed

variable {ε' α' β' : Type}

/-- a result with its failure and its value changed -/
def bimap (e : ε → ε') (f : α → α') : Except ε α → Except ε' α'
  | .error x => .error (e x)
  | .ok x => .ok (f x)

variable {e : ε → ε'} {f : α → α'} {g : β → β'}

theorem bimap_bind {a : Except ε α} {k : α → Except ε β} {k' : α' → Except ε' β'}
    (h : ∀ x, k' (f x) = bimap e g (k x)) : (bimap e f a >>= k') = bimap e g (a >>= k) := by
  cases a with
  | error x => rfl
  | ok x => exact h x

theorem bimap_bimap {ε'' α'' : Type} (e' : ε' → ε'') (f' : α' → α'') (a : Except ε α) :
    bimap e' f' (bimap e f a) = bimap (e' ∘ e) (f' ∘ f) a := by
  cases a <;> rfl

/-- the failure may be changed before a computation goes on -/
theorem bimap_mapError {δ δ' : Type} {d : ε → δ} {d' : ε' → δ'} {e' : δ → δ'} (h : ∀ x, d' (e x) = e' (d x))
    (a : Except ε α) : (bimap e f a).mapError d' = bimap e' f (a.mapError d) := by
  cases a with
  | error x => exact congrArg Except.error (h x)
  | ok x => rfl

theorem map_bimap {k : α → β} {k' : α' → β'} (h : ∀ x, k' (f x) = g (k x)) (a : Except ε α) :
    (bimap e f a).map k' = bimap e g (a.map k) := by
  cases a with
  | error x => rfl
  | ok x => exact congrArg Except.ok (h x)

theorem mapM_bimap {γ γ' : Type} {m : γ → γ'} {k : γ → Except ε α} {k' : γ' → Except ε' α'} (xs : List γ)
    (h : ∀ x ∈ xs, k' (m x) = bimap e f (k x)) : (xs.map m).mapM k' = bimap e (List.map f) (xs.mapM k) := by
  induction xs with
  | nil => rfl
  | cons x xs ih =>
    simp only [List.mem_cons, forall_eq_or_imp] at h
    rw [List.map_cons, List.mapM_cons, List.mapM_cons, h.1, ih h.2]
    exact bimap_bind fun y => bimap_bind fun ys => rfl

theorem foldlM_bimap {γ γ' : Type} {m : γ → γ'} {k : α → γ → Except ε α} {k' : α' → γ' → Except ε' α'}
    (h : ∀ s x, k' (f s) (m x) = bimap e f (k s x)) (xs : List γ) (s : α) :
    (xs.map m).foldlM k' (f s) = bimap e f (xs.foldlM k s) := by
  induction xs generalizing s with
  | nil => rfl
  | cons x xs ih =>
    rw [List.map_cons, List.foldlM_cons, List.foldlM_cons, h]
    exact bimap_bind ih

end Changed

end Crowfoot

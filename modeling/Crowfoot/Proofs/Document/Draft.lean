import Crowfoot.Proofs.Editing.WellFormed
import Crowfoot.Proofs.Items
import Crowfoot.Proofs.Outcome
import Crowfoot.Document.Draft

/-
Edits whose parts are still documents. Reading lists every constraint once, so that whatever documents an edit is made
of, it is validated when it comes to be applied.

- `readColumnSpec_validated`, `readColumnUpdate_validated`: what is read is validated.
- `Draft.drafts_wellFormed`: a well-formed schema stays well-formed under any drafts, those that are refused included;
  these may draw ids and leave the schema as it is.
-/

namespace Crowfoot

open IdSupply

theorem distinctConstraints_nodup (cs : List Constraint) : (distinctConstraints cs).Nodup :=
  Layout.distinct_nodup cs

namespace Document

open Reading

/-! ## What is read -/

theorem within_eq_ok {α : Type} {step : Step} {r : Reading α} {x : α} (h : within step r = .ok x) : r = .ok x := by
  unfold within at h
  split at h
  · cases h
  · exact h

theorem both_eq_ok {α β : Type} {a : Reading α} {b : Reading β} {x : α} {y : β} (h : both a b = .ok (x, y)) :
    a = .ok x ∧ b = .ok y := by
  unfold both at h
  split at h <;> cases h
  exact ⟨rfl, rfl⟩

/-- what an optional field gives is its default or was read -/
theorem optional_eq_ok {α : Type} {ms : List (String × Json)} {name : String} {default : α} {read : Json → Reading α}
    {x : α} (h : optional ms name default read = .ok x) : x = default ∨ ∃ v, read v = .ok x := by
  unfold optional at h
  split at h
  · exact Or.inr ⟨_, within_eq_ok h⟩
  · cases h
    exact Or.inl rfl

theorem nullable_eq_ok {α : Type} {read : Json → Reading α} {v : Json} {x : α} (h : nullable read v = .ok (some x)) :
    read v = .ok x := by
  unfold nullable at h
  split at h
  · cases h
  · obtain ⟨y, hy, hsome⟩ := except_map_eq_ok.1 h
    cases hsome
    exact hy

theorem readConstraints_nodup {v : Json} {cs : List Constraint} (h : readConstraints v = .ok cs) : cs.Nodup := by
  unfold readConstraints at h
  split at h
  · cases h
  · split at h
    · rename_i hcs
      cases h
      obtain ⟨ds, -, rfl⟩ := except_map_eq_ok.1 hcs
      exact distinctConstraints_nodup ds
    · cases h

theorem readColumnSpec_validated {o : Origin} {v : Json} {spec : ColumnSpec} (h : readColumnSpec o v = .ok spec) :
    spec.Validated := by
  unfold readColumnSpec at h
  obtain ⟨ms, -, h⟩ := except_bind_eq_ok.1 h
  obtain ⟨⟨name, type, constraints⟩, hparts, h⟩ := except_bind_eq_ok.1 h
  cases h
  rcases optional_eq_ok (both_eq_ok (both_eq_ok hparts).2).2 with rfl | ⟨v, hv⟩
  · exact List.nodup_nil
  · exact readConstraints_nodup hv

theorem readColumnUpdate_validated {o : Origin} {v : Json} {u : ColumnUpdate} (h : readColumnUpdate o v = .ok u) :
    u.Validated := by
  unfold readColumnUpdate at h
  obtain ⟨ms, -, h⟩ := except_bind_eq_ok.1 h
  obtain ⟨⟨name, type, constraints⟩, hparts, h⟩ := except_bind_eq_ok.1 h
  cases h
  rintro cs rfl
  rcases optional_eq_ok (both_eq_ok (both_eq_ok hparts).2).2 with hnone | ⟨v, hv⟩
  · cases hnone
  · exact readConstraints_nodup (nullable_eq_ok hv)

theorem leadingColumns_validated (vs : List Json) : ∀ spec ∈ (leadingColumns vs).1, spec.Validated := by
  induction vs with
  | nil => simp [leadingColumns]
  | cons v vs ih =>
    unfold leadingColumns
    split
    · simp
    · rename_i spec hspec
      simp only [List.mem_cons, forall_eq_or_imp]
      exact ⟨readColumnSpec_validated hspec, ih⟩

/-! ## What a draft does -/

namespace Draft

open Operation (Inv)

variable {σ : Type} [IdSupply σ] {s : Schema Float} {ids : σ}

/-- a part that reads as a validated operation makes a step of that operation, and one that is refused makes none -/
theorem applyRead_inv {α : Type} (h : Inv s ids) (part : Reading α) {f : α → Operation Float}
    (hf : ∀ x, part = .ok x → (f x).Validated) :
    Inv (settle s (applyRead s ids part f)).1 (settle s (applyRead s ids part f)).2 := by
  unfold applyRead
  split
  · exact h
  · rename_i x
    have hstep := Operation.step_inv h (f x) (hf x rfl)
    simp only [Operation.step] at hstep
    split
    · rename_i happly
      rw [happly] at hstep
      exact hstep
    · exact h

theorem step_inv (h : Inv s ids) (d : Draft) : Inv (step (s, ids) d).1 (step (s, ids) d).2 := by
  cases d with
  | addTable name position columns =>
    have hspecs := leadingColumns_validated columns
    simp only [step, apply]
    split
    · -- the ids of a table that is refused are gone, and the source is ahead of them too
      have hgone := h.ahead.addTable "" ⟨0, 0⟩ (leadingColumns columns).1
      refine ⟨hgone.subperm ?_, h.tidy⟩
      exact (List.sublist_append_right _ _).subperm.trans (Schema.appendTable_allIds s _).symm.subperm
    · exact h.addTable _ _ hspecs
  | addColumn tableId column =>
    simp only [step, apply]
    refine applyRead_inv h _ ?_
    exact fun _ hx => readColumnSpec_validated hx
  | updateColumn tableId columnId update =>
    simp only [step, apply]
    refine applyRead_inv h _ ?_
    exact fun _ hx => readColumnUpdate_validated hx
  | applyPositions positions =>
    simp only [step, apply]
    split
    · exact h
    · exact h.applyPositions _
  | _ =>
    simp only [step, apply]
    refine applyRead_inv h _ ?_
    exact fun _ _ => trivial

theorem run_inv (h : Inv s ids) (ds : List Draft) : Inv (run (s, ids) ds).1 (run (s, ids) ds).2 := by
  induction ds generalizing s ids with
  | nil => exact h
  | cons d ds ih => exact ih (step_inv h d)

/-- **Documents cannot break a schema.** Whatever documents the edits of a run are made of, the schema is well-formed
after every number of them. -/
theorem drafts_wellFormed (s : Schema Float) (ids : σ) (hs : s.WellFormed) (hids : Fresh s.allIds ids)
    (ds : List Draft) (n : ℕ) : (run (s, ids) (ds.take n)).1.WellFormed :=
  (run_inv ⟨⟨hs.ids, hids⟩, hs.tables⟩ (ds.take n)).wellFormed

end Draft

end Document

end Crowfoot

import Mathlib.Tactic
import Mathlib.Data.List.Perm.Subperm
import Crowfoot.Schema.Edit

/-
Sources of ids and the ids that are in use.

- `Draws`: a source that is asked for ids one after another, with what it hands out.
- `Fresh`: whatever a source is asked for, it hands out no id twice and none of the known ones.
- `Ahead`: the known ids are pairwise different and the source is fresh for them. This is what a run of edits carries
  along: ids that are drawn become known (`Ahead.draws`), and known ids may be forgotten (`Ahead.subperm`).
- `drawColumns_draws`: new columns have ids that are drawn for them.
-/

namespace Crowfoot

variable {σ : Type}

open scoped List

namespace IdSupply

variable [IdSupply σ]

/-- the ids that a source hands out for some letters, one after another -/
def issued : List String → σ → List String
  | [], _ => []
  | letter :: rest, ids => (newId letter ids).1 :: issued rest (newId letter ids).2

/-- asked for some ids, a source hands these out, in this order, and is then that source -/
inductive Draws : σ → List String → σ → Prop where
  | none (ids : σ) : Draws ids [] ids
  | next (letter : String) {ids ids' : σ} {drawn : List String} (rest : Draws (newId letter ids).2 drawn ids') :
    Draws ids ((newId letter ids).1 :: drawn) ids'

theorem Draws.one (letter : String) (ids : σ) : Draws ids [(newId letter ids).1] (newId letter ids).2 :=
  Draws.next letter (Draws.none _)

theorem Draws.trans {ids ids' ids'' : σ} {drawn drawn' : List String} (h : Draws ids drawn ids')
    (h' : Draws ids' drawn' ids'') : Draws ids (drawn ++ drawn') ids'' := by
  induction h with
  | none ids => exact h'
  | next letter rest ih => exact Draws.next letter (ih h')

/-- whatever it is asked for, the source hands out no id twice and none of the known ones -/
def Fresh (known : List String) (ids : σ) : Prop :=
  ∀ letters, (issued letters ids).Nodup ∧ ∀ id ∈ issued letters ids, id ∉ known

/-- the known ids are pairwise different, and the source will hand out others -/
structure Ahead (known : List String) (ids : σ) : Prop where
  nodup : known.Nodup
  fresh : Fresh known ids

variable {known known' : List String} {ids : σ}

theorem Fresh.newId_notMem (h : Fresh known ids) (letter : String) : (newId letter ids).1 ∉ known :=
  (h [letter]).2 _ List.mem_cons_self

theorem Fresh.next (h : Fresh known ids) (letter : String) :
    Fresh ((newId letter ids).1 :: known) (newId letter ids).2 := by
  intro letters
  obtain ⟨hnodup, hnew⟩ := h (letter :: letters)
  simp only [issued, List.nodup_cons] at hnodup
  refine ⟨hnodup.2, fun id hid => ?_⟩
  rw [List.mem_cons, not_or]
  exact ⟨fun heq => hnodup.1 (heq ▸ hid), hnew id (List.mem_cons_of_mem _ hid)⟩

/-- what is drawn from a fresh source is new -/
theorem Fresh.draws {known drawn : List String} {ids ids' : σ} (h : Fresh known ids) (hdraws : Draws ids drawn ids') :
    drawn.Nodup ∧ ∀ id ∈ drawn, id ∉ known := by
  induction hdraws generalizing known with
  | none ids => simp
  | next letter rest ih =>
    obtain ⟨hnodup, hnew⟩ := ih (h.next letter)
    simp only [List.nodup_cons, List.mem_cons, forall_eq_or_imp]
    exact ⟨⟨fun hmem => hnew _ hmem List.mem_cons_self, hnodup⟩, h.newId_notMem letter,
      fun id hid hknown => hnew id hid (List.mem_cons_of_mem _ hknown)⟩

theorem Fresh.mono (h : Fresh known ids) (hsub : known' ⊆ known) : Fresh known' ids :=
  fun letters => ⟨(h letters).1, fun id hid hk => (h letters).2 id hid (hsub hk)⟩

/-- a source is fresh if it can be said of its states that each draw is new and is known from then on -/
theorem Fresh.of_step (P : List String → σ → Prop)
    (hstep : ∀ known ids letter, P known ids →
      (newId letter ids).1 ∉ known ∧ P ((newId letter ids).1 :: known) (newId letter ids).2)
    (h : P known ids) : Fresh known ids := by
  intro letters
  induction letters generalizing known ids with
  | nil => simp [issued]
  | cons letter rest ih =>
    obtain ⟨hnew, hnext⟩ := hstep known ids letter h
    obtain ⟨hnodup, hrest⟩ := ih hnext
    simp only [issued, List.nodup_cons, List.mem_cons, forall_eq_or_imp]
    exact ⟨⟨fun hm => hrest _ hm List.mem_cons_self, hnodup⟩, hnew,
      fun id hid hk => hrest id hid (List.mem_cons_of_mem _ hk)⟩

theorem Ahead.next (h : Ahead known ids) (letter : String) :
    Ahead ((newId letter ids).1 :: known) (newId letter ids).2 :=
  ⟨List.nodup_cons.2 ⟨h.fresh.newId_notMem letter, h.nodup⟩, h.fresh.next letter⟩

theorem Ahead.subperm (h : Ahead known ids) (hsub : known' <+~ known) : Ahead known' ids := by
  refine ⟨?_, h.fresh.mono hsub.subset⟩
  obtain ⟨l, hperm, hl⟩ := hsub
  exact hperm.nodup_iff.1 (h.nodup.sublist hl)

theorem Ahead.perm (h : Ahead known ids) (hp : known' ~ known) : Ahead known' ids := h.subperm hp.subperm

/-- ids that are drawn are known from then on -/
theorem Ahead.draws {drawn : List String} {ids' : σ} (h : Ahead known ids) (hdraws : Draws ids drawn ids') :
    Ahead (drawn ++ known) ids' := by
  induction hdraws generalizing known with
  | none ids => exact h
  | next letter rest ih => exact (ih (h.next letter)).perm List.perm_middle.symm

end IdSupply

open IdSupply

variable [IdSupply σ]

@[simp] theorem ColumnSpec.build_id (spec : ColumnSpec) (id : String) : (spec.build id).id = id := rfl

theorem drawColumns_draws (specs : List ColumnSpec) (ids : σ) :
    Draws ids ((drawColumns specs ids).1.map (·.id)) (drawColumns specs ids).2 := by
  induction specs generalizing ids with
  | nil => exact Draws.none ids
  | cons spec specs ih => exact Draws.next columnLetter (ih _)

end Crowfoot

import Crowfoot.Proofs.Outcome
import Crowfoot.Proofs.Layout.Cycle
import Crowfoot.Proofs.Layout.Tightness
import Crowfoot.Proofs.Layout.Topological

/-
Ranks of a graph without cycles. Every node gets one, provided that the topological order lists all predecessors of a
node before it.

- `ranksBelow_spec`: where it does, every node finds the ranks of its predecessors; the rank that it is given is one
  more than the largest of them. `ranksBelow_error`: where it does not, some predecessor's rank is missed.
- `pullDowns_spec`: moving a loose node down reads the ranks of nodes that do not move.
- `assignRanks_spec`: so the ranks are those that the formulas give, which are tight. The smallest of them is zero
  without being subtracted.
- `assignRanks_tight`: if no node is given twice, no more is asked of it.
-/

namespace Crowfoot.Layout

open scoped List

variable {α : Type} [DecidableEq α] {order : List α} {edges : List (Edge α)}

/-- the rank of a node in a list of ranks, zero if it has none -/
def rankIn (ranks : Ranks α) (k : α) : ℤ := (ranks.lookup k).getD 0

/-! ## Lists of ranks -/

theorem rankIn_setRank (k j : α) (n : ℤ) (ranks : Ranks α) :
    rankIn (setRank k n ranks) j = if j = k then n else rankIn ranks j := by
  rw [rankIn, lookup_setRank]
  split_ifs <;> rfl

theorem setRank_keys (k : α) (n : ℤ) (ranks : Ranks α) :
    (setRank k n ranks).map (·.1) = if k ∈ ranks.map (·.1) then ranks.map (·.1) else ranks.map (·.1) ++ [k] := by
  induction ranks with
  | nil => rfl
  | cons r ranks ih =>
    simp only [setRank]
    split_ifs with hr hk hk
    · rfl
    · exact absurd (by simp [hr]) hk
    · have hin : k ∈ ranks.map (·.1) := (List.mem_cons.1 hk).resolve_left (Ne.symm hr)
      rw [List.map_cons, ih, if_pos hin, List.map_cons]
    · have hin : k ∉ ranks.map (·.1) := fun h => hk (List.mem_cons_of_mem _ h)
      rw [List.map_cons, ih, if_neg hin, List.map_cons, List.cons_append]

theorem setRank_keys_nodup {ranks : Ranks α} (h : (ranks.map (·.1)).Nodup) (k : α) (n : ℤ) :
    ((setRank k n ranks).map (·.1)).Nodup := by
  rw [setRank_keys]
  split_ifs with hk
  · exact h
  · exact List.concat_eq_append ▸ h.concat hk

theorem rankIn_of_mem {ranks : Ranks α} (h : (ranks.map (·.1)).Nodup) {r : α × ℤ} (hr : r ∈ ranks) :
    rankIn ranks r.1 = r.2 := by
  rw [rankIn, lookup_of_mem h hr]
  rfl

theorem lookup_eq_rankIn {ranks : Ranks α} {k : α} (h : k ∈ ranks.map (·.1)) :
    ranks.lookup k = some (rankIn ranks k) := by
  cases hk : ranks.lookup k with
  | none =>
    obtain ⟨r, hr, rfl⟩ := List.mem_map.1 h
    exact absurd (List.lookup_eq_none_iff.1 hk r hr) (by simp)
  | some n => rw [rankIn, hk]; rfl

theorem ranksOf_eq {ranks : Ranks α} {ks : List α} (h : ks ⊆ ranks.map (·.1)) :
    ranksOf ranks ks = .ok (ks.map (rankIn ranks)) := by
  refine except_mapM_of_forall fun k hk => ?_
  rw [lookup_eq_rankIn (h hk)]

theorem ranksOf_error {ranks : Ranks α} {ks : List α} (h : ¬ ks ⊆ ranks.map (·.1)) :
    ∃ k ∈ ks, ranksOf ranks ks = .error k := by
  cases hranks : ranksOf ranks ks with
  | error e =>
    obtain ⟨k, hk, hfail⟩ := except_mapM_eq_error hranks
    split at hfail
    · cases hfail
    · exact ⟨k, hk, congrArg _ (Except.error.inj hfail).symm⟩
  | ok ns =>
    refine absurd (fun k hk => ?_) h
    obtain ⟨n, hn⟩ := except_mapM_ok_of_mem hranks hk
    split at hn
    · rename_i hlookup
      obtain ⟨before, after, heq, -⟩ := List.lookup_eq_some_iff.1 hlookup
      exact List.mem_map.2 ⟨_, heq ▸ List.mem_append_right _ List.mem_cons_self, rfl⟩
    · cases hn

/-! ## The two passes -/

/-- a node whose predecessors have ranks gets its depth -/
theorem rankBelow_eq {ranks : Ranks α} {v : α} (hsub : predecessors edges v ⊆ ranks.map (·.1)) :
    rankBelow edges ranks v = .ok (setRank v (depthOf edges (rankIn ranks) v) ranks) := by
  have hmap : (predecessors edges v).map (rankIn ranks · + 1) =
      ((predecessors edges v).map (rankIn ranks)).map (· + 1) := by rw [List.map_map]; rfl
  rw [rankBelow, ranksOf_eq hsub, depthOf, hmap]
  rfl

/-- going on to one more node of a list -/
theorem ranksBelow_concat {before : List α} {v : α} {ranks : Ranks α}
    (hranks : before.foldlM (rankBelow edges) [] = .ok ranks) :
    (before ++ [v]).foldlM (rankBelow edges) [] = rankBelow edges ranks v := by
  rw [List.foldlM_append, hranks]
  simp only [List.foldlM_cons, List.foldlM_nil, bind_pure, except_ok_bind]

/-- where every node comes after its predecessors, going through the list from the top gives every node its depth -/
theorem ranksBelow_spec {listed : List α} (hforward : Forward edges listed) :
    ∃ ranks, listed.foldlM (rankBelow edges) [] = .ok ranks ∧ (ranks.map (·.1)).Nodup ∧
      (∀ v, v ∈ ranks.map (·.1) ↔ v ∈ listed) ∧ ∀ v ∈ listed, rankIn ranks v = depthOf edges (rankIn ranks) v := by
  induction listed using List.reverseRecOn with
  | nil => exact ⟨[], rfl, List.nodup_nil, by simp, nofun⟩
  | append_singleton before v ih =>
    obtain ⟨hbefore, hpreds⟩ := forward_concat.1 hforward
    obtain ⟨ranks, hranks, hnodup, hkeys, hdepth⟩ := ih hbefore
    have hstep : rankBelow edges ranks v = .ok (setRank v (depthOf edges (rankIn ranks) v) ranks) :=
      rankBelow_eq fun u hu => (hkeys u).2 (hpreds hu)
    -- a node that has a rank already is given the same again, and one that has none is no predecessor so far
    have hsame : ∀ u ∈ before, rankIn (setRank v (depthOf edges (rankIn ranks) v) ranks) u = rankIn ranks u := by
      intro u hu
      rw [rankIn_setRank]
      split_ifs with heq
      · rw [← heq, ← hdepth u hu]
      · rfl
    have hcover : ∀ w ∈ before ++ [v], predecessors edges w ⊆ before := by
      intro w hw
      rcases List.mem_append.1 hw with hw | hw
      · exact hbefore.predecessors_subset hw
      · exact List.mem_singleton.1 hw ▸ hpreds
    refine ⟨_, (ranksBelow_concat hranks).trans hstep, setRank_keys_nodup hnodup v _, fun w => ?_, fun w hw => ?_⟩
    · rw [setRank_keys]
      split_ifs with hin
      · have hv : v ∈ before := (hkeys v).1 hin
        rw [hkeys]
        simp only [List.mem_append, List.mem_singleton]
        exact ⟨Or.inl, fun h => h.elim id (· ▸ hv)⟩
      · simp only [List.mem_append, hkeys]
    · rw [depthOf_congr fun u he => hsame u (hcover w hw (mem_predecessors.2 he)), rankIn_setRank]
      split_ifs with heq
      · rw [heq]
      · exact hdepth w ((List.mem_append.1 hw).resolve_right fun h => heq (List.mem_singleton.1 h))

/-- where some node comes before one of its predecessors, the rank of that one is missed -/
theorem ranksBelow_error {listed : List α} (h : ¬ Forward edges listed) :
    ∃ e ∈ edges, listed.foldlM (rankBelow edges) [] = .error e.1 := by
  induction listed using List.reverseRecOn with
  | nil => exact absurd (Forward.nil edges) h
  | append_singleton before v ih =>
    by_cases hbefore : Forward edges before
    · obtain ⟨ranks, hranks, -, hkeys, -⟩ := ranksBelow_spec hbefore
      have hmissing : ¬ predecessors edges v ⊆ ranks.map (·.1) := fun hsub =>
        h (forward_concat.2 ⟨hbefore, fun u hu => (hkeys u).1 (hsub hu)⟩)
      obtain ⟨p, hp, hfail⟩ := ranksOf_error hmissing
      refine ⟨(p, v), mem_predecessors.1 hp, (ranksBelow_concat hranks).trans ?_⟩
      rw [rankBelow, hfail]
      rfl
    · obtain ⟨e, he, hfail⟩ := ih hbefore
      refine ⟨e, he, ?_⟩
      rw [List.foldlM_append, hfail]
      rfl

/-- a loose node whose successors have ranks is moved to their brink; another stays -/
theorem pullDown_eq {ranks : Ranks α} {k : α} (hsub : successors edges k ⊆ ranks.map (·.1)) :
    pullDown edges ranks k =
      .ok (if isLoose edges k then setRank k (brinkOf edges (rankIn ranks) k) ranks else ranks) := by
  rw [pullDown, ranksOf_eq hsub]
  unfold isLoose
  split_ifs <;> rfl

/-- moving nodes down one after another, in any order, moves the loose ones -/
theorem pullDowns_spec (hedges : Simple order edges) (ranks : Ranks α) (hkeys : order ⊆ ranks.map (·.1))
    (ks : List α) :
    ∃ ranks', ks.foldlM (pullDown edges) ranks = .ok ranks' ∧ ranks'.map (·.1) = ranks.map (·.1) ∧
      ∀ v, rankIn ranks' v = if v ∈ ks then pulledRank edges (rankIn ranks) v else rankIn ranks v := by
  induction ks using List.reverseRecOn with
  | nil => exact ⟨ranks, rfl, rfl, fun v => by simp⟩
  | append_singleton ks k ih =>
    obtain ⟨ranks', hranks', hkeys', hpulled⟩ := ih
    -- the successors are not loose, and have their first ranks still
    have hsame : ∀ v, (k, v) ∈ edges → rankIn ranks' v = rankIn ranks v := by
      intro v he
      rw [hpulled v, pulledRank, isLoose_of_mem he]
      simp
    have hsub : successors edges k ⊆ ranks'.map (·.1) := fun v hv =>
      hkeys' ▸ hkeys (hedges _ (mem_successors.1 hv)).2.1
    have hstep := pullDown_eq hsub
    rw [brinkOf_congr hsame] at hstep
    refine ⟨_, by rw [List.foldlM_append, hranks']; simp only [bind, Except.bind, List.foldlM_cons, hstep]; rfl, ?_,
      fun v => ?_⟩
    · split_ifs with hloose
      · have hsome : successors edges k ≠ [] := by
          simp only [isLoose, Bool.and_eq_true, Bool.not_eq_true'] at hloose
          exact fun h => by simp [h] at hloose
        obtain ⟨v, hv⟩ := List.exists_mem_of_ne_nil _ hsome
        have hin : k ∈ ranks'.map (·.1) := hkeys' ▸ hkeys (hedges _ (mem_successors.1 hv)).1
        rw [setRank_keys, if_pos hin, hkeys']
      · exact hkeys'
    · by_cases heq : v = k
      · subst heq
        by_cases hloose : isLoose edges v = true
        · simp [hloose, rankIn_setRank, pulledRank]
        · simp [hloose, hpulled v, pulledRank]
      · have hrank : rankIn (if isLoose edges k = true then setRank k (brinkOf edges (rankIn ranks) k) ranks' else
            ranks') v = rankIn ranks' v := by
          split_ifs
          · rw [rankIn_setRank, if_neg heq]
          · rfl
        rw [hrank, hpulled v]
        simp [heq]

/-! ## All ranks -/

omit [DecidableEq α] in
/-- where the smallest rank is zero, it takes nothing away -/
theorem shift_eq_self {ranks : Ranks α} (hnonneg : ∀ r ∈ ranks, 0 ≤ r.2) (hzero : ranks ≠ [] → ∃ r ∈ ranks, r.2 = 0) :
    (ranks.map fun r => (r.1, r.2 - (ranks.map (·.2)).min?.getD 0)) = ranks := by
  have hmin : (ranks.map (·.2)).min?.getD 0 = 0 := by
    by_cases hnil : ranks = []
    · rw [hnil]
      rfl
    · obtain ⟨r, hr, heq⟩ := hzero hnil
      have hsmallest : (ranks.map (·.2)).min? = some 0 := by
        refine List.min?_eq_some_iff.2 ⟨List.mem_map.2 ⟨r, hr, heq⟩, fun n hn => ?_⟩
        obtain ⟨r', hr', rfl⟩ := List.mem_map.1 hn
        exact hnonneg r' hr'
      rw [hsmallest]
      rfl
  rw [hmin]
  simp

/-- **Ranks.** In a graph without cycles every node gets a rank once, and the ranks are tight. -/
theorem assignRanks_spec (hforward : Forward edges (topological order edges)) (hedges : Simple order edges)
    (hacyclic : Acyclic edges) :
    ∃ ranks, assignRanks order edges = .ok ranks ∧ (ranks.map (·.1)).Nodup ∧
      (∀ v, v ∈ ranks.map (·.1) ↔ v ∈ order) ∧ Tight order edges (rankIn ranks) := by
  obtain ⟨hlisted, hgiven, -⟩ := topological_spec hedges hacyclic
  obtain ⟨below, hbelow, hnodup, hkeys, hdepth⟩ := ranksBelow_spec hforward
  have hends : ∀ e ∈ edges, e.1 ∈ order ∧ e.2 ∈ order := fun e he => ⟨(hedges e he).1, (hedges e he).2.1⟩
  have hdepths : Depths order edges (rankIn below) := ⟨hacyclic, hends, fun v hv => hdepth v (hlisted hv)⟩
  obtain ⟨ranks, hpulled, hsame, hrank⟩ := pullDowns_spec hedges below (fun v hv => (hkeys v).2 (hlisted hv))
    (topological order edges).reverse
  have hin : ∀ v, v ∈ ranks.map (·.1) ↔ v ∈ order := by
    intro v
    rw [hsame, hkeys]
    exact ⟨fun h => hgiven h, fun h => hlisted h⟩
  have hall : ∀ v ∈ order, rankIn ranks v = pulledRank edges (rankIn below) v := fun v hv => by
    rw [hrank v, if_pos (List.mem_reverse.2 (hlisted hv))]
  have htight : Tight order edges (rankIn ranks) := hdepths.tight.congr hends hall
  rw [← hsame] at hnodup
  have hnonneg : ∀ r ∈ ranks, 0 ≤ r.2 := by
    intro r hr
    rw [← rankIn_of_mem hnodup hr]
    exact htight.nonneg ((hin r.1).1 (List.mem_map_of_mem hr))
  have hzero : ranks ≠ [] → ∃ r ∈ ranks, r.2 = 0 := by
    intro hne
    obtain ⟨r, hr⟩ := List.exists_mem_of_ne_nil _ hne
    have hv : r.1 ∈ order := (hin r.1).1 (List.mem_map_of_mem hr)
    obtain ⟨u, hu, hzero⟩ := htight.full r.1 hv 0 le_rfl (htight.nonneg hv)
    obtain ⟨r', hr', rfl⟩ := List.mem_map.1 ((hin u).2 hu)
    exact ⟨r', hr', by rw [← rankIn_of_mem hnodup hr', hzero]⟩
  refine ⟨ranks, ?_, hnodup, hin, htight⟩
  rw [assignRanks, hbelow]
  simp only [bind, Except.bind, hpulled]
  exact congrArg Except.ok (shift_eq_self hnonneg hzero)

/-- where the topological order does not list all predecessors of a node before it, some node's rank is missed -/
theorem assignRanks_error (h : ¬ Forward edges (topological order edges)) :
    ∃ e ∈ edges, assignRanks order edges = .error e.1 := by
  obtain ⟨e, he, hfail⟩ := ranksBelow_error h
  refine ⟨e, he, ?_⟩
  rw [assignRanks, hfail]
  rfl

/-- **Ranks are tight.** Of any graph without cycles whose nodes are given once, every node gets a rank, once: the
smallest rank is zero, a node with predecessors is one below the lowest of them, one with successors only is one above
the highest of them, one without either is at the top, and every rank down to the largest is taken. -/
theorem assignRanks_tight (horder : order.Nodup) (hends : ∀ e ∈ edges, e.1 ∈ order ∧ e.2 ∈ order)
    (hfree : CycleFree edges) :
    ∃ ranks, assignRanks order edges = .ok ranks ∧ ranks.map (·.1) ~ order ∧ Tight order edges (rankIn ranks) := by
  have hedges := hfree.simple hends
  have hacyclic := acyclic_iff_cycleFree.2 hfree
  have hforward := (topological_spec hedges hacyclic).2.2 (unrepeated_of_nodup horder edges)
  obtain ⟨ranks, hranks, hnodup, hin, htight⟩ := assignRanks_spec hforward hedges hacyclic
  exact ⟨ranks, hranks, (List.perm_ext_iff_of_nodup hnodup horder).2 hin, htight⟩

/-- payments lead to people over orders, visits do directly, and notes lead nowhere -/
def shopRefs : List (Edge String) := [("payments", "orders"), ("orders", "people"), ("visits", "people")]

def shopTables : List String := ["people", "visits", "payments", "orders", "notes"]

/-- visits are moved down to the rank of orders -/
theorem assignRanks_tight_shop :
    shopTables.Nodup ∧ (∀ e ∈ shopRefs, e.1 ∈ shopTables ∧ e.2 ∈ shopTables) ∧ CycleFree shopRefs ∧
      ∃ ranks, assignRanks shopTables shopRefs = .ok ranks ∧ Tight shopTables shopRefs (rankIn ranks) ∧
        ranks = [("visits", 1), ("payments", 0), ("notes", 0), ("orders", 1), ("people", 2)] := by
  have horder : shopTables.Nodup := by decide
  have hends : ∀ e ∈ shopRefs, e.1 ∈ shopTables ∧ e.2 ∈ shopTables := by decide
  have hfree : CycleFree shopRefs :=
    Acyclic.cycleFree ⟨fun id => if id = "people" then 2 else if id = "orders" then 1 else 0, by decide⟩
  obtain ⟨ranks, hranks, -, htight⟩ := assignRanks_tight horder hends hfree
  have heq : assignRanks shopTables shopRefs =
      .ok [("visits", 1), ("payments", 0), ("notes", 0), ("orders", 1), ("people", 2)] := by decide
  exact ⟨horder, hends, hfree, ranks, hranks, htight, Except.ok.inj (hranks.symm.trans heq)⟩

end Crowfoot.Layout

import Crowfoot.Proofs.Items
import Mathlib.Algebra.BigOperators.Group.Finset.Basic
import Mathlib.Algebra.Order.BigOperators.Group.Finset

/-
The depth-first walk through a graph, and what it leaves: an order in which all edges lead forward once those that
lead back are turned round.

- `Walk.line`: the nodes met so far in one line, the outermost of those being visited first and the first one left
  behind last. A step that enters a node inserts it; no other step changes the line.
- `Walk.Inv`: an edge that was looked at leads forward in the line, or it was found to lead back and does so.
- `Walk.left`: the steps that are left. Every step is one of them, so that the fuel of a visit is enough.
- `breakCycles_acyclic`: the graph with its cycles broken has none.
-/

namespace Crowfoot.Layout

open scoped List

variable {α : Type}

/-- the nodes can be numbered so that the number grows along every edge -/
def Acyclic (edges : List (Edge α)) : Prop := ∃ height : α → ℕ, ∀ e ∈ edges, height e.1 < height e.2

namespace Walk

/-- the nodes met so far: those being visited, outermost first, and those left behind, latest first -/
def line (w : Walk α) : List α := (w.path.map (·.1)).reverse ++ w.finished

/-- an edge that was looked at led back, or its ends stand in the line in its direction -/
def BackOrForward (w : Walk α) (u v : α) : Prop := (u, v) ∈ w.back ∨ [u, v] <+ w.line

/-- a walk among some nodes, as far as it has come -/
structure Inv (next : α → List α) (order : List α) (w : Walk α) : Prop where
  nodup : w.line.Nodup
  subset : w.line ⊆ order
  back : ∀ e ∈ w.back, [e.2, e.1] <+ w.line
  visiting : ∀ p ∈ w.path, ∃ looked, next p.1 = looked ++ p.2 ∧ ∀ v ∈ looked, w.BackOrForward p.1 v
  finished : ∀ u ∈ w.finished, ∀ v ∈ next u, w.BackOrForward u v

variable {w w' : Walk α} {u v : α}

theorem BackOrForward.mono (h : w.BackOrForward u v) (hline : w.line <+ w'.line) (hback : w.back ⊆ w'.back) :
    w'.BackOrForward u v :=
  h.imp (fun hb => hback hb) fun hl => hl.trans hline

/-- entering a node puts it between those being visited and those left behind -/
theorem line_enter (w : Walk α) (v : α) (vs : List α) :
    ({ w with path := (v, vs) :: w.path } : Walk α).line = (w.path.map (·.1)).reverse ++ v :: w.finished := by
  simp [line]

theorem sublist_enter (w : Walk α) (v : α) (vs : List α) :
    w.line <+ ({ w with path := (v, vs) :: w.path } : Walk α).line := by
  rw [line_enter]
  exact (List.Sublist.refl _).append (List.sublist_cons_self _ _)

/-- a node being visited stands before every node left behind -/
theorem sublist_line (hu : u ∈ w.path.map (·.1)) (hv : v ∈ w.finished) : [u, v] <+ w.line :=
  (List.singleton_sublist.2 (List.mem_reverse.2 hu)).append (List.singleton_sublist.2 hv)

variable {next : α → List α} {order : List α}

/-- a walk that has looked at one more edge from a node being visited -/
theorem Inv.look {vs : List α} (h : Inv next order w) (front : List (α × List α)) {rest : List (α × List α)}
    (hpath : w.path = front ++ (u, v :: vs) :: rest) (hpath' : w'.path = front ++ (u, vs) :: rest)
    (hfinished : w'.finished = w.finished) (hback : w.back ⊆ w'.back)
    (hnew : ∀ e ∈ w'.back, e ∈ w.back ∨ [e.2, e.1] <+ w.line) (huv : w'.BackOrForward u v) : Inv next order w' := by
  have hline : w'.line = w.line := by simp [line, hpath, hpath', hfinished]
  have hmono : ∀ {a b}, w.BackOrForward a b → w'.BackOrForward a b := fun hl =>
    hl.mono (hline ▸ List.Sublist.refl _) hback
  refine ⟨hline ▸ h.nodup, hline ▸ h.subset, fun e he => ?_, fun p hp => ?_, fun a ha b hb => ?_⟩
  · rw [hline]
    exact (hnew e he).elim (h.back e) id
  · have hold : p ∈ w.path ∨ p = (u, vs) := by
      simp only [hpath', List.mem_append, List.mem_cons] at hp
      simp only [hpath, List.mem_append, List.mem_cons]
      tauto
    rcases hold with hp | rfl
    · obtain ⟨looked, hnext, hlooked⟩ := h.visiting p hp
      exact ⟨looked, hnext, fun b hb => hmono (hlooked b hb)⟩
    · obtain ⟨looked, hnext, hlooked⟩ := h.visiting (u, v :: vs) (by simp [hpath])
      refine ⟨looked ++ [v], by simpa using hnext, fun b hb => ?_⟩
      rcases List.mem_append.1 hb with hb | hb
      · exact hmono (hlooked b hb)
      · rw [List.mem_singleton.1 hb]
        exact huv
  · rw [hfinished] at ha
    exact hmono (h.finished a ha b hb)

/-- a walk that enters a node it has not met -/
theorem Inv.enter (h : Inv next order w) (hv : v ∈ order) (hnew : v ∉ w.line) :
    Inv next order { w with path := (v, next v) :: w.path } := by
  have hsub := w.sublist_enter v (next v)
  have hperm : ({ w with path := (v, next v) :: w.path } : Walk α).line ~ v :: w.line := by
    rw [line_enter]
    exact List.perm_middle
  have hmono : ∀ {a b}, w.BackOrForward a b → ({ w with path := (v, next v) :: w.path } : Walk α).BackOrForward a b :=
    fun hl => hl.mono hsub (List.Subset.refl _)
  refine ⟨hperm.nodup_iff.2 (List.nodup_cons.2 ⟨hnew, h.nodup⟩), fun a ha => ?_, fun e he => (h.back e he).trans hsub,
    fun p hp => ?_, fun a ha b hb => hmono (h.finished a ha b hb)⟩
  · rcases List.mem_cons.1 (hperm.subset ha) with rfl | ha
    · exact hv
    · exact h.subset ha
  · rcases List.mem_cons.1 hp with rfl | hp
    · exact ⟨[], rfl, nofun⟩
    · obtain ⟨looked, hnext, hlooked⟩ := h.visiting p hp
      exact ⟨looked, hnext, fun b hb => hmono (hlooked b hb)⟩

/-- a walk that leaves the innermost node -/
theorem Inv.leave {rest : List (α × List α)} (h : Inv next order w) (hpath : w.path = (u, []) :: rest) :
    Inv next order { w with path := rest, finished := u :: w.finished } := by
  have hline : ({ w with path := rest, finished := u :: w.finished } : Walk α).line = w.line := by
    simp [line, hpath]
  have hmono : ∀ {a b}, w.BackOrForward a b →
      ({ w with path := rest, finished := u :: w.finished } : Walk α).BackOrForward a b :=
    fun hl => hl.mono (hline ▸ List.Sublist.refl _) (List.Subset.refl _)
  refine ⟨hline ▸ h.nodup, hline ▸ h.subset, fun e he => hline ▸ h.back e he, fun p hp => ?_, fun a ha b hb => ?_⟩
  · obtain ⟨looked, hnext, hlooked⟩ := h.visiting p (hpath ▸ List.mem_cons_of_mem _ hp)
    exact ⟨looked, hnext, fun b hb => hmono (hlooked b hb)⟩
  · rcases List.mem_cons.1 ha with rfl | ha
    · -- nothing is left to be looked at, so everything was
      obtain ⟨looked, hnext, hlooked⟩ := h.visiting (a, []) (hpath ▸ List.mem_cons_self)
      exact hmono (hlooked b (by simpa [hnext] using hb))
    · exact hmono (h.finished a ha b hb)

variable [DecidableEq α]

theorem hasSeen_iff : w.hasSeen v = true ↔ v ∈ w.line := by
  simp [hasSeen, isOpen, line]

theorem step_inv (hnext : ∀ u ∈ order, ∀ v ∈ next u, v ∈ order ∧ v ≠ u) (h : Inv next order w) :
    Inv next order (w.step next) := by
  unfold step
  split
  · exact h
  · rename_i u rest hpath
    exact h.leave hpath
  · rename_i u v vs rest hpath
    have hu : u ∈ w.path.map (·.1) := by simp [hpath]
    have huline : u ∈ w.line := List.mem_append_left _ (List.mem_reverse.2 hu)
    obtain ⟨looked, hlooked, -⟩ := h.visiting (u, v :: vs) (hpath ▸ List.mem_cons_self)
    obtain ⟨hv, hne⟩ := hnext u (h.subset huline) v (by rw [hlooked]; simp)
    dsimp only
    split_ifs with hopen hfinished
    · -- the node is being visited further out
      have hrest : v ∈ rest.map (·.1) := by simpa [isOpen, hpath, Ne.symm hne] using hopen
      have hback : [v, u] <+ w.line := by
        simp only [line, hpath, List.map_cons, List.reverse_cons, List.append_assoc]
        exact (List.singleton_sublist.2 (List.mem_reverse.2 hrest)).append (by simp)
      refine h.look [] hpath rfl rfl (List.subset_cons_self _ _) (fun e he => ?_)
        (Or.inl List.mem_cons_self)
      rcases List.mem_cons.1 he with rfl | he
      · exact Or.inr hback
      · exact Or.inl he
    · refine h.look [] hpath rfl rfl (List.Subset.refl _) (fun e he => Or.inl he) (Or.inr ?_)
      have hline : ({ w with path := (u, vs) :: rest } : Walk α).line = w.line := by simp [line, hpath]
      rw [hline]
      exact sublist_line hu (by simpa using hfinished)
    · have hfresh : v ∉ w.line := by
        rw [← hasSeen_iff, hasSeen]
        simpa [hopen] using hfinished
      -- first the node is entered, then the edge to it counts as looked at
      have hentered : (v, next v) :: w.path = [(v, next v)] ++ (u, v :: vs) :: rest := by rw [hpath]; rfl
      refine (h.enter hv hfresh).look [(v, next v)] hentered rfl rfl (List.Subset.refl _) (fun e he => Or.inl he)
        (Or.inr ?_)
      have hline : ({ w with path := (v, next v) :: (u, vs) :: rest } : Walk α).line =
          (w.path.map (·.1)).reverse ++ v :: w.finished := by simp [line, hpath]
      rw [hline]
      exact (List.singleton_sublist.2 (List.mem_reverse.2 hu)).append (by simp)

/-! ## All steps -/

/-- the edges still to be looked at and the nodes still to be left, a step for each -/
def left (next : α → List α) (order : List α) (w : Walk α) : ℕ :=
  (w.path.map fun p => p.2.length + 1).sum + ∑ u ∈ order.toFinset \ w.line.toFinset, ((next u).length + 1)

/-- a node that is entered leaves as much to do as before: its edges and itself, which were not met -/
theorem left_enter (hv : v ∈ order) (hnew : v ∉ w.line) :
    left next order { w with path := (v, next v) :: w.path } = left next order w := by
  have hline : ({ w with path := (v, next v) :: w.path } : Walk α).line.toFinset = insert v w.line.toFinset := by
    rw [line_enter, List.toFinset_eq_of_perm _ _ List.perm_middle, List.toFinset_cons]
    rfl
  have hmem : v ∈ order.toFinset \ w.line.toFinset := by simp [hv, hnew]
  have hsum := Finset.add_sum_erase _ (fun u => (next u).length + 1) hmem
  simp only [left, hline, Finset.sdiff_insert, List.map_cons, List.sum_cons]
  omega

/-- every step is one of those that were left -/
theorem left_step (hnext : ∀ u ∈ order, ∀ v ∈ next u, v ∈ order ∧ v ≠ u) (h : Inv next order w) (hpath : w.path ≠ []) :
    left next order (w.step next) + 1 = left next order w := by
  unfold step
  split
  · contradiction
  · rename_i u rest hpath
    have hline : ({ w with path := rest, finished := u :: w.finished } : Walk α).line = w.line := by simp [line, hpath]
    simp only [left, hline, hpath, List.map_cons, List.sum_cons, List.length_nil]
    omega
  · rename_i u v vs rest hpath
    -- without the edge there is one thing less to do, whatever it leads to
    have hlook : ∀ back, left next order ⟨(u, vs) :: rest, w.finished, back⟩ + 1 = left next order w := by
      intro back
      have hline : (⟨(u, vs) :: rest, w.finished, back⟩ : Walk α).line = w.line := by simp [line, hpath]
      simp only [left, hline, hpath, List.map_cons, List.sum_cons, List.length_cons]
      omega
    dsimp only
    split_ifs with hopen hfinished
    · exact hlook _
    · exact hlook _
    · have hu : u ∈ w.line := by simp [line, hpath]
      obtain ⟨looked, hlooked, -⟩ := h.visiting (u, v :: vs) (hpath ▸ List.mem_cons_self)
      have hv := (hnext u (h.subset hu) v (by rw [hlooked]; simp)).1
      have hfresh : v ∉ ({ w with path := (u, vs) :: rest } : Walk α).line := by
        have hnew : v ∉ w.line := by
          rw [← hasSeen_iff, hasSeen]
          simpa [hopen] using hfinished
        simpa [line, hpath] using hnew
      rw [left_enter hv hfresh]
      exact hlook _

theorem line_step (next : α → List α) (w : Walk α) : w.line <+ (w.step next).line := by
  unfold step
  split
  · exact List.Sublist.refl _
  · rename_i u rest hpath
    simp [line, hpath]
  · rename_i u v vs rest hpath
    have hline : w.line = ({ w with path := (u, vs) :: rest } : Walk α).line := by simp [line, hpath]
    dsimp only
    split_ifs
    · rw [hline]; exact List.Sublist.refl _
    · rw [hline]
    · rw [hline]; exact sublist_enter _ v (next v)

/-- with a step of fuel for all that is left, the walk ends with no node being visited -/
theorem finish_spec (hnext : ∀ u ∈ order, ∀ v ∈ next u, v ∈ order ∧ v ≠ u) (fuel : ℕ) (h : Inv next order w)
    (hfuel : left next order w ≤ fuel) :
    Inv next order (finish next fuel w) ∧ (finish next fuel w).path = [] ∧ w.line <+ (finish next fuel w).line := by
  induction fuel generalizing w with
  | zero =>
    refine ⟨h, ?_, List.Sublist.refl _⟩
    cases hpath : w.path with
    | nil => exact hpath
    | cons p rest => simp [left, hpath] at hfuel
  | succ fuel ih =>
    by_cases hpath : w.path = []
    · simp [finish, hpath, h]
    · have hleft := left_step hnext h hpath
      obtain ⟨hinv, hend, hline⟩ := ih (step_inv hnext h) (by omega)
      simp only [finish, List.isEmpty_iff, hpath, if_false]
      exact ⟨hinv, hend, (line_step next w).trans hline⟩

/-- a visit meets its node and forgets none -/
theorem visit_spec (hnext : ∀ u ∈ order, ∀ v ∈ next u, v ∈ order ∧ v ≠ u) {fuel : ℕ} (h : Inv next order w)
    (hpath : w.path = []) (hfuel : ∑ u ∈ order.toFinset, ((next u).length + 1) ≤ fuel) (hu : u ∈ order) :
    Inv next order (visit next fuel w u) ∧ (visit next fuel w u).path = [] ∧
      w.line ⊆ (visit next fuel w u).line ∧ u ∈ (visit next fuel w u).line := by
  unfold visit
  split_ifs with hseen
  · exact ⟨h, hpath, List.Subset.refl _, hasSeen_iff.1 hseen⟩
  · have hnew : u ∉ w.line := fun hu => hseen (hasSeen_iff.2 hu)
    have hstart : ({ w with path := [(u, next u)] } : Walk α) = { w with path := (u, next u) :: w.path } := by
      rw [hpath]
    have hleft : left next order { w with path := (u, next u) :: w.path } ≤ fuel := by
      rw [left_enter hu hnew]
      refine le_trans ?_ hfuel
      simp only [left, hpath, List.map_nil, List.sum_nil, Nat.zero_add]
      exact Finset.sum_le_sum_of_subset Finset.sdiff_subset
    obtain ⟨hinv, hend, hline⟩ := finish_spec hnext fuel (h.enter hu hnew) hleft
    rw [hstart]
    refine ⟨hinv, hend, ((sublist_enter w u (next u)).trans hline).subset, hline.subset ?_⟩
    rw [line_enter]
    simp

/-- visits to some nodes one after another -/
theorem visits_spec (hnext : ∀ u ∈ order, ∀ v ∈ next u, v ∈ order ∧ v ≠ u) {fuel : ℕ} (h : Inv next order w)
    (hpath : w.path = []) (hfuel : ∑ u ∈ order.toFinset, ((next u).length + 1) ≤ fuel) {us : List α}
    (hus : us ⊆ order) :
    Inv next order (us.foldl (visit next fuel) w) ∧ (us.foldl (visit next fuel) w).path = [] ∧
      w.line ⊆ (us.foldl (visit next fuel) w).line ∧ us ⊆ (us.foldl (visit next fuel) w).line := by
  induction us generalizing w with
  | nil => exact ⟨h, hpath, List.Subset.refl _, List.nil_subset _⟩
  | cons u us ih =>
    obtain ⟨hu, hus⟩ := List.cons_subset.1 hus
    obtain ⟨hinv, hend, hline, hmet⟩ := visit_spec hnext h hpath hfuel hu
    obtain ⟨hinv', hend', hline', hmet'⟩ := ih hinv hend hus
    exact ⟨hinv', hend', List.Subset.trans hline hline', List.cons_subset.2 ⟨hline' hmet, hmet'⟩⟩

end Walk

/-! ## Graphs -/

/-- the edges of a graph join nodes of it, and no node with itself -/
def Simple (order : List α) (edges : List (Edge α)) : Prop := ∀ e ∈ edges, e.1 ∈ order ∧ e.2 ∈ order ∧ e.1 ≠ e.2

variable [DecidableEq α] {order : List α} {edges : List (Edge α)}

@[simp] theorem mem_successors {u v : α} : v ∈ successors edges u ↔ (u, v) ∈ edges := by
  simp [successors]

@[simp] theorem mem_predecessors {u v : α} : u ∈ predecessors edges v ↔ (u, v) ∈ edges := by
  simp [predecessors]

/-- the edges that leave some nodes are no more than all edges -/
theorem sum_successors_le (edges : List (Edge α)) (nodes : Finset α) :
    ∑ u ∈ nodes, (successors edges u).length ≤ edges.length := by
  induction edges with
  | nil => simp [successors]
  | cons e edges ih =>
    have hone : ∀ u, (successors (e :: edges) u).length = (if e.1 = u then 1 else 0) + (successors edges u).length := by
      intro u
      simp only [successors, List.filter_cons, decide_eq_true_eq]
      split_ifs <;> simp [Nat.add_comm]
    simp only [hone, Finset.sum_add_distrib, Finset.sum_ite_eq]
    rw [List.length_cons]
    split_ifs <;> omega

theorem linkEdges_simple (nodes : List α) (links : List (α × α)) : Simple nodes (linkEdges nodes links) := by
  intro e he
  simp only [linkEdges, mem_distinct, List.mem_filter, ne_eq, Bool.and_eq_true, decide_eq_true_eq,
    List.contains_iff_mem] at he
  obtain ⟨-, ⟨hne, hsource⟩, htarget⟩ := he
  exact ⟨hsource, htarget, by simpa using hne⟩

/-- from some nodes of a graph, with a unit of fuel for every node and every edge, walks come to an end -/
theorem visits_end (h : Simple order edges) {fuel : ℕ} (hfuel : order.length + edges.length ≤ fuel) {starts : List α}
    (hstarts : starts ⊆ order) :
    let w := starts.foldl (Walk.visit (successors edges) fuel) Walk.start
    Walk.Inv (successors edges) order w ∧ w.path = [] ∧ starts ⊆ w.line := by
  have hnext : ∀ u ∈ order, ∀ v ∈ successors edges u, v ∈ order ∧ v ≠ u := by
    intro u _ v hv
    obtain ⟨-, hin, hne⟩ := h (u, v) (mem_successors.1 hv)
    exact ⟨hin, Ne.symm hne⟩
  have hstart : Walk.Inv (successors edges) order Walk.start := by
    constructor <;> simp [Walk.start, Walk.line]
  have hall : ∑ u ∈ order.toFinset, ((successors edges u).length + 1) ≤ order.length + edges.length := by
    rw [Finset.sum_add_distrib, Finset.sum_const, smul_eq_mul, mul_one]
    have := sum_successors_le edges order.toFinset
    have := order.toFinset_card_le
    omega
  obtain ⟨hinv, hend, -, hmet⟩ := Walk.visits_spec hnext hstart rfl (hall.trans hfuel) hstarts
  exact ⟨hinv, hend, hmet⟩

/-- the walk through a graph looks at every edge -/
theorem walkGraph_spec (h : Simple order edges) :
    Walk.Inv (successors edges) order (walkGraph order edges) ∧ (walkGraph order edges).path = [] ∧
      order ⊆ (walkGraph order edges).finished := by
  obtain ⟨hinv, hend, hmet⟩ := visits_end h le_rfl (List.Subset.refl order)
  rw [← walkGraph] at hinv hend hmet
  refine ⟨hinv, hend, fun u hu => ?_⟩
  simpa [Walk.line, hend] using hmet hu

theorem idxOf_lt_of_sublist {xs : List α} {a b : α} (hnodup : xs.Nodup) (h : [a, b] <+ xs) :
    xs.idxOf a < xs.idxOf b := by
  induction xs with
  | nil => cases h
  | cons x xs ih =>
    rw [List.nodup_cons] at hnodup
    cases h with
    | cons _ h =>
      have ha : x ≠ a := fun heq => hnodup.1 (heq ▸ h.subset (by simp))
      have hb : x ≠ b := fun heq => hnodup.1 (heq ▸ h.subset (by simp))
      rw [List.idxOf_cons_ne _ ha, List.idxOf_cons_ne _ hb]
      exact Nat.succ_lt_succ (ih hnodup.2 h)
    | cons_cons _ h =>
      have hb : a ≠ b := fun heq => hnodup.1 (heq ▸ h.subset (by simp))
      rw [List.idxOf_cons_self, List.idxOf_cons_ne _ hb]
      exact Nat.succ_pos _

theorem breakCycles_simple (h : Simple order edges) : Simple order (breakCycles order edges) := by
  intro e he
  obtain ⟨e', he', rfl⟩ := List.mem_map.1 (mem_distinct.1 he)
  obtain ⟨hsource, htarget, hne⟩ := h e' he'
  unfold turned
  split_ifs
  · exact ⟨htarget, hsource, Ne.symm hne⟩
  · exact ⟨hsource, htarget, hne⟩

/-- **Broken cycles.** With the edges turned round that the walk finds to lead back, all edges lead forward in the
order in which nodes are left behind, the latest first. -/
theorem breakCycles_acyclic (h : Simple order edges) : Acyclic (breakCycles order edges) := by
  obtain ⟨hinv, hend, hmet⟩ := walkGraph_spec h
  have hline : (walkGraph order edges).line = (walkGraph order edges).finished := by simp [Walk.line, hend]
  have hnodup := hline ▸ hinv.nodup
  refine ⟨fun u => (walkGraph order edges).finished.idxOf u, fun e he => idxOf_lt_of_sublist hnodup ?_⟩
  obtain ⟨e', he', rfl⟩ := List.mem_map.1 (mem_distinct.1 he)
  unfold turned
  split_ifs with hback
  · exact hline ▸ hinv.back e' (List.contains_iff_mem.1 hback)
  · have hlooked := hinv.finished e'.1 (hmet (h e' he').1) e'.2 (mem_successors.2 he')
    rcases hlooked with hin | hforward
    · exact absurd (List.contains_iff_mem.2 hin) hback
    · exact hline ▸ hforward

end Crowfoot.Layout

import ModelLayout.Proofs.DocumentOrder

/-!
# The trees of an outline

An outline may have several nodes that stand under no other, and so be several trees.  Here its
trees are tied to its links, whatever they are: the trees have as roots the nodes that stand under
no other, in the order of their numbers, and right below a node of a tree are the nodes that name
it.  So the tree of the root holds nothing but nodes that can be reached from the root.

## Main definitions

* `Rose.BackwardFrom` — the links from some number on, each of which names an earlier node.
* `Outline.Reachable` — the nodes that can be reached from the root.

## Main results

* `Rose.map_label_pending`, `Rose.everywhere_pending` — the roots of the trees that links describe,
  and what is right below their nodes.
* `Outline.everywhere_trees` — right below a node of a tree are the children of the node.
* `Outline.root?_eq` — the root of an outline is the root of its first tree.
* `Outline.reachable_of_mem_rootTree?` — the nodes of the first tree can be reached from the root.
-/

namespace ModelLayout
namespace Rose

variable {α : Type}

/-! ### Roots -/

/-- Every link names an earlier node, where the first link has the number `next`. -/
def BackwardFrom (next : Nat) (links : List (Link α)) : Prop :=
  ∀ (i p : Nat) (a : α), links[i]? = some (some p, a) → p < next + i

theorem BackwardFrom.head {next : Nat} {l : Link α} {links : List (Link α)}
    (h : BackwardFrom next (l :: links)) : ∀ p, l.1 = some p → p < next := by
  intro p hp
  have hget : (l :: links)[0]? = some (some p, l.2) := by rw [← hp]; rfl
  simpa using h 0 p l.2 hget

theorem BackwardFrom.tail {next : Nat} {l : Link α} {links : List (Link α)}
    (h : BackwardFrom next (l :: links)) : BackwardFrom (next + 1) links := by
  intro i p a hget
  have hlt := h (i + 1) p a (by simpa using hget)
  omega

/-- Choosing trees by what they stand under is choosing their roots. -/
theorem map_label_filter (q : Option Nat → Bool) (trees : List (Link (Rose α))) :
    (trees.filter (q ·.1)).map (Prod.map id label) =
      (trees.map (Prod.map id label)).filter (q ·.1) := by
  rw [List.filter_map]
  rfl

theorem map_label_map_snd (q : Option Nat → Bool) (trees : List (Link (Rose α))) :
    ((trees.filter (q ·.1)).map (·.2)).map label =
      ((trees.map (Prod.map id label)).filter (q ·.1)).map Prod.snd := by
  rw [← map_label_filter, List.map_map, List.map_map]
  rfl

/-- The trees that links describe have as roots the links that name no node among them. -/
theorem map_label_pending {links : List (Link α)} : ∀ {next : Nat}, BackwardFrom next links →
    (pending next links).map (Prod.map id label) = links.filter (·.1.all (· < next)) := by
  induction links with
  | nil => intro next _; rfl
  | cons l links ih =>
    intro next h
    obtain ⟨parent, a⟩ := l
    have hhead : parent.all (· < next) = true := by
      cases parent with
      | none => rfl
      | some p => simpa using h.head p rfl
    -- a later tree that does not stand under this node stands under an earlier one
    have hother : ∀ l : Link α,
        (l.1 != some next && l.1.all (· < next + 1)) = l.1.all (· < next) := by
      rintro ⟨_ | p, b⟩
      · rfl
      · rw [Bool.eq_iff_iff]
        simp
        omega
    rw [pending, List.map_cons, map_label_filter (· != some next), ih h.tail, List.filter_filter,
      List.filter_cons, if_pos hhead]
    simp only [hother]
    rfl

/-! ### What is right below a node -/

/-- Numbers beside the labels do not matter for what the links name. -/
theorem BackwardFrom.number {next : Nat} {links : List (Link α)} (h : BackwardFrom next links) :
    BackwardFrom next ((links.zipIdx next).map numberLink) := by
  intro i p a hget
  rw [List.getElem?_map, List.getElem?_zipIdx, Option.map_map, Option.map_eq_some_iff] at hget
  obtain ⟨⟨parent, b⟩, hget, heq⟩ := hget
  exact h i p b (by rw [hget, ← (Prod.mk.inj heq).1])

/-- In the trees that numbered links describe, right below a node are the labels of the links that
name it. -/
theorem everywhere_pending {links : List (Link α)} : ∀ {next : Nat}, BackwardFrom next links →
    ∀ t ∈ pending next ((links.zipIdx next).map numberLink), t.2.Everywhere fun l below =>
      next ≤ l.1 ∧
        (((links.zipIdx next).map numberLink).filter (·.1 == some l.1)).map Prod.snd = below := by
  induction links with
  | nil => intro next _ t ht; cases ht
  | cons l links ih =>
    intro next h t ht
    obtain ⟨parent, a⟩ := l
    have hroots := map_label_pending h.tail.number
    rw [List.zipIdx_cons, List.map_cons]
    -- this link names no node of the trees, so the later trees are as they were
    have hskip : ∀ k, next ≤ k → (numberLink ((parent, a), next)).1 ≠ some k := by
      intro k hk hname
      have hlt := h.head k hname
      omega
    have hlater : ∀ u ∈ pending (next + 1) ((links.zipIdx (next + 1)).map numberLink),
        u.2.Everywhere fun l below => next ≤ l.1 ∧ ((numberLink ((parent, a), next) ::
          (links.zipIdx (next + 1)).map numberLink).filter (·.1 == some l.1)).map Prod.snd = below := by
      intro u hu
      refine (ih h.tail u hu).imp fun l below hl => ⟨by omega, ?_⟩
      rw [List.filter_cons, if_neg (by simpa using hskip l.1 (by omega))]
      exact hl.2
    rw [List.zipIdx_cons, List.map_cons, numberLink, pending] at ht
    rcases List.mem_cons.1 ht with rfl | ht
    · refine .node ⟨Nat.le_refl _, ?_⟩ fun u hu => ?_
      · -- the links that name this node are those of the trees that it takes
        have htaken : ∀ l : Link (Nat × α),
            (l.1 == some next && l.1.all (· < next + 1)) = (l.1 == some next) := by
          rintro ⟨_ | p, b⟩
          · rfl
          · rw [Bool.eq_iff_iff]
            simp
            omega
        rw [List.filter_cons, if_neg (by simpa using hskip next (Nat.le_refl _)),
          map_label_map_snd (· == some next), hroots, List.filter_filter]
        simp only [htaken]
      · obtain ⟨v, hv, rfl⟩ := List.mem_map.1 hu
        exact hlater v (List.mem_filter.1 hv).1
    · exact hlater t (List.mem_filter.1 ht).1

end Rose

namespace Outline

/-! ### The trees of an outline -/

/-- The links of an outline with the numbers of the nodes. -/
def numbered (o : Outline) : List (Link (Nat × Node)) :=
  (o.links.zipIdx 0).map Rose.numberLink

theorem backwardFrom_links (o : Outline) : Rose.BackwardFrom 0 o.links := by
  intro i p n hget
  have hlt := o.backward i p n hget
  omega

theorem childNumbers_eq (o : Outline) (i : Nat) :
    o.childNumbers i = ((o.numbered.filter (·.1 == some i)).map Prod.snd).map Prod.fst := by
  rw [childNumbers, numbered, List.filter_map, List.map_map, List.map_map]
  rfl

/-- **Right below a node of a tree are the children of the node.** -/
theorem everywhere_trees (o : Outline) : ∀ u ∈ o.trees, u.Everywhere fun l below =>
    o.childNumbers l.1 = below.map Prod.fst := by
  intro u hu
  obtain ⟨t, ht, rfl⟩ := List.mem_map.1 hu
  refine (Rose.everywhere_pending o.backwardFrom_links t (List.mem_filter.1 ht).1).imp ?_
  rintro l below ⟨-, rfl⟩
  exact o.childNumbers_eq l.1

/-- The trees of an outline have as roots the nodes that stand under no other. -/
theorem map_label_trees (o : Outline) :
    o.trees.map Rose.label = (o.numbered.filter (·.1 == none)).map Prod.snd := by
  have hroots : (Rose.pending 0 o.numbered).map (Prod.map id Rose.label) =
      o.numbered.filter (·.1.all (· < 0)) := Rose.map_label_pending o.backwardFrom_links.number
  have hnone : ∀ l : Link (Nat × Node), (l.1 == none && l.1.all (· < 0)) = (l.1 == none) := by
    rintro ⟨_ | p, n⟩ <;> rfl
  have htrees : o.trees = ((Rose.pending 0 o.numbered).filter (·.1 == none)).map (·.2) := rfl
  rw [htrees, Rose.map_label_map_snd (· == none), hroots, List.filter_filter]
  simp only [hnone]

theorem findIdx?_eq_head? (links : List (Link Node)) : ∀ next,
    (links.findIdx? (·.1 == none)).map (· + next) =
      ((((links.zipIdx next).map Rose.numberLink).filter (·.1 == none)).map Prod.snd).head?.map
        Prod.fst := by
  induction links with
  | nil => intro next; rfl
  | cons l links ih =>
    intro next
    obtain ⟨_ | p, n⟩ := l
    · simp [List.findIdx?_cons, Rose.numberLink]
    · -- the search goes on, and all numbers are larger by one
      have hskip : List.findIdx? (·.1 == none) ((some p, n) :: links) =
          (List.findIdx? (·.1 == none) links).map (· + 1) := by
        simp [List.findIdx?_cons]
      have hadd : ((· + next) ∘ (· + 1) : Nat → Nat) = (· + (next + 1)) := by
        funext i
        simp only [Function.comp_apply]
        omega
      rw [hskip, Option.map_map, hadd, ih (next + 1), List.zipIdx_cons, List.map_cons,
        List.filter_cons, if_neg (by simp [Rose.numberLink])]

/-- **The root of an outline is the root of its first tree.** -/
theorem root?_eq (o : Outline) : o.root? = o.rootTree?.map (·.label.1) := by
  have hfirst : o.rootTree?.map (·.label.1) = ((o.trees.map Rose.label).head?).map Prod.fst := by
    rw [rootTree?, List.head?_map, Option.map_map]
    rfl
  rw [hfirst, map_label_trees, numbered, ← findIdx?_eq_head?]
  simp [root?]

/-! ### Reachable nodes -/

/-- The nodes that can be reached from the root. -/
inductive Reachable (o : Outline) : Nat → Prop
  | root {r : Nat} (h : o.root? = some r) : Reachable o r
  | child {i j : Nat} (h : o.parent? j = some i) (above : Reachable o i) : Reachable o j

theorem reachable_of_everywhere {o : Outline} {u : Rose (Nat × Node)}
    (h : u.Everywhere fun l below => o.childNumbers l.1 = below.map Prod.fst) :
    o.Reachable u.label.1 → ∀ l ∈ u.preorder, o.Reachable l.1 := by
  induction h with
  | @node k us here below ih =>
    intro hroot l hl
    rw [Rose.preorder_node, List.mem_cons, List.mem_flatMap] at hl
    rcases hl with rfl | ⟨u, hu, hl⟩
    · exact hroot
    · refine ih u hu (.child (mem_childNumbers.1 ?_) hroot) l hl
      rw [Rose.label_node, here]
      exact List.mem_map_of_mem (List.mem_map_of_mem hu)

/-- **The nodes of the first tree can be reached from the root.** -/
theorem reachable_of_mem_rootTree? {o : Outline} {t : Rose (Nat × Node)} (ht : o.rootTree? = some t)
    {l : Nat × Node} (hl : l ∈ t.preorder) : o.Reachable l.1 := by
  refine reachable_of_everywhere (o.everywhere_trees t (List.mem_of_mem_head? ht)) (.root ?_) l hl
  rw [root?_eq, ht]
  rfl

end Outline
end ModelLayout

import ModelLayout.Proofs.PushOrder

/-!
# The walk over an outline

An outline may grow in any order: a node can be added under any earlier node at any time, and
several nodes may stand under no other.  The walk starts at the first of these and keeps a stack of
numbers that are yet to be visited.  It looks for the children of a node among all links, but it may
as well take them from an index that is kept while nodes are added.  Here it is compared with a
recursion that has no stack: a node, and then all that is below each of its children in turn.

What is still to come of the walk is known from the stack alone: it is what the recursion gives for
the numbers on the stack, one after the other.  In the same way the numbers can be counted.  A child
is put on the stack each time that the node above it is visited, so from any stack on a node comes
up as often as it stands on the stack and as the node above it comes up.  At the root this count is
one, at any other node that stands under no node it is zero, and going down it stays as it is.

## Main definitions

* `Outline.pushAll?` — adding one node after the other.
* `ChildIndex`, `ChildIndex.addAll` — the children of each node and the root, kept while nodes are
  added.
* `ChildIndex.next?`, `ChildIndex.Drains` — one step of the walk over an index, and a walk that has
  come to its end.
* `Outline.nodesFrom` — the pre-order by recursion.
* `Outline.chainEnd` — the node at which the chain of parents ends.
* `Outline.WalkedInPreorder` — what is known of the walk.

## Main results

* `Outline.exists_pushAll?` — adding nodes does not fail, and the index keeps up.
* `ChildIndex.Keeps.drains_iff` — the walk over the index is the walk over the outline.
* `Outline.visit_eq_flatMap` — the walk from any stack, by recursion.
* `Outline.count_visit` — how often a node comes up in the walk from any stack.
* `Outline.preorder_of_pushes` — the walk over every outline that is built node by node.
-/

namespace ModelLayout

/-! ### Adding nodes in any order -/

/-- The children of each node and the root, as they are kept while nodes are added. -/
structure ChildIndex where
  children : List (List Nat) := []
  root : Option Nat := none

namespace ChildIndex

/-- One more node, under the node `parent` or under none.  It has no children yet, it becomes the
last child of its parent, and without a parent it becomes the root unless there is one. -/
def add (x : ChildIndex) (parent : Option Nat) : ChildIndex :=
  match parent with
  | some p =>
    { x with children := x.children.modify p (· ++ [x.children.length]) ++ [[]] }
  | none =>
    { children := x.children ++ [[]], root := x.root <|> some x.children.length }

/-- Several more nodes, each under an earlier one or under none. -/
def addAll (x : ChildIndex) (entries : List (Link Node)) : ChildIndex :=
  entries.foldl (fun x l => x.add l.1) x

/-- The index of an outline: what is kept is what a search through its links finds. -/
structure Keeps (x : ChildIndex) (o : Outline) : Prop where
  children : x.children = (List.range o.size).map o.childNumbers
  root : x.root = o.root?

end ChildIndex

namespace Outline

/-- The outline with several more nodes, each added under an earlier one or under none. -/
def pushAll? (o : Outline) (entries : List (Link Node)) : Option Outline :=
  entries.foldlM (fun o l => o.push? l.1 l.2) o

theorem childNumbers_of_links {o grown : Outline} {parent : Option Nat} {n : Node}
    (h : grown.links = o.links ++ [(parent, n)]) (i : Nat) :
    grown.childNumbers i =
      if parent = some i then o.childNumbers i ++ [o.size] else o.childNumbers i := by
  have hchildren : grown.childNumbers i = Rose.numbersUnder i 0 grown.links := rfl
  rw [hchildren, h, Rose.numbersUnder_append, Rose.numbersUnder_cons, Nat.zero_add]
  split
  · rfl
  · exact List.append_nil _

theorem root?_of_links {o grown : Outline} {parent : Option Nat} {n : Node}
    (h : grown.links = o.links ++ [(parent, n)]) :
    grown.root? = (o.root? <|> if parent = none then some o.size else none) := by
  rw [root?, h, List.findIdx?_append]
  cases parent <;> simp [root?, size]

theorem childNumbers_eq_nil {o : Outline} {i : Nat} (h : o.size ≤ i) : o.childNumbers i = [] := by
  refine List.eq_nil_iff_forall_not_mem.2 fun j hj => ?_
  have hlt := lt_of_mem_childNumbers hj
  omega

/-- Changing one entry of a table of a function. -/
theorem modify_map_range (n p : Nat) (children : Nat → List Nat) (f : List Nat → List Nat) :
    ((List.range n).map children).modify p f =
      (List.range n).map fun i => if p = i then f (children i) else children i := by
  refine List.ext_getElem? fun i => ?_
  rw [List.getElem?_modify, List.getElem?_map, List.getElem?_map]
  rcases Nat.lt_or_ge i n with hi | hi
  · rw [List.getElem?_range hi]
    by_cases h : p = i <;> simp [h]
  · simp [hi]

end Outline

/-- One more node: the index keeps up with the outline. -/
theorem ChildIndex.Keeps.add {x : ChildIndex} {o grown : Outline} {parent : Option Nat} {n : Node}
    (h : x.Keeps o) (hparent : ∀ p, parent = some p → p < o.size)
    (hlinks : grown.links = o.links ++ [(parent, n)]) : (x.add parent).Keeps grown := by
  have hlength : x.children.length = o.size := by
    rw [h.children, List.length_map, List.length_range]
  have hsize : grown.size = o.size + 1 := by
    rw [Outline.size, hlinks, List.length_append]
    rfl
  have hnew : grown.childNumbers o.size = [] := by
    have hother : parent ≠ some o.size := fun hp => Nat.lt_irrefl _ (hparent _ hp)
    rw [Outline.childNumbers_of_links hlinks, if_neg hother]
    exact Outline.childNumbers_eq_nil (Nat.le_refl _)
  refine ⟨?_, ?_⟩
  · rw [hsize, List.range_succ, List.map_append, List.map_singleton, hnew,
      funext (Outline.childNumbers_of_links hlinks)]
    cases parent with
    | none => simp [ChildIndex.add, h.children]
    | some p => simp [ChildIndex.add, h.children, Outline.modify_map_range]
  · rw [Outline.root?_of_links hlinks]
    cases parent with
    | none => simp [ChildIndex.add, h.root, hlength]
    | some p => simp [ChildIndex.add, h.root]

namespace Outline

/-- Adding nodes does not fail as long as each stands under an earlier one, and the index keeps
up. -/
theorem exists_pushAll? (entries : List (Link Node)) : ∀ (o : Outline) (x : ChildIndex),
    Backward (o.links ++ entries) → x.Keeps o →
      ∃ grown, o.pushAll? entries = some grown ∧ grown.links = o.links ++ entries ∧
        (x.addAll entries).Keeps grown := by
  induction entries with
  | nil =>
    intro o x _ hx
    exact ⟨o, rfl, (List.append_nil _).symm, hx⟩
  | cons l entries ih =>
    intro o x h hx
    obtain ⟨parent, n⟩ := l
    have hparent : ∀ p, parent = some p → p < o.size := by
      rintro p rfl
      exact h o.size p n (by simp [size])
    obtain ⟨pushed, hpush, hlinks, -⟩ := exists_push? hparent n
    have hall : o.links ++ (parent, n) :: entries = pushed.links ++ entries := by
      rw [hlinks, List.append_assoc]
      rfl
    rw [hall] at h ⊢
    obtain ⟨grown, hgrown, hmore⟩ := ih pushed (x.add parent) h (hx.add hparent hlinks)
    refine ⟨grown, ?_, hmore⟩
    rw [pushAll?, List.foldlM_cons, hpush]
    exact hgrown

/-! ### The walk over an index -/

end Outline

namespace ChildIndex

/-- One step of the walk over an index, for a stack whose top is its last entry: the top is taken
off, and its children are put on from the last to the first. -/
def next? (x : ChildIndex) (stack : List Nat) : Option (Nat × List Nat) :=
  stack.getLast?.map fun i => (i, stack.dropLast ++ (x.children[i]?.getD []).reverse)

/-- `x.Drains stack numbers` says that the steps from `stack` on come to an end and give
`numbers`. -/
inductive Drains (x : ChildIndex) : List Nat → List Nat → Prop
  | done {stack : List Nat} (h : x.next? stack = none) : Drains x stack []
  | step {stack rest numbers : List Nat} {i : Nat} (h : x.next? stack = some (i, rest))
      (later : Drains x rest numbers) : Drains x stack (i :: numbers)

/-- Steps leave no choice. -/
theorem Drains.unique {x : ChildIndex} {stack numbers numbers' : List Nat}
    (h : x.Drains stack numbers) (h' : x.Drains stack numbers') : numbers = numbers' := by
  induction h generalizing numbers' with
  | done hnone =>
    cases h' with
    | done => rfl
    | step hstep => simp [hnone] at hstep
  | step hstep _ ih =>
    cases h' with
    | done hnone => simp [hnone] at hstep
    | step hstep' later' =>
      rw [hstep, Option.some.injEq, Prod.mk.injEq] at hstep'
      obtain ⟨rfl, rfl⟩ := hstep'
      rw [ih later']

namespace Keeps

variable {x : ChildIndex} {o : Outline}

theorem getD_children (h : x.Keeps o) (i : Nat) : x.children[i]?.getD [] = o.childNumbers i := by
  rw [h.children, List.getElem?_map]
  rcases Nat.lt_or_ge i o.size with hi | hi
  · rw [List.getElem?_range hi]
    rfl
  · rw [List.getElem?_eq_none (by simpa using hi), Outline.childNumbers_eq_nil hi]
    rfl

theorem drains_visit (h : x.Keeps o) (stack : List Nat) :
    x.Drains stack.reverse (o.visit stack) := by
  fun_induction Outline.visit o stack with
  | case1 => exact .done rfl
  | case2 i stack ih =>
    rw [List.reverse_append] at ih
    refine .step ?_ ih
    simp [next?, h.getD_children]

/-- **The walk over the index comes to its end, and gives what the walk over the outline gives.** -/
theorem drains_iff (h : x.Keeps o) {numbers : List Nat} :
    x.Drains x.root.toList numbers ↔ numbers = o.preorder := by
  have hdrains : x.Drains x.root.toList o.preorder := by
    have hreverse : o.root?.toList.reverse = o.root?.toList := by cases o.root? <;> rfl
    have hvisit := h.drains_visit o.root?.toList
    rw [hreverse] at hvisit
    rw [h.root, Outline.preorder]
    exact hvisit
  constructor
  · intro hnumbers
    exact hnumbers.unique hdrains
  · rintro rfl
    exact hdrains

end Keeps
end ChildIndex

namespace Outline

/-! ### The walk from a stack -/

/-- The number `i` and those of all nodes below it: first `i`, then for each child in turn all that
is there. -/
def nodesFrom (o : Outline) (i : Nat) : List Nat :=
  i :: (o.childNumbers i).attach.flatMap fun j => o.nodesFrom j.1
termination_by o.size - i
decreasing_by
  have hj := lt_of_mem_childNumbers j.2
  omega

theorem nodesFrom_eq (o : Outline) (i : Nat) :
    o.nodesFrom i = i :: (o.childNumbers i).flatMap o.nodesFrom := by
  rw [nodesFrom, List.flatMap_subtype (g := o.nodesFrom) fun _ _ => rfl, List.unattach_attach]

/-- **The walk gives what the recursion gives for each number on the stack.** -/
theorem visit_eq_flatMap (o : Outline) (stack : List Nat) :
    o.visit stack = stack.flatMap o.nodesFrom := by
  fun_induction visit o stack with
  | case1 => rfl
  | case2 i stack ih =>
    rw [ih, List.flatMap_append, List.flatMap_cons, nodesFrom_eq, List.cons_append]

/-! ### How often a node comes up -/

/-- The node at which the chain of parents of the node `i` ends. -/
def chainEnd (o : Outline) (i : Nat) : Nat :=
  match h : o.parent? i with
  | none => i
  | some p =>
    have : p < i := lt_of_parent? h
    o.chainEnd p
termination_by i

theorem count_childNumbers (o : Outline) (i k : Nat) :
    (o.childNumbers i).count k = if o.parent? k = some i then 1 else 0 := by
  have hnodup : (o.childNumbers i).Nodup :=
    (o.pairwise_childNumbers i).imp fun hlt heq => Nat.ne_of_lt hlt heq
  split
  · next h => exact List.count_eq_one_of_mem hnodup (mem_childNumbers.2 h)
  · next h => exact List.count_eq_zero.2 fun hk => h (mem_childNumbers.1 hk)

/-- **From any stack on, a node comes up as often as it stands on the stack and as the node above it
comes up.** -/
theorem count_visit (o : Outline) (k : Nat) (stack : List Nat) : (o.visit stack).count k =
    stack.count k + (o.visit stack).countP (some · == o.parent? k) := by
  fun_induction visit o stack with
  | case1 => rfl
  | case2 i stack ih =>
    rw [List.count_cons, List.count_cons, List.countP_cons, ih, List.count_append,
      count_childNumbers]
    simp only [beq_iff_eq, eq_comm (a := some i)]
    omega

theorem parent?_of_root? {o : Outline} {r : Nat} (h : o.root? = some r) : o.parent? r = none := by
  obtain ⟨hlt, hnone, -⟩ := List.findIdx?_eq_some_iff_getElem.1 h
  rw [parent?, List.getElem?_eq_getElem hlt, Option.bind_some]
  exact beq_iff_eq.1 hnone

theorem preorder_of_root? {o : Outline} {r : Nat} (h : o.root? = some r) :
    o.preorder = o.visit [r] := by
  rw [preorder, h, Option.toList_some]

theorem preorder_of_root?_eq_none {o : Outline} (h : o.root? = none) : o.preorder = [] := by
  rw [preorder, h, Option.toList_none, visit]

/-- **A node is visited once if its chain of parents ends in the root, and else not at all.** -/
theorem count_preorder (o : Outline) (i : Nat) :
    o.preorder.count i = if o.root? = some (o.chainEnd i) then 1 else 0 := by
  cases hroot : o.root? with
  | none => simp [preorder_of_root?_eq_none hroot]
  | some r =>
    have hcount := fun k => o.count_visit k [r]
    rw [← preorder_of_root? hroot] at hcount
    -- up the chain of parents the count stays as it is
    fun_induction chainEnd o i with
    | case1 i hparent => simp [hcount i, hparent, List.count_singleton]
    | case2 i p hparent _ ih =>
      have hne : r ≠ i := by
        rintro rfl
        simp [parent?_of_root? hroot] at hparent
      have habove : o.preorder.countP (some · == some p) = o.preorder.count p := rfl
      rw [hcount i, hparent, habove, ih, List.count_singleton, if_neg (by simpa using hne),
        Nat.zero_add]

theorem nodup_preorder (o : Outline) : o.preorder.Nodup := by
  refine List.nodup_iff_count.2 fun i => ?_
  rw [count_preorder]
  split <;> omega

/-- **When a node is visited, it stands on the stack or the node above it has been visited.** -/
theorem mem_of_visit_eq {o : Outline} {stack before after : List Nat} {i p : Nat}
    (h : o.visit stack = before ++ i :: after) (hparent : o.parent? i = some p) :
    p ∈ before ∨ i ∈ stack := by
  fun_induction visit o stack generalizing before with
  | case1 => simp at h
  | case2 j stack ih =>
    cases before with
    | nil =>
      obtain ⟨rfl, -⟩ := List.cons.inj h
      exact Or.inr List.mem_cons_self
    | cons k before =>
      obtain ⟨rfl, hrest⟩ := List.cons.inj h
      rcases ih hrest with hp | hi
      · exact Or.inl (List.mem_cons_of_mem _ hp)
      · rcases List.mem_append.1 hi with hi | hi
        · -- the node was put on the stack by this very visit
          rw [mem_childNumbers, hparent, Option.some.injEq] at hi
          exact Or.inl (hi ▸ List.mem_cons_self)
        · exact Or.inr (List.mem_cons_of_mem _ hi)

theorem mem_of_preorder_eq {o : Outline} {before after : List Nat} {i p : Nat}
    (h : o.preorder = before ++ i :: after) (hparent : o.parent? i = some p) : p ∈ before := by
  cases hroot : o.root? with
  | none => simp [preorder_of_root?_eq_none hroot] at h
  | some r =>
    rw [preorder_of_root? hroot] at h
    refine (mem_of_visit_eq h hparent).resolve_right fun hi => ?_
    rw [List.mem_singleton.1 hi, parent?_of_root? hroot] at hparent
    cases hparent

/-! ### The walk over an outline that is built node by node -/

/-- What is known of the walk over an outline and of the index `x` that is kept beside it. -/
structure WalkedInPreorder (o : Outline) (x : ChildIndex) : Prop where
  /-- The index has the children of each node in the order in which they were added. -/
  kept : x.Keeps o
  /-- Taken step by step from the root on, the walk comes to an end and gives `o.preorder`. -/
  ends : ∀ numbers, x.Drains x.root.toList numbers ↔ numbers = o.preorder
  /-- It is the pre-order of the root. -/
  recursive : o.preorder = o.root?.toList.flatMap o.nodesFrom
  /-- No node is visited twice. -/
  nodup : o.preorder.Nodup
  /-- The visited nodes are those whose chain of parents ends in the root. -/
  once : ∀ i, o.preorder.count i = 1 ↔ o.root? = some (o.chainEnd i)
  /-- A node is visited after the node above it. -/
  parentFirst : ∀ before i after, o.preorder = before ++ i :: after →
    ∀ p, o.parent? i = some p → p ∈ before

theorem walkedInPreorder {o : Outline} {x : ChildIndex} (h : x.Keeps o) :
    o.WalkedInPreorder x := by
  refine ⟨h, fun _ => h.drains_iff, o.visit_eq_flatMap _, o.nodup_preorder, fun i => ?_, ?_⟩
  · simp [count_preorder]
  · intro before i after hvisits p hparent
    exact mem_of_preorder_eq hvisits hparent

/-- Nodes that are added one by one, each under an earlier one or under none, give an outline.  With
the index that was kept on the way, the walk visits the first node without a parent and all that is
below it, in pre-order. -/
theorem preorder_of_pushes {entries : List (Link Node)} (h : Backward entries) :
    ∃ o, empty.pushAll? entries = some o ∧ o.links = entries ∧
      o.WalkedInPreorder (({} : ChildIndex).addAll entries) := by
  obtain ⟨o, hpush, hlinks, hkeeps⟩ := exists_pushAll? entries empty {} h ⟨rfl, rfl⟩
  exact ⟨o, hpush, hlinks, walkedInPreorder hkeeps⟩

/-- Two trees to which nodes are added by turns. -/
def twoTrees : List (Link Node) :=
  [none, some 0, none, some 1, some 0, some 2, some 1].map (·, { shape := .call, span := default })

theorem preorder_of_pushes_twoTrees : Backward twoTrees ∧
    ∃ o, empty.pushAll? twoTrees = some o ∧ o.preorder = [0, 1, 3, 6, 4] ∧
      o.WalkedInPreorder (({} : ChildIndex).addAll twoTrees) := by
  have h : Backward twoTrees := by decide
  obtain ⟨o, hpush, -, hwalk⟩ := preorder_of_pushes h
  have h₀ : (({} : ChildIndex).addAll twoTrees).next? [0] = some (0, [4, 1]) := rfl
  have h₁ : (({} : ChildIndex).addAll twoTrees).next? [4, 1] = some (1, [4, 6, 3]) := rfl
  have h₃ : (({} : ChildIndex).addAll twoTrees).next? [4, 6, 3] = some (3, [4, 6]) := rfl
  have h₆ : (({} : ChildIndex).addAll twoTrees).next? [4, 6] = some (6, [4]) := rfl
  have h₄ : (({} : ChildIndex).addAll twoTrees).next? [4] = some (4, []) := rfl
  have hsteps := ChildIndex.Drains.step h₀ (.step h₁ (.step h₃ (.step h₆ (.step h₄ (.done rfl)))))
  have hwalked := (hwalk.ends _).1 hsteps
  exact ⟨h, o, hpush, hwalked.symm, hwalk⟩

end Outline
end ModelLayout

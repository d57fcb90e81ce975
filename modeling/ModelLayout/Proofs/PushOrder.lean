import ModelLayout.Proofs.Shapes

/-!
# Nodes are visited in the order in which they are pushed

The functions that lower a file push its nodes one after the other and go back and forth between the
nodes they push to.  The visits follow a stack of numbers.  Here both orders are compared: the number
of a node tells when it was pushed, and the visits come in the order of the numbers, each node once.
So every declaration that was pushed is reviewed, once and in its turn.

## Main definitions

* `Outline.InOrderOfVisits` — one tree, whose nodes are numbered in the order of the visits.

## Main results

* `Outline.mem_declarations_of_preorder` — which declarations are seen.
* `Outline.lowering_inOrderOfVisits` — lowering a file does not fail and builds one tree, which is
  visited in the order of the pushes.
-/

namespace ModelLayout
namespace Outline

/-- An outline that is empty or one tree, with the nodes numbered in the order in which they are
visited. -/
structure InOrderOfVisits (o : Outline) : Prop where
  /-- The root is the only node that stands under no other. -/
  root : o.size = 0 ∨ ∃ r, o.root? = some r ∧ ∀ i, i < o.size ∧ o.parent? i = none ↔ i = r
  /-- Every node is visited once, and they come in the order of their numbers. -/
  visits : o.preorder = List.range o.size
  /-- No declaration is seen twice or out of order. -/
  increasing : o.declarations.Pairwise (· < ·)
  /-- No declaration is missed. -/
  complete : ∀ i, i ∈ o.declarations ↔ ∃ n, o.node? i = some n ∧ n.shape.isDeclaration = true

/-- The numbers of the nodes are those below the size. -/
theorem exists_node?_iff {o : Outline} {i : Nat} : (∃ n, o.node? i = some n) ↔ i < o.size := by
  rw [← Option.isSome_iff_exists, node?, Option.isSome_map]
  simp [size]

theorem parent?_eq_none_iff {t : Rose Node} {i : Nat} :
    i < (ofRose (some t)).size ∧ (ofRose (some t)).parent? i = none ↔ i = 0 := by
  constructor
  · rintro ⟨hlt, hparent⟩
    obtain ⟨n, hn⟩ := exists_node?_iff.2 hlt
    exact eq_zero_of_parent?_eq_none hn hparent
  · rintro rfl
    cases t with
    | node n ts => exact ⟨Nat.zero_lt_succ _, rfl⟩

/-- In an outline that is visited by number, all declarations are seen, and by number. -/
theorem mem_declarations_of_preorder {o : Outline} (h : o.preorder = List.range o.size) {i : Nat} :
    i ∈ o.declarations ↔ ∃ n, o.node? i = some n ∧ n.shape.isDeclaration = true := by
  rw [declarations, h, List.mem_filter, List.mem_range, Option.any_eq_true]
  constructor
  · rintro ⟨-, n, hn, hdeclaration⟩
    exact ⟨n, hn, hdeclaration⟩
  · rintro ⟨n, hn, hdeclaration⟩
    exact ⟨exists_node?_iff.1 ⟨n, hn⟩, n, hn, hdeclaration⟩

/-- **No push fails when a file is lowered, and what is built is one tree, visited in the order of the
pushes.** -/
theorem lowering_inOrderOfVisits (text : Span → String) (t : Ruby.Tree) :
    lowered? text t = some (ofTree text t) ∧ (ofTree text t).InOrderOfVisits := by
  have hvisits := preorder_ofTree text t
  refine ⟨?_, ?_, hvisits, ?_, fun i => mem_declarations_of_preorder hvisits⟩
  · rw [lowered?_eq, ofTree_eq]
  · rw [ofTree_eq]
    cases gather (Reading.ofTree text t).statements with
    | none => exact Or.inl rfl
    | some s => exact Or.inr ⟨0, root?_ofRose s, fun i => parent?_eq_none_iff⟩
  · rw [declarations, hvisits]
    exact List.pairwise_lt_range.filter _

end Outline
end ModelLayout

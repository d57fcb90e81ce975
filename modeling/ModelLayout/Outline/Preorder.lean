import ModelLayout.Outline.Basic

/-!
# The nodes of an outline in document order

The nodes that can be reached from the root are visited with a stack of numbers that are yet
to be visited: the number on top is next, and its children take its place.  Children have
larger numbers than the node above them, and different ones, so the stack read as a number in
base two becomes smaller with each visit.

* `Outline.visit` — visit the numbers of a stack and all that is below them.
* `Outline.preorder` — visit the root.

## References

The dispatch in document order of `SPEC_FULL.md`, section 12.
-/

namespace ModelLayout
namespace Outline

/-- A child has a larger number than the node above it. -/
theorem lt_of_mem_childNumbers {o : Outline} {i j : Nat} (h : j ∈ o.childNumbers i) :
    i < j ∧ j < o.size := by
  simp only [childNumbers, List.mem_map, List.mem_filter, beq_iff_eq] at h
  obtain ⟨⟨⟨p, n⟩, k⟩, ⟨hmem, hp⟩, hk⟩ := h
  simp only at hp hk
  subst hp hk
  have hget : o.links[k]? = some (some i, n) := List.mk_mem_zipIdx_iff_getElem?.1 hmem
  exact ⟨o.backward k i n hget, (List.getElem?_eq_some_iff.1 hget).1⟩

/-- The children of a node come in the order of their numbers. -/
theorem pairwise_childNumbers (o : Outline) (i : Nat) :
    (o.childNumbers i).Pairwise (· < ·) := by
  have hsorted : (o.links.zipIdx.map (·.2)).Pairwise (· < ·) := by
    rw [List.zipIdx_map_snd]
    exact List.pairwise_lt_range'
  exact hsorted.sublist (List.filter_sublist.map _)

/-- The stack `stack`, read as a number in base two in which a number `i` stands for the digit
`n - i`. -/
def weight (n : Nat) : List Nat → Nat
  | [] => 0
  | i :: stack => Nat.pow 2 (n - i) + weight n stack

theorem weight_append (n : Nat) (js stack : List Nat) :
    weight n (js ++ stack) = weight n js + weight n stack := by
  induction js with
  | nil => rw [List.nil_append, weight, Nat.zero_add]
  | cons j js ih => rw [List.cons_append, weight, weight, ih, Nat.add_assoc]

/-- Different numbers above `i` weigh less than `i`. -/
theorem weight_lt {n i : Nat} {js : List Nat} (hsorted : js.Pairwise (· < ·))
    (hrange : ∀ j ∈ js, i < j ∧ j < n) : weight n js < Nat.pow 2 (n - i) := by
  induction js generalizing i with
  | nil => exact Nat.two_pow_pos _
  | cons j js ih =>
    obtain ⟨hj, hrest⟩ := List.pairwise_cons.1 hsorted
    have hij := hrange j (by simp)
    have hlt : weight n js < Nat.pow 2 (n - j) :=
      ih hrest fun k hk => ⟨hj k hk, (hrange k (by simp [hk])).2⟩
    have hdouble : Nat.pow 2 (n - j) + Nat.pow 2 (n - j) ≤ Nat.pow 2 (n - i) := by
      rw [← Nat.two_mul, Nat.pow_eq, ← Nat.pow_succ']
      exact Nat.pow_le_pow_right (by decide) (by omega)
    rw [weight]
    omega

/-- The numbers on the stack and those of all nodes below them, in document order. -/
def visit (o : Outline) : List Nat → List Nat
  | [] => []
  | i :: stack => i :: o.visit (o.childNumbers i ++ stack)
termination_by stack => weight o.size stack
decreasing_by
  have := weight_lt (o.pairwise_childNumbers i) fun j hj => lt_of_mem_childNumbers hj
  rw [weight_append, weight]
  omega

/-- The numbers of the root and of all nodes below it, in document order. -/
def preorder (o : Outline) : List Nat :=
  o.visit o.root?.toList

/-- The nodes that can declare something, by number and in document order. -/
def declarations (o : Outline) : List Nat :=
  o.preorder.filter fun i => (o.node? i).any (·.shape.isDeclaration)

end Outline
end ModelLayout

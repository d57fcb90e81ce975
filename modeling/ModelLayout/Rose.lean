/-!
# Ordered trees and parent links

An ordered tree can be written down as a list of *links*: one entry for each node, with its
label and the number of the node it stands under.  Both directions are here.

## Main definitions

* `Rose` — trees with a label and any number of children at each node.
* `Rose.preorder` — the labels, each node before its children, children from left to right.
* `Rose.links` — the links of a tree, nodes numbered in pre-order.
* `Rose.forest` — the trees that a list of links describes.
* `Backward` — every node stands under an earlier one; `backward_links` says that this holds
  of the links of a tree.
-/

namespace ModelLayout

/-- An ordered tree with a label at each node. -/
inductive Rose (α : Type) where
  | node (label : α) (children : List (Rose α))
  deriving Repr, Inhabited

/-- A label and the number of the node it stands under; `none` for a node that stands alone. -/
abbrev Link (α : Type) := Option Nat × α

/-- Every node stands under an earlier one. -/
def Backward {α : Type} (links : List (Link α)) : Prop :=
  ∀ (i p : Nat) (a : α), links[i]? = some (some p, a) → p < i

theorem backward_iff {α : Type} {links : List (Link α)} :
    Backward links ↔ ∀ l ∈ links.zipIdx, ∀ p ∈ l.1.1, p < l.2 := by
  constructor
  · rintro h ⟨⟨parent, a⟩, i⟩ hl p rfl
    exact h i p a (List.mk_mem_zipIdx_iff_getElem?.1 hl)
  · intro h i p a hget
    exact h ((some p, a), i) (List.mk_mem_zipIdx_iff_getElem?.2 hget) p rfl

instance {α : Type} (links : List (Link α)) : Decidable (Backward links) :=
  decidable_of_iff' _ backward_iff

namespace Rose

variable {α : Type}

/-- The label at the root. -/
def label : Rose α → α
  | node a _ => a

/-- The trees right below the root. -/
def children : Rose α → List (Rose α)
  | node _ ts => ts

@[simp] theorem label_node (a : α) (ts : List (Rose α)) : (node a ts).label = a := rfl

@[simp] theorem children_node (a : α) (ts : List (Rose α)) : (node a ts).children = ts := rfl

mutual

/-- The labels of a tree, each node before its children, children from left to right. -/
def preorder : Rose α → List α
  | node a ts => a :: preorderAll ts

/-- The labels of several trees, one tree after the other. -/
def preorderAll : List (Rose α) → List α
  | [] => []
  | t :: ts => preorder t ++ preorderAll ts

end

mutual

/-- The links of a tree whose root gets the number `next` and stands under `parent`. -/
def linksFrom (parent : Option Nat) (next : Nat) : Rose α → List (Link α)
  | node a ts => (parent, a) :: linksAllFrom (some next) (next + 1) ts

/-- The links of several trees under one parent, numbered from `next` on. -/
def linksAllFrom (parent : Option Nat) (next : Nat) : List (Rose α) → List (Link α)
  | [] => []
  | t :: ts =>
    let here := linksFrom parent next t
    here ++ linksAllFrom parent (next + here.length) ts

end

/-- The links of a tree, its nodes numbered from zero in pre-order. -/
def links (t : Rose α) : List (Link α) :=
  linksFrom none 0 t

/-- The trees that the links from number `next` on describe, each with the number it stands
under.  Every entry takes as children the later trees that name it, so a tree leaves the list
as soon as the node above it is reached. -/
def pending (next : Nat) : List (Link α) → List (Link (Rose α))
  | [] => []
  | (parent, a) :: rest =>
    let later := pending (next + 1) rest
    (parent, node a ((later.filter (·.1 == some next)).map (·.2)))
      :: later.filter (·.1 != some next)

/-- The trees that a list of links describes: those that stand under no node. -/
def forest (links : List (Link α)) : List (Rose α) :=
  ((pending 0 links).filter (·.1 == none)).map (·.2)

/-! ### The links of a tree point backward -/

mutual

/-- Below the root, the links of a tree name nodes of that tree that come earlier. -/
theorem lt_of_linksFrom (parent : Option Nat) (next : Nat) :
    ∀ (t : Rose α) (i p : Nat) (a : α), (linksFrom parent next t)[i]? = some (some p, a) →
      parent = some p ∨ (next ≤ p ∧ p < next + i)
  | node b ts, i, p, a, h => by
    rw [linksFrom] at h
    cases i with
    | zero =>
      simp only [List.getElem?_cons_zero, Option.some.injEq, Prod.mk.injEq] at h
      exact Or.inl h.1
    | succ i =>
      rw [List.getElem?_cons_succ] at h
      rcases lt_of_linksAllFrom (some next) (next + 1) ts i p a h with hp | hp
      · simp only [Option.some.injEq] at hp
        exact Or.inr (by omega)
      · exact Or.inr (by omega)

theorem lt_of_linksAllFrom (parent : Option Nat) (next : Nat) :
    ∀ (ts : List (Rose α)) (i p : Nat) (a : α),
      (linksAllFrom parent next ts)[i]? = some (some p, a) →
      parent = some p ∨ (next ≤ p ∧ p < next + i)
  | [], i, p, a, h => by simp [linksAllFrom] at h
  | t :: ts, i, p, a, h => by
    simp only [linksAllFrom] at h
    rcases Nat.lt_or_ge i (linksFrom parent next t).length with hi | hi
    · rw [List.getElem?_append_left hi] at h
      exact lt_of_linksFrom parent next t i p a h
    · rw [List.getElem?_append_right hi] at h
      rcases lt_of_linksAllFrom parent _ ts _ p a h with hp | hp
      · exact Or.inl hp
      · exact Or.inr (by omega)

end

/-- In the links of a tree every node stands under an earlier one. -/
theorem backward_links (t : Rose α) : Backward t.links := by
  intro i p a h
  rcases lt_of_linksFrom none 0 t i p a h with hp | hp
  · simp at hp
  · omega

end Rose

end ModelLayout

import ModelLayout.Span
import ModelLayout.Rose

/-!
# Outlines

The outline of a file keeps of its parse tree what the layout of a model depends on.  Its
nodes are numbered in the order in which they were added, and each knows the number of the
node it stands under.

## Main definitions

* `Shape`, `Node` — what a node is.
* `Outline` — the nodes of a file with their parent links, which always point backward.
* `Outline.push?`, `Outline.ofRose` — adding one node, and the outline of a whole tree.
* `Outline.parent?`, `Outline.childNumbers`, `Outline.enclosing` — moving around.
* `Outline.trees` — the nodes as ordered trees.

## References

The syntax node of `SPEC_FULL.md`, section 3; nodes are addressed by number as in section 9.
-/

namespace ModelLayout

/-- What a node of an outline is. -/
inductive Shape
  /-- A class with its body. -/
  | classDef
  /-- A module with its body. -/
  | moduleDef
  /-- Two or more statements in a row. -/
  | sequence
  /-- A call of a method, with or without a receiver. -/
  | call
  /-- A call together with the block that follows it. -/
  | block
  /-- A lambda literal. -/
  | lambda
  /-- An assignment to a constant. -/
  | constant
  /-- The definition of an instance method. -/
  | method
  /-- The definition of a method of one object, as in `def self.find`. -/
  | singletonMethod
  /-- Anything else. -/
  | other
  deriving DecidableEq, Repr, Inhabited

/-- The shapes that can declare something in a model. -/
def Shape.isDeclaration : Shape → Bool
  | call | constant | moduleDef | method | singletonMethod => true
  | _ => false

/-- A node of an outline. -/
structure Node where
  shape : Shape
  span : Span
  /-- The method that is called or defined, or the constant, class or module that is named. -/
  name : Option String := none
  hasReceiver : Bool := false
  hasArguments : Bool := false
  deriving DecidableEq, Repr, Inhabited

namespace Node

/-- The name of the method that a node calls.  A block answers for the call it belongs to. -/
def callName? (n : Node) : Option String :=
  match n.shape with
  | .call | .block => n.name
  | _ => none

/-- The part of a text that a node covers. -/
def textIn (n : Node) (text : String) : String :=
  String.ofList (n.span.cover text.toList)

/-- The line on which a node starts. -/
def firstLine (n : Node) : Nat :=
  n.span.firstLine

end Node

/-- The nodes of a file in the order in which they were added, each under an earlier one. -/
structure Outline where
  links : List (Link Node)
  backward : Backward links

namespace Outline

/-- The outline without nodes. -/
def empty : Outline where
  links := []
  backward := by intro i p a h; simp at h

instance : Inhabited Outline := ⟨empty⟩

/-- The number of nodes. -/
def size (o : Outline) : Nat :=
  o.links.length

/-- The node with the given number. -/
def node? (o : Outline) (i : Nat) : Option Node :=
  o.links[i]?.map (·.2)

/-- The number of the node that the node `i` stands under. -/
def parent? (o : Outline) (i : Nat) : Option Nat :=
  o.links[i]?.bind (·.1)

/-- The node above another one has the smaller number. -/
theorem lt_of_parent? {o : Outline} {i p : Nat} (h : o.parent? i = some p) : p < i := by
  unfold parent? at h
  obtain ⟨⟨parent, n⟩, hl, hp⟩ := Option.bind_eq_some_iff.1 h
  subst hp
  exact o.backward i p n hl

theorem lt_size_of_parent? {o : Outline} {i p : Nat} (h : o.parent? i = some p) : i < o.size := by
  unfold parent? at h
  obtain ⟨l, hl, -⟩ := Option.bind_eq_some_iff.1 h
  exact (List.getElem?_eq_some_iff.1 hl).1

/-- The numbers of the nodes right under the node `i`, in the order in which they were added. -/
def childNumbers (o : Outline) (i : Nat) : List Nat :=
  (o.links.zipIdx.filter (·.1.1 == some i)).map (·.2)

/-- The number of the root: the first node that stands under no other. -/
def root? (o : Outline) : Option Nat :=
  o.links.findIdx? (·.1 == none)

/-- One more node keeps the links backward if its parent has a number already. -/
theorem backward_concat {o : Outline} {parent : Option Nat} (h : ∀ p, parent = some p → p < o.size)
    (n : Node) : Backward (o.links ++ [(parent, n)]) := by
  intro i p a hi
  rcases Nat.lt_trichotomy i o.links.length with hlt | heq | hgt
  · rw [List.getElem?_append_left hlt] at hi
    exact o.backward i p a hi
  · subst heq
    simp only [List.getElem?_concat_length, Option.some.injEq, Prod.mk.injEq] at hi
    exact h p hi.1
  · rw [List.getElem?_eq_none (by simp; omega)] at hi
    simp at hi

/-- The outline with one more node, under the node `parent` or under none.  There has to be a
node of that number. -/
def push? (o : Outline) (parent : Option Nat) (n : Node) : Option Outline :=
  if h : ∀ p, parent = some p → p < o.size then
    some ⟨o.links ++ [(parent, n)], backward_concat h n⟩
  else none

/-- The outline of a tree, or of nothing; its nodes are numbered in pre-order. -/
def ofRose : Option (Rose Node) → Outline
  | none => empty
  | some t => ⟨t.links, t.backward_links⟩

/-- The nodes around the node `i`, the innermost first. -/
def enclosing (o : Outline) (i : Nat) : List Node :=
  match h : o.parent? i with
  | none => []
  | some p =>
    have : p < i := lt_of_parent? h
    (o.node? p).toList ++ o.enclosing p
termination_by i

/-- The trees of an outline; each label is the number of a node and the node itself. -/
def trees (o : Outline) : List (Rose (Nat × Node)) :=
  Rose.forest (o.links.zipIdx.map fun (l, i) => (l.1, (i, l.2)))

/-- The tree of the root. -/
def rootTree? (o : Outline) : Option (Rose (Nat × Node)) :=
  o.trees.head?

end Outline

end ModelLayout

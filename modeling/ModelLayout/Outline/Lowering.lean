import ModelLayout.Outline.Basic
import ModelLayout.Ruby.Tree

/-!
# Building an outline node by node

A parse tree is walked from the top, and each node that matters is added to the outline as soon as
it is met, under the number that the node above it got.  What stands below a node is added after it:
the headers of a definition before its body, and for a call with a block first a node for the whole,
then the call with its receiver and its arguments, and then, under the first node again, what the
block holds.

## Main definitions

* `Lowering.lower?`, `Lowering.statement?` — add a node as part of an expression or as a statement.
* `Lowering.body?` — add the statements of a body.
* `Lowering.definition?`, `Lowering.assignment?`, `Lowering.call?`, `Lowering.lambda?` — one function
  for each construct.
* `Outline.lowered?`, `Outline.ofTree` — the outline of a file.

Adding a node fails if there is no node with the number that it is to stand under.

## References

The lowering rules of `SPEC_FULL.md`, section 11.
-/

namespace ModelLayout

/-! ### Sizes of parse trees -/

namespace Ruby

theorem sizeOf_le_of_sublist {ss ts : List Tree} (h : ss.Sublist ts) : sizeOf ss ≤ sizeOf ts := by
  induction h with
  | slnil => exact Nat.le_refl _
  | cons t _ ih => rw [List.cons.sizeOf_spec]; omega
  | cons_cons t _ ih => rw [List.cons.sizeOf_spec, List.cons.sizeOf_spec]; omega

theorem sizeOf_children_lt (t : Tree) : sizeOf t.children < sizeOf t := by
  cases t with
  | node l ts => rw [Rose.children_node, Rose.node.sizeOf_spec]; omega

theorem sizeOf_statementsBelow_lt (t : Tree) : sizeOf (statementsBelow t) < sizeOf t :=
  Nat.lt_of_le_of_lt (sizeOf_le_of_sublist List.filter_sublist) (sizeOf_children_lt t)

theorem sizeOf_child?_lt {t s : Tree} {f : Field} (h : child? t.children f = some s) :
    sizeOf s < sizeOf t :=
  Nat.lt_trans (List.sizeOf_lt_of_mem (List.mem_of_find?_eq_some h)) (sizeOf_children_lt t)

theorem sizeOf_bodyStatements_lt (t : Tree) : sizeOf (bodyStatements t) < sizeOf t := by
  have hchildren := sizeOf_children_lt t
  unfold bodyStatements
  split
  · next b hb =>
    have hmem : b ∈ t.children := List.mem_of_find?_eq_some hb
    have hsize := List.sizeOf_lt_of_mem hmem
    have hstatements := sizeOf_statementsBelow_lt b
    split
    · omega
    · omega
    · -- the body alone, in a list
      have hsingle := sizeOf_le_of_sublist (List.singleton_sublist.2 hmem)
      omega
  · have hloose : (looseStatements t.children).Sublist t.children :=
      List.filter_sublist.trans (withoutHeaders_sublist Rose.label t.children)
    exact Nat.lt_of_le_of_lt (sizeOf_le_of_sublist hloose) hchildren

end Ruby

/-! ### Adding the nodes -/

namespace Lowering

open Ruby (child? statementsBelow bodyStatements)

variable (text : Span → String)

/-- The text of the child in the given field. -/
def textOf? (t : Ruby.Tree) (f : Ruby.Field) : Option String :=
  (child? t.children f).map fun s => text s.label.span

/-- The node above the statements between `first` and `last`. -/
def sequenceNode (first last : Ruby.Tree) : Node :=
  { shape := .sequence, span := first.label.span.hull last.label.span }

/-- The range of a call up to its arguments, or up to its name if it has none. -/
def headSpan (t : Ruby.Tree) : Span :=
  match child? t.children .arguments <|> child? t.children .method with
  | none => t.label.span
  | some last => t.label.span.hull last.label.span

/-- The node of a call, or of a call with its block, that covers the range `span`.  A comment in the
argument list counts as an argument. -/
def callNode (shape : Shape) (span : Span) (t : Ruby.Tree) : Node where
  shape := shape
  span := span
  name := textOf? text t .method
  hasReceiver := (child? t.children .receiver).isSome
  hasArguments := (child? t.children .arguments).any fun a =>
    0 < (a.children.filter (·.label.named)).length

mutual

/-- Add the statements of a body: nothing, the only statement, or a sequence. -/
def body? (parent : Option Nat) (ss : List Ruby.Tree) (o : Outline) : Option Outline :=
  match ss with
  | [] => some o
  | [s] => statement? parent s o
  | s :: t :: rest => do
    let last := (t :: rest).getLast (by simp)
    let above ← o.push? parent (sequenceNode s last)
    statements? (some o.size) (s :: t :: rest) above
termination_by 5 * sizeOf ss + 1

/-- Add several statements, one after the other. -/
def statements? (parent : Option Nat) (ss : List Ruby.Tree) (o : Outline) : Option Outline :=
  match ss with
  | [] => some o
  | s :: ss => do
    let grown ← statement? parent s o
    statements? parent ss grown
termination_by 5 * sizeOf ss

/-- Add a statement.  A bare name is a call. -/
def statement? (parent : Option Nat) (t : Ruby.Tree) (o : Outline) : Option Outline :=
  match t.label.kind with
  | .identifier =>
    o.push? parent { shape := .call, span := t.label.span, name := some (text t.label.span) }
  | _ => lower? parent t o
termination_by 5 * sizeOf t + 4

/-- Add a node as part of an expression. -/
def lower? (parent : Option Nat) (t : Ruby.Tree) (o : Outline) : Option Outline :=
  match t.label.kind with
  | .classDef => definition? .classDef parent t o
  | .moduleDef => definition? .moduleDef parent t o
  | .method => definition? .method parent t o
  | .singletonMethod => definition? .singletonMethod parent t o
  | .assignment => assignment? parent t o
  | .call => call? parent t o
  | .lambda => lambda? parent t o
  | _ => plain? parent t o
termination_by 5 * sizeOf t + 3

/-- Add several nodes as parts of an expression, one after the other. -/
def parts? (parent : Option Nat) (ts : List Ruby.Tree) (o : Outline) : Option Outline :=
  match ts with
  | [] => some o
  | t :: ts => do
    let grown ← lower? parent t o
    parts? parent ts grown
termination_by 5 * sizeOf ts

/-- Add the child of `t` in the given field, if there is one. -/
def inField? (f : Ruby.Field) (parent : Option Nat) (t : Ruby.Tree) (o : Outline) :
    Option Outline :=
  match h : child? t.children f with
  | none => some o
  | some s =>
    have := Ruby.sizeOf_child?_lt h
    lower? parent s o
termination_by 5 * sizeOf t

/-- Add what is below the child of `t` in the given field, as parts of an expression. -/
def partsIn? (f : Ruby.Field) (parent : Option Nat) (t : Ruby.Tree) (o : Outline) :
    Option Outline :=
  match h : child? t.children f with
  | none => some o
  | some s =>
    have := Ruby.sizeOf_child?_lt h
    have := Ruby.sizeOf_statementsBelow_lt s
    parts? parent (statementsBelow s) o
termination_by 5 * sizeOf t

/-- Add the body of the child of `t` in the given field. -/
def bodyIn? (f : Ruby.Field) (parent : Option Nat) (t : Ruby.Tree) (o : Outline) :
    Option Outline :=
  match h : child? t.children f with
  | none => some o
  | some s =>
    have := Ruby.sizeOf_child?_lt h
    have := Ruby.sizeOf_bodyStatements_lt s
    body? parent (bodyStatements s) o
termination_by 5 * sizeOf t

/-- Add a node of no particular shape and what is below it. -/
def plain? (parent : Option Nat) (t : Ruby.Tree) (o : Outline) : Option Outline := do
  have := Ruby.sizeOf_statementsBelow_lt t
  let above ← o.push? parent { shape := .other, span := t.label.span }
  parts? (some o.size) (statementsBelow t) above
termination_by 5 * sizeOf t + 1

/-- Add a class, module or method, then its headers, then its body. -/
def definition? (shape : Shape) (parent : Option Nat) (t : Ruby.Tree) (o : Outline) :
    Option Outline := do
  have := Ruby.sizeOf_bodyStatements_lt t
  let above ← o.push? parent { shape, span := t.label.span, name := textOf? text t .name }
  let headed ← Ruby.Field.headers.foldlM (fun o' f => inField? f (some o.size) t o') above
  body? (some o.size) (bodyStatements t) headed
termination_by 5 * sizeOf t + 1

/-- Add an assignment.  If its left side is a constant, the right side is all that is below it. -/
def assignment? (parent : Option Nat) (t : Ruby.Tree) (o : Outline) : Option Outline :=
  match child? t.children .left with
  | none => plain? parent t o
  | some target =>
    match target.label.kind with
    | .constant | .scopeResolution => do
      let above ← o.push? parent
        { shape := .constant, span := t.label.span, name := some (text target.label.span) }
      inField? .right (some o.size) t above
    | _ => plain? parent t o
termination_by 5 * sizeOf t + 2

/-- Add a call, its receiver and its arguments.  A call with a block stands under a node for the
whole, and so do the parameters and the body of the block. -/
def call? (parent : Option Nat) (t : Ruby.Tree) (o : Outline) : Option Outline :=
  match h : child? t.children .block with
  | none => do
    let called ← o.push? parent (callNode text .call t.label.span t)
    operands? (some o.size) t called
  | some block => do
    have := Ruby.sizeOf_child?_lt h
    have := Ruby.sizeOf_bodyStatements_lt block
    let whole ← o.push? parent (callNode text .block t.label.span t)
    let called ← whole.push? (some o.size) (callNode text .call (headSpan t) t)
    let applied ← operands? (some whole.size) t called
    let headed ← inField? .parameters (some o.size) block applied
    body? (some o.size) (bodyStatements block) headed
termination_by 5 * sizeOf t + 2

/-- Add the receiver and the arguments of a call. -/
def operands? (parent : Option Nat) (t : Ruby.Tree) (o : Outline) : Option Outline := do
  let received ← inField? .receiver parent t o
  partsIn? .arguments parent t received
termination_by 5 * sizeOf t + 1

/-- Add a lambda, then its parameters, then its body. -/
def lambda? (parent : Option Nat) (t : Ruby.Tree) (o : Outline) : Option Outline := do
  let above ← o.push? parent { shape := .lambda, span := t.label.span }
  let headed ← inField? .parameters (some o.size) t above
  bodyIn? .body (some o.size) t headed
termination_by 5 * sizeOf t + 1

end

/-! ### What is looked for in a field -/

section

variable (f : Ruby.Field) (parent : Option Nat) (t : Ruby.Tree) (o : Outline)

theorem inField?_eq : inField? text f parent t o =
    (child? t.children f).elim (some o) fun s => lower? text parent s o := by
  rw [inField?]
  split
  · next h => simp only [h, Option.elim_none]
  · next h => simp only [h, Option.elim_some]

theorem partsIn?_eq : partsIn? text f parent t o =
    (child? t.children f).elim (some o) fun s => parts? text parent (statementsBelow s) o := by
  rw [partsIn?]
  split
  · next h => simp only [h, Option.elim_none]
  · next h => simp only [h, Option.elim_some]

theorem bodyIn?_eq : bodyIn? text f parent t o =
    (child? t.children f).elim (some o) fun s => body? text parent (bodyStatements s) o := by
  rw [bodyIn?]
  split
  · next h => simp only [h, Option.elim_none]
  · next h => simp only [h, Option.elim_some]

end

end Lowering

namespace Outline

/-- The nodes of the file with the parse tree `t`, added one after the other from nothing. -/
def lowered? (text : Span → String) (t : Ruby.Tree) : Option Outline :=
  Lowering.body? text none (Ruby.statementsBelow t) empty

/-- The outline of the file with the parse tree `t`. -/
def ofTree (text : Span → String) (t : Ruby.Tree) : Outline :=
  (lowered? text t).getD empty

end Outline

end ModelLayout

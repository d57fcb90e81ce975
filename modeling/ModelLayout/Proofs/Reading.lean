import ModelLayout.Outline.Basic
import ModelLayout.Ruby.Tree

/-!
# What the nodes of a parse tree contribute to an outline

An outline is built node by node.  Here the same is said in terms of trees, from the bottom up: what
is built for a node is a tree over what is built for the nodes below it.  Statements about outlines
are then proved by induction over the parse tree, one construct at a time.

What a piece of Ruby means for the outline depends on where it stands: a name is a call if it
is a statement and nothing in particular if it is an argument, and the statements inside a
block are of no interest to the node that the block is an argument of.  So each node of a parse
tree is given a *reading* that holds one answer for each place in which it could stand, and the
node above picks those that it needs.

## Main definitions

* `gather` — the statements of a body as one tree.
* `Reading`, `Reading.of` — the answers of a node, from those of its children.
* `Reading.ofTree` — the reading of a parse tree.

## Main results

* `Reading.ofTree_node` — one step of the reading.
* `Reading.field?_map`, `Reading.statementChildren_map` — what is found among the readings of some
  nodes is the reading of what is found among the nodes.
* `Reading.span_statement_ofTree` — what a node contributes has the range of the node.
-/

namespace ModelLayout

/-- A statement list as one node: nothing, the only statement, or a sequence of them. -/
def gather : List (Rose Node) → Option (Rose Node)
  | [] => none
  | [s] => some s
  | s :: t :: rest =>
    let last := (t :: rest).getLast (by simp)
    some (.node { shape := .sequence, span := s.label.span.hull last.label.span }
      (s :: t :: rest))

/-- What a node of a parse tree contributes to the outline, for each place it may stand in. -/
structure Reading where
  label : Ruby.Label
  /-- The node as part of an expression. -/
  expression : Rose Node
  /-- The node as a statement. -/
  statement : Rose Node
  /-- The parameters of the node, if it is a block or a lambda. -/
  parameters : Option (Rose Node)
  /-- The number of named nodes below it: of an argument list, the arguments and comments. -/
  namedCount : Nat
  /-- What the nodes below it contribute as parts of an expression. -/
  parts : List (Rose Node)
  /-- What the nodes below it contribute as statements. -/
  statements : List (Rose Node)
  /-- The statements of its body. -/
  body : List (Rose Node)

namespace Reading

/-- The child in the given field. -/
def field? (children : List Reading) (f : Ruby.Field) : Option Reading :=
  children.find? (·.label.field == some f)

/-- The children that can stand as statements. -/
def statementChildren (children : List Reading) : List Reading :=
  children.filter (·.label.isStatement)

/-- The statements of a body.  Without a child in the field for bodies, they are the children
that are no headers. -/
def bodyOf (children : List Reading) : List (Rose Node) :=
  match field? children .body with
  | some b =>
    match b.label.kind with
    | .bodyStatement | .blockBody => b.statements
    | _ => [b.statement]
  | none => (statementChildren (Ruby.withoutHeaders Reading.label children)).map (·.statement)

/-- A node of no particular shape above the parts of its children. -/
def plain (l : Ruby.Label) (children : List Reading) : Rose Node :=
  .node { shape := .other, span := l.span } ((statementChildren children).map (·.expression))

/-- A class, module or method: its headers come first, then its body. -/
def definition (text : Span → String) (shape : Shape) (l : Ruby.Label)
    (children : List Reading) : Rose Node :=
  let name := (field? children .name).map fun r => text r.label.span
  let headers := (Ruby.Field.headers.filterMap (field? children)).map (·.expression)
  .node { shape, span := l.span, name } (headers ++ (gather (bodyOf children)).toList)

/-- An assignment.  If its left side is a constant, the right side is all that is below it. -/
def assignment (text : Span → String) (l : Ruby.Label) (children : List Reading) : Rose Node :=
  match field? children .left with
  | none => plain l children
  | some target =>
    match target.label.kind with
    | .constant | .scopeResolution =>
      .node { shape := .constant, span := l.span, name := some (text target.label.span) }
        ((field? children .right).map (·.expression)).toList
    | _ => plain l children

/-- The range of a call up to its arguments, or up to its name if it has none. -/
def callSpan (l : Ruby.Label) (children : List Reading) : Span :=
  match field? children .arguments <|> field? children .method with
  | none => l.span
  | some last => l.span.hull last.label.span

/-- A call.  Its receiver and its arguments are below it; with a block, the call ends before
the block, and both stand under a node for the whole. -/
def call (text : Span → String) (l : Ruby.Label) (children : List Reading) : Rose Node :=
  let receiver := field? children .receiver
  let arguments := field? children .arguments
  let name := (field? children .method).map fun r => text r.label.span
  let hasReceiver := receiver.isSome
  let hasArguments := arguments.any (0 < ·.namedCount)
  let below := (receiver.map (·.expression)).toList ++ (arguments.map (·.parts)).getD []
  match field? children .block with
  | none => .node { shape := .call, span := l.span, name, hasReceiver, hasArguments } below
  | some block =>
    let head : Rose Node :=
      .node { shape := .call, span := callSpan l children, name, hasReceiver, hasArguments } below
    .node { shape := .block, span := l.span, name, hasReceiver, hasArguments }
      (head :: (block.parameters.toList ++ (gather block.body).toList))

/-- A lambda: its parameters, then its body. -/
def lambda (l : Ruby.Label) (children : List Reading) : Rose Node :=
  let parameters := (field? children .parameters).map (·.expression)
  let body := (field? children .body).bind fun r => gather r.body
  .node { shape := .lambda, span := l.span } (parameters.toList ++ body.toList)

/-- A node as part of an expression. -/
def expressionOf (text : Span → String) (l : Ruby.Label) (children : List Reading) : Rose Node :=
  match l.kind with
  | .classDef => definition text .classDef l children
  | .moduleDef => definition text .moduleDef l children
  | .method => definition text .method l children
  | .singletonMethod => definition text .singletonMethod l children
  | .assignment => assignment text l children
  | .call => call text l children
  | .lambda => lambda l children
  | _ => plain l children

/-- A node as a statement: a bare name is a call. -/
def statementOf (text : Span → String) (l : Ruby.Label) (children : List Reading) : Rose Node :=
  match l.kind with
  | .identifier => .node { shape := .call, span := l.span, name := some (text l.span) } []
  | _ => expressionOf text l children

/-- The reading of a node, from the readings of its children.  `text` gives the text that a
range covers. -/
def of (text : Span → String) (l : Ruby.Label) (children : List Reading) : Reading where
  label := l
  expression := expressionOf text l children
  statement := statementOf text l children
  parameters := (field? children .parameters).map (·.expression)
  namedCount := (children.filter (·.label.named)).length
  parts := (statementChildren children).map (·.expression)
  statements := (statementChildren children).map (·.statement)
  body := bodyOf children

mutual

/-- The reading of a parse tree. -/
def ofTree (text : Span → String) : Ruby.Tree → Reading
  | .node l ts => of text l (ofTrees text ts)

/-- The readings of several parse trees. -/
def ofTrees (text : Span → String) : List Ruby.Tree → List Reading
  | [] => []
  | t :: ts => ofTree text t :: ofTrees text ts

end

theorem ofTrees_eq_map (text : Span → String) (ts : List Ruby.Tree) :
    ofTrees text ts = ts.map (ofTree text) := by
  induction ts with
  | nil => rfl
  | cons t ts ih => rw [ofTrees, List.map_cons, ih]

theorem ofTree_node (text : Span → String) (l : Ruby.Label) (ts : List Ruby.Tree) :
    ofTree text (.node l ts) = of text l (ts.map (ofTree text)) := by
  rw [ofTree, ofTrees_eq_map]

@[simp] theorem label_ofTree (text : Span → String) (t : Ruby.Tree) :
    (ofTree text t).label = t.label := by
  cases t with
  | node l ts => rfl

section Trees

variable {g : Ruby.Tree → Reading} (hg : ∀ t, (g t).label = t.label)
include hg

theorem field?_map (ts : List Ruby.Tree) (f : Ruby.Field) :
    field? (ts.map g) f = (Ruby.child? ts f).map g := by
  rw [field?, List.find?_map, Ruby.child?]
  simp only [Function.comp_def, hg]

theorem statementChildren_map (ts : List Ruby.Tree) :
    statementChildren (ts.map g) = (ts.filter (·.label.isStatement)).map g := by
  rw [statementChildren, List.filter_map]
  simp only [Function.comp_def, hg]

theorem statementChildren_withoutHeaders_map (ts : List Ruby.Tree) :
    statementChildren (Ruby.withoutHeaders Reading.label (ts.map g)) =
      (Ruby.looseStatements ts).map g := by
  rw [Ruby.withoutHeaders_map, statementChildren_map hg, Ruby.looseStatements]
  simp only [hg]

end Trees

/-! ### The range of a reading -/

theorem span_assignment (text : Span → String) (l : Ruby.Label) (rs : List Reading) :
    (assignment text l rs).label.span = l.span := by
  unfold assignment
  split
  · rfl
  · split <;> rfl

theorem span_call (text : Span → String) (l : Ruby.Label) (rs : List Reading) :
    (call text l rs).label.span = l.span := by
  unfold call
  split <;> rfl

theorem span_expressionOf (text : Span → String) (l : Ruby.Label) (rs : List Reading) :
    (expressionOf text l rs).label.span = l.span := by
  unfold expressionOf
  split
  case h_5 => exact span_assignment text l rs
  case h_6 => exact span_call text l rs
  all_goals rfl

/-- A statement has the range of the node it is read from. -/
theorem span_statementOf (text : Span → String) (l : Ruby.Label) (rs : List Reading) :
    (statementOf text l rs).label.span = l.span := by
  unfold statementOf
  split
  · rfl
  · exact span_expressionOf text l rs

theorem span_statement_ofTree (text : Span → String) (t : Ruby.Tree) :
    (ofTree text t).statement.label.span = t.label.span := by
  cases t with
  | node l ts =>
    rw [ofTree_node]
    exact span_statementOf text l _

end Reading

end ModelLayout

import ModelLayout.Span
import ModelLayout.Rose

/-!
# Parse trees of Ruby files

A Ruby parser describes a file by a tree.  Each of its nodes covers a range of the file, has a
kind, and may play a named part for the node above it (its *field*: the name of a class, the
receiver of a call).  Only the kinds and fields that matter for the layout of a model are told
apart.

* `Ruby.Field`, `Ruby.Kind`, `Ruby.Label` — what a node carries.
* `Ruby.Tree`, `Ruby.Tree.ofRows` — the trees, and how one is read from a list of rows.
* `Ruby.child?`, `Ruby.statementsBelow`, `Ruby.bodyStatements` — the nodes below a node that are
  looked for.
* `Ruby.ParseError`, `Ruby.Grammar` — what finds the tree of a text, and why it may not.

## References

The parser collaborator of `SPEC_FULL.md`, section 11.
-/

namespace ModelLayout
namespace Ruby

/-- The part that a node plays for the node above it. -/
inductive Field
  | name
  | superclass
  | parameters
  | object
  | value
  | left
  | right
  | method
  | receiver
  | arguments
  | block
  | body
  deriving DecidableEq, Repr, Inhabited

/-- The kind of a node, as far as it matters. -/
inductive Kind
  | classDef
  | moduleDef
  | method
  | singletonMethod
  | assignment
  | call
  | lambda
  | identifier
  | constant
  | scopeResolution
  | bodyStatement
  | blockBody
  | comment
  | emptyStatement
  /-- Every other kind. -/
  | other
  deriving DecidableEq, Repr, Inhabited

/-- What a node of a parse tree carries. -/
structure Label where
  field : Option Field
  kind : Kind
  /-- A named node stands for a rule of the grammar, not for a mere token. -/
  named : Bool
  span : Span
  deriving DecidableEq, Repr, Inhabited

/-- A parse tree. -/
abbrev Tree := Rose Label

/-- Why a text has no parse tree. -/
inductive ParseError
  /-- The grammar of the language could not be loaded. -/
  | language (reason : String)
  /-- The parser gave up. -/
  | failed
  deriving DecidableEq, Repr, Inhabited

/-- The text that reports why there is no parse tree. -/
def ParseError.message : ParseError → String
  | language reason => "language error: " ++ reason
  | failed => "parse failed"

/-- A parser of Ruby.  It recovers from errors in the text, but it can fail for other reasons. -/
abbrev Grammar := String → Except ParseError Tree

/-- The field with the given name. -/
def Field.ofName? : String → Option Field
  | "name" => some name
  | "superclass" => some superclass
  | "parameters" => some parameters
  | "object" => some object
  | "value" => some value
  | "left" => some left
  | "right" => some right
  | "method" => some method
  | "receiver" => some receiver
  | "arguments" => some arguments
  | "block" => some block
  | "body" => some body
  | _ => none

/-- The kind that the grammar gives the name `name`. -/
def Kind.ofName : String → Kind
  | "class" => classDef
  | "module" => moduleDef
  | "method" => method
  | "singleton_method" => singletonMethod
  | "assignment" => assignment
  | "call" => call
  | "lambda" => lambda
  | "identifier" => identifier
  | "constant" => constant
  | "scope_resolution" => scopeResolution
  | "body_statement" => bodyStatement
  | "block_body" => blockBody
  | "comment" => comment
  | "empty_statement" => emptyStatement
  | _ => other

/-- A node can stand as a statement if it is a rule of the grammar and neither a comment nor
an empty statement. -/
def Label.isStatement (l : Label) : Bool :=
  l.named && l.kind != .comment && l.kind != .emptyStatement

/-- The fields of the headers, which come before a body, in the order in which they are read. -/
def Field.headers : List Field :=
  [name, superclass, parameters, object, value]

/-- What is left of the children of a node without its headers.  The header in a field is the first
child in it: a later child in the same field is none. -/
def withoutHeaders {α : Type} (label : α → Label) (children : List α) : List α :=
  Field.headers.foldl (fun cs f => cs.eraseP fun c => (label c).field == some f) children

theorem withoutHeaders_sublist {α : Type} (label : α → Label) (children : List α) :
    (withoutHeaders label children).Sublist children := by
  unfold withoutHeaders
  generalize Field.headers = fields
  induction fields generalizing children with
  | nil => exact List.Sublist.refl _
  | cons f fields ih => exact (ih _).trans List.eraseP_sublist

theorem withoutHeaders_map {α β : Type} (label : β → Label) (g : α → β) (children : List α) :
    withoutHeaders label (children.map g) =
      (withoutHeaders (fun c => label (g c)) children).map g := by
  unfold withoutHeaders
  exact List.foldl_hom (List.map g) fun cs f => List.eraseP_map

/-- The first of the nodes `ts` that stands in the given field. -/
def child? (ts : List Tree) (f : Field) : Option Tree :=
  ts.find? (·.label.field == some f)

theorem field_of_child? {ts : List Tree} {f : Field} {t : Tree} (h : child? ts f = some t) :
    t.label.field = some f := by
  simpa using List.find?_some h

theorem child?_eq_none {ts : List Tree} {f : Field} (h : ∀ t ∈ ts, t.label.field ≠ some f) :
    child? ts f = none :=
  List.find?_eq_none.2 fun t ht => by simpa using h t ht

/-- The nodes right below a node that can stand as statements. -/
def statementsBelow (t : Tree) : List Tree :=
  t.children.filter (·.label.isStatement)

/-- The children that can stand as statements and are no headers. -/
def looseStatements (ts : List Tree) : List Tree :=
  (withoutHeaders Rose.label ts).filter (·.label.isStatement)

/-- The statements in the body of a class, module, method or block.  A body that is no list of
statements is the only one; without a body, they are the children that are no headers. -/
def bodyStatements (t : Tree) : List Tree :=
  match child? t.children .body with
  | some b =>
    match b.label.kind with
    | .bodyStatement | .blockBody => statementsBelow b
    | _ => [b]
  | none => looseStatements t.children

/-- The tree whose nodes are the given rows, in pre-order: the first one that stands under no
other. -/
def Tree.ofRows (rows : List (Link Label)) : Option Tree :=
  (Rose.forest rows).head?

end Ruby
end ModelLayout

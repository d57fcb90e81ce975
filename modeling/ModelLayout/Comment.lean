import ModelLayout.Text.Blank
import ModelLayout.Outline.Basic
import ModelLayout.Ruby.Tree

/-!
# Comments and the nodes they belong to

The comments of a file are shared out among the nodes of its outline in one walk through the
tree.  The walk makes *stops*: one when it enters a node, two when it leaves it.  At each stop
the node takes comments from the front of those that are left, as long as they pass the test of
the stop.

* On entering: comments that end before the node starts.  A sequence of statements makes no
  such stop, so that a comment above the first statement goes to the statement.
* On leaving: comments that start before the node ends, and then those that start on its last
  line.

## Main definitions

* `Comment`, `Ruby.comments` — comments, and those of a parse tree.
* `Stop`, `stops`, `sweep` — the walk.
* `Commentary`, `Commentary.associate` — the comments of a file, each with the node that took it.

## References

The comment-attachment index of `SPEC_FULL.md`, section 6, as built in section 10.
-/

namespace ModelLayout

/-- A comment with its text. -/
structure Comment where
  text : String
  span : Span
  deriving DecidableEq, Repr, Inhabited

/-- The line on which a comment starts. -/
def Comment.line (c : Comment) : Nat :=
  c.span.firstLine

namespace Ruby

mutual

/-- The comments of a parse tree, without the blanks at the end of their texts. -/
def comments (text : Span → String) : Tree → List Comment
  | .node l ts =>
    if l.kind = .comment then [⟨Text.trimEnd (text l.span), l.span⟩] else commentsAll text ts

/-- The comments of several parse trees. -/
def commentsAll (text : Span → String) : List Tree → List Comment
  | [] => []
  | t :: ts => comments text t ++ commentsAll text ts

end

end Ruby

/-- A moment of the walk at which the node `owner` takes the comments that pass a test. -/
structure Stop where
  owner : Nat
  takes : Comment → Bool

namespace Stop

/-- On entering the node `i`: take what ends before it starts. -/
def leading (i : Nat) (n : Node) : Stop :=
  ⟨i, fun c => c.span.endByte ≤ n.span.startByte⟩

/-- On leaving the node `i`: take what starts before it ends. -/
def inner (i : Nat) (n : Node) : Stop :=
  ⟨i, fun c => c.span.startByte < n.span.endByte⟩

/-- On leaving the node `i`: take what starts on its last line. -/
def trailing (i : Nat) (n : Node) : Stop :=
  ⟨i, fun c => c.line == n.span.stop.line⟩

/-- The stops made on entering a node. -/
def onEnter (i : Nat) (n : Node) : List Stop :=
  if n.shape = .sequence then [] else [leading i n]

/-- The stops made on leaving a node. -/
def onLeave (i : Nat) (n : Node) : List Stop :=
  [inner i n, trailing i n]

end Stop

mutual

/-- The stops of the walk through a tree. -/
def stops : Rose (Nat × Node) → List Stop
  | .node (i, n) ts => Stop.onEnter i n ++ (stopsAll ts ++ Stop.onLeave i n)

/-- The stops of the walk through several trees. -/
def stopsAll : List (Rose (Nat × Node)) → List Stop
  | [] => []
  | t :: ts => stops t ++ stopsAll ts

end

/-- Who takes the comments: the owners of those that are taken at some stop, in order.  At each
stop comments are taken from the front until one fails the test. -/
def sweep : List Stop → List Comment → List Nat
  | [], _ => []
  | s :: rest, cs =>
    (cs.takeWhile s.takes).map (fun _ => s.owner) ++ sweep rest (cs.dropWhile s.takes)

@[simp] theorem sweep_nil (cs : List Comment) : sweep [] cs = [] := rfl

@[simp] theorem sweep_cons (s : Stop) (rest : List Stop) (cs : List Comment) :
    sweep (s :: rest) cs
      = (cs.takeWhile s.takes).map (fun _ => s.owner) ++ sweep rest (cs.dropWhile s.takes) := rfl

/-- The comments of a file in the order in which they start.  The comment at position `k`
belongs to the node `owners[k]`, and to none if there is no such entry. -/
structure Commentary where
  comments : List Comment
  owners : List Nat
  deriving DecidableEq, Repr, Inhabited

namespace Commentary

/-- Comments in the order in which they start; those that start at the same byte stay as they
were. -/
def inOrder (comments : List Comment) : List Comment :=
  comments.mergeSort fun c d => decide (c.span.startByte ≤ d.span.startByte)

/-- Share out comments among the nodes below the root of an outline. -/
def associate (o : Outline) (comments : List Comment) : Commentary :=
  let sorted := inOrder comments
  { comments := sorted
    owners := sweep ((o.rootTree?.map stops).getD []) sorted }

/-- The positions of the comments that belong to the node `i`. -/
def positions (k : Commentary) (i : Nat) : List Nat :=
  (k.owners.zipIdx.filter (·.1 == i)).map (·.2)

/-- The comments that belong to the node `i`. -/
def attached (k : Commentary) (i : Nat) : List Comment :=
  (k.positions i).filterMap (k.comments[·]?)

/-- The first comment that starts on the given line. -/
def onLine? (k : Commentary) (line : Nat) : Option Comment :=
  k.comments.find? (·.line == line)

end Commentary

end ModelLayout

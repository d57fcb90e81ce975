import ModelLayout.Declaration
import ModelLayout.Heading
import ModelLayout.Outline.Preorder
import ModelLayout.Outline.Lowering

/-!
# The review of a model

The declarations of a file are looked at one by one.  The first declaration of each category
has to stand under the section comment of that category, and the categories, in the order in
which they first occur, have to follow the required order.  After a bare call of `private`
nothing is looked at any more, and only the first break of the order is reported.

## Main definitions

* `Offense` — what a review finds.
* `Event`, `Review.observe` — what a node means for a review.
* `Review`, `Review.step`, `Review.run` — a review under way, and how it goes on.
* `SourceFile`, `SourceFile.offenses`, `offensesIn` — the review of a file.
* `SourceFile.grammar` — a parser that knows some files.

## References

The validator engine of `SPEC_FULL.md`, section 4.4, on the declarations of section 12; the texts of
the messages are in section 13.
-/

namespace ModelLayout

/-- What an offense is about. -/
inductive OffenseKind
  /-- A section comment that is missing or wrong. -/
  | comment
  /-- A category that comes too late. -/
  | order
  deriving DecidableEq, Repr, Inhabited

/-- The name of a kind of offense in reports. -/
def OffenseKind.name : OffenseKind → String
  | comment => "comment"
  | order => "order"

/-- Something that breaks the rules, and where. -/
structure Offense where
  span : Span
  kind : OffenseKind
  message : String
  deriving DecidableEq, Repr, Inhabited

/-- A declaration that is reviewed. -/
structure Element where
  category : Category
  span : Span
  /-- The text of the comment that introduces it. -/
  heading : Option String
  deriving DecidableEq, Repr, Inhabited

/-- What a node means for a review. -/
inductive Event
  /-- From here on nothing is reviewed. -/
  | privateMarker
  /-- A declaration to review. -/
  | element (e : Element)
  /-- Nothing. -/
  | nothing
  deriving DecidableEq, Repr, Inhabited

/-- A list of categories, one to a line. -/
def bulletList (cs : List Category) : String :=
  "\n* " ++ String.intercalate "\n* " (cs.map Category.name) ++ "\n"

/-- The message about a missing section comment. -/
def commentMessage (expected : String) : String :=
  "Expected preceding comment: \"" ++ expected ++ "\""

/-- The message about a break of the required order. -/
def orderMessage (required observed : List Category) : String :=
  "Model elements must appear in order:" ++ bulletList required ++
    "\nObserved order:" ++ bulletList observed

/-- A review under way. -/
structure Review where
  /-- The categories of the required order that have occurred, in the order of their first
  occurrence. -/
  seen : List Category := []
  /-- The categories whose section comment has been checked, in the same order. -/
  checked : List Category := []
  /-- The order has been found broken. -/
  orderReported : Bool := false
  /-- The private part of the class has begun. -/
  privateReached : Bool := false
  offenses : List Offense := []
  deriving DecidableEq, Repr, Inhabited

namespace Review

/-- What the node `i` means: the private marker, a declaration that belongs to a class or a
group, or nothing. -/
def observe (rules : Rules) (o : Outline) (k : Commentary) (i : Nat) : Event :=
  match o.node? i with
  | none => .nothing
  | some n =>
    if n.isPrivateMarker then .privateMarker
    else
      match n.category? rules.isMisc with
      | none => .nothing
      | some c =>
        if o.isIgnored i then .nothing
        else .element ⟨c, n.span, (heading? o k i).map Comment.text⟩

/-- Whether a declaration stands under the section comment that its category needs. -/
def headingFits (rules : Rules) (e : Element) : Bool :=
  match rules.comment e.category with
  | none => true
  | some expected => (e.heading.map Text.trim) == some expected

/-- The offense of a declaration that should stand under a section comment and does not. -/
def commentOffense? (rules : Rules) (e : Element) : Option Offense :=
  match rules.comment e.category with
  | none => none
  | some expected =>
    if headingFits rules e then none else some ⟨e.span, .comment, commentMessage expected⟩

/-- Categories sorted by their place in the required order. -/
def inRequiredOrder (rules : Rules) (cs : List Category) : List Category :=
  cs.mergeSort fun c d =>
    match rules.orderIndex? c, rules.orderIndex? d with
    | none, _ => true
    | some _, none => false
    | some m, some n => decide (m ≤ n)

/-- Check the section comment of a declaration, if it is the first of its category. -/
def checkComment (rules : Rules) (r : Review) (e : Element) : Review :=
  if e.category ∈ r.checked then r
  else { r with
    checked := r.checked ++ [e.category]
    offenses := r.offenses ++ (commentOffense? rules e).toList }

/-- Note the category of a declaration, if its place in the order matters. -/
def note (rules : Rules) (r : Review) (c : Category) : Review :=
  if (rules.orderIndex? c).isNone || r.seen.contains c then r
  else { r with seen := r.seen ++ [c] }

/-- Report a break of the order at a declaration, unless one has been reported. -/
def checkOrder (rules : Rules) (r : Review) (e : Element) : Review :=
  if r.orderReported || inRequiredOrder rules r.seen == r.seen then r
  else { r with
    orderReported := true
    offenses := r.offenses ++ [⟨e.span, .order, orderMessage rules.order r.seen⟩] }

/-- Review one declaration. -/
def reviewElement (rules : Rules) (r : Review) (e : Element) : Review :=
  checkOrder rules (note rules (checkComment rules r e) e.category) e

/-- Go on with an event. -/
def step (rules : Rules) (r : Review) (event : Event) : Review :=
  if r.privateReached then r
  else
    match event with
    | .privateMarker => { r with privateReached := true }
    | .nothing => r
    | .element e => reviewElement rules r e

/-- Go on with a node. -/
def process (rules : Rules) (o : Outline) (k : Commentary) (r : Review) (i : Nat) : Review :=
  step rules r (observe rules o k i)

/-- A review of the given nodes, from the beginning. -/
def run (rules : Rules) (o : Outline) (k : Commentary) (nodes : List Nat) : Review :=
  nodes.foldl (process rules o k) {}

/-- The offenses in an outline: all its declarations are reviewed in document order. -/
def offensesOf (rules : Rules) (o : Outline) (k : Commentary) : List Offense :=
  (run rules o k o.declarations).offenses

end Review

/-- A Ruby file: its text, and the parse tree of that text. -/
structure SourceFile where
  text : String
  tree : Ruby.Tree
  deriving Inhabited

namespace SourceFile

/-- The text that a range covers; empty if the range cuts a character in two. -/
def textAt (f : SourceFile) : Span → String :=
  let chars := f.text.toList
  fun s => String.ofList (s.cover chars)

/-- The outline of a file. -/
def outline (f : SourceFile) : Outline :=
  Outline.ofTree f.textAt f.tree

/-- The comments of a file, each with the node it belongs to. -/
def commentary (f : SourceFile) : Commentary :=
  Commentary.associate f.outline (Ruby.comments f.textAt f.tree)

/-- The offenses in a file. -/
def offenses (rules : Rules) (f : SourceFile) : List Offense :=
  Review.offensesOf rules f.outline f.commentary

end SourceFile

/-- The parser that knows the parse trees of some files and gives up on every other text. -/
def SourceFile.grammar (files : List SourceFile) : Ruby.Grammar := fun text =>
  match files.find? (·.text == text) with
  | some f => .ok f.tree
  | none => .error .failed

theorem SourceFile.grammar_singleton (f : SourceFile) :
    SourceFile.grammar [f] f.text = .ok f.tree := by
  simp [SourceFile.grammar]

/-- The offenses in a text, if it can be parsed.  They depend on nothing but the text and the
rules. -/
def offensesIn (grammar : Ruby.Grammar) (rules : Rules) (text : String) :
    Except Ruby.ParseError (List Offense) :=
  (grammar text).map fun tree => SourceFile.offenses rules ⟨text, tree⟩

end ModelLayout

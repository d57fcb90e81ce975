import ModelLayout.Outline.Basic

/-!
# Which declarations belong to the class

A declaration is reviewed only if it belongs to the body of a class or to a group of
declarations that share options.  With respect to such a container there are three places in
which a node counts as a member:

* right below the container;
* in the sequence of statements that is the body of the container;
* below a block or lambda that is one of several statements of that body.

All that matters are the nodes around a node, the innermost first.

## References

The nesting filter of `SPEC_FULL.md`, section 4.2, with the first refinement of section 13.
-/

namespace ModelLayout

/-- The name of the call whose block groups declarations that share options. -/
def groupingName : String := "with_options"

/-- A call, or a block, that groups declarations. -/
def Node.isGrouping (n : Node) : Bool :=
  n.callName? == some groupingName

/-- A class. -/
def Node.isClass (n : Node) : Bool :=
  n.shape == .classDef

/-- Whether a node with the nodes `around` it, the innermost first, is a member of a container. -/
def memberOf (container : Node → Bool) : List Node → Bool
  | [] => false
  | parent :: outer =>
    container parent ||
      match parent.shape, outer with
      | .sequence, body :: _ => container body
      | .block, seq :: body :: _ => seq.shape == .sequence && container body
      | .lambda, seq :: body :: _ => seq.shape == .sequence && container body
      | _, _ => false

namespace Outline

/-- The node `i` is a member of a group of declarations. -/
def isGrouped (o : Outline) (i : Nat) : Bool :=
  memberOf Node.isGrouping (o.enclosing i)

/-- The node `i` is a member of a class. -/
def isClassMember (o : Outline) (i : Nat) : Bool :=
  memberOf Node.isClass (o.enclosing i)

/-- The node `i` belongs to some other scope and is not reviewed. -/
def isIgnored (o : Outline) (i : Nat) : Bool :=
  !(o.isClassMember i || o.isGrouped i)

end Outline

end ModelLayout

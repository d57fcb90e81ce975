import ModelLayout.Comment
import ModelLayout.Placement

/-!
# The comment that introduces a declaration

The heading of a node is, in this order of preference,

* the last comment that belongs to the node;
* the first comment on the line above it, which is where the comment of a call with a block is
  found, since it belongs to the block;
* for a member of a group of declarations, the heading of the node above it.

## References

The comment resolver of `SPEC_FULL.md`, section 4.3.
-/

namespace ModelLayout

/-- The heading of the node `i` as far as the node itself decides. -/
def ownHeading? (o : Outline) (k : Commentary) (i : Nat) : Option Comment :=
  (k.attached i).getLast? <|>
    match (o.node? i).map Node.firstLine with
    | some (line + 1) => k.onLine? line
    | _ => none

/-- The comment that introduces the node `i`. -/
def heading? (o : Outline) (k : Commentary) (i : Nat) : Option Comment :=
  match ownHeading? o k i with
  | some c => some c
  | none =>
    match h : o.parent? i with
    | none => none
    | some p =>
      have : p < i := Outline.lt_of_parent? h
      if o.isGrouped i then heading? o k p else none
termination_by i

end ModelLayout

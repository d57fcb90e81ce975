import ModelLayout.Proofs.Heading
import ModelLayout.Proofs.Scope
import ModelLayout.Proofs.Sequence

/-!
# Headings of the members of a group

A member of a group of declarations that has no comment of its own takes over the heading of the
node above it.  With one member this is the group.  With several it is the sequence of the members,
and a sequence looks for a comment on the line above it before it asks the group in turn.  This line
is the one above the first member.  So a comment there, meant for the first member, hides the comment
of the group from all others.

## Main definitions

* `Outline.IsGroup`, `Outline.InGroup` — the block of a group, and the statements in it.
* `Outline.commentAbove?` — the comment on the line above a node.
* `Outline.bodyComment?` — the comment on the line above the sequence that a node stands in.

## Main results

* `heading?_sequence` — the heading of the sequence of the members of a group.
* `SourceFile.heading_of_inGroup` — the heading of a member without a comment of its own, and when
  it is that of the group.
-/

namespace ModelLayout

namespace Outline

/-- The node `g` is the block of a group of declarations. -/
def IsGroup (o : Outline) (g : Nat) : Prop :=
  ∃ n, o.node? g = some n ∧ n.shape = .block ∧ n.name = some groupingName

/-- The node `i` is a statement of the block `g`: it stands right below the block, or in the sequence
of statements right below it. -/
inductive InGroup (o : Outline) (g : Nat) : Nat → Prop
  | single {i : Nat} (parent : o.parent? i = some g) : InGroup o g i
  | several {i b : Nat} {n : Node} (parent : o.parent? i = some b) (node : o.node? b = some n)
    (shape : n.shape = .sequence) (body : o.parent? b = some g) : InGroup o g i

/-- The first comment on the line above the node `i`. -/
def commentAbove? (o : Outline) (k : Commentary) (i : Nat) : Option Comment :=
  match (o.node? i).map Node.firstLine with
  | some (line + 1) => k.onLine? line
  | _ => none

/-- The comment on the line above the sequence in which the node `i` is a statement; none if the node
does not stand in a sequence. -/
def bodyComment? (o : Outline) (k : Commentary) (i : Nat) : Option Comment :=
  match o.parent? i with
  | none => none
  | some b => if (o.node? b).map Node.shape = some .sequence then o.commentAbove? k b else none

theorem bodyComment?_of_sequence {o : Outline} {i b : Nat} {n : Node} (hi : o.parent? i = some b)
    (hn : o.node? b = some n) (hshape : n.shape = .sequence) (k : Commentary) :
    o.bodyComment? k i = o.commentAbove? k b := by
  simp [bodyComment?, hi, hn, hshape]

theorem bodyComment?_eq_none {o : Outline} {i p : Nat} {n : Node} (hi : o.parent? i = some p)
    (hn : o.node? p = some n) (hshape : n.shape ≠ .sequence) (k : Commentary) :
    o.bodyComment? k i = none := by
  simp [bodyComment?, hi, hn, hshape]

theorem commentAbove?_eq_none {o : Outline} {k : Commentary} {i : Nat} {n : Node}
    (hn : o.node? i = some n) (h : ∀ c ∈ k.comments, c.line + 1 ≠ n.firstLine) :
    o.commentAbove? k i = none := by
  rw [commentAbove?, hn]
  split
  · next line hline =>
    refine List.find?_eq_none.2 fun c hc hpasses => h c hc ?_
    rw [eq_of_beq hpasses]
    exact (Option.some.inj hline).symm
  · rfl

/-! ### Members are grouped -/

theorem enclosing_of_parent? {o : Outline} {i p : Nat} {n : Node} (hp : o.parent? i = some p)
    (hn : o.node? p = some n) : o.enclosing i = n :: o.enclosing p := by
  rw [enclosing]
  split
  · next hnone => rw [hnone] at hp; cases hp
  · next q hq =>
    rw [hq, Option.some.injEq] at hp
    subst hp
    dsimp only
    rw [hn]
    rfl

variable {o : Outline} {g : Nat} (hgroup : o.IsGroup g)
include hgroup

theorem isGrouping_of_isGroup : ∃ n, o.node? g = some n ∧ n.shape = .block ∧
    n.isGrouping = true := by
  obtain ⟨n, hn, hshape, hname⟩ := hgroup
  refine ⟨n, hn, hshape, ?_⟩
  rw [Node.isGrouping, Node.callName?, hshape, hname]
  exact beq_self_eq_true _

theorem isGrouped_of_inGroup {i : Nat} (h : o.InGroup g i) : o.isGrouped i = true := by
  obtain ⟨n, hn, -, hgrouping⟩ := isGrouping_of_isGroup hgroup
  rw [isGrouped, memberOf_iff]
  cases h with
  | single hi => exact ⟨[], n, _, enclosing_of_parent? hi hn, hgrouping, by decide⟩
  | @several b m hi hb hshape hbody =>
    refine ⟨[m], n, o.enclosing g, ?_, hgrouping, by simp [memberPaths, hshape]⟩
    rw [enclosing_of_parent? hi hb, enclosing_of_parent? hbody hn]
    rfl

theorem isIgnored_of_inGroup {i : Nat} (h : o.InGroup g i) : o.isIgnored i = false := by
  rw [isIgnored, isGrouped_of_inGroup hgroup h, Bool.or_true]
  rfl

end Outline

/-! ### Where a heading is taken over from -/

theorem ownHeading?_of_attached_eq_nil {o : Outline} {k : Commentary} {i : Nat}
    (h : k.attached i = []) : ownHeading? o k i = o.commentAbove? k i := by
  rw [ownHeading?, h]
  rfl

/-- A member of a group to which no comment belongs has the comment on the line above it for its
heading, and else the heading of the node above it. -/
theorem heading?_of_attached_eq_nil {o : Outline} {k : Commentary} {i p : Nat}
    (h : k.attached i = []) (hgrouped : o.isGrouped i = true) (hp : o.parent? i = some p) :
    heading? o k i = (o.commentAbove? k i <|> heading? o k p) := by
  have hown := ownHeading?_of_attached_eq_nil (o := o) h
  cases habove : o.commentAbove? k i with
  | some c =>
    rw [habove] at hown
    exact heading?_of_own hown
  | none =>
    rw [habove] at hown
    exact heading?_of_grouped hown hgrouped hp

namespace SourceFile

variable {f : SourceFile} {g i : Nat} {n : Node} (hgroup : f.outline.IsGroup g)
  (hmember : f.outline.InGroup g i) (hn : f.outline.node? i = some n)
include hgroup

/-- The sequence of the members of a group has the comment on the line above it for its heading, and
else that of the group: no comment belongs to it. -/
theorem heading?_sequence {b : Nat} {m : Node} (hb : f.outline.node? b = some m)
    (hshape : m.shape = .sequence) (hbody : f.outline.parent? b = some g) :
    heading? f.outline f.commentary b =
      (f.outline.commentAbove? f.commentary b <|> heading? f.outline f.commentary g) :=
  heading?_of_attached_eq_nil (attached_eq_nil_of_sequence hb hshape)
    (Outline.isGrouped_of_inGroup hgroup (.single hbody)) hbody

include hmember hn

/-- A member without a comment of its own takes the comment above the members, and else that of the
group. -/
theorem heading?_of_inGroup (hattached : f.commentary.attached i = [])
    (habove : ∀ c ∈ f.commentary.comments, c.line + 1 ≠ n.firstLine) :
    heading? f.outline f.commentary i =
      (f.outline.bodyComment? f.commentary i <|> heading? f.outline f.commentary g) := by
  have hgrouped := Outline.isGrouped_of_inGroup hgroup hmember
  have hnone := Outline.commentAbove?_eq_none hn habove
  cases hmember with
  | single hi =>
    obtain ⟨p, hp, hshape, -⟩ := hgroup
    have hsequence : p.shape ≠ .sequence := by
      rw [hshape]
      exact Shape.noConfusion
    rw [heading?_of_attached_eq_nil hattached hgrouped hi, hnone,
      Outline.bodyComment?_eq_none hi hp hsequence]
  | several hi hb hshape hbody =>
    rw [heading?_of_attached_eq_nil hattached hgrouped hi, hnone,
      Outline.bodyComment?_of_sequence hi hb hshape, heading?_sequence hgroup hb hshape hbody]
    rfl

/-- **Every member of a group is reviewed.  One to which no comment belongs and with none on the line
above has the comment above all the members for its heading, and the heading of the group if there is
no such comment.**  So it has the text of the group exactly if a comment above the members, if there
is one, says the same. -/
theorem heading_of_inGroup :
    f.outline.isIgnored i = false ∧
      (f.commentary.attached i = [] →
        (∀ c ∈ f.commentary.comments, c.line + 1 ≠ n.firstLine) →
        heading? f.outline f.commentary i =
            (f.outline.bodyComment? f.commentary i <|> heading? f.outline f.commentary g) ∧
          ((heading? f.outline f.commentary i).map Comment.text =
              (heading? f.outline f.commentary g).map Comment.text ↔
            ∀ c ∈ f.outline.bodyComment? f.commentary i,
              (heading? f.outline f.commentary g).map Comment.text = some c.text)) := by
  refine ⟨Outline.isIgnored_of_inGroup hgroup hmember, fun hattached habove => ?_⟩
  have hheading := heading?_of_inGroup hgroup hmember hn hattached habove
  refine ⟨hheading, ?_⟩
  rw [hheading]
  cases f.outline.bodyComment? f.commentary i with
  | none => simp
  | some c => simp [eq_comm]

end SourceFile

/-! ### A group whose first member has a comment -/

/-- A group of two declarations with a comment above the group and another one above its first
member. -/
def decoratedGroup : SourceFile where
  text := "class Foo < ApplicationRecord\n  # Validations\n  with_options a: 1 do |o|\n" ++
    "    # Relationships\n    o.has_one :b\n    o.validates :c\n  end\nend\n"
  tree :=
    .node ⟨none, .other, true, ⟨0, 139, ⟨1, 0⟩, ⟨9, 0⟩⟩⟩
      [.node ⟨none, .classDef, true, ⟨0, 138, ⟨1, 0⟩, ⟨8, 3⟩⟩⟩
        [.node ⟨some .name, .constant, true, ⟨6, 9, ⟨1, 6⟩, ⟨1, 9⟩⟩⟩ [],
          .node ⟨some .superclass, .other, true, ⟨10, 29, ⟨1, 10⟩, ⟨1, 29⟩⟩⟩
            [.node ⟨none, .constant, true, ⟨12, 29, ⟨1, 12⟩, ⟨1, 29⟩⟩⟩ []],
          .node ⟨none, .comment, true, ⟨32, 45, ⟨2, 2⟩, ⟨2, 15⟩⟩⟩ [],
          .node ⟨some .body, .bodyStatement, true, ⟨48, 134, ⟨3, 2⟩, ⟨7, 5⟩⟩⟩
            [.node ⟨none, .call, true, ⟨48, 134, ⟨3, 2⟩, ⟨7, 5⟩⟩⟩
              [.node ⟨some .method, .identifier, true, ⟨48, 60, ⟨3, 2⟩, ⟨3, 14⟩⟩⟩ [],
                .node ⟨some .arguments, .other, true, ⟨61, 65, ⟨3, 15⟩, ⟨3, 19⟩⟩⟩
                  [.node ⟨none, .other, true, ⟨61, 65, ⟨3, 15⟩, ⟨3, 19⟩⟩⟩
                    [.node ⟨none, .other, true, ⟨61, 62, ⟨3, 15⟩, ⟨3, 16⟩⟩⟩ [],
                      .node ⟨some .value, .other, true, ⟨64, 65, ⟨3, 18⟩, ⟨3, 19⟩⟩⟩ []]],
                .node ⟨some .block, .other, true, ⟨66, 134, ⟨3, 20⟩, ⟨7, 5⟩⟩⟩
                  [.node ⟨some .parameters, .other, true, ⟨69, 72, ⟨3, 23⟩, ⟨3, 26⟩⟩⟩
                    [.node ⟨none, .identifier, true, ⟨70, 71, ⟨3, 24⟩, ⟨3, 25⟩⟩⟩ []],
                    .node ⟨none, .comment, true, ⟨77, 92, ⟨4, 4⟩, ⟨4, 19⟩⟩⟩ [],
                    .node ⟨some .body, .bodyStatement, true, ⟨97, 128, ⟨5, 4⟩, ⟨6, 18⟩⟩⟩
                      [.node ⟨none, .call, true, ⟨97, 109, ⟨5, 4⟩, ⟨5, 16⟩⟩⟩
                        [.node ⟨some .receiver, .identifier, true, ⟨97, 98, ⟨5, 4⟩, ⟨5, 5⟩⟩⟩ [],
                          .node ⟨some .method, .identifier, true, ⟨99, 106, ⟨5, 6⟩, ⟨5, 13⟩⟩⟩ [],
                          .node ⟨some .arguments, .other, true, ⟨107, 109, ⟨5, 14⟩, ⟨5, 16⟩⟩⟩
                            [.node ⟨none, .other, true, ⟨107, 109, ⟨5, 14⟩, ⟨5, 16⟩⟩⟩ []]],
                        .node ⟨none, .call, true, ⟨114, 128, ⟨6, 4⟩, ⟨6, 18⟩⟩⟩
                          [.node ⟨some .receiver, .identifier, true, ⟨114, 115, ⟨6, 4⟩, ⟨6, 5⟩⟩⟩ [],
                            .node ⟨some .method, .identifier, true, ⟨116, 125, ⟨6, 6⟩, ⟨6, 15⟩⟩⟩ [],
                            .node ⟨some .arguments, .other, true, ⟨126, 128, ⟨6, 16⟩, ⟨6, 18⟩⟩⟩
                              [.node ⟨none, .other, true, ⟨126, 128, ⟨6, 16⟩, ⟨6, 18⟩⟩⟩ []]]]]]]]]

theorem wellFormed_decoratedGroup : Ruby.WellFormed decoratedGroup.tree := by decide +kernel

theorem isGroup_decoratedGroup : decoratedGroup.outline.IsGroup 4 :=
  ⟨{ shape := .block, span := ⟨48, 134, ⟨3, 2⟩, ⟨7, 5⟩⟩, name := some "with_options",
      hasArguments := true }, by decide +kernel, rfl, rfl⟩

/-- The second member of the group. -/
theorem inGroup_decoratedGroup : decoratedGroup.outline.InGroup 4 15 := by
  have hsequence : decoratedGroup.outline.node? 11 =
      some { shape := .sequence, span := ⟨97, 128, ⟨5, 4⟩, ⟨6, 18⟩⟩ } := by decide +kernel
  exact .several (by decide +kernel) hsequence rfl (by decide +kernel)

theorem node?_decoratedGroup : decoratedGroup.outline.node? 15 =
    some { shape := .call, span := ⟨114, 128, ⟨6, 4⟩, ⟨6, 18⟩⟩, name := some "validates",
           hasReceiver := true, hasArguments := true } := by
  decide +kernel

theorem comments_decoratedGroup : Ruby.comments decoratedGroup.textAt decoratedGroup.tree =
    [⟨"# Validations", ⟨32, 45, ⟨2, 2⟩, ⟨2, 15⟩⟩⟩,
      ⟨"# Relationships", ⟨77, 92, ⟨4, 4⟩, ⟨4, 19⟩⟩⟩] := by
  decide +kernel

/-- One comment belongs to the block, the other one to the first member. -/
theorem commentary_decoratedGroup : decoratedGroup.commentary =
    { comments :=
        [⟨"# Validations", ⟨32, 45, ⟨2, 2⟩, ⟨2, 15⟩⟩⟩,
          ⟨"# Relationships", ⟨77, 92, ⟨4, 4⟩, ⟨4, 19⟩⟩⟩]
      owners := [4, 12] } := by
  rw [SourceFile.commentary_eq wellFormed_decoratedGroup.aligned, comments_decoratedGroup]
  decide +kernel

/-- The second member has no comment of its own. -/
theorem attached_decoratedGroup : decoratedGroup.commentary.attached 15 = [] := by
  rw [commentary_decoratedGroup]
  decide

theorem line_ne_decoratedGroup : ∀ c ∈ decoratedGroup.commentary.comments, c.line + 1 ≠ 6 := by
  rw [commentary_decoratedGroup]
  decide

/-- The comment of the first member stands above all members. -/
theorem bodyComment?_decoratedGroup :
    decoratedGroup.outline.bodyComment? decoratedGroup.commentary 15 =
      some ⟨"# Relationships", ⟨77, 92, ⟨4, 4⟩, ⟨4, 19⟩⟩⟩ := by
  rw [commentary_decoratedGroup]
  decide +kernel

/-- The heading of the second member is the comment of the first. -/
theorem heading_of_inGroup_decoratedGroup :
    decoratedGroup.outline.IsGroup 4 ∧ decoratedGroup.outline.InGroup 4 15 ∧
      decoratedGroup.commentary.attached 15 = [] ∧
      (heading? decoratedGroup.outline decoratedGroup.commentary 15).map Comment.text =
        some "# Relationships" := by
  have hheading := ((SourceFile.heading_of_inGroup isGroup_decoratedGroup inGroup_decoratedGroup
    node?_decoratedGroup).2 attached_decoratedGroup line_ne_decoratedGroup).1
  refine ⟨isGroup_decoratedGroup, inGroup_decoratedGroup, attached_decoratedGroup, ?_⟩
  rw [hheading, bodyComment?_decoratedGroup]
  rfl

/-- Not every member without a comment of its own has the comment of the group. -/
theorem not_forall_heading_eq_of_inGroup :
    ¬ ∀ (f : SourceFile) (g i : Nat) (n : Node), Ruby.WellFormed f.tree → f.outline.IsGroup g →
      f.outline.InGroup g i → f.outline.node? i = some n → f.commentary.attached i = [] →
      (∀ c ∈ f.commentary.comments, c.line + 1 ≠ n.firstLine) →
      (heading? f.outline f.commentary i).map Comment.text =
        (heading? f.outline f.commentary g).map Comment.text := by
  intro h
  have hsame := h decoratedGroup 4 15 _ wellFormed_decoratedGroup isGroup_decoratedGroup
    inGroup_decoratedGroup node?_decoratedGroup attached_decoratedGroup line_ne_decoratedGroup
  have hgroup : ownHeading? decoratedGroup.outline decoratedGroup.commentary 4 =
      some ⟨"# Validations", ⟨32, 45, ⟨2, 2⟩, ⟨2, 15⟩⟩⟩ := by
    rw [commentary_decoratedGroup]
    decide +kernel
  rw [SourceFile.heading?_of_inGroup isGroup_decoratedGroup inGroup_decoratedGroup
    node?_decoratedGroup attached_decoratedGroup line_ne_decoratedGroup,
    bodyComment?_decoratedGroup, heading?_of_own hgroup] at hsame
  exact absurd hsame (by decide)

end ModelLayout

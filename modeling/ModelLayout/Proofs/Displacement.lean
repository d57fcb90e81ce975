import ModelLayout.Proofs.Relabel
import ModelLayout.Review

/-!
# Moving a file as a whole

Blank lines before the first token move all that follows: every byte offset grows by one number, every
line by another, and columns stay.  Here it is proved that a review does not notice.  Nodes and
comments are compared with each other only, never with a fixed place, with one exception: there is no
line above line zero.  A node on line zero has no line above it; after the move it has one, but no
comment can have come to stand there.

Each function of the review is followed through the move in turn, from the ranges up to the offenses.

## Main definitions

* `Span.move`, `Node.move`, `Comment.move`, `Offense.move` — a range that is moved, and what has one.
* `Outline.move`, `Commentary.move`, `Review.move` — all of their ranges moved.

## Main results

* `Commentary.associate_move` — comments are shared out in the same way.
* `heading?_move` — each node has the same heading.
* `Review.run_move` — a review goes the same way.
* `Review.offensesOf_associate_move` — the offenses are the same and have moved with the file.
-/

namespace ModelLayout

/-! ### Ranges -/

/-- The range moved on by some bytes and lines. -/
def Span.move (bytes lines : Nat) (s : Span) : Span where
  startByte := s.startByte + bytes
  endByte := s.endByte + bytes
  start := ⟨s.start.line + lines, s.start.column⟩
  stop := ⟨s.stop.line + lines, s.stop.column⟩

/-- The node at another place. -/
def Node.move (bytes lines : Nat) (n : Node) : Node :=
  { n with span := n.span.move bytes lines }

/-- The comment at another place. -/
def Comment.move (bytes lines : Nat) (c : Comment) : Comment :=
  { c with span := c.span.move bytes lines }

/-- The offense at another place. -/
def Offense.move (bytes lines : Nat) (x : Offense) : Offense :=
  { x with span := x.span.move bytes lines }

section Move

variable (bytes lines : Nat)

@[simp] theorem Node.shape_move (n : Node) : (n.move bytes lines).shape = n.shape := rfl

@[simp] theorem Node.firstLine_move (n : Node) :
    (n.move bytes lines).firstLine = n.firstLine + lines := rfl

@[simp] theorem Comment.line_move (c : Comment) :
    (c.move bytes lines).line = c.line + lines := rfl

/-! ### Outlines -/

namespace Outline

/-- The outline with all nodes at other places. -/
def move (o : Outline) : Outline where
  links := o.links.map (Prod.map id (Node.move bytes lines))
  backward := by
    intro i p n hget
    rw [List.getElem?_map, Option.map_eq_some_iff] at hget
    obtain ⟨⟨parent, m⟩, hget, heq⟩ := hget
    exact o.backward i p m (by rw [hget, ← (Prod.mk.inj heq).1]; rfl)

variable (o : Outline)

@[simp] theorem node?_move (i : Nat) :
    (o.move bytes lines).node? i = (o.node? i).map (Node.move bytes lines) := by
  simp only [node?, move, List.getElem?_map, Option.map_map]
  rfl

@[simp] theorem parent?_move (i : Nat) : (o.move bytes lines).parent? i = o.parent? i := by
  rw [parent?, parent?, move, List.getElem?_map, Option.bind_map]
  rfl

@[simp] theorem childNumbers_move (i : Nat) :
    (o.move bytes lines).childNumbers i = o.childNumbers i := by
  simp only [childNumbers, move, List.zipIdx_map, List.filter_map, List.map_map]
  rfl

@[simp] theorem root?_move : (o.move bytes lines).root? = o.root? := by
  rw [root?, root?, move, List.findIdx?_map]
  rfl

theorem visit_move (stack : List Nat) : (o.move bytes lines).visit stack = o.visit stack := by
  fun_induction o.visit stack with
  | case1 => rw [visit]
  | case2 i stack ih => rw [visit, childNumbers_move, ih]

@[simp] theorem preorder_move : (o.move bytes lines).preorder = o.preorder := by
  rw [preorder, preorder, root?_move, visit_move]

@[simp] theorem declarations_move : (o.move bytes lines).declarations = o.declarations := by
  rw [declarations, declarations, preorder_move]
  refine List.filter_congr fun i _ => ?_
  rw [node?_move, Option.any_map]
  rfl

/-- The trees of the outline, with all nodes at other places. -/
theorem rootTree?_move : (o.move bytes lines).rootTree? =
    o.rootTree?.map (Rose.map (Prod.map id (Node.move bytes lines))) := by
  have htrees : (o.move bytes lines).trees =
      o.trees.map (Rose.map (Prod.map id (Node.move bytes lines))) := by
    rw [trees, trees, ← Rose.forest_map]
    simp only [move, List.zipIdx_map, List.map_map]
    rfl
  rw [rootTree?, rootTree?, htrees, List.head?_map]

theorem enclosing_move (i : Nat) :
    (o.move bytes lines).enclosing i = (o.enclosing i).map (Node.move bytes lines) := by
  fun_induction o.enclosing i with
  | case1 i h =>
    rw [enclosing]
    split
    · rfl
    · next p hp => rw [parent?_move, h] at hp; cases hp
  | case2 i p h hlt ih =>
    rw [enclosing]
    split
    · next hp => rw [parent?_move, h] at hp; cases hp
    · next q hq =>
      rw [parent?_move, h, Option.some.injEq] at hq
      subst hq
      rw [ih, node?_move, Option.toList_map, List.map_append]

end Outline

/-- Whether a node is a member of a container does not depend on places. -/
theorem memberOf_move {container : Node → Bool}
    (h : ∀ n, container (n.move bytes lines) = container n) (around : List Node) :
    memberOf container (around.map (Node.move bytes lines)) = memberOf container around := by
  match around with
  | [] => rfl
  | [n] =>
    simp only [List.map_cons, List.map_nil, memberOf, h, Node.shape_move]
  | [n, seq] =>
    simp only [List.map_cons, List.map_nil, memberOf, h, Node.shape_move]
    cases n.shape <;> simp only [h]
  | n :: seq :: body :: _ =>
    simp only [List.map_cons, memberOf, h, Node.shape_move]
    cases n.shape <;> simp only [h, Node.shape_move]

namespace Outline

variable (o : Outline)

@[simp] theorem isGrouped_move (i : Nat) : (o.move bytes lines).isGrouped i = o.isGrouped i := by
  rw [isGrouped, isGrouped, enclosing_move, memberOf_move bytes lines fun _ => rfl]

@[simp] theorem isIgnored_move (i : Nat) : (o.move bytes lines).isIgnored i = o.isIgnored i := by
  rw [isIgnored, isIgnored, isGrouped_move, isClassMember, isClassMember, enclosing_move,
    memberOf_move bytes lines fun _ => rfl]

end Outline

/-! ### Comments -/

/-- The stop at which a comment is taken if what `f` makes of it was. -/
def Stop.before (f : Comment → Comment) (s : Stop) : Stop :=
  ⟨s.owner, fun c => s.takes (f c)⟩

/-- Changing the comments comes to the same as changing the tests. -/
theorem sweep_map (f : Comment → Comment) (stops : List Stop) : ∀ cs : List Comment,
    sweep stops (cs.map f) = sweep (stops.map (Stop.before f)) cs := by
  induction stops with
  | nil => intro cs; rfl
  | cons s stops ih =>
    intro cs
    rw [List.map_cons, sweep_cons, sweep_cons, List.takeWhile_map, List.dropWhile_map, ih,
      List.map_map]
    rfl

/-- A node at another place takes the comments that have moved with it. -/
theorem Stop.onEnter_move (i : Nat) (n : Node) :
    (onEnter i (n.move bytes lines)).map (before (Comment.move bytes lines)) = onEnter i n := by
  have htest : ∀ c : Comment, decide (c.span.endByte + bytes ≤ n.span.startByte + bytes) =
      decide (c.span.endByte ≤ n.span.startByte) := fun c =>
    decide_eq_decide.2 Nat.add_le_add_iff_right
  by_cases h : n.shape = .sequence
  · rw [onEnter, onEnter, Node.shape_move, if_pos h, if_pos h]
    rfl
  · rw [onEnter, onEnter, Node.shape_move, if_neg h, if_neg h]
    exact congrArg (fun takes => [Stop.mk i takes]) (funext htest)

theorem Stop.onLeave_move (i : Nat) (n : Node) :
    (onLeave i (n.move bytes lines)).map (before (Comment.move bytes lines)) = onLeave i n := by
  have hinner : ∀ c : Comment, decide (c.span.startByte + bytes < n.span.endByte + bytes) =
      decide (c.span.startByte < n.span.endByte) := fun c =>
    decide_eq_decide.2 Nat.add_lt_add_iff_right
  have htrailing : ∀ c : Comment, (c.line + lines == n.span.stop.line + lines) =
      (c.line == n.span.stop.line) := fun c => by
    rw [Bool.eq_iff_iff, beq_iff_eq, beq_iff_eq, Nat.add_right_cancel_iff]
  exact congrArg₂ (fun inner trailing => [Stop.mk i inner, Stop.mk i trailing]) (funext hinner)
    (funext htrailing)

/-- The walk through a tree whose nodes have moved. -/
theorem stops_move (t : Rose (Nat × Node)) :
    (stops (t.map (Prod.map id (Node.move bytes lines)))).map
      (Stop.before (Comment.move bytes lines)) = stops t := by
  have hall : ∀ ts : List (Rose (Nat × Node)), (∀ t ∈ ts,
      (stops (t.map (Prod.map id (Node.move bytes lines)))).map
        (Stop.before (Comment.move bytes lines)) = stops t) →
      (stopsAll (ts.map (Rose.map (Prod.map id (Node.move bytes lines))))).map
        (Stop.before (Comment.move bytes lines)) = stopsAll ts := by
    intro ts
    induction ts with
    | nil => intro _; rfl
    | cons t ts ih =>
      intro h
      obtain ⟨ht, hts⟩ := List.forall_mem_cons.1 h
      rw [List.map_cons, stopsAll, stopsAll, List.map_append, ht, ih hts]
  induction t using Rose.induction with
  | node l ts ih =>
    obtain ⟨i, n⟩ := l
    rw [Rose.map_node, Prod.map_apply, id_eq, stops, stops, List.map_append, List.map_append,
      Stop.onEnter_move, hall ts ih, Stop.onLeave_move]

namespace Commentary

/-- The commentary with all comments at other places. -/
def move (k : Commentary) : Commentary :=
  { k with comments := k.comments.map (Comment.move bytes lines) }

theorem inOrder_move (comments : List Comment) :
    inOrder (comments.map (Comment.move bytes lines)) =
      (inOrder comments).map (Comment.move bytes lines) := by
  refine (List.map_mergeSort fun c _ d _ => ?_).symm
  exact decide_eq_decide.2 Nat.add_le_add_iff_right.symm

/-- **The comments of a file that has moved are shared out as they were.** -/
theorem associate_move (o : Outline) (comments : List Comment) :
    associate (o.move bytes lines) (comments.map (Comment.move bytes lines)) =
      (associate o comments).move bytes lines := by
  have howners : sweep (((o.move bytes lines).rootTree?.map stops).getD [])
      ((inOrder comments).map (Comment.move bytes lines)) =
      sweep ((o.rootTree?.map stops).getD []) (inOrder comments) := by
    rw [sweep_map, Outline.rootTree?_move]
    cases o.rootTree? with
    | none => rfl
    | some t => simp only [Option.map_some, Option.getD_some, stops_move]
  rw [associate, associate, move, inOrder_move, howners]

variable (k : Commentary)

theorem attached_move (i : Nat) :
    (k.move bytes lines).attached i = (k.attached i).map (Comment.move bytes lines) := by
  rw [attached, attached, List.map_filterMap]
  refine List.filterMap_congr fun j _ => ?_
  rw [move, List.getElem?_map]

theorem onLine?_move (line : Nat) :
    (k.move bytes lines).onLine? (line + lines) =
      (k.onLine? line).map (Comment.move bytes lines) := by
  have htest : ∀ c : Comment, (c.line + lines == line + lines) = (c.line == line) := fun c => by
    rw [Bool.eq_iff_iff, beq_iff_eq, beq_iff_eq, Nat.add_right_cancel_iff]
  rw [onLine?, onLine?, move, List.find?_map]
  exact congrArg (fun test => (k.comments.find? test).map _) (funext htest)

/-- Nothing stands on the lines before the file. -/
theorem onLine?_move_of_lt {line : Nat} (h : line < lines) :
    (k.move bytes lines).onLine? line = none := by
  rw [onLine?, move, List.find?_map, Option.map_eq_none_iff, List.find?_eq_none]
  intro c _
  rw [Function.comp_apply, Comment.line_move, beq_iff_eq]
  omega

end Commentary

/-! ### Headings -/

theorem ownHeading?_move (o : Outline) (k : Commentary) (i : Nat) :
    ownHeading? (o.move bytes lines) (k.move bytes lines) i =
      (ownHeading? o k i).map (Comment.move bytes lines) := by
  rw [ownHeading?, ownHeading?, Commentary.attached_move, List.getLast?_map, Outline.node?_move]
  cases (k.attached i).getLast? with
  | some c => rfl
  | none =>
    cases o.node? i with
    | none => rfl
    | some n =>
      simp only [Option.map_some, Option.map_none, Node.firstLine_move]
      cases n.firstLine with
      | succ line =>
        rw [Nat.add_right_comm]
        exact Commentary.onLine?_move bytes lines k line
      | zero =>
        -- the node has no line above it, or after the move one that is before the file
        cases lines with
        | zero => rfl
        | succ line =>
          rw [Nat.zero_add]
          exact Commentary.onLine?_move_of_lt bytes (line + 1) k (Nat.lt_succ_self line)

/-- The heading of a node in one equation: its own, or in a group that of the node above. -/
theorem heading?_eq_or (o : Outline) (k : Commentary) (i : Nat) :
    heading? o k i = (ownHeading? o k i).or
      (if o.isGrouped i then (o.parent? i).bind (heading? o k) else none) := by
  rw [heading?.eq_def]
  cases ownHeading? o k i with
  | some c => rfl
  | none =>
    dsimp only [Option.none_or]
    split
    · next hnone => rw [hnone, Option.bind_none, ite_self]
    · next p hp => rw [hp, Option.bind_some]

/-- **Each node of a file that has moved has the same heading.** -/
theorem heading?_move (o : Outline) (k : Commentary) (i : Nat) :
    heading? (o.move bytes lines) (k.move bytes lines) i =
      (heading? o k i).map (Comment.move bytes lines) := by
  induction i using Nat.strongRecOn with
  | ind i ih =>
    have hparent : (o.parent? i).bind (heading? (o.move bytes lines) (k.move bytes lines)) =
        ((o.parent? i).bind (heading? o k)).map (Comment.move bytes lines) := by
      cases hp : o.parent? i with
      | none => rfl
      | some p => exact ih p (Outline.lt_of_parent? hp)
    rw [heading?_eq_or, heading?_eq_or o, ownHeading?_move, Outline.isGrouped_move,
      Outline.parent?_move, hparent, Option.map_or, apply_ite (Option.map _), Option.map_none]

/-! ### Reviews -/

/-- The event with the declaration at another place. -/
def Event.move : Event → Event
  | .privateMarker => .privateMarker
  | .element e => .element { e with span := e.span.move bytes lines }
  | .nothing => .nothing

namespace Review

theorem observe_move (rules : Rules) (o : Outline) (k : Commentary) (i : Nat) :
    observe rules (o.move bytes lines) (k.move bytes lines) i =
      (observe rules o k i).move bytes lines := by
  rw [observe, observe, Outline.node?_move]
  cases o.node? i with
  | none => rfl
  | some n =>
    have hmarker : (n.move bytes lines).isPrivateMarker = n.isPrivateMarker := rfl
    have hcategory : (n.move bytes lines).category? rules.isMisc = n.category? rules.isMisc := rfl
    simp only [Option.map_some, hmarker, hcategory, Outline.isIgnored_move, heading?_move,
      Option.map_map]
    split
    · rfl
    · cases n.category? rules.isMisc with
      | none => rfl
      | some c =>
        dsimp only
        split <;> rfl

/-- The review with all offenses at other places. -/
def move (r : Review) : Review :=
  { r with offenses := r.offenses.map (Offense.move bytes lines) }

theorem commentOffense?_move (rules : Rules) (e : Element) :
    commentOffense? rules { e with span := e.span.move bytes lines } =
      (commentOffense? rules e).map (Offense.move bytes lines) := by
  have hfits : headingFits rules { e with span := e.span.move bytes lines } =
      headingFits rules e := rfl
  unfold commentOffense?
  rw [hfits]
  dsimp only
  cases rules.comment e.category with
  | none => rfl
  | some expected =>
    dsimp only
    split <;> rfl

theorem checkComment_move (rules : Rules) (r : Review) (e : Element) :
    checkComment rules (r.move bytes lines) { e with span := e.span.move bytes lines } =
      (checkComment rules r e).move bytes lines := by
  rw [checkComment, checkComment, commentOffense?_move, Option.toList_map]
  by_cases h : e.category ∈ r.checked
  · rw [if_pos h]
    exact if_pos h
  · rw [if_neg h]
    refine (if_neg h).trans ?_
    simp only [move, List.map_append]

theorem note_move (rules : Rules) (r : Review) (c : Category) :
    note rules (r.move bytes lines) c = (note rules r c).move bytes lines := by
  unfold note
  rw [apply_ite (Review.move bytes lines)]
  rfl

theorem checkOrder_move (rules : Rules) (r : Review) (e : Element) :
    checkOrder rules (r.move bytes lines) { e with span := e.span.move bytes lines } =
      (checkOrder rules r e).move bytes lines := by
  unfold checkOrder
  rw [apply_ite (Review.move bytes lines)]
  simp only [move, List.map_append, List.map_cons, List.map_nil]
  rfl

/-- One step of the review. -/
theorem step_move (rules : Rules) (r : Review) (event : Event) :
    step rules (r.move bytes lines) (event.move bytes lines) =
      (step rules r event).move bytes lines := by
  unfold step
  rw [apply_ite (Review.move bytes lines)]
  cases event with
  | privateMarker => rfl
  | nothing => rfl
  | element e =>
    have helement : reviewElement rules (r.move bytes lines)
        { e with span := e.span.move bytes lines } =
        (reviewElement rules r e).move bytes lines := by
      rw [reviewElement, reviewElement, checkComment_move, note_move, checkOrder_move]
    dsimp only [Event.move]
    rw [helement]
    rfl

/-- **A review of a file that has moved goes the same way**, whatever nodes it is handed. -/
theorem run_move (rules : Rules) (o : Outline) (k : Commentary) (nodes : List Nat) :
    run rules (o.move bytes lines) (k.move bytes lines) nodes =
      (run rules o k nodes).move bytes lines := by
  have hprocess : ∀ (r : Review) (i : Nat),
      process rules (o.move bytes lines) (k.move bytes lines) (r.move bytes lines) i =
        (process rules o k r i).move bytes lines := by
    intro r i
    rw [process, process, observe_move, step_move]
  show nodes.foldl _ (Review.move bytes lines {}) = _
  exact List.foldl_hom (Review.move bytes lines) hprocess

/-- **The offenses of a file that has moved are the same and have moved with it.** -/
theorem offensesOf_associate_move (rules : Rules) (o : Outline) (comments : List Comment) :
    offensesOf rules (o.move bytes lines)
        (Commentary.associate (o.move bytes lines) (comments.map (Comment.move bytes lines))) =
      (offensesOf rules o (Commentary.associate o comments)).map (Offense.move bytes lines) := by
  rw [offensesOf, offensesOf, Commentary.associate_move, Outline.declarations_move, run_move]
  rfl

end Review

end Move

end ModelLayout

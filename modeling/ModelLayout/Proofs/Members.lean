import ModelLayout.Placement
import ModelLayout.Proofs.Provenance

/-!
# The statements of a body that are reviewed

A body with one statement is that statement, a longer one is a sequence, and a call with a block is
a node around the call itself.  So the declarations of a class stand at different depths below it,
and the rule for members has to find them again from the nodes around them.  It finds all but one
kind: the call of a block that is the only statement of its body.

## Main definitions

* `Outline.bodyNumbers` — the numbers of the statements in the body of a node.
* `Outline.declaration?` — the number of the declaration that a statement makes.
* `Outline.AdmitsBody` — which statements of a body make declarations that pass a test.

## Main results

* `Outline.exists_bodyNumber`, `Outline.exists_declaration` — where a statement of a body and the
  declaration that it makes stand.
* `Outline.admitsBody_class_and_group` — the members of a class and of a group of declarations.
-/

namespace ModelLayout

/-! ### The rule for members -/

section

variable {container : Node → Bool} {parent seq body : Node} {outer : List Node}

theorem memberOf_of_parent (hparent : container parent = true) :
    memberOf container (parent :: outer) = true := by
  rw [memberOf.eq_def]
  simp only [hparent, Bool.true_or]

theorem memberOf_of_sequence (hshape : parent.shape = .sequence) (hbody : container body = true) :
    memberOf container (parent :: body :: outer) = true := by
  simp only [memberOf, hshape, hbody, Bool.or_true]

theorem memberOf_of_block_sequence (hparent : parent.shape = .block) (hseq : seq.shape = .sequence)
    (hbody : container body = true) :
    memberOf container (parent :: seq :: body :: outer) = true := by
  simp [memberOf, hparent, hseq, hbody]

/-- A block that stands in no sequence has members only if it is a container. -/
theorem memberOf_block (hparent : parent.shape = .block) (hbody : body.shape ≠ .sequence) :
    memberOf container (parent :: body :: outer) = container parent := by
  have hseq : (body.shape == Shape.sequence) = false := beq_eq_false_iff_ne.2 hbody
  cases outer <;> simp only [memberOf, hparent, hseq, Bool.false_and, Bool.or_false]

end

theorem Node.isGrouping_of_block {n : Node} (h : n.shape = .block) :
    n.isGrouping = true ↔ n.name = some groupingName := by
  simp [Node.isGrouping, Node.callName?, h]

theorem Rose.length_numberAll {α : Type} (ts : List (Rose α)) :
    ∀ next, (numberAll next ts).length = ts.length := by
  induction ts with
  | nil => exact fun _ => rfl
  | cons t ts ih =>
    intro next
    rw [numberAll, List.length_cons, List.length_cons, ih]

namespace Outline

/-- The numbers of the `count` statements in the body of the node `p`.  The last node below `p` is
the only statement, or has the statements below it. -/
def bodyNumbers (o : Outline) (p count : Nat) : List Nat :=
  let last := (o.childNumbers p).getLast?.toList
  if count = 0 then [] else if count = 1 then last else last.flatMap o.childNumbers

/-- The number of the declaration that a statement with the number `q` makes: for a call with a
block, that of the call in front of the block. -/
def declaration? (o : Outline) (s : Ruby.Tree) (q : Nat) : Option Nat :=
  if Ruby.IsBlockCall s then (o.childNumbers q).head? else some q

/-! ### Where the statements of a body stand -/

section

variable {o : Outline} (ho : o.IsTree) {p q : Nat} {n : Node} {front : List (Rose Node)}
include ho

theorem Holds.getLast?_childNumbers {g : Rose Node} (h : o.Holds p (.node n (front ++ [g]))) :
    ∃ b, (o.childNumbers p).getLast? = some b ∧ o.Holds b g ∧ o.parent? b = some p := by
  obtain ⟨b, hb, hg, hparent⟩ := h.child ho (List.getElem?_concat_length (l := front) (a := g))
  have hlength : (o.childNumbers p).length = front.length + 1 := by
    rw [h.childNumbers ho, List.length_map, Rose.length_numberAll, List.length_append]
    rfl
  refine ⟨b, ?_, hg, hparent⟩
  rw [List.getLast?_eq_getElem?, hlength]
  exact hb

/-- A statement of a body, and the nodes around it. -/
theorem exists_bodyNumber {ss : List (Rose Node)}
    (h : o.Holds p (.node n (front ++ (gather ss).toList))) {i : Nat} {s : Rose Node}
    (hs : ss[i]? = some s) :
    ∃ q, (o.bodyNumbers p ss.length)[i]? = some q ∧ o.Holds q s ∧
      ((ss.length = 1 ∧ o.enclosing q = n :: o.enclosing p) ∨
        2 ≤ ss.length ∧ ∃ seq : Node, seq.shape = .sequence ∧
          o.enclosing q = seq :: n :: o.enclosing p) := by
  have hp : o.node? p = some n := h.node?
  match ss, h, hs with
  | [only], h, hs =>
    obtain ⟨b, hlast, hb, hparent⟩ := h.getLast?_childNumbers ho
    obtain ⟨rfl, rfl⟩ : i = 0 ∧ only = s := by
      cases i with
      | zero => exact ⟨rfl, Option.some.inj hs⟩
      | succ i => simp at hs
    refine ⟨b, ?_, hb, Or.inl ⟨rfl, enclosing_of_parent? hparent hp⟩⟩
    simp [bodyNumbers, hlast]
  | first :: second :: rest, h, hs =>
    obtain ⟨b, hlast, hb, hparent⟩ := h.getLast?_childNumbers ho
    obtain ⟨q, hq, hstatement, hbelow⟩ := hb.child ho hs
    have haround := enclosing_of_parent? hbelow hb.node?
    rw [enclosing_of_parent? hparent hp] at haround
    refine ⟨q, ?_, hstatement, Or.inr ⟨by simp, _, ?_, haround⟩⟩
    · simpa [bodyNumbers, hlast] using hq
    · rfl

end

/-! ### The declaration that a statement makes -/

section

variable (text : Span → String) {o : Outline} (ho : o.IsTree) {q : Nat} {s : Ruby.Tree}
include ho

/-- A statement that is no call with a block is the declaration itself; a call with a block has the
call in front of the block as its first child. -/
theorem exists_declaration (h : o.Holds q (Reading.contribution text .statement s)) :
    ∃ d, o.declaration? s q = some d ∧
      (¬ Ruby.IsBlockCall s ∧ d = q ∨
        Ruby.IsBlockCall s ∧
          (∃ c, o.node? d = some c ∧ c.shape = .call ∧ c.name = Ruby.calledName? text s) ∧
          ∃ b : Node, b.shape = .block ∧ b.name = Ruby.calledName? text s ∧
            o.enclosing d = b :: o.enclosing q) := by
  by_cases hblock : Ruby.IsBlockCall s
  · cases s with
    | node l ts =>
      obtain ⟨hkind, hsome⟩ := hblock
      rw [Rose.label_node] at hkind
      rw [Rose.children_node] at hsome
      obtain ⟨b, hb⟩ := Option.isSome_iff_exists.1 hsome
      rw [Reading.contribution_of_call text hkind, Reading.call_map_of_block text l hb] at h
      obtain ⟨d, hd, hhead, hparent⟩ := h.child ho (i := 0) rfl
      refine ⟨d, ?_, Or.inr ⟨⟨hkind, hsome⟩, ⟨_, hhead.node?, rfl, rfl⟩, _, rfl, rfl,
        enclosing_of_parent? hparent h.node?⟩⟩
      rw [declaration?, if_pos ⟨hkind, hsome⟩, List.head?_eq_getElem?]
      exact hd
  · exact ⟨q, by rw [declaration?, if_neg hblock], Or.inl ⟨hblock, rfl⟩⟩

end

/-- Which of the statements `ss` in the body of the node `p` make declarations that pass the test:
all that are no calls with a block, all if there are several, and groups. -/
def AdmitsBody (text : Span → String) (o : Outline) (p : Nat) (ss : List Ruby.Tree)
    (test : Nat → Bool) : Prop :=
  ∀ (i : Nat) (s : Ruby.Tree), ss[i]? = some s → ∃ q d, (o.bodyNumbers p ss.length)[i]? = some q ∧
    o.Holds q (Reading.contribution text .statement s) ∧ o.declaration? s q = some d ∧
    (Ruby.IsBlockCall s →
      ∃ c, o.node? d = some c ∧ c.shape = .call ∧ c.name = Ruby.calledName? text s) ∧
    (test d = true ↔ ¬ Ruby.IsBlockCall s ∨ 2 ≤ ss.length ∨
      Ruby.calledName? text s = some groupingName)

section

variable (text : Span → String) {o : Outline} (ho : o.IsTree) {p : Nat} {n : Node}
  {front : List (Rose Node)} {ss : List Ruby.Tree}
include ho

/-- The test has to find the members of the container, and to find the call of a block that is
alone in the body only if the block is a group. -/
theorem admitsBody_of_memberOf {container : Node → Bool} {test : Nat → Bool}
    (h : o.Holds p
      (.node n (front ++ (gather (ss.map (Reading.contribution text .statement))).toList)))
    (hn : container n = true)
    (hmember : ∀ d, memberOf container (o.enclosing d) = true → test d = true)
    (hblock : ∀ d b, b.shape = .block → o.enclosing d = b :: n :: o.enclosing p →
      test d = b.isGrouping) :
    o.AdmitsBody text p ss test := by
  intro i s hs
  have hcontribution : (ss.map (Reading.contribution text .statement))[i]? =
      some (Reading.contribution text .statement s) := by
    rw [List.getElem?_map, hs, Option.map_some]
  obtain ⟨q, hq, hstatement, haround⟩ := exists_bodyNumber ho h hcontribution
  rw [List.length_map] at hq haround
  obtain ⟨d, hd, hdeclaration⟩ := exists_declaration text ho hstatement
  refine ⟨q, d, hq, hstatement, hd, ?_, ?_⟩
  · intro hcall
    rcases hdeclaration with ⟨hno, -⟩ | ⟨-, hnode, -⟩
    · exact absurd hcall hno
    · exact hnode
  · rcases hdeclaration with ⟨hno, rfl⟩ | ⟨hcall, -, b, hshape, hname, hb⟩
    · refine iff_of_true (hmember d ?_) (Or.inl hno)
      rcases haround with ⟨-, haround⟩ | ⟨-, seq, hseq, haround⟩
      · rw [haround]
        exact memberOf_of_parent hn
      · rw [haround]
        exact memberOf_of_sequence hseq hn
    · rcases haround with ⟨hone, haround⟩ | ⟨htwo, seq, hseq, haround⟩
      · rw [haround] at hb
        rw [hblock d b hshape hb, Node.isGrouping_of_block hshape, hname]
        simp [hcall, hone]
      · refine iff_of_true (hmember d ?_) (Or.inr (Or.inl htwo))
        rw [hb, haround]
        exact memberOf_of_block_sequence hshape hseq hn

end

section

variable {text : Span → String} {root t : Ruby.Tree} {role : Ruby.Role} {p : Nat}

/-- The members of a class. -/
theorem admitsBody_of_class (hkind : t.label.kind = .classDef)
    (h : (ofTree text root).Holds p (Reading.contribution text role t)) :
    (ofTree text root).AdmitsBody text p (Ruby.bodyStatements t)
      fun d => !(ofTree text root).isIgnored d := by
  cases t with
  | node l ts =>
    rw [Rose.label_node] at hkind
    rw [Reading.contribution_of_ne_identifier text (by simp [hkind]), Reading.expressionOf] at h
    simp only [hkind, Reading.definition_map] at h
    refine admitsBody_of_memberOf text (isTree_ofTree text root) h
      (show Node.isClass _ = true from rfl) ?_ ?_
    · intro d hd
      rw [isIgnored, isClassMember, Bool.not_not, Bool.or_eq_true]
      exact Or.inl hd
    · intro d b hshape hd
      -- a block is no class, so that the call of a lone block can only be grouped
      have hclass : b.isClass = false := by rw [Node.isClass, hshape]; rfl
      show (!!(memberOf _ ((ofTree text root).enclosing d) || _)) = _
      rw [Bool.not_not, isGrouped, show (ofTree text root).enclosing d = _ from hd,
        memberOf_block hshape (by simp), memberOf_block hshape (by simp), hclass, Bool.false_or]

/-- The members of a group of declarations. -/
theorem admitsBody_of_group {b : Ruby.Tree} (hkind : t.label.kind = .call)
    (hb : Ruby.child? t.children .block = some b)
    (hname : Ruby.calledName? text t = some groupingName)
    (h : (ofTree text root).Holds p (Reading.contribution text role t)) :
    (ofTree text root).AdmitsBody text p (Ruby.bodyStatements b) (ofTree text root).isGrouped := by
  cases t with
  | node l ts =>
    rw [Rose.label_node] at hkind
    rw [Rose.children_node] at hb
    rw [Reading.contribution_of_call text hkind, Reading.call_map_of_block text l hb] at h
    have hgroup : (Lowering.callNode text .block l.span (.node l ts)).isGrouping = true :=
      (Node.isGrouping_of_block rfl).2 hname
    refine admitsBody_of_memberOf text (isTree_ofTree text root) h hgroup (fun d hd => hd) ?_
    intro d c hc hd
    rw [isGrouped, hd, memberOf_block hc (by simp [Lowering.callNode])]

end

/-- Which statements of a body are reviewed.  Every node of the parse tree that is read stands in
the outline.  The declaration that a statement in the body of a class makes is not ignored, and the
one that a statement in the body of a group makes is grouped, unless it is the call of a block that
is alone in the body and no group itself. -/
theorem admitsBody_class_and_group (text : Span → String) (root : Ruby.Tree) :
    (∀ role t, Ruby.IsRead root role t →
      ∃ p, (ofTree text root).Holds p (Reading.contribution text role t)) ∧
    (∀ role t p, t.label.kind = .classDef →
      (ofTree text root).Holds p (Reading.contribution text role t) →
      (ofTree text root).AdmitsBody text p (Ruby.bodyStatements t)
        fun d => !(ofTree text root).isIgnored d) ∧
    ∀ role t b p, t.label.kind = .call → Ruby.child? t.children .block = some b →
      Ruby.calledName? text t = some groupingName →
      (ofTree text root).Holds p (Reading.contribution text role t) →
      (ofTree text root).AdmitsBody text p (Ruby.bodyStatements b) (ofTree text root).isGrouped :=
  ⟨fun _ _ h => exists_holds_of_isRead text h, fun _ _ _ hkind h => admitsBody_of_class hkind h,
    fun _ _ _ _ hkind hb hname h => admitsBody_of_group hkind hb hname h⟩

end Outline

/-! ### A group with a lone callback -/

namespace LoneCallback

/-- The callback, which has a block. -/
def callback : Ruby.Tree :=
  .node ⟨none, .call, true, ⟨26, 42, ⟨1, 26⟩, ⟨1, 42⟩⟩⟩
    [.node ⟨some .method, .identifier, true, ⟨26, 34, ⟨1, 26⟩, ⟨1, 34⟩⟩⟩ [],
      .node ⟨some .block, .other, true, ⟨35, 42, ⟨1, 35⟩, ⟨1, 42⟩⟩⟩ []]

/-- The block of the group. -/
def block : Ruby.Tree :=
  .node ⟨some .block, .other, true, ⟨22, 47, ⟨1, 22⟩, ⟨1, 47⟩⟩⟩
    [.node ⟨some .body, .bodyStatement, true, ⟨26, 43, ⟨1, 26⟩, ⟨1, 43⟩⟩⟩ [callback]]

def group : Ruby.Tree :=
  .node ⟨none, .call, true, ⟨9, 47, ⟨1, 9⟩, ⟨1, 47⟩⟩⟩
    [.node ⟨some .method, .identifier, true, ⟨9, 21, ⟨1, 9⟩, ⟨1, 21⟩⟩⟩ [], block]

def model : Ruby.Tree :=
  .node ⟨none, .classDef, true, ⟨0, 52, ⟨1, 0⟩, ⟨1, 52⟩⟩⟩
    [.node ⟨some .name, .constant, true, ⟨6, 7, ⟨1, 6⟩, ⟨1, 7⟩⟩⟩ [],
      .node ⟨some .body, .bodyStatement, true, ⟨9, 48, ⟨1, 9⟩, ⟨1, 48⟩⟩⟩ [group]]

end LoneCallback

/-- A class whose only statement is a group, whose only member is a call with a block. -/
def loneCallback : SourceFile where
  text := "class A; with_options do; validate do; end; end; end"
  tree := .node ⟨none, .other, true, ⟨0, 52, ⟨1, 0⟩, ⟨1, 52⟩⟩⟩ [LoneCallback.model]

/-- The group is not ignored, but its only member is not grouped. -/
theorem admitsBody_loneCallback :
    let text := loneCallback.textAt
    let o := loneCallback.outline
    (∃ p, o.Holds p (Reading.contribution text .statement LoneCallback.model) ∧
      ∃ q d, (o.bodyNumbers p 1)[0]? = some q ∧ o.declaration? LoneCallback.group q = some d ∧
        o.isIgnored d = false) ∧
    ∃ p, o.Holds p (Reading.contribution text .statement LoneCallback.group) ∧
      ∃ q d, (o.bodyNumbers p 1)[0]? = some q ∧ o.declaration? LoneCallback.callback q = some d ∧
        o.isGrouped d = false := by
  intro text o
  obtain ⟨hread, hclass, hgroup⟩ := Outline.admitsBody_class_and_group text loneCallback.tree
  have hmodel : Ruby.IsRead loneCallback.tree .statement LoneCallback.model :=
    .top List.mem_cons_self
  have hbelow : Ruby.IsRead loneCallback.tree .statement LoneCallback.group :=
    .under hmodel (List.mem_cons_of_mem _ List.mem_cons_self)
  have hname : Ruby.calledName? text LoneCallback.group = some groupingName := by decide +kernel
  obtain ⟨p, hp⟩ := hread _ _ hmodel
  obtain ⟨p', hp'⟩ := hread _ _ hbelow
  obtain ⟨q, d, hq, -, hd, -, hiff⟩ := hclass _ _ p rfl hp 0 LoneCallback.group rfl
  obtain ⟨q', d', hq', -, hd', -, hiff'⟩ :=
    hgroup _ _ LoneCallback.block p' rfl rfl hname hp' 0 LoneCallback.callback rfl
  refine ⟨⟨p, hp, q, d, hq, hd, ?_⟩, p', hp', q', d', hq', hd', ?_⟩
  · exact Bool.not_eq_true' _ ▸ hiff.2 (Or.inr (Or.inr hname))
  · have hcallback : Ruby.IsBlockCall LoneCallback.callback := ⟨rfl, rfl⟩
    have hcalled : Ruby.calledName? text LoneCallback.callback ≠ some groupingName := by
      decide +kernel
    refine Bool.eq_false_iff.2 fun hgrouped => ?_
    rcases hiff'.1 hgrouped with hno | hseveral | hname'
    · exact hno hcallback
    · exact absurd hseveral (by decide)
    · exact hcalled hname'

end ModelLayout

import ModelLayout.Outline.Lowering
import ModelLayout.Proofs.Numbering
import ModelLayout.Proofs.Reading

/-!
# What is built for a parse tree

The functions that build an outline push one node after the other, each under a number that an
earlier push gave out; for a call with a block they go back to the node for the whole after all that
is below the call itself.  Here it is proved that no push fails and that the nodes pushed for a
parse tree are the links of the tree it contributes, in pre-order and numbered from the next free
number on.  So the outline of a file is that of a tree.

The invariant is `Adds`: a step puts some trees under a given node, whatever the outline holds
already.  Steps that add to the same node can be joined, and a push followed by a step below the new
node adds one tree.

## Main definitions

* `Ruby.Role`, `Reading.contribution` — how a node is read, and the tree that it contributes then.
* `Outline.Adds` — what a step adds to an outline.
* `Lowering.Lowers` — a parse tree is lowered to what it contributes.

## Main results

* `Outline.exists_push?` — a node can be added under any node that is there.
* `Reading.definition_map`, `Reading.call_map_of_block` and their like — what a construct
  contributes, in terms of the nodes of the parse tree below it.
* `Lowering.lowers` — every parse tree is lowered to what it contributes.
* `Outline.ofTree_eq` — the outline of a file is that of the tree its statements are gathered to.
-/

namespace ModelLayout

/-! ### Constructs in terms of the parse tree -/

namespace Ruby

/-- How a node is read: as a statement, or as part of an expression. -/
inductive Role
  | statement
  | part
  deriving DecidableEq, Repr

end Ruby

namespace Reading

variable (text : Span → String)

/-- The tree that a node contributes to the outline in its role. -/
def contribution : Ruby.Role → Ruby.Tree → Rose Node
  | .statement, t => (ofTree text t).statement
  | .part, t => (ofTree text t).expression

theorem statements_ofTree (t : Ruby.Tree) :
    (ofTree text t).statements = (Ruby.statementsBelow t).map (contribution text .statement) := by
  cases t with
  | node l ts =>
    rw [ofTree_node]
    show (statementChildren _).map _ = _
    rw [statementChildren_map (label_ofTree text), List.map_map]
    rfl

theorem parts_ofTree (t : Ruby.Tree) :
    (ofTree text t).parts = (Ruby.statementsBelow t).map (contribution text .part) := by
  cases t with
  | node l ts =>
    rw [ofTree_node]
    show (statementChildren _).map _ = _
    rw [statementChildren_map (label_ofTree text), List.map_map]
    rfl

theorem namedCount_ofTree (t : Ruby.Tree) :
    (ofTree text t).namedCount = (t.children.filter (·.label.named)).length := by
  cases t with
  | node l ts =>
    rw [ofTree_node, Reading.of, List.filter_map, List.length_map]
    simp only [Function.comp_def, label_ofTree, Rose.children_node]

theorem field?_part (ts : List Ruby.Tree) (f : Ruby.Field) :
    ((field? (ts.map (ofTree text)) f).map (·.expression)) =
      (Ruby.child? ts f).map (contribution text .part) := by
  rw [field?_map (label_ofTree text), Option.map_map]
  rfl

theorem field?_text (l : Ruby.Label) (ts : List Ruby.Tree) (f : Ruby.Field) :
    (field? (ts.map (ofTree text)) f).map (fun r => text r.label.span) =
      Lowering.textOf? text (.node l ts) f := by
  rw [field?_map (label_ofTree text), Option.map_map, Lowering.textOf?, Rose.children_node]
  simp only [Function.comp_def, label_ofTree]

theorem bodyOf_map (l : Ruby.Label) (ts : List Ruby.Tree) :
    bodyOf (ts.map (ofTree text)) =
      (Ruby.bodyStatements (.node l ts)).map (contribution text .statement) := by
  rw [bodyOf, field?_map (label_ofTree text), Ruby.bodyStatements, Rose.children_node]
  cases Ruby.child? ts .body with
  | none =>
    simp only [Option.map_none]
    rw [statementChildren_withoutHeaders_map (label_ofTree text), List.map_map]
    rfl
  | some b =>
    simp only [Option.map_some, label_ofTree]
    cases b.label.kind <;> simp only [List.map_cons, List.map_nil, statements_ofTree] <;> rfl

theorem body_ofTree (t : Ruby.Tree) :
    (ofTree text t).body = (Ruby.bodyStatements t).map (contribution text .statement) := by
  cases t with
  | node l ts =>
    rw [ofTree_node]
    exact bodyOf_map text l ts

theorem parameters_ofTree (t : Ruby.Tree) :
    (ofTree text t).parameters =
      (Ruby.child? t.children .parameters).map (contribution text .part) := by
  cases t with
  | node l ts =>
    rw [ofTree_node]
    exact field?_part text ts .parameters

theorem plain_map (l : Ruby.Label) (ts : List Ruby.Tree) :
    plain l (ts.map (ofTree text)) = .node { shape := .other, span := l.span }
      ((Ruby.statementsBelow (.node l ts)).map (contribution text .part)) := by
  rw [plain, ← parts_ofTree, ofTree_node]
  rfl

theorem definition_map (shape : Shape) (l : Ruby.Label) (ts : List Ruby.Tree) :
    definition text shape l (ts.map (ofTree text)) =
      .node { shape, span := l.span, name := Lowering.textOf? text (.node l ts) .name }
        ((Ruby.Field.headers.filterMap (Ruby.child? ts)).map (contribution text .part) ++
          (gather ((Ruby.bodyStatements (.node l ts)).map
            (contribution text .statement))).toList) := by
  have hheaders :
      (Ruby.Field.headers.filterMap (field? (ts.map (ofTree text)))).map (·.expression) =
        (Ruby.Field.headers.filterMap (Ruby.child? ts)).map (contribution text .part) := by
    rw [List.map_filterMap, List.map_filterMap]
    congr
    funext f
    exact field?_part text ts f
  rw [definition, hheaders, field?_text text l, bodyOf_map text l]

/-- What stands below a call: its receiver and its arguments. -/
def operands (ts : List Ruby.Tree) : List (Rose Node) :=
  ((Ruby.child? ts .receiver).toList ++
    (Ruby.child? ts .arguments).toList.flatMap Ruby.statementsBelow).map (contribution text .part)

theorem operands_eq (ts : List Ruby.Tree) :
    ((field? (ts.map (ofTree text)) .receiver).map (·.expression)).toList ++
      ((field? (ts.map (ofTree text)) .arguments).map (·.parts)).getD [] = operands text ts := by
  rw [operands, List.map_append, field?_part, field?_map (label_ofTree text)]
  cases Ruby.child? ts .receiver <;> cases Ruby.child? ts .arguments <;>
    simp [parts_ofTree]

theorem callSpan_map (l : Ruby.Label) (ts : List Ruby.Tree) :
    callSpan l (ts.map (ofTree text)) = Lowering.headSpan (.node l ts) := by
  rw [callSpan, Lowering.headSpan, field?_map (label_ofTree text), field?_map (label_ofTree text),
    Rose.children_node]
  cases Ruby.child? ts .arguments <;> cases Ruby.child? ts .method <;> simp [label_ofTree]

/-- The node of a call, from the readings of its children. -/
theorem callNode_eq (shape : Shape) (span : Span) (l : Ruby.Label) (ts : List Ruby.Tree) :
    Lowering.callNode text shape span (.node l ts) =
      { shape, span
        name := (field? (ts.map (ofTree text)) .method).map fun r => text r.label.span
        hasReceiver := (field? (ts.map (ofTree text)) .receiver).isSome
        hasArguments := (field? (ts.map (ofTree text)) .arguments).any (0 < ·.namedCount) } := by
  rw [field?_text text l, field?_map (label_ofTree text), field?_map (label_ofTree text),
    Option.isSome_map, Option.any_map]
  simp only [namedCount_ofTree]
  rfl

theorem call_map_of_none (l : Ruby.Label) {ts : List Ruby.Tree} (h : Ruby.child? ts .block = none) :
    call text l (ts.map (ofTree text)) =
      .node (Lowering.callNode text .call l.span (.node l ts)) (operands text ts) := by
  have hblock : field? (ts.map (ofTree text)) .block = none := by
    rw [field?_map (label_ofTree text), h, Option.map_none]
  simp only [call, hblock, operands_eq, callNode_eq]

theorem call_map_of_block (l : Ruby.Label) {ts : List Ruby.Tree} {b : Ruby.Tree}
    (h : Ruby.child? ts .block = some b) :
    call text l (ts.map (ofTree text)) =
      .node (Lowering.callNode text .block l.span (.node l ts))
        ((.node (Lowering.callNode text .call (Lowering.headSpan (.node l ts)) (.node l ts))
            (operands text ts) ::
          ((Ruby.child? b.children .parameters).map (contribution text .part)).toList) ++
            (gather ((Ruby.bodyStatements b).map (contribution text .statement))).toList) := by
  have hblock : field? (ts.map (ofTree text)) .block = some (ofTree text b) := by
    rw [field?_map (label_ofTree text), h, Option.map_some]
  simp only [call, hblock, operands_eq, callNode_eq, callSpan_map, parameters_ofTree, body_ofTree]
  rfl

theorem lambda_map (l : Ruby.Label) (ts : List Ruby.Tree) :
    lambda l (ts.map (ofTree text)) = .node { shape := .lambda, span := l.span }
      (((Ruby.child? ts .parameters).map (contribution text .part)).toList ++
        ((Ruby.child? ts .body).bind fun b =>
          gather ((Ruby.bodyStatements b).map (contribution text .statement))).toList) := by
  rw [lambda, field?_part, field?_map (label_ofTree text), Option.bind_map]
  simp only [Function.comp_def, body_ofTree]

/-- An assignment with a constant on its left side. -/
theorem assignment_map_of_constant (l : Ruby.Label) {ts : List Ruby.Tree} {target : Ruby.Tree}
    (h : Ruby.child? ts .left = some target)
    (hkind : target.label.kind = .constant ∨ target.label.kind = .scopeResolution) :
    assignment text l (ts.map (ofTree text)) =
      .node { shape := .constant, span := l.span, name := some (text target.label.span) }
        ((Ruby.child? ts .right).map (contribution text .part)).toList := by
  rw [assignment, field?_map (label_ofTree text), h, ← field?_part]
  rcases hkind with hkind | hkind <;> simp only [Option.map_some, label_ofTree, hkind]

theorem assignment_map_of_plain (l : Ruby.Label) {ts : List Ruby.Tree}
    (h : ∀ target, Ruby.child? ts .left = some target →
      ¬ (target.label.kind = .constant ∨ target.label.kind = .scopeResolution)) :
    assignment text l (ts.map (ofTree text)) = plain l (ts.map (ofTree text)) := by
  rw [assignment, field?_map (label_ofTree text)]
  cases htarget : Ruby.child? ts .left with
  | none => rfl
  | some target =>
    have hkind := not_or.1 (h target htarget)
    simp only [Option.map_some, label_ofTree]
    split
    · exact absurd ‹_› hkind.1
    · exact absurd ‹_› hkind.2
    · rfl

/-- But for a bare name, the role makes no difference. -/
theorem contribution_of_ne_identifier {l : Ruby.Label} (h : l.kind ≠ .identifier) (role : Ruby.Role)
    (ts : List Ruby.Tree) :
    contribution text role (.node l ts) = expressionOf text l (ts.map (ofTree text)) := by
  cases role with
  | part => rw [contribution, ofTree_node]; rfl
  | statement =>
    rw [contribution, ofTree_node]
    show statementOf text l _ = _
    rw [statementOf]
    split
    · exact absurd ‹_› h
    · rfl

theorem contribution_of_call {l : Ruby.Label} (h : l.kind = .call) (role : Ruby.Role)
    (ts : List Ruby.Tree) :
    contribution text role (.node l ts) = call text l (ts.map (ofTree text)) := by
  rw [contribution_of_ne_identifier text (by simp [h]), expressionOf]
  simp only [h]

end Reading

/-! ### What a step adds -/

theorem Rose.linksAllFrom_append {α : Type} (parent : Option Nat) (ss ts : List (Rose α)) :
    ∀ next, linksAllFrom parent next (ss ++ ts) = linksAllFrom parent next ss ++
      linksAllFrom parent (next + (linksAllFrom parent next ss).length) ts := by
  induction ss with
  | nil => exact fun next => rfl
  | cons s ss ih =>
    intro next
    rw [List.cons_append, linksAllFrom, linksAllFrom, ih, List.append_assoc, List.length_append,
      Nat.add_assoc]

namespace Outline

theorem eq_of_links {o o' : Outline} (h : o.links = o'.links) : o = o' := by
  cases o
  cases o'
  cases h
  rfl

/-- A node can be added under any node that is there, and gets the next number. -/
theorem exists_push? {o : Outline} {parent : Option Nat} (h : ∀ p, parent = some p → p < o.size)
    (n : Node) : ∃ grown, o.push? parent n = some grown ∧
      grown.links = o.links ++ [(parent, n)] ∧ grown.size = o.size + 1 := by
  refine ⟨⟨o.links ++ [(parent, n)], backward_concat h n⟩, dif_pos h, rfl, ?_⟩
  rw [size, List.length_append]
  rfl

/-- The step adds the trees `ss` under the node `parent` to every outline that has such a node. -/
def Adds (parent : Option Nat) (ss : List (Rose Node)) (step : Outline → Option Outline) : Prop :=
  ∀ o : Outline, (∀ p, parent = some p → p < o.size) →
    ∃ grown, step o = some grown ∧ grown.links = o.links ++ Rose.linksAllFrom parent o.size ss

namespace Adds

variable {parent : Option Nat} {ss ss' : List (Rose Node)} {step step' : Outline → Option Outline}

theorem nothing (parent : Option Nat) : Adds parent [] some :=
  fun o _ => ⟨o, rfl, (List.append_nil _).symm⟩

/-- One step after the other. -/
theorem join (h : Adds parent ss step) (h' : Adds parent ss' step') :
    Adds parent (ss ++ ss') fun o => (step o).bind step' := by
  intro o ho
  obtain ⟨first, hfirst, hlinks⟩ := h o ho
  have hsize : first.size = o.size + (Rose.linksAllFrom parent o.size ss).length := by
    rw [size, hlinks, List.length_append]
    rfl
  obtain ⟨grown, hgrown, hmore⟩ := h' first fun p hp => Nat.lt_of_lt_of_le (ho p hp) (by omega)
  refine ⟨grown, ?_, ?_⟩
  · show (step o).bind step' = some grown
    rw [hfirst]
    exact hgrown
  · rw [hmore, hlinks, hsize, Rose.linksAllFrom_append, List.append_assoc]

/-- A new node, and then what a step adds under the number it got. -/
theorem node {g : Nat → Outline → Option Outline} (n : Node)
    (h : ∀ p, Adds (some p) ss (g p)) :
    Adds parent [.node n ss] fun o => (o.push? parent n).bind (g o.size) := by
  intro o ho
  obtain ⟨pushed, hpush, hlinks, hsize⟩ := exists_push? ho n
  -- the node has got the number `o.size`, so the trees below can stand under it
  have hroot : ∀ p, some o.size = some p → p < pushed.size := by
    intro p hp
    rw [Option.some.injEq] at hp
    omega
  obtain ⟨grown, hgrown, hmore⟩ := h o.size pushed hroot
  refine ⟨grown, ?_, ?_⟩
  · show (o.push? parent n).bind (g o.size) = some grown
    rw [hpush]
    exact hgrown
  · rw [hmore, hlinks, hsize, Rose.linksAllFrom, Rose.linksAllFrom, List.append_nil,
      Rose.linksFrom, List.append_assoc]
    rfl

theorem push (parent : Option Nat) (n : Node) :
    Adds parent [.node n []] fun o => o.push? parent n := by
  intro o ho
  obtain ⟨grown, hgrown, hlinks, -⟩ := exists_push? ho n
  exact ⟨grown, hgrown, hlinks⟩

end Adds

end Outline

/-! ### One lemma for each function -/

namespace Lowering

open Outline (Adds)
open Reading (contribution)
open Ruby (child? statementsBelow bodyStatements)

/-- The node `t` is lowered to what it contributes, in both roles. -/
structure Lowers (text : Span → String) (t : Ruby.Tree) : Prop where
  part : ∀ parent, Adds parent [contribution text .part t] (lower? text parent t)
  statement : ∀ parent, Adds parent [contribution text .statement t] (statement? text parent t)

section Lists

variable {text : Span → String} {ts : List Ruby.Tree} (h : ∀ t ∈ ts, Lowers text t)
  (parent : Option Nat)
include h

theorem adds_parts : Adds parent (ts.map (contribution text .part)) (parts? text parent ts) := by
  induction ts with
  | nil =>
    have hstep : parts? text parent [] = some := by funext o; rw [parts?]
    rw [hstep]
    exact Adds.nothing parent
  | cons t ts ih =>
    have hstep : parts? text parent (t :: ts) =
        fun o => (lower? text parent t o).bind (parts? text parent ts) := by
      funext o
      rw [parts?]
      rfl
    rw [hstep]
    exact ((h t List.mem_cons_self).part parent).join
      (ih fun s hs => h s (List.mem_cons_of_mem _ hs))

theorem adds_statements :
    Adds parent (ts.map (contribution text .statement)) (statements? text parent ts) := by
  induction ts with
  | nil =>
    have hstep : statements? text parent [] = some := by funext o; rw [statements?]
    rw [hstep]
    exact Adds.nothing parent
  | cons t ts ih =>
    have hstep : statements? text parent (t :: ts) =
        fun o => (statement? text parent t o).bind (statements? text parent ts) := by
      funext o
      rw [statements?]
      rfl
    rw [hstep]
    exact ((h t List.mem_cons_self).statement parent).join
      (ih fun s hs => h s (List.mem_cons_of_mem _ hs))

/-- The statements of a body are pushed below a sequence if there are several. -/
theorem adds_body :
    Adds parent (gather (ts.map (contribution text .statement))).toList (body? text parent ts) := by
  match ts, h with
  | [], _ =>
    have hstep : body? text parent [] = some := by funext o; rw [body?]
    rw [hstep]
    exact Adds.nothing parent
  | [s], h =>
    have hstep : body? text parent [s] = statement? text parent s := by funext o; rw [body?]
    rw [hstep]
    exact (h s List.mem_cons_self).statement parent
  | s :: t :: rest, h =>
    have hstep : body? text parent (s :: t :: rest) = fun o =>
        (o.push? parent (sequenceNode s ((t :: rest).getLast (by simp)))).bind
          (statements? text (some o.size) (s :: t :: rest)) := by
      funext o
      rw [body?]
      rfl
    have hlast : ((t :: rest).map (contribution text .statement)).getLast (by simp) =
        contribution text .statement ((t :: rest).getLast (by simp)) :=
      List.getLast_map (by simp)
    have hgather : (gather ((s :: t :: rest).map (contribution text .statement))).toList =
        [.node (sequenceNode s ((t :: rest).getLast (by simp)))
          ((s :: t :: rest).map (contribution text .statement))] := by
      simp only [List.map_cons, gather, Option.toList_some] at hlast ⊢
      rw [hlast, contribution, contribution, Reading.span_statement_ofTree,
        Reading.span_statement_ofTree]
      rfl
    rw [hstep, hgather]
    exact Adds.node _ fun p => adds_statements h (some p)

end Lists

section Constructs

variable {text : Span → String} {t : Ruby.Tree}
  (below : ∀ s : Ruby.Tree, sizeOf s < sizeOf t → Lowers text s)
include below

theorem lowers_of_mem {ts : List Ruby.Tree} (hts : sizeOf ts < sizeOf t) :
    ∀ s ∈ ts, Lowers text s :=
  fun s hs => below s (Nat.lt_trans (List.sizeOf_lt_of_mem hs) hts)

theorem adds_inField (f : Ruby.Field) (parent : Option Nat) :
    Adds parent ((child? t.children f).map (contribution text .part)).toList
      (inField? text f parent t) := by
  have hstep := funext (inField?_eq text f parent t)
  cases hs : child? t.children f with
  | none =>
    rw [hs] at hstep
    rw [hstep]
    exact Adds.nothing parent
  | some s =>
    rw [hs] at hstep
    rw [hstep]
    exact (below s (Ruby.sizeOf_child?_lt hs)).part parent

theorem adds_partsIn (f : Ruby.Field) (parent : Option Nat) :
    Adds parent (((child? t.children f).toList.flatMap statementsBelow).map
      (contribution text .part)) (partsIn? text f parent t) := by
  have hstep := funext (partsIn?_eq text f parent t)
  cases hs : child? t.children f with
  | none =>
    rw [hs] at hstep
    rw [hstep]
    exact Adds.nothing parent
  | some s =>
    have hsize : sizeOf (statementsBelow s) < sizeOf t :=
      Nat.lt_trans (Ruby.sizeOf_statementsBelow_lt s) (Ruby.sizeOf_child?_lt hs)
    rw [hs] at hstep
    rw [hstep, Option.toList_some, List.flatMap_singleton]
    exact adds_parts (lowers_of_mem below hsize) parent

theorem adds_bodyIn (f : Ruby.Field) (parent : Option Nat) :
    Adds parent ((child? t.children f).bind fun s =>
      gather ((bodyStatements s).map (contribution text .statement))).toList
      (bodyIn? text f parent t) := by
  have hstep := funext (bodyIn?_eq text f parent t)
  cases hs : child? t.children f with
  | none =>
    rw [hs] at hstep
    rw [hstep]
    exact Adds.nothing parent
  | some s =>
    have hsize : sizeOf (bodyStatements s) < sizeOf t :=
      Nat.lt_trans (Ruby.sizeOf_bodyStatements_lt s) (Ruby.sizeOf_child?_lt hs)
    rw [hs] at hstep
    rw [hstep]
    exact adds_body (lowers_of_mem below hsize) parent

theorem adds_inFields (fields : List Ruby.Field) (parent : Option Nat) :
    Adds parent ((fields.filterMap (child? t.children)).map (contribution text .part))
      (fields.foldlM fun o f => inField? text f parent t o) := by
  induction fields with
  | nil => exact Adds.nothing parent
  | cons f fields ih =>
    have hparts : (List.filterMap (child? t.children) (f :: fields)).map (contribution text .part) =
        ((child? t.children f).map (contribution text .part)).toList ++
          (fields.filterMap (child? t.children)).map (contribution text .part) := by
      rw [List.filterMap_cons]
      cases child? t.children f <;> rfl
    have hstep : (fun o => (f :: fields).foldlM (fun o f => inField? text f parent t o) o) =
        fun o => (inField? text f parent t o).bind
          (fields.foldlM fun o f => inField? text f parent t o) := by
      funext o
      rw [List.foldlM_cons]
      rfl
    rw [hparts, hstep]
    exact (adds_inField below f parent).join ih

theorem adds_bodyStatements (parent : Option Nat) :
    Adds parent (gather ((bodyStatements t).map (contribution text .statement))).toList
      (body? text parent (bodyStatements t)) :=
  adds_body (lowers_of_mem below (Ruby.sizeOf_bodyStatements_lt t)) parent

theorem adds_plain (parent : Option Nat) :
    Adds parent [.node { shape := .other, span := t.label.span }
      ((statementsBelow t).map (contribution text .part))] (plain? text parent t) := by
  have hstep : plain? text parent t = fun o =>
      (o.push? parent { shape := .other, span := t.label.span }).bind
        (parts? text (some o.size) (statementsBelow t)) := by
    funext o
    rw [plain?]
    rfl
  rw [hstep]
  exact Adds.node _ fun p =>
    adds_parts (lowers_of_mem below (Ruby.sizeOf_statementsBelow_lt t)) (some p)

theorem adds_definition (shape : Shape) (parent : Option Nat) :
    Adds parent [.node { shape, span := t.label.span, name := textOf? text t .name }
      ((Ruby.Field.headers.filterMap (child? t.children)).map (contribution text .part) ++
        (gather ((bodyStatements t).map (contribution text .statement))).toList)]
      (definition? text shape parent t) := by
  have hstep : definition? text shape parent t = fun o =>
      (o.push? parent { shape, span := t.label.span, name := textOf? text t .name }).bind
        fun above => (Ruby.Field.headers.foldlM (fun o' f => inField? text f (some o.size) t o')
          above).bind (body? text (some o.size) (bodyStatements t)) := by
    funext o
    rw [definition?]
    rfl
  rw [hstep]
  exact Adds.node (g := fun p above =>
      (Ruby.Field.headers.foldlM (fun o' f => inField? text f (some p) t o') above).bind
        (body? text (some p) (bodyStatements t))) _
    fun p => (adds_inFields below _ (some p)).join (adds_bodyStatements below (some p))

theorem adds_operands (parent : Option Nat) :
    Adds parent (Reading.operands text t.children) (operands? text parent t) := by
  have hoperands : Reading.operands text t.children =
      ((child? t.children .receiver).map (contribution text .part)).toList ++
        ((child? t.children .arguments).toList.flatMap statementsBelow).map
          (contribution text .part) := by
    rw [Reading.operands, List.map_append, Option.toList_map]
  have hstep : operands? text parent t = fun o =>
      (inField? text .receiver parent t o).bind (partsIn? text .arguments parent t) := by
    funext o
    rw [operands?]
    rfl
  rw [hoperands, hstep]
  exact (adds_inField below .receiver parent).join (adds_partsIn below .arguments parent)

/-- After the call itself, what the block holds is added to the node for the whole. -/
theorem adds_call_of_block {b : Ruby.Tree} (hb : child? t.children .block = some b)
    (parent : Option Nat) :
    Adds parent [.node (callNode text .block t.label.span t)
      ((.node (callNode text .call (headSpan t) t) (Reading.operands text t.children) ::
        ((child? b.children .parameters).map (contribution text .part)).toList) ++
          (gather ((bodyStatements b).map (contribution text .statement))).toList)]
      (call? text parent t) := by
  have hbelow : ∀ s : Ruby.Tree, sizeOf s < sizeOf b → Lowers text s :=
    fun s hs => below s (Nat.lt_trans hs (Ruby.sizeOf_child?_lt hb))
  have hstep : call? text parent t = fun o =>
      (o.push? parent (callNode text .block t.label.span t)).bind fun whole =>
        (whole.push? (some o.size) (callNode text .call (headSpan t) t)).bind fun called =>
          (operands? text (some whole.size) t called).bind fun applied =>
            (inField? text .parameters (some o.size) b applied).bind
              (body? text (some o.size) (bodyStatements b)) := by
    funext o
    rw [call?]
    split
    · next hnone => rw [hb] at hnone; cases hnone
    · next b' hsome =>
      rw [hb, Option.some.injEq] at hsome
      subst hsome
      rfl
  rw [hstep]
  refine Adds.node (g := fun p whole =>
    (whole.push? (some p) (callNode text .call (headSpan t) t)).bind fun called =>
      (operands? text (some whole.size) t called).bind fun applied =>
        (inField? text .parameters (some p) b applied).bind
          (body? text (some p) (bodyStatements b))) _ fun p => ?_
  have hcall : Adds (some p)
      [.node (callNode text .call (headSpan t) t) (Reading.operands text t.children)]
      fun whole => (whole.push? (some p) (callNode text .call (headSpan t) t)).bind
        (operands? text (some whole.size) t) :=
    Adds.node _ fun q => adds_operands below (some q)
  have hall := (hcall.join (adds_inField hbelow .parameters (some p))).join
    (adds_bodyStatements hbelow (some p))
  simp only [Option.bind_assoc] at hall
  exact hall

theorem adds_call_of_none (hb : child? t.children .block = none) (parent : Option Nat) :
    Adds parent [.node (callNode text .call t.label.span t) (Reading.operands text t.children)]
      (call? text parent t) := by
  have hstep : call? text parent t = fun o =>
      (o.push? parent (callNode text .call t.label.span t)).bind
        (operands? text (some o.size) t) := by
    funext o
    rw [call?]
    split
    · rfl
    · next b hsome => rw [hb] at hsome; cases hsome
  rw [hstep]
  exact Adds.node _ fun p => adds_operands below (some p)

theorem adds_lambda (parent : Option Nat) :
    Adds parent [.node { shape := .lambda, span := t.label.span }
      (((child? t.children .parameters).map (contribution text .part)).toList ++
        ((child? t.children .body).bind fun b =>
          gather ((bodyStatements b).map (contribution text .statement))).toList)]
      (lambda? text parent t) := by
  have hstep : lambda? text parent t = fun o =>
      (o.push? parent { shape := .lambda, span := t.label.span }).bind fun above =>
        (inField? text .parameters (some o.size) t above).bind
          (bodyIn? text .body (some o.size) t) := by
    funext o
    rw [lambda?]
    rfl
  rw [hstep]
  exact Adds.node (g := fun p above => (inField? text .parameters (some p) t above).bind
      (bodyIn? text .body (some p) t)) _
    fun p => (adds_inField below .parameters (some p)).join (adds_bodyIn below .body (some p))

theorem adds_assignment_of_constant {target : Ruby.Tree}
    (h : child? t.children .left = some target)
    (hkind : target.label.kind = .constant ∨ target.label.kind = .scopeResolution)
    (parent : Option Nat) :
    Adds parent
      [.node { shape := .constant, span := t.label.span, name := some (text target.label.span) }
        ((child? t.children .right).map (contribution text .part)).toList]
      (assignment? text parent t) := by
  have hstep : assignment? text parent t = fun o =>
      (o.push? parent { shape := .constant, span := t.label.span
                        name := some (text target.label.span) }).bind
        (inField? text .right (some o.size) t) := by
    funext o
    rw [assignment?]
    rcases hkind with hkind | hkind <;> simp only [h, hkind] <;> rfl
  rw [hstep]
  exact Adds.node _ fun p => adds_inField below .right (some p)

omit below in
theorem assignment?_eq_plain? (h : ∀ target, child? t.children .left = some target →
      ¬ (target.label.kind = .constant ∨ target.label.kind = .scopeResolution))
    (parent : Option Nat) : assignment? text parent t = plain? text parent t := by
  funext o
  rw [assignment?]
  split
  · rfl
  · next target htarget =>
    have hkind := not_or.1 (h target htarget)
    split
    · exact absurd ‹_› hkind.1
    · exact absurd ‹_› hkind.2
    · rfl

theorem adds_assignment (parent : Option Nat) :
    Adds parent [Reading.assignment text t.label (t.children.map (Reading.ofTree text))]
      (assignment? text parent t) := by
  cases t with
  | node l ts =>
    rw [Rose.label_node, Rose.children_node]
    by_cases hconstant : ∃ target, child? ts .left = some target ∧
        (target.label.kind = .constant ∨ target.label.kind = .scopeResolution)
    · obtain ⟨target, htarget, hkind⟩ := hconstant
      rw [Reading.assignment_map_of_constant text l htarget hkind]
      exact adds_assignment_of_constant below htarget hkind parent
    · have hplain : ∀ target, child? ts .left = some target →
          ¬ (target.label.kind = .constant ∨ target.label.kind = .scopeResolution) :=
        fun target htarget hkind => hconstant ⟨target, htarget, hkind⟩
      rw [Reading.assignment_map_of_plain text l hplain, Reading.plain_map,
        assignment?_eq_plain? (t := .node l ts) hplain]
      exact adds_plain below parent

theorem adds_call (parent : Option Nat) :
    Adds parent [Reading.call text t.label (t.children.map (Reading.ofTree text))]
      (call? text parent t) := by
  cases t with
  | node l ts =>
    rw [Rose.label_node, Rose.children_node]
    cases hb : child? ts .block with
    | none =>
      rw [Reading.call_map_of_none text l hb]
      exact adds_call_of_none below hb parent
    | some b =>
      rw [Reading.call_map_of_block text l hb]
      exact adds_call_of_block below hb parent

theorem adds_lower (parent : Option Nat) :
    Adds parent [contribution text .part t] (lower? text parent t) := by
  cases t with
  | node l ts =>
    have hpart : contribution text .part (.node l ts) =
        Reading.expressionOf text l (ts.map (Reading.ofTree text)) := by
      rw [contribution, Reading.ofTree_node]
      rfl
    have hstep : lower? text parent (.node l ts) = fun o => lower? text parent (.node l ts) o := rfl
    rw [hpart, Reading.expressionOf, hstep]
    simp only [lower?, Rose.label_node]
    cases l.kind
    case classDef | moduleDef | method | singletonMethod =>
      simp only [Reading.definition_map]
      exact adds_definition below _ parent
    case assignment => exact adds_assignment below parent
    case call => exact adds_call below parent
    case lambda =>
      simp only [Reading.lambda_map]
      exact adds_lambda below parent
    all_goals
      simp only [Reading.plain_map]
      exact adds_plain below parent

theorem adds_statement (parent : Option Nat) :
    Adds parent [contribution text .statement t] (statement? text parent t) := by
  cases t with
  | node l ts =>
    by_cases hkind : l.kind = .identifier
    · have hstep : statement? text parent (.node l ts) = fun o =>
          o.push? parent { shape := .call, span := l.span, name := some (text l.span) } := by
        funext o
        rw [statement?]
        simp only [Rose.label_node, hkind]
      have hcall : contribution text .statement (.node l ts) =
          .node { shape := .call, span := l.span, name := some (text l.span) } [] := by
        rw [contribution, Reading.ofTree_node]
        show Reading.statementOf text l _ = _
        rw [Reading.statementOf]
        simp only [hkind]
      rw [hstep, hcall]
      exact Adds.push parent _
    · have hstep : statement? text parent (.node l ts) = lower? text parent (.node l ts) := by
        funext o
        rw [statement?]
        split
        · exact absurd ‹_› hkind
        · rfl
      rw [hstep, Reading.contribution_of_ne_identifier text hkind,
        ← Reading.contribution_of_ne_identifier text hkind .part]
      exact adds_lower below parent

end Constructs

/-- **Every parse tree is lowered to what it contributes.** -/
theorem lowers (text : Span → String) (t : Ruby.Tree) : Lowers text t := by
  have below : ∀ s : Ruby.Tree, sizeOf s < sizeOf t → Lowers text s := fun s _ => lowers text s
  exact ⟨adds_lower below, adds_statement below⟩
termination_by sizeOf t

end Lowering

namespace Outline

/-- From nothing, what adds a tree gives the outline of the tree. -/
theorem Adds.eq_ofRose {t? : Option (Rose Node)} {step : Outline → Option Outline}
    (h : Adds none t?.toList step) : step empty = some (ofRose t?) := by
  obtain ⟨grown, hgrown, hlinks⟩ := h empty nofun
  rw [hgrown]
  congr
  apply eq_of_links
  rw [hlinks]
  cases t? with
  | none => rfl
  | some t =>
    rw [Option.toList_some, Rose.linksAllFrom, Rose.linksAllFrom, List.append_nil]
    rfl

/-- No push fails, and what they build is the outline of a tree. -/
theorem lowered?_eq (text : Span → String) (t : Ruby.Tree) :
    lowered? text t = some (ofRose (gather (Reading.ofTree text t).statements)) := by
  rw [lowered?, Reading.statements_ofTree]
  exact (Lowering.adds_body (fun s _ => Lowering.lowers text s) none).eq_ofRose

/-- **The outline of a file is that of the tree its statements are gathered to.** -/
theorem ofTree_eq (text : Span → String) (t : Ruby.Tree) :
    ofTree text t = ofRose (gather (Reading.ofTree text t).statements) := by
  rw [ofTree, lowered?_eq, Option.getD_some]

theorem isTree_ofTree (text : Span → String) (t : Ruby.Tree) : (ofTree text t).IsTree :=
  ⟨_, ofTree_eq text t⟩

end Outline

end ModelLayout

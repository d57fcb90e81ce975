import ModelLayout.Proofs.PushOrder
import ModelLayout.Proofs.Relabel
import ModelLayout.Proofs.SourceOrder

/-!
# Every node lies inside the node above it

A node of an outline need not stand under the node that its parse tree stands under: bodies, argument
lists and blocks are passed over.  Nor need it have the range of a node of the parse tree: a sequence
reaches from its first statement to its last, and a call with a block ends with its arguments or its
name.  Here it is proved that ranges are nested all the same.  The one thing that can go wrong is a
receiver that comes behind the place where the call is cut off; so the parts of a call have to come
in the order of the grammar.

The promises of a parser are stated for the rows that it hands over, and carried over to the tree
that the rows describe.

## Main definitions

* `Housed` — trees that lie inside a range and whose nodes lie inside the nodes above them.
* `Ruby.CallsInOrder` — the parts of each call come in the order of the grammar.
* `Ruby.NestedRows` — rows with nested ranges, in which the parts of calls come in order.

## Main results

* `Reading.HousedBelow.encloses_of`, `Reading.encloses_ofTree` — one step of the reading, and the
  whole.
* `Ruby.nested_of_rows`, `Ruby.callsInOrder_of_rows` — from rows to trees.
* `Outline.within_parent_of_rows` — every node of an outline lies inside the node above it.
-/

namespace ModelLayout

/-! ### Trees inside a range -/

/-- The tree `s` lies inside the range `outer`, and each of its nodes inside the node above it. -/
structure Housed (outer : Span) (s : Rose Node) : Prop where
  root : s.label.span.Within outer
  edge : ∀ e ∈ s.edges, e.2.span.Within e.1.span

namespace Housed

variable {outer : Span}

theorem widen {s : Rose Node} {inner : Span} (h : Housed inner s) (hwithin : inner.Within outer) :
    Housed outer s :=
  ⟨h.root.trans hwithin, h.edge⟩

/-- A node above trees that lie inside it. -/
theorem node {n : Node} {ss : List (Rose Node)} (hn : n.span.Within outer)
    (hss : ∀ s ∈ ss, Housed n.span s) : Housed outer (.node n ss) where
  root := hn
  edge := by
    intro e he
    rcases Rose.mem_edges_node.1 he with ⟨s, hs, rfl⟩ | ⟨s, hs, he⟩
    · exact (hss s hs).root
    · exact (hss s hs).edge e he

end Housed

/-- Statements that come one after the other lie inside the sequence of them. -/
theorem Row.housed_gather {t : Ruby.Tree} {outer : Span} {ss : List (Rose Node)} (h : Row t ss)
    (hss : ∀ s ∈ ss, Housed outer s) : ∀ s ∈ gather ss, Housed outer s := by
  obtain ⟨hdrawn, hordered⟩ := h
  match ss, hdrawn, hordered, hss with
  | [], _, _, _ => intro s hs; cases hs
  | [r], _, _, hss =>
    intro s hs
    rw [← Option.mem_some.1 hs]
    exact hss r List.mem_cons_self
  | r :: q :: rest, hdrawn, hordered, hss =>
    intro s hs
    rw [← Option.mem_some.1 hs]
    have hlast : (q :: rest).getLast (by simp) ∈ q :: rest := List.getLast_mem _
    have hrange : ∀ s ∈ r :: q :: rest, s.label.span.startByte ≤ s.label.span.endByte :=
      fun s hs => (hdrawn s hs).label_sited.range
    obtain ⟨hfirst, hrest⟩ := List.pairwise_cons.1 hordered
    refine Housed.node ⟨(hss r List.mem_cons_self).root.start,
      (hss _ (List.mem_cons_of_mem _ hlast)).root.stop⟩ fun s hs => ⟨⟨?_, ?_⟩, (hss s hs).edge⟩
    · -- no statement starts before the first one
      rcases List.mem_cons.1 hs with rfl | hs
      · exact Nat.le_refl _
      · exact Nat.le_trans (hrange r List.mem_cons_self) (hfirst s hs)
    · -- and none ends after the last one
      have hend : ∀ s ∈ r :: q :: rest, s = (q :: rest).getLast (by simp) ∨
          s.label.span.endByte ≤ ((q :: rest).getLast (by simp)).label.span.startByte := by
        intro s hs
        rcases List.mem_cons.1 hs with rfl | hs
        · exact Or.inr (hfirst _ hlast)
        · rw [← List.dropLast_append_getLast (show q :: rest ≠ [] by simp), List.mem_append,
            List.mem_singleton] at hs
          rcases hs with hs | hs
          · rw [← List.dropLast_append_getLast (show q :: rest ≠ [] by simp),
              List.pairwise_append] at hrest
            exact Or.inr (hrest.2.2 s hs _ (List.mem_singleton.2 rfl))
          · exact Or.inl hs
      rcases hend s hs with rfl | hend
      · exact Nat.le_refl _
      · exact Nat.le_trans hend (hrange _ (List.mem_cons_of_mem _ hlast))

/-! ### Readings -/

/-- The parts of each call come in the order of the grammar. -/
def Ruby.CallsInOrder (t : Ruby.Tree) : Prop :=
  t.Everywhere fun l below =>
    l.kind = .call → below.Pairwise (Ruby.InTurn [.receiver, .method, .arguments, .block])

namespace Reading

/-- All that the reading `r` contributes, in whatever place, lies inside the range of `t`. -/
structure Encloses (t : Ruby.Tree) (r : Reading) : Prop where
  contributes : Contributes t r
  expression : Housed t.label.span r.expression
  statement : Housed t.label.span r.statement
  parameters : ∀ s ∈ r.parameters, Housed t.label.span s
  parts : ∀ s ∈ r.parts, Housed t.label.span s
  statements : ∀ s ∈ r.statements, Housed t.label.span s
  body : ∀ s ∈ r.body, Housed t.label.span s

/-- The readings of the nodes right below a node, which contribute what lies inside these nodes. -/
abbrev HousedBelow : (Span → String) → Ruby.Label → List Ruby.Tree → List Reading → Prop :=
  Below Encloses

namespace HousedBelow

variable {text : Span → String} {l : Ruby.Label} {ts : List Ruby.Tree} {rs : List Reading}
  (h : HousedBelow text l ts rs)
include h

theorem siblings : Siblings (.node l ts) rs := by
  rw [h.readings]
  exact Siblings.of_children h.nested fun t ht => (h.each t ht).contributes

/-- What lies inside a child lies inside the whole. -/
theorem of_child {t : Ruby.Tree} (ht : t ∈ ts) {s : Rose Node} (hs : Housed t.label.span s) :
    Housed l.span s :=
  hs.widen (h.within ht)

/-- What some of the children contribute in one place. -/
theorem housed_map {g : Reading → Rose Node} (hg : ∀ t r, Encloses t r → Housed t.label.span (g r))
    {qs : List Reading} (hsub : ∀ r ∈ qs, r ∈ rs) : ∀ s ∈ qs.map g, Housed l.span s := by
  intro s hs
  obtain ⟨r, hr, rfl⟩ := List.mem_map.1 hs
  obtain ⟨t, ht, rfl⟩ := h.exists_of_mem (hsub r hr)
  exact h.of_child ht (hg t _ (h.each t ht))

theorem housed_field? {f : Ruby.Field} {s : Rose Node}
    (hs : s ∈ (field? rs f).map (·.expression)) : Housed l.span s := by
  obtain ⟨r, hr, rfl⟩ := Option.map_eq_some_iff.1 hs
  obtain ⟨t, ht, -, rfl⟩ := h.exists_of_field? hr
  exact h.of_child ht (h.each t ht).expression

/-! ### One step for each construct -/

theorem housed_bodyOf : ∀ s ∈ bodyOf rs, Housed l.span s := by
  unfold bodyOf
  split
  · next b hb =>
    obtain ⟨t, ht, -, rfl⟩ := h.exists_of_field? hb
    have hencloses := h.each t ht
    -- a list of statements, of either kind, or a single statement
    split
    · exact fun s hs => h.of_child ht (hencloses.statements s hs)
    · exact fun s hs => h.of_child ht (hencloses.statements s hs)
    · intro s hs
      rw [List.mem_singleton.1 hs]
      exact h.of_child ht hencloses.statement
  · exact h.housed_map (fun _ _ hencloses => hencloses.statement) fun r hr =>
      (Ruby.withoutHeaders_sublist Reading.label rs).subset (List.mem_filter.1 hr).1

theorem housed_plain : Housed l.span (plain l rs) :=
  .node (.refl _) (h.housed_map (fun _ _ hencloses => hencloses.expression) fun _ hr =>
    (List.mem_filter.1 hr).1)

theorem housed_definition (shape : Shape) : Housed l.span (definition text shape l rs) := by
  refine .node (.refl _) fun s hs => ?_
  rcases List.mem_append.1 hs with hs | hs
  · refine h.housed_map (fun _ _ hencloses => hencloses.expression) (fun r hr => ?_) s hs
    obtain ⟨f, -, hf⟩ := List.mem_filterMap.1 hr
    exact List.mem_of_find?_eq_some hf
  · exact h.siblings.row_bodyOf.housed_gather h.housed_bodyOf s (Option.mem_toList.1 hs)

theorem housed_assignment : Housed l.span (assignment text l rs) := by
  have hright : ∀ s ∈ ((field? rs .right).map (·.expression)).toList, Housed l.span s :=
    fun s hs => h.housed_field? (Option.mem_toList.1 hs)
  unfold assignment
  split
  · exact h.housed_plain
  · split
    · exact .node (.refl _) hright
    · exact .node (.refl _) hright
    · exact h.housed_plain

theorem within_callSpan : (callSpan l rs).Within l.span := by
  unfold callSpan
  split
  · exact .refl _
  · next last hlast =>
    have hmem : last ∈ rs := by
      rw [Option.orElse_eq_orElse, Option.orElse_eq_or, Option.or_eq_some_iff] at hlast
      rcases hlast with hf | ⟨-, hf⟩
      · exact List.mem_of_find?_eq_some hf
      · exact List.mem_of_find?_eq_some hf
    obtain ⟨t, ht, rfl⟩ := h.exists_of_mem hmem
    rw [label_ofTree]
    exact ⟨Nat.le_refl _, (h.within ht).stop⟩

section Calls

variable (hfields : Ruby.InFieldOrder [.receiver, .method, .arguments, .block] ts)
include hfields

/-- The receiver ends before the place where the call is cut off. -/
theorem receiver_within_callSpan {t : Ruby.Tree} (ht : t ∈ ts)
    (hf : t.label.field = some .receiver) : t.label.span.Within (callSpan l rs) := by
  have hwithin := h.within ht
  -- it ends before a child in a later field starts, and so before that child ends
  have hcut : ∀ f, f = Ruby.Field.arguments ∨ f = .method → ∀ r, field? rs f = some r →
      t.label.span.endByte ≤ r.label.span.endByte := by
    intro f hfield r hr
    obtain ⟨last, hlast, hlastField, rfl⟩ := h.exists_of_field? hr
    rw [label_ofTree]
    refine Nat.le_trans ?_ (h.range hlast)
    rcases hfield with rfl | rfl
    · exact hfields.apart h.nested.ordered ht hlast hf hlastField (by decide) (by decide)
    · exact hfields.apart h.nested.ordered ht hlast hf hlastField (by decide) (by decide)
  unfold callSpan
  cases harguments : field? rs .arguments with
  | some r => exact ⟨hwithin.start, hcut _ (Or.inl rfl) r harguments⟩
  | none =>
    cases hmethod : field? rs .method with
    | some r => exact ⟨hwithin.start, hcut _ (Or.inr rfl) r hmethod⟩
    | none => exact hwithin

omit hfields in
/-- A call is cut off behind its arguments. -/
theorem arguments_within_callSpan {t : Ruby.Tree} (ht : t ∈ ts)
    (harguments : field? rs .arguments = some (ofTree text t)) :
    t.label.span.Within (callSpan l rs) := by
  unfold callSpan
  rw [harguments]
  refine ⟨(h.within ht).start, Nat.le_of_eq ?_⟩
  exact congrArg (fun k : Ruby.Label => k.span.endByte) (label_ofTree text t).symm

/-- Receiver and arguments lie inside the call, also where it is cut off before its block. -/
theorem housed_operands : ∀ s ∈ ((field? rs .receiver).map (·.expression)).toList ++
    ((field? rs .arguments).map (·.parts)).getD [], Housed (callSpan l rs) s := by
  intro s hs
  rcases List.mem_append.1 hs with hs | hs
  · obtain ⟨r, hr, rfl⟩ := Option.map_eq_some_iff.1 (Option.mem_toList.1 hs)
    obtain ⟨t, ht, hf, rfl⟩ := h.exists_of_field? hr
    exact (h.each t ht).expression.widen (h.receiver_within_callSpan hfields ht hf)
  · cases ha : field? rs .arguments with
    | none => rw [ha] at hs; cases hs
    | some r =>
      obtain ⟨t, ht, -, rfl⟩ := h.exists_of_field? ha
      rw [ha] at hs
      exact ((h.each t ht).parts s hs).widen (h.arguments_within_callSpan ht ha)

theorem housed_call : Housed l.span (call text l rs) := by
  have hoperands := h.housed_operands hfields
  have hcut := h.within_callSpan
  unfold call
  split
  · exact .node (.refl _) fun s hs => (hoperands s hs).widen hcut
  · next block hblock =>
    obtain ⟨t, ht, -, rfl⟩ := h.exists_of_field? hblock
    have hencloses := h.each t ht
    refine .node (.refl _) fun s hs => ?_
    rcases List.mem_cons.1 hs with rfl | hs
    · exact .node hcut hoperands
    · rcases List.mem_append.1 hs with hs | hs
      · exact h.of_child ht (hencloses.parameters s (Option.mem_toList.1 hs))
      · exact h.of_child ht
          (hencloses.contributes.body.housed_gather hencloses.body s (Option.mem_toList.1 hs))

end Calls

theorem housed_lambda : Housed l.span (lambda l rs) := by
  refine .node (.refl _) fun s hs => ?_
  rcases List.mem_append.1 hs with hs | hs
  · exact h.housed_field? (Option.mem_toList.1 hs)
  · obtain ⟨r, hr, hs⟩ := Option.bind_eq_some_iff.1 (Option.mem_toList.1 hs)
    obtain ⟨t, ht, -, rfl⟩ := h.exists_of_field? hr
    have hencloses := h.each t ht
    exact h.of_child ht (hencloses.contributes.body.housed_gather hencloses.body s hs)

section Order

variable (horder : l.kind = .call →
  Ruby.InFieldOrder [.receiver, .method, .arguments, .block] ts)
include horder

theorem housed_expressionOf : Housed l.span (expressionOf text l rs) := by
  unfold expressionOf
  split
  case h_5 => exact h.housed_assignment
  case h_6 hkind => exact h.housed_call (horder hkind)
  case h_7 => exact h.housed_lambda
  case h_8 => exact h.housed_plain
  all_goals exact h.housed_definition _

theorem housed_statementOf : Housed l.span (statementOf text l rs) := by
  unfold statementOf
  split
  · exact .node (.refl _) fun s hs => absurd hs List.not_mem_nil
  · exact h.housed_expressionOf horder

/-- One step of the reading. -/
theorem encloses_of : Encloses (.node l ts) (Reading.of text l rs) where
  contributes := h.siblings.contributes_of text
  expression := h.housed_expressionOf horder
  statement := h.housed_statementOf horder
  parameters := fun _ hs => h.housed_field? hs
  parts := h.housed_map (fun _ _ hencloses => hencloses.expression) fun _ hr =>
    (List.mem_filter.1 hr).1
  statements := h.housed_map (fun _ _ hencloses => hencloses.statement) fun _ hr =>
    (List.mem_filter.1 hr).1
  body := h.housed_bodyOf

end Order

end HousedBelow

/-- **All that a nested parse tree contributes lies inside it.** -/
theorem encloses_ofTree {t : Ruby.Tree} (hnested : Ruby.Nested t) (text : Span → String) :
    Ruby.CallsInOrder t → Encloses t (ofTree text t) := by
  induction hnested with
  | @node l ts range inside ordered below ih =>
    rintro ⟨here, hbelow⟩
    rw [ofTree_node]
    have hhoused : HousedBelow text l ts (ts.map (ofTree text)) :=
      ⟨.node range inside ordered below, rfl, fun t ht => ih t ht (hbelow t ht)⟩
    exact hhoused.encloses_of fun hkind => List.pairwise_map.1 (here hkind)

end Reading

namespace Outline

/-- In the outline of a nested parse tree every node lies inside the node above it. -/
theorem within_of_parent? {t : Ruby.Tree} (hnested : Ruby.Nested t) (hcalls : Ruby.CallsInOrder t)
    {text : Span → String} {i p : Nat} {m n : Node} (hp : (ofTree text t).parent? i = some p)
    (hm : (ofTree text t).node? p = some m) (hn : (ofTree text t).node? i = some n) :
    n.span.Within m.span := by
  have hencloses := Reading.encloses_ofTree hnested text hcalls
  have hhoused := hencloses.contributes.statements.housed_gather hencloses.statements
  rw [ofTree_eq] at hp hm hn
  cases hroot : gather (Reading.ofTree text t).statements with
  | none => rw [hroot] at hn; cases hn
  | some s =>
    rw [hroot] at hp hm hn
    exact (hhoused s hroot).edge _ (edge_of_parent? hp hm hn).2

end Outline

/-! ### Rows -/

namespace Ruby

/-- The rows that stand under the row with the given number, in order. -/
def rowsUnder (rows : List (Link Label)) (number : Nat) : List Label :=
  (rows.filter (·.1 == some number)).map Prod.snd

/-- Rows in pre-order with nested ranges, in which the parts of calls come in the order of the
grammar. -/
structure NestedRows (rows : List (Link Label)) : Prop where
  /-- A row stands under an earlier one. -/
  backward : ∀ r ∈ rows.zipIdx, ∀ p ∈ r.1.1, p < r.2
  range : ∀ r ∈ rows, r.2.span.startByte ≤ r.2.span.endByte
  /-- A row lies inside the row that it stands under. -/
  inside : ∀ r ∈ rows.zipIdx, ∀ l ∈ rowsUnder rows r.2, l.span.Within r.1.2.span
  /-- Rows under one row come in order and are disjoint. -/
  ordered : ∀ r ∈ rows.zipIdx,
    (rowsUnder rows r.2).Pairwise fun k l => k.span.endByte ≤ l.span.startByte
  /-- The receiver, the method, the arguments and the block of a call come in this order. -/
  call : ∀ r ∈ rows.zipIdx, r.1.2.kind = .call →
    (rowsUnder rows r.2).Pairwise (InTurn [.receiver, .method, .arguments, .block])

instance : DecidablePred NestedRows := fun rows =>
  decidable_of_iff
    ((∀ r ∈ rows.zipIdx, ∀ p ∈ r.1.1, p < r.2) ∧
      (∀ r ∈ rows, r.2.span.startByte ≤ r.2.span.endByte) ∧
      (∀ r ∈ rows.zipIdx, ∀ l ∈ rowsUnder rows r.2, l.span.Within r.1.2.span) ∧
      (∀ r ∈ rows.zipIdx,
        (rowsUnder rows r.2).Pairwise fun k l => k.span.endByte ≤ l.span.startByte) ∧
      ∀ r ∈ rows.zipIdx, r.1.2.kind = .call →
        (rowsUnder rows r.2).Pairwise (InTurn [.receiver, .method, .arguments, .block]))
    ⟨fun ⟨h₁, h₂, h₃, h₄, h₅⟩ => ⟨h₁, h₂, h₃, h₄, h₅⟩,
      fun h => ⟨h.backward, h.range, h.inside, h.ordered, h.call⟩⟩

/-- A tree is nested if each node and what is right below it is. -/
theorem nested_of_everywhere {t : Tree} (h : t.Everywhere fun l below =>
    l.span.startByte ≤ l.span.endByte ∧ (∀ k ∈ below, k.span.Within l.span) ∧
      below.Pairwise fun j k => j.span.endByte ≤ k.span.startByte) : Nested t := by
  induction h with
  | @node l ts here below ih =>
    obtain ⟨range, inside, ordered⟩ := here
    refine .node range (fun t ht => ?_) (List.pairwise_map.1 ordered) ih
    have hwithin := inside t.label (List.mem_map_of_mem ht)
    exact ⟨hwithin.start, hwithin.stop⟩

section Rows

variable {rows : List (Link Label)} (h : NestedRows rows) {t : Tree} (ht : Tree.ofRows rows = some t)
include h ht

/-- What holds of each row and the rows under it holds all over the tree. -/
theorem everywhere_of_rows {p : Label → List Label → Prop}
    (hp : ∀ r ∈ rows.zipIdx, p r.1.2 (rowsUnder rows r.2)) : t.Everywhere p := by
  have hbackward : Rose.BackwardFrom 0 rows := by
    intro i parent l hget
    have hlt := h.backward _ (List.mk_mem_zipIdx_iff_getElem?.2 hget) parent rfl
    omega
  exact Rose.everywhere_forest hbackward hp t (List.mem_of_mem_head? ht)

theorem nested_of_rows : Nested t := by
  refine nested_of_everywhere (everywhere_of_rows h ht fun r hr => ?_)
  exact ⟨h.range r.1 (List.fst_mem_of_mem_zipIdx hr), h.inside r hr, h.ordered r hr⟩

theorem callsInOrder_of_rows : CallsInOrder t :=
  everywhere_of_rows h ht h.call

end Rows

end Ruby

/-- **Every node of an outline lies inside the node above it**, also a sequence, whose range is put
together from its statements, and a call that is cut off before its block. -/
theorem Outline.within_parent_of_rows {rows : List (Link Ruby.Label)} (h : Ruby.NestedRows rows)
    {t : Ruby.Tree} (ht : Ruby.Tree.ofRows rows = some t) (text : Span → String) {i p : Nat}
    (hp : (ofTree text t).parent? i = some p) :
    ∃ m n, (ofTree text t).node? p = some m ∧ (ofTree text t).node? i = some n ∧
      m.span.startByte ≤ n.span.startByte ∧ n.span.startByte ≤ n.span.endByte ∧
      n.span.endByte ≤ m.span.endByte := by
  have hnested := Ruby.nested_of_rows h ht
  obtain ⟨m, hm⟩ := exists_node?_of_parent? hp
  obtain ⟨n, hn⟩ := exists_node?_iff.2 (lt_size_of_parent? hp)
  have hwithin := within_of_parent? hnested (Ruby.callsInOrder_of_rows h ht) hp hm hn
  exact ⟨m, n, hm, hn, hwithin.start, (sited_ofTree hnested hn).range, hwithin.stop⟩

/-- The rows of `foo.bar(1) { x; y }`: a call with a receiver, an argument and a block of two
statements. -/
def rowsOfBlock : List (Link Ruby.Label) :=
  [(none, ⟨none, .other, true, ⟨0, 19, ⟨1, 0⟩, ⟨1, 19⟩⟩⟩),
    (some 0, ⟨none, .call, true, ⟨0, 19, ⟨1, 0⟩, ⟨1, 19⟩⟩⟩),
    (some 1, ⟨some .receiver, .identifier, true, ⟨0, 3, ⟨1, 0⟩, ⟨1, 3⟩⟩⟩),
    (some 1, ⟨some .method, .identifier, true, ⟨4, 7, ⟨1, 4⟩, ⟨1, 7⟩⟩⟩),
    (some 1, ⟨some .arguments, .other, true, ⟨7, 10, ⟨1, 7⟩, ⟨1, 10⟩⟩⟩),
    (some 4, ⟨none, .other, true, ⟨8, 9, ⟨1, 8⟩, ⟨1, 9⟩⟩⟩),
    (some 1, ⟨some .block, .other, true, ⟨11, 19, ⟨1, 11⟩, ⟨1, 19⟩⟩⟩),
    (some 6, ⟨some .body, .blockBody, true, ⟨13, 17, ⟨1, 13⟩, ⟨1, 17⟩⟩⟩),
    (some 7, ⟨none, .identifier, true, ⟨13, 14, ⟨1, 13⟩, ⟨1, 14⟩⟩⟩),
    (some 7, ⟨none, .identifier, true, ⟨16, 17, ⟨1, 16⟩, ⟨1, 17⟩⟩⟩)]

/-- The tree that the rows of `foo.bar(1) { x; y }` describe. -/
def treeOfBlock : Ruby.Tree :=
  .node ⟨none, .other, true, ⟨0, 19, ⟨1, 0⟩, ⟨1, 19⟩⟩⟩
    [.node ⟨none, .call, true, ⟨0, 19, ⟨1, 0⟩, ⟨1, 19⟩⟩⟩
      [.node ⟨some .receiver, .identifier, true, ⟨0, 3, ⟨1, 0⟩, ⟨1, 3⟩⟩⟩ [],
        .node ⟨some .method, .identifier, true, ⟨4, 7, ⟨1, 4⟩, ⟨1, 7⟩⟩⟩ [],
        .node ⟨some .arguments, .other, true, ⟨7, 10, ⟨1, 7⟩, ⟨1, 10⟩⟩⟩
          [.node ⟨none, .other, true, ⟨8, 9, ⟨1, 8⟩, ⟨1, 9⟩⟩⟩ []],
        .node ⟨some .block, .other, true, ⟨11, 19, ⟨1, 11⟩, ⟨1, 19⟩⟩⟩
          [.node ⟨some .body, .blockBody, true, ⟨13, 17, ⟨1, 13⟩, ⟨1, 17⟩⟩⟩
            [.node ⟨none, .identifier, true, ⟨13, 14, ⟨1, 13⟩, ⟨1, 14⟩⟩⟩ [],
              .node ⟨none, .identifier, true, ⟨16, 17, ⟨1, 16⟩, ⟨1, 17⟩⟩⟩ []]]]]

/-- The call is cut off at byte 10 and holds its argument, and the sequence holds its last
statement. -/
theorem within_parent_of_rows_rowsOfBlock :
    let o := Outline.ofTree (fun _ => "") treeOfBlock
    Ruby.NestedRows rowsOfBlock ∧ Ruby.Tree.ofRows rowsOfBlock = some treeOfBlock ∧
      (o.node? 1).map (fun n => (n.shape, n.span.startByte, n.span.endByte)) =
        some (.call, 0, 10) ∧
      (o.node? 4).map (fun n => (n.shape, n.span.startByte, n.span.endByte)) =
        some (.sequence, 13, 17) ∧
      o.parent? 3 = some 1 ∧ o.parent? 6 = some 4 ∧
      (∃ m n, o.node? 1 = some m ∧ o.node? 3 = some n ∧
        m.span.startByte ≤ n.span.startByte ∧ n.span.startByte ≤ n.span.endByte ∧
        n.span.endByte ≤ m.span.endByte) ∧
      ∃ m n, o.node? 4 = some m ∧ o.node? 6 = some n ∧
        m.span.startByte ≤ n.span.startByte ∧ n.span.startByte ≤ n.span.endByte ∧
        n.span.endByte ≤ m.span.endByte := by
  intro o
  have hrows : Ruby.NestedRows rowsOfBlock := by decide +kernel
  have htree : Ruby.Tree.ofRows rowsOfBlock = some treeOfBlock := rfl
  have hargument : o.parent? 3 = some 1 := by decide +kernel
  have hstatement : o.parent? 6 = some 4 := by decide +kernel
  refine ⟨hrows, htree, by decide +kernel, by decide +kernel, hargument, hstatement, ?_, ?_⟩
  · exact Outline.within_parent_of_rows hrows htree _ hargument
  · exact Outline.within_parent_of_rows hrows htree _ hstatement

end ModelLayout

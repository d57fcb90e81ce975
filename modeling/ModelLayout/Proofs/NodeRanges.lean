import ModelLayout.Proofs.Lowering
import ModelLayout.Proofs.ParseTree

/-!
# The ranges of the nodes of an outline

The nodes of an outline take their ranges from a parse tree, but not one by one: a sequence reaches
from its first statement to its last, and a call with a block ends where its arguments do.  Here it
is proved that in the outline of a nested parse tree every node starts and ends at places of the
parse tree, and no node starts before the node above it.

The proof follows the reading of a parse tree.  For each place in which a node may stand the nodes
that it contributes are *drawn* from it, whatever shape the node has.

## Main definitions

* `Sited` — a node of an outline starts and ends where nodes of a parse tree do.
* `Drawn`, `Row` — a tree, and a list of statements, that a parse tree contributes.
* `Contributes` — all that a reading contributes is drawn from one parse tree.

## Main results

* `contributes_ofTree` — the reading of a nested parse tree is drawn from it.
* `Outline.sited_ofTree`, `Outline.start_le_of_parent?` — what follows for the outline of a file.
-/

namespace ModelLayout

/-- The range `s` lies inside the range `outer`. -/
structure Span.Within (s outer : Span) : Prop where
  start : outer.startByte ≤ s.startByte
  stop : s.endByte ≤ outer.endByte

instance (s outer : Span) : Decidable (s.Within outer) :=
  decidable_of_iff (outer.startByte ≤ s.startByte ∧ s.endByte ≤ outer.endByte)
    ⟨fun h => ⟨h.1, h.2⟩, fun h => ⟨h.start, h.stop⟩⟩

theorem Span.Within.refl (s : Span) : s.Within s :=
  ⟨Nat.le_refl _, Nat.le_refl _⟩

theorem Span.Within.trans {s t u : Span} (hst : s.Within t) (htu : t.Within u) : s.Within u :=
  ⟨Nat.le_trans htu.start hst.start, Nat.le_trans hst.stop htu.stop⟩

/-! ### The readings of the children of a node -/

namespace Reading

/-- `rs` are the readings of the nodes `ts` right below a node `l` with nested ranges, and each of
them has the property `p`. -/
structure Below (p : Ruby.Tree → Reading → Prop) (text : Span → String) (l : Ruby.Label)
    (ts : List Ruby.Tree) (rs : List Reading) : Prop where
  nested : Ruby.Nested (.node l ts)
  readings : rs = ts.map (ofTree text)
  each : ∀ t ∈ ts, p t (ofTree text t)

namespace Below

variable {p : Ruby.Tree → Reading → Prop} {text : Span → String} {l : Ruby.Label}
  {ts : List Ruby.Tree} {rs : List Reading} (h : Below p text l ts rs)
include h

theorem within {t : Ruby.Tree} (ht : t ∈ ts) : t.label.span.Within l.span := by
  cases h.nested with
  | node _ inside _ _ => exact ⟨(inside t ht).1, (inside t ht).2⟩

theorem range {t : Ruby.Tree} (ht : t ∈ ts) :
    t.label.span.startByte ≤ t.label.span.endByte := by
  cases h.nested with
  | node _ _ _ below => exact (below t ht).range

theorem exists_of_mem {r : Reading} (hr : r ∈ rs) : ∃ t ∈ ts, r = ofTree text t := by
  rw [h.readings] at hr
  obtain ⟨t, ht, rfl⟩ := List.mem_map.1 hr
  exact ⟨t, ht, rfl⟩

/-- What is found in a field is the reading of the child in this field. -/
theorem exists_child? {f : Ruby.Field} {r : Reading} (hr : field? rs f = some r) :
    ∃ t, Ruby.child? ts f = some t ∧ r = ofTree text t := by
  rw [h.readings, field?_map (label_ofTree text), Option.map_eq_some_iff] at hr
  obtain ⟨t, ht, rfl⟩ := hr
  exact ⟨t, ht, rfl⟩

theorem exists_of_field? {f : Ruby.Field} {r : Reading} (hr : field? rs f = some r) :
    ∃ t ∈ ts, t.label.field = some f ∧ r = ofTree text t := by
  obtain ⟨t, ht, rfl⟩ := h.exists_child? hr
  exact ⟨t, List.mem_of_find?_eq_some ht, Ruby.field_of_child? ht, rfl⟩

theorem child?_eq_none {f : Ruby.Field} (hr : field? rs f = none) : Ruby.child? ts f = none := by
  rwa [h.readings, field?_map (label_ofTree text), Option.map_eq_none_iff] at hr

end Below

end Reading

/-! ### Trees drawn from a parse tree -/

/-- The node `n` starts and ends where nodes of the parse tree `t` do. -/
structure Sited (t : Ruby.Tree) (n : Node) : Prop where
  start : ∃ l ∈ t.preorder, n.span.startByte = l.span.startByte ∧ n.span.start = l.span.start
  stop : ∃ l ∈ t.preorder, n.span.endByte = l.span.endByte ∧ n.span.stop = l.span.stop
  range : n.span.startByte ≤ n.span.endByte

/-- All nodes of `s` are sited in `t`, and none starts before the node above it or before `t`. -/
structure Drawn (t : Ruby.Tree) (s : Rose Node) : Prop where
  sited : ∀ n ∈ s.preorder, Sited t n
  edge : ∀ e ∈ s.edges, e.1.span.startByte ≤ e.2.span.startByte
  start : t.label.span.startByte ≤ s.label.span.startByte

/-- Trees that are drawn from `t` and come one after the other. -/
def Row (t : Ruby.Tree) (ss : List (Rose Node)) : Prop :=
  (∀ s ∈ ss, Drawn t s) ∧ ss.Pairwise fun r s => r.label.span.endByte ≤ s.label.span.startByte

theorem Drawn.label_sited {t : Ruby.Tree} {s : Rose Node} (h : Drawn t s) : Sited t s.label :=
  h.sited _ s.label_mem_preorder

/-- A node above drawn trees that it does not start after. -/
theorem Drawn.node {t : Ruby.Tree} {n : Node} {ss : List (Rose Node)} (hn : Sited t n)
    (hstart : t.label.span.startByte ≤ n.span.startByte) (hdrawn : ∀ s ∈ ss, Drawn t s)
    (hbelow : ∀ s ∈ ss, n.span.startByte ≤ s.label.span.startByte) : Drawn t (.node n ss) where
  sited := by
    intro m hm
    rw [Rose.preorder_node, List.mem_cons, List.mem_flatMap] at hm
    rcases hm with rfl | ⟨s, hs, hm⟩
    · exact hn
    · exact (hdrawn s hs).sited m hm
  edge := by
    intro e he
    rcases Rose.mem_edges_node.1 he with ⟨s, hs, rfl⟩ | ⟨s, hs, he⟩
    · exact hbelow s hs
    · exact (hdrawn s hs).edge e he
  start := hstart

/-- A node that starts with the parse tree may stand above all that is drawn from it. -/
theorem Drawn.node_of_eq {t : Ruby.Tree} {n : Node} {ss : List (Rose Node)} (hn : Sited t n)
    (hstart : n.span.startByte = t.label.span.startByte) (hdrawn : ∀ s ∈ ss, Drawn t s) :
    Drawn t (.node n ss) :=
  Drawn.node hn (Nat.le_of_eq hstart.symm) hdrawn fun s hs => hstart ▸ (hdrawn s hs).start

section Below

variable {l : Ruby.Label} {ts : List Ruby.Tree} {t : Ruby.Tree}

theorem mem_preorder_of_mem_children (ht : t ∈ ts) {k : Ruby.Label} (hk : k ∈ t.preorder) :
    k ∈ (Rose.node l ts).preorder := by
  rw [Rose.preorder_node]
  exact List.mem_cons_of_mem _ (List.mem_flatMap.2 ⟨t, ht, hk⟩)

theorem Sited.of_child (ht : t ∈ ts) {n : Node} (h : Sited t n) : Sited (.node l ts) n := by
  obtain ⟨⟨k, hk, hstart⟩, ⟨k', hk', hstop⟩, hrange⟩ := h
  exact ⟨⟨k, mem_preorder_of_mem_children ht hk, hstart⟩,
    ⟨k', mem_preorder_of_mem_children ht hk', hstop⟩, hrange⟩

/-- What is drawn from a child is drawn from the whole. -/
theorem Drawn.of_child (hnested : Ruby.Nested (.node l ts)) (ht : t ∈ ts) {s : Rose Node}
    (h : Drawn t s) : Drawn (.node l ts) s where
  sited := fun n hn => (h.sited n hn).of_child ht
  edge := h.edge
  start := by
    have hchild := hnested.within _ (mem_preorder_of_mem_children ht t.label_mem_preorder)
    exact Nat.le_trans hchild.1 h.start

theorem Row.of_child (hnested : Ruby.Nested (.node l ts)) (ht : t ∈ ts) {ss : List (Rose Node)}
    (h : Row t ss) : Row (.node l ts) ss :=
  ⟨fun s hs => (h.1 s hs).of_child hnested ht, h.2⟩

end Below

/-- A row gathered into one node. -/
theorem Row.drawn_gather {t : Ruby.Tree} {ss : List (Rose Node)} (h : Row t ss) :
    ∀ s ∈ gather ss, Drawn t s := by
  obtain ⟨hdrawn, hordered⟩ := h
  match ss, hdrawn, hordered with
  | [], _, _ => intro s hs; cases hs
  | [r], hdrawn, _ =>
    intro s hs
    rw [← Option.mem_some.1 hs]
    exact hdrawn r List.mem_cons_self
  | r :: q :: rest, hdrawn, hordered =>
    intro s hs
    rw [← Option.mem_some.1 hs]
    -- the sequence starts with its first statement and ends with its last
    have hfirst := (List.pairwise_cons.1 hordered).1
    have hlast : (q :: rest).getLast (by simp) ∈ q :: rest := List.getLast_mem _
    have hr := hdrawn r List.mem_cons_self
    have hq := hdrawn _ (List.mem_cons_of_mem _ hlast)
    refine Drawn.node ⟨hr.label_sited.start, hq.label_sited.stop, ?_⟩ hr.start hdrawn ?_
    · exact Nat.le_trans (Nat.le_trans hr.label_sited.range (hfirst _ hlast)) hq.label_sited.range
    · intro s hs
      rcases List.mem_cons.1 hs with rfl | hs
      · exact Nat.le_refl _
      · exact Nat.le_trans hr.label_sited.range (hfirst s hs)

/-! ### Readings -/

/-- All that the reading `r` contributes, in whatever place, is drawn from `t`. -/
structure Contributes (t : Ruby.Tree) (r : Reading) : Prop where
  expression : Drawn t r.expression
  statement : Drawn t r.statement
  parameters : ∀ s ∈ r.parameters, Drawn t s
  parts : ∀ s ∈ r.parts, Drawn t s
  statements : Row t r.statements
  body : Row t r.body

theorem Contributes.of_child {l : Ruby.Label} {ts : List Ruby.Tree} {t : Ruby.Tree}
    (hnested : Ruby.Nested (.node l ts)) (ht : t ∈ ts) {r : Reading} (h : Contributes t r) :
    Contributes (.node l ts) r where
  expression := h.expression.of_child hnested ht
  statement := h.statement.of_child hnested ht
  parameters := fun s hs => (h.parameters s hs).of_child hnested ht
  parts := fun s hs => (h.parts s hs).of_child hnested ht
  statements := h.statements.of_child hnested ht
  body := h.body.of_child hnested ht

/-- The readings `rs` are those of the children of `t`: they contribute what is drawn from `t`,
and come one after the other. -/
structure Siblings (t : Ruby.Tree) (rs : List Reading) : Prop where
  nested : Ruby.Nested t
  contributes : ∀ r ∈ rs, Contributes t r
  label : ∀ r ∈ rs, r.label ∈ t.preorder
  span : ∀ r ∈ rs, r.statement.label.span = r.label.span
  ordered : rs.Pairwise fun q r => q.label.span.endByte ≤ r.label.span.startByte

theorem Siblings.of_children {l : Ruby.Label} {ts : List Ruby.Tree} {text : Span → String}
    (hnested : Ruby.Nested (.node l ts)) (ih : ∀ t ∈ ts, Contributes t (Reading.ofTree text t)) :
    Siblings (.node l ts) (ts.map (Reading.ofTree text)) where
  nested := hnested
  contributes := by
    intro r hr
    obtain ⟨t, ht, rfl⟩ := List.mem_map.1 hr
    exact (ih t ht).of_child hnested ht
  label := by
    intro r hr
    obtain ⟨t, ht, rfl⟩ := List.mem_map.1 hr
    rw [Reading.label_ofTree]
    exact mem_preorder_of_mem_children ht t.label_mem_preorder
  span := by
    intro r hr
    obtain ⟨t, ht, rfl⟩ := List.mem_map.1 hr
    rw [Reading.label_ofTree, Reading.span_statement_ofTree]
  ordered := by
    cases hnested with
    | node _ _ hordered _ =>
      rw [List.pairwise_map]
      simpa only [Reading.label_ofTree] using hordered

section Constructs

variable {t : Ruby.Tree} {rs : List Reading} (h : Siblings t rs)
include h

/-- A node with the range of the parse tree. -/
theorem Siblings.sited {n : Node} (hn : n.span = t.label.span) : Sited t n where
  start := ⟨t.label, t.label_mem_preorder, by rw [hn], by rw [hn]⟩
  stop := ⟨t.label, t.label_mem_preorder, by rw [hn], by rw [hn]⟩
  range := by rw [hn]; exact h.nested.range

/-- A node with the range of the parse tree, above nodes drawn from it. -/
theorem Siblings.drawn_node {n : Node} {ss : List (Rose Node)} (hn : n.span = t.label.span)
    (hdrawn : ∀ s ∈ ss, Drawn t s) : Drawn t (.node n ss) :=
  Drawn.node_of_eq (h.sited hn) (by rw [hn]) hdrawn

theorem Siblings.contributes_field? {f : Ruby.Field} {r : Reading}
    (hr : Reading.field? rs f = some r) : Contributes t r :=
  h.contributes r (List.mem_of_find?_eq_some hr)

theorem Siblings.drawn_expressions {qs : List Reading} (hsub : ∀ r ∈ qs, r ∈ rs) :
    ∀ s ∈ qs.map (·.expression), Drawn t s := by
  intro s hs
  obtain ⟨r, hr, rfl⟩ := List.mem_map.1 hs
  exact (h.contributes r (hsub r hr)).expression

/-- Some of the children as statements. -/
theorem Siblings.row_statements {qs : List Reading} (hsub : qs.Sublist rs) :
    Row t (qs.map (·.statement)) := by
  refine ⟨?_, ?_⟩
  · intro s hs
    obtain ⟨r, hr, rfl⟩ := List.mem_map.1 hs
    exact (h.contributes r (hsub.subset hr)).statement
  · rw [List.pairwise_map]
    refine (h.ordered.sublist hsub).imp_of_mem fun {q r} hq hr hqr => ?_
    rw [h.span q (hsub.subset hq), h.span r (hsub.subset hr)]
    exact hqr

theorem Siblings.row_bodyOf : Row t (Reading.bodyOf rs) := by
  unfold Reading.bodyOf
  split
  · next b hb =>
    -- a list of statements, of either kind, or a single statement
    have hcontributes := h.contributes_field? hb
    split
    · exact hcontributes.statements
    · exact hcontributes.statements
    · refine ⟨fun s hs => ?_, List.pairwise_singleton _ _⟩
      rw [List.mem_singleton.1 hs]
      exact hcontributes.statement
  · exact h.row_statements
      (List.filter_sublist.trans (Ruby.withoutHeaders_sublist Reading.label rs))

theorem Siblings.drawn_plain : Drawn t (Reading.plain t.label rs) :=
  h.drawn_node rfl (h.drawn_expressions fun _ hr => (List.mem_filter.1 hr).1)

theorem Siblings.drawn_definition (text : Span → String) (shape : Shape) :
    Drawn t (Reading.definition text shape t.label rs) := by
  refine h.drawn_node rfl fun s hs => ?_
  rcases List.mem_append.1 hs with hs | hs
  · refine h.drawn_expressions (fun r hr => ?_) s hs
    obtain ⟨f, -, hf⟩ := List.mem_filterMap.1 hr
    exact List.mem_of_find?_eq_some hf
  · exact h.row_bodyOf.drawn_gather s (Option.mem_toList.1 hs)

theorem Siblings.drawn_field? {f : Ruby.Field} {s : Rose Node}
    (hs : s ∈ (Reading.field? rs f).map (·.expression)) : Drawn t s := by
  obtain ⟨r, hr, rfl⟩ := Option.map_eq_some_iff.1 hs
  exact (h.contributes_field? hr).expression

theorem Siblings.drawn_assignment (text : Span → String) :
    Drawn t (Reading.assignment text t.label rs) := by
  unfold Reading.assignment
  split
  · exact h.drawn_plain
  · split
    · exact h.drawn_node rfl fun s hs => h.drawn_field? (Option.mem_toList.1 hs)
    · exact h.drawn_node rfl fun s hs => h.drawn_field? (Option.mem_toList.1 hs)
    · exact h.drawn_plain

/-- A call that ends where its arguments or its name do, which is not before it starts. -/
theorem Siblings.drawn_callSpan {n : Node} {ss : List (Rose Node)}
    (hn : n.span = Reading.callSpan t.label rs) (hdrawn : ∀ s ∈ ss, Drawn t s) :
    Drawn t (.node n ss) := by
  unfold Reading.callSpan at hn
  split at hn
  · exact h.drawn_node hn hdrawn
  · next last hlast =>
    -- where the call ends is a place of a child, which may come before the end of another child
    have hmem : last ∈ rs := by
      rw [Option.orElse_eq_orElse, Option.orElse_eq_or, Option.or_eq_some_iff] at hlast
      rcases hlast with hf | ⟨-, hf⟩
      · exact List.mem_of_find?_eq_some hf
      · exact List.mem_of_find?_eq_some hf
    have hlabel := h.label last hmem
    have hwithin := h.nested.within _ hlabel
    have hsited : Sited t n := by
      refine ⟨⟨t.label, t.label_mem_preorder, ?_⟩, ⟨last.label, hlabel, ?_⟩, ?_⟩
      · rw [hn]; exact ⟨rfl, rfl⟩
      · rw [hn]; exact ⟨rfl, rfl⟩
      · rw [hn]; exact Nat.le_trans hwithin.1 hwithin.2.1
    exact Drawn.node_of_eq hsited (by rw [hn]; rfl) hdrawn

theorem Siblings.drawn_call (text : Span → String) : Drawn t (Reading.call text t.label rs) := by
  -- receiver and arguments, which stand below the call with a block and without
  have hbelow : ∀ s ∈ ((Reading.field? rs .receiver).map (·.expression)).toList ++
      ((Reading.field? rs .arguments).map (·.parts)).getD [], Drawn t s := by
    intro s hs
    rcases List.mem_append.1 hs with hs | hs
    · exact h.drawn_field? (Option.mem_toList.1 hs)
    · cases ha : Reading.field? rs .arguments with
      | none => rw [ha] at hs; cases hs
      | some r =>
        rw [ha] at hs
        exact (h.contributes_field? ha).parts s hs
  unfold Reading.call
  split
  · exact h.drawn_node rfl hbelow
  · next block hblock =>
    have hcontributes := h.contributes_field? hblock
    refine h.drawn_node rfl fun s hs => ?_
    rcases List.mem_cons.1 hs with rfl | hs
    · exact h.drawn_callSpan rfl hbelow
    · rcases List.mem_append.1 hs with hs | hs
      · exact hcontributes.parameters s (Option.mem_toList.1 hs)
      · exact hcontributes.body.drawn_gather s (Option.mem_toList.1 hs)

theorem Siblings.drawn_lambda : Drawn t (Reading.lambda t.label rs) := by
  refine h.drawn_node rfl fun s hs => ?_
  rcases List.mem_append.1 hs with hs | hs
  · exact h.drawn_field? (Option.mem_toList.1 hs)
  · obtain ⟨r, hr, hs⟩ := Option.bind_eq_some_iff.1 (Option.mem_toList.1 hs)
    exact (h.contributes_field? hr).body.drawn_gather s hs

theorem Siblings.drawn_expressionOf (text : Span → String) :
    Drawn t (Reading.expressionOf text t.label rs) := by
  unfold Reading.expressionOf
  split
  case h_5 => exact h.drawn_assignment text
  case h_6 => exact h.drawn_call text
  case h_7 => exact h.drawn_lambda
  case h_8 => exact h.drawn_plain
  all_goals exact h.drawn_definition text _

theorem Siblings.drawn_statementOf (text : Span → String) :
    Drawn t (Reading.statementOf text t.label rs) := by
  unfold Reading.statementOf
  split
  · exact h.drawn_node rfl fun s hs => absurd hs List.not_mem_nil
  · exact h.drawn_expressionOf text

/-- One step of the reading. -/
theorem Siblings.contributes_of (text : Span → String) :
    Contributes t (Reading.of text t.label rs) where
  expression := h.drawn_expressionOf text
  statement := h.drawn_statementOf text
  parameters := fun _ hs => h.drawn_field? hs
  parts := h.drawn_expressions fun _ hr => (List.mem_filter.1 hr).1
  statements := h.row_statements List.filter_sublist
  body := h.row_bodyOf

end Constructs

/-- **All that a nested parse tree contributes is drawn from it.** -/
theorem contributes_ofTree {t : Ruby.Tree} (hnested : Ruby.Nested t) (text : Span → String) :
    Contributes t (Reading.ofTree text t) := by
  induction hnested with
  | @node l ts range inside ordered below ih =>
    -- what the children contribute is drawn from them, and so from the whole
    rw [Reading.ofTree_node]
    exact (Siblings.of_children (.node range inside ordered below) ih).contributes_of text

/-! ### Outlines -/

namespace Outline

variable {t : Ruby.Tree} {text : Span → String}

/-- The outline of a nested parse tree is that of a tree drawn from it, unless it is empty. -/
theorem exists_drawn_of_node? (hnested : Ruby.Nested t) {i : Nat} {n : Node}
    (hn : (ofTree text t).node? i = some n) :
    ∃ s, Drawn t s ∧ ofTree text t = ofRose (some s) := by
  rw [ofTree_eq] at hn ⊢
  cases hs : gather (Reading.ofTree text t).statements with
  | none => rw [hs] at hn; cases hn
  | some s => exact ⟨s, (contributes_ofTree hnested text).statements.drawn_gather s hs, rfl⟩

/-- **Every node of an outline starts and ends at places of the parse tree.** -/
theorem sited_ofTree (hnested : Ruby.Nested t) {i : Nat} {n : Node}
    (hn : (ofTree text t).node? i = some n) : Sited t n := by
  obtain ⟨s, hs, heq⟩ := exists_drawn_of_node? hnested hn
  rw [heq, node?_ofRose_eq] at hn
  exact hs.sited n (List.mem_of_getElem? hn)

/-- **No node of an outline starts before the node above it.** -/
theorem start_le_of_parent? (hnested : Ruby.Nested t) {i p : Nat} {m n : Node}
    (hp : (ofTree text t).parent? i = some p) (hm : (ofTree text t).node? p = some m)
    (hn : (ofTree text t).node? i = some n) : m.span.startByte ≤ n.span.startByte := by
  obtain ⟨s, hs, heq⟩ := exists_drawn_of_node? hnested hn
  rw [heq] at hp hm hn
  exact hs.edge _ (edge_of_parent? hp hm hn).2

end Outline

end ModelLayout

import ModelLayout.Comment
import ModelLayout.Proofs.Numbering

/-!
# Well-formed parse trees

What a parser promises about the tree of a file: the ranges of nodes are nested, siblings come one
after the other, bytes and lines grow together, and comments are tokens.  From this it follows that
the comments of a file do not overlap, and that no comment reaches across the start of a node.

## Main definitions

* `Ruby.Nested` — children lie inside their parent, in order and apart from each other.
* `Ruby.marks` — the places at which nodes start and end.
* `Ruby.Aligned` — ranges are nested, and bytes and lines grow together.
* `Ruby.WellFormed` — all that a parser promises.

## Main results

* `Ruby.pairwise_comments` — the comments of a file, one after the other.
* `Ruby.separate_comments` — a comment ends before a node starts, or starts no earlier.
-/

namespace ModelLayout
namespace Ruby

/-- Ranges are ranges, and children lie inside their parent, in order and apart from each other. -/
inductive Nested : Tree → Prop
  | node {l : Label} {ts : List Tree}
    (range : l.span.startByte ≤ l.span.endByte)
    (inside : ∀ t ∈ ts, l.span.startByte ≤ t.label.span.startByte ∧
      t.label.span.endByte ≤ l.span.endByte)
    (ordered : ts.Pairwise fun s t => s.label.span.endByte ≤ t.label.span.startByte)
    (below : ∀ t ∈ ts, Nested t) : Nested (.node l ts)

/-- The places at which the nodes of a tree start and end: a byte and the line it is on. -/
def marks (t : Tree) : List (Nat × Nat) :=
  t.preorder.flatMap fun l =>
    [(l.span.startByte, l.span.start.line), (l.span.endByte, l.span.stop.line)]

/-- Ranges are nested, and of two places that with the smaller byte is not on a later line. -/
structure Aligned (t : Tree) : Prop where
  nested : Nested t
  lines : ∀ p ∈ marks t, ∀ q ∈ marks t, p.1 ≤ q.1 → p.2 ≤ q.2

/-- What a parser promises about the tree of a file. -/
structure WellFormed (t : Tree) : Prop where
  nested : Nested t
  /-- Of two places, that with the smaller byte is not on a later line. -/
  lines : ∀ p ∈ marks t, ∀ q ∈ marks t, p.1 ≤ q.1 → p.2 ≤ q.2
  /-- A comment is a token: nothing is below it. -/
  token : ∀ e ∈ t.edges, e.1.kind ≠ .comment
  /-- A comment has at least its sign. -/
  nonempty : ∀ l ∈ t.preorder, l.kind = .comment → l.span.startByte < l.span.endByte

theorem WellFormed.aligned {t : Tree} (h : WellFormed t) : Aligned t :=
  ⟨h.nested, h.lines⟩

/-! ### Checking a tree -/

theorem nested_node_iff {l : Label} {ts : List Tree} :
    Nested (.node l ts) ↔ l.span.startByte ≤ l.span.endByte ∧
      (∀ t ∈ ts, l.span.startByte ≤ t.label.span.startByte ∧
        t.label.span.endByte ≤ l.span.endByte) ∧
      (ts.Pairwise fun s t => s.label.span.endByte ≤ t.label.span.startByte) ∧
      ∀ t ∈ ts, Nested t := by
  constructor
  · rintro ⟨range, inside, ordered, below⟩
    exact ⟨range, inside, ordered, below⟩
  · rintro ⟨range, inside, ordered, below⟩
    exact .node range inside ordered below

mutual

/-- Whether a tree is nested. -/
def decideNested : (t : Tree) → Decidable (Nested t)
  | .node _ ts =>
    have : Decidable (∀ t ∈ ts, Nested t) := decideNestedAll ts
    decidable_of_iff _ nested_node_iff.symm

/-- Whether several trees are nested. -/
def decideNestedAll : (ts : List Tree) → Decidable (∀ t ∈ ts, Nested t)
  | [] => .isTrue fun _ ht => absurd ht List.not_mem_nil
  | t :: ts =>
    have : Decidable (Nested t) := decideNested t
    have : Decidable (∀ t ∈ ts, Nested t) := decideNestedAll ts
    decidable_of_iff _ List.forall_mem_cons.symm

end

instance : DecidablePred Nested := decideNested

theorem wellFormed_iff {t : Tree} :
    WellFormed t ↔ Nested t ∧ (∀ p ∈ marks t, ∀ q ∈ marks t, p.1 ≤ q.1 → p.2 ≤ q.2) ∧
      (∀ e ∈ t.edges, e.1.kind ≠ .comment) ∧
      ∀ l ∈ t.preorder, l.kind = .comment → l.span.startByte < l.span.endByte :=
  ⟨fun h => ⟨h.nested, h.lines, h.token, h.nonempty⟩, fun ⟨h₁, h₂, h₃, h₄⟩ => ⟨h₁, h₂, h₃, h₄⟩⟩

instance : DecidablePred WellFormed := fun _ => decidable_of_iff _ wellFormed_iff.symm

/-! ### Ranges -/

/-- All nodes of a tree lie inside its root. -/
theorem Nested.within {t : Tree} (h : Nested t) : ∀ l ∈ t.preorder,
    t.label.span.startByte ≤ l.span.startByte ∧ l.span.startByte ≤ l.span.endByte ∧
      l.span.endByte ≤ t.label.span.endByte := by
  induction h with
  | @node l ts range inside ordered below ih =>
    intro k hk
    rw [Rose.preorder_node, List.mem_cons, List.mem_flatMap] at hk
    rcases hk with rfl | ⟨t, ht, hk⟩
    · exact ⟨Nat.le_refl _, range, Nat.le_refl _⟩
    · obtain ⟨hstart, hrange, hend⟩ := ih t ht k hk
      obtain ⟨hstart', hend'⟩ := inside t ht
      exact ⟨Nat.le_trans hstart' hstart, hrange, Nat.le_trans hend hend'⟩

theorem Nested.range {t : Tree} (h : Nested t) :
    t.label.span.startByte ≤ t.label.span.endByte :=
  (h.within _ t.label_mem_preorder).2.1

theorem Nested.ordered {l : Label} {ts : List Tree} (h : Nested (.node l ts)) :
    ts.Pairwise fun s t => s.label.span.endByte ≤ t.label.span.startByte :=
  (nested_node_iff.1 h).2.2.1

theorem start_mem_marks {t : Tree} {l : Label} (h : l ∈ t.preorder) :
    (l.span.startByte, l.span.start.line) ∈ marks t :=
  List.mem_flatMap.2 ⟨l, h, List.mem_cons_self⟩

theorem stop_mem_marks {t : Tree} {l : Label} (h : l ∈ t.preorder) :
    (l.span.endByte, l.span.stop.line) ∈ marks t :=
  List.mem_flatMap.2 ⟨l, h, List.mem_cons_of_mem _ List.mem_cons_self⟩

/-! ### Comments -/

theorem commentsAll_eq_flatMap (text : Span → String) (ts : List Tree) :
    commentsAll text ts = ts.flatMap (comments text) := by
  induction ts with
  | nil => rfl
  | cons t ts ih => rw [commentsAll, List.flatMap_cons, ih]

/-- A comment has the range of a node of the tree. -/
theorem exists_label_of_mem_comments {text : Span → String} {c : Comment} (t : Tree) :
    c ∈ comments text t → ∃ l ∈ t.preorder, l.kind = .comment ∧ c.span = l.span := by
  induction t using Rose.induction with
  | node l ts ih =>
    intro hc
    rw [comments] at hc
    rw [Rose.preorder_node]
    split at hc
    · next hl =>
      rw [List.mem_singleton] at hc
      exact ⟨l, List.mem_cons_self, hl, by rw [hc]⟩
    · rw [commentsAll_eq_flatMap, List.mem_flatMap] at hc
      obtain ⟨t, ht, hc⟩ := hc
      obtain ⟨k, hk, hkind, hspan⟩ := ih t ht hc
      exact ⟨k, List.mem_cons_of_mem _ (List.mem_flatMap.2 ⟨t, ht, hk⟩), hkind, hspan⟩

/-- The comments of a tree lie inside its root. -/
theorem Nested.within_of_mem_comments {t : Tree} (h : Nested t) {text : Span → String} {c : Comment}
    (hc : c ∈ comments text t) :
    t.label.span.startByte ≤ c.span.startByte ∧ c.span.startByte ≤ c.span.endByte ∧
      c.span.endByte ≤ t.label.span.endByte := by
  obtain ⟨l, hl, -, hspan⟩ := exists_label_of_mem_comments t hc
  rw [hspan]
  exact h.within l hl

/-- Comments come one after the other. -/
theorem Nested.pairwise_comments {t : Tree} (h : Nested t) (text : Span → String) :
    (comments text t).Pairwise fun b c => b.span.endByte ≤ c.span.startByte := by
  induction h with
  | @node l ts range inside ordered below ih =>
    rw [comments]
    split
    · exact List.pairwise_singleton _ _
    · rw [commentsAll_eq_flatMap, List.pairwise_flatMap]
      refine ⟨ih, ordered.imp_of_mem fun {s t} hs ht hst => ?_⟩
      -- comments of two children are apart because the children are
      intro b hb c hc
      have hbs := (below s hs).within_of_mem_comments hb
      have hct := (below t ht).within_of_mem_comments hc
      omega

/-- Of two different siblings one comes before the other. -/
theorem eq_or_apart {ts : List Tree}
    (h : ts.Pairwise fun s t => s.label.span.endByte ≤ t.label.span.startByte) {s t : Tree}
    (hs : s ∈ ts) (ht : t ∈ ts) :
    s = t ∨ s.label.span.endByte ≤ t.label.span.startByte ∨
      t.label.span.endByte ≤ s.label.span.startByte := by
  exact List.Pairwise.forall_of_forall_of_flip
    (R := fun s t : Tree => s = t ∨ s.label.span.endByte ≤ t.label.span.startByte ∨
      t.label.span.endByte ≤ s.label.span.startByte)
    (fun _ _ => Or.inl rfl) (h.imp fun hst => Or.inr (Or.inl hst))
    (h.imp fun hst => Or.inr (Or.inr hst)) hs ht

/-- A comment does not reach across the start of a node: it ends before the node starts, or it
starts no earlier than the node. -/
theorem Nested.separate_comments {t : Tree} (h : Nested t) (text : Span → String) :
    (∀ e ∈ t.edges, e.1.kind ≠ .comment) → ∀ l ∈ t.preorder, ∀ c ∈ comments text t,
      c.span.endByte ≤ l.span.startByte ∨ l.span.startByte ≤ c.span.startByte := by
  induction h with
  | @node k ts range inside ordered below ih =>
    intro htoken l hl c hc
    rw [Rose.preorder_node, List.mem_cons, List.mem_flatMap] at hl
    rcases hl with rfl | ⟨s, hs, hl⟩
    · exact Or.inr ((Nested.node range inside ordered below).within_of_mem_comments hc).1
    · -- the node is below the root, which is therefore no comment
      have hk : k.kind ≠ .comment := htoken (k, s.label) (Rose.mem_edges_node.2 (Or.inl ⟨s, hs, rfl⟩))
      rw [comments, if_neg hk, commentsAll_eq_flatMap, List.mem_flatMap] at hc
      obtain ⟨t, ht, hc⟩ := hc
      have hls := (below s hs).within l hl
      have hct := (below t ht).within_of_mem_comments hc
      rcases eq_or_apart ordered hs ht with rfl | hst | hts
      · have htoken' : ∀ e ∈ s.edges, e.1.kind ≠ .comment := fun e he =>
          htoken e (Rose.mem_edges_node.2 (Or.inr ⟨s, hs, he⟩))
        exact ih s hs htoken' l hl c hc
      · exact Or.inr (by omega)
      · exact Or.inl (by omega)

end Ruby
end ModelLayout

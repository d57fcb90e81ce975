import ModelLayout.Review
import ModelLayout.Proofs.Association
import ModelLayout.Proofs.NodeRanges

/-!
# Sequences of statements have no comments

A sequence of statements ends where its last statement ends.  So when the walk leaves the sequence,
all comments that the sequence could take have just been taken by this statement; and on entering a
sequence the walk makes no stop.  Nothing is assumed about the parse tree here: the ranges of its
nodes may be anything.

The first part is about the reading of parse trees.  A property of trees that every construct of the
reading keeps holds of all trees that are read.

## Main definitions

* `Rose.Everywhere` — a property of a label and the labels right below it, all over a tree.
* `Reading.Yields` — all that a reading contributes has a property.
* `SpansStatements` — a sequence reaches from its first statement to its last.
* `leftover` — the comments that are left after some stops.

## Main results

* `Reading.yields_ofTree` — what every construct keeps holds of all that is read.
* `Outline.everywhere_spansStatements` — every sequence of an outline reaches from its first
  statement to its last.
* `Outline.notMem_owners_of_sequence`, `SourceFile.nothing_attached_to_sequence` — no comment belongs
  to a sequence.
-/

namespace ModelLayout

/-! ### Properties of all nodes of a tree -/

namespace Rose

variable {α : Type} {p : α → List α → Prop}

/-- Every label of a tree, together with the labels right below it, has the property `p`. -/
inductive Everywhere (p : α → List α → Prop) : Rose α → Prop
  | node {a : α} {ts : List (Rose α)} (here : p a (ts.map label))
    (below : ∀ t ∈ ts, Everywhere p t) : Everywhere p (.node a ts)

theorem map_label_numberAll (ts : List (Rose α)) :
    ∀ next, ((numberAll next ts).map label).map Prod.snd = ts.map label := by
  induction ts with
  | nil => intro next; rfl
  | cons t ts ih => intro next; simp [numberAll, ih]

/-- Numbers beside the labels do not matter. -/
theorem Everywhere.number {t : Rose α} (h : Everywhere p t) :
    ∀ next, Everywhere (fun l below => p l.2 (below.map Prod.snd)) (t.number next) := by
  induction h with
  | @node a ts here below ih =>
    intro next
    rw [Rose.number]
    refine .node ?_ fun u hu => ?_
    · rw [map_label_numberAll]
      exact here
    · obtain ⟨t, ht, k, rfl⟩ := mem_numberAll hu
      exact ih t ht k

end Rose

/-! ### Properties of all that is read -/

namespace Reading

variable {q : Rose Node → Prop}

/-- All trees that the reading `r` contributes, in whatever place, have the property `q`. -/
structure Yields (q : Rose Node → Prop) (r : Reading) : Prop where
  expression : q r.expression
  statement : q r.statement
  parameters : ∀ s ∈ r.parameters, q s
  parts : ∀ s ∈ r.parts, q s
  statements : ∀ s ∈ r.statements, q s
  body : ∀ s ∈ r.body, q s

section Constructs

variable (hnode : ∀ n ss, n.shape ≠ .sequence → (∀ s ∈ ss, q s) → q (.node n ss))
  (hgather : ∀ ss, (∀ s ∈ ss, q s) → ∀ s ∈ gather ss, q s)
  {rs : List Reading} (hrs : ∀ r ∈ rs, Yields q r)

include hrs

theorem yields_field? {f : Ruby.Field} {r : Reading} (hr : field? rs f = some r) : Yields q r :=
  hrs r (List.mem_of_find?_eq_some hr)

theorem field?_expression {f : Ruby.Field} : ∀ s ∈ (field? rs f).map (·.expression), q s := by
  intro s hs
  obtain ⟨r, hr, rfl⟩ := Option.map_eq_some_iff.1 hs
  exact (yields_field? hrs hr).expression

/-- What some of the readings contribute in one place. -/
theorem map_yields {g : Reading → Rose Node} (hg : ∀ r, Yields q r → q (g r)) {qs : List Reading}
    (hsub : ∀ r ∈ qs, r ∈ rs) : ∀ s ∈ qs.map g, q s := by
  intro s hs
  obtain ⟨r, hr, rfl⟩ := List.mem_map.1 hs
  exact hg r (hrs r (hsub r hr))

theorem bodyOf_yields : ∀ s ∈ bodyOf rs, q s := by
  unfold bodyOf
  split
  · next b hb =>
    have hyields := yields_field? hrs hb
    split
    · exact hyields.statements
    · exact hyields.statements
    · intro s hs
      rw [List.mem_singleton.1 hs]
      exact hyields.statement
  · exact map_yields hrs (fun _ h => h.statement) fun r hr =>
      (Ruby.withoutHeaders_sublist Reading.label rs).subset (List.mem_filter.1 hr).1

include hnode

theorem plain_yields (l : Ruby.Label) : q (plain l rs) :=
  hnode _ _ Shape.noConfusion
    (map_yields hrs (fun _ h => h.expression) fun _ hr => (List.mem_filter.1 hr).1)

theorem assignment_yields (text : Span → String) (l : Ruby.Label) : q (assignment text l rs) := by
  have hright : ∀ s ∈ ((field? rs .right).map (·.expression)).toList, q s := fun s hs =>
    field?_expression hrs s (Option.mem_toList.1 hs)
  unfold assignment
  split
  · exact plain_yields hnode hrs l
  · split
    · exact hnode _ _ Shape.noConfusion hright
    · exact hnode _ _ Shape.noConfusion hright
    · exact plain_yields hnode hrs l

include hgather

theorem definition_yields (text : Span → String) {shape : Shape} (hshape : shape ≠ .sequence)
    (l : Ruby.Label) : q (definition text shape l rs) := by
  refine hnode _ _ hshape fun s hs => ?_
  rcases List.mem_append.1 hs with hs | hs
  · refine map_yields hrs (fun _ h => h.expression) (fun r hr => ?_) s hs
    obtain ⟨f, -, hf⟩ := List.mem_filterMap.1 hr
    exact List.mem_of_find?_eq_some hf
  · exact hgather _ (bodyOf_yields hrs) s (Option.mem_toList.1 hs)

theorem call_yields (text : Span → String) (l : Ruby.Label) : q (call text l rs) := by
  -- receiver and arguments, which stand below the call with a block and without
  have hbelow : ∀ s ∈ ((field? rs .receiver).map (·.expression)).toList ++
      ((field? rs .arguments).map (·.parts)).getD [], q s := by
    intro s hs
    rcases List.mem_append.1 hs with hs | hs
    · exact field?_expression hrs s (Option.mem_toList.1 hs)
    · cases ha : field? rs .arguments with
      | none => rw [ha] at hs; cases hs
      | some r =>
        rw [ha] at hs
        exact (yields_field? hrs ha).parts s hs
  unfold call
  split
  · exact hnode _ _ Shape.noConfusion hbelow
  · next block hblock =>
    have hyields := yields_field? hrs hblock
    refine hnode _ _ Shape.noConfusion fun s hs => ?_
    rcases List.mem_cons.1 hs with rfl | hs
    · exact hnode _ _ Shape.noConfusion hbelow
    · rcases List.mem_append.1 hs with hs | hs
      · exact hyields.parameters s (Option.mem_toList.1 hs)
      · exact hgather _ hyields.body s (Option.mem_toList.1 hs)

theorem lambda_yields (l : Ruby.Label) : q (lambda l rs) := by
  refine hnode _ _ Shape.noConfusion fun s hs => ?_
  rcases List.mem_append.1 hs with hs | hs
  · exact field?_expression hrs s (Option.mem_toList.1 hs)
  · obtain ⟨r, hr, hs⟩ := Option.bind_eq_some_iff.1 (Option.mem_toList.1 hs)
    exact hgather _ (yields_field? hrs hr).body s hs

theorem expressionOf_yields (text : Span → String) (l : Ruby.Label) :
    q (expressionOf text l rs) := by
  unfold expressionOf
  split
  case h_5 => exact assignment_yields hnode hrs text l
  case h_6 => exact call_yields hnode hgather hrs text l
  case h_7 => exact lambda_yields hnode hgather hrs l
  case h_8 => exact plain_yields hnode hrs l
  all_goals exact definition_yields hnode hgather hrs text Shape.noConfusion l

/-- One step of the reading. -/
theorem yields_of (text : Span → String) (l : Ruby.Label) : Yields q (of text l rs) where
  expression := expressionOf_yields hnode hgather hrs text l
  statement := by
    show q (statementOf text l rs)
    unfold statementOf
    split
    · exact hnode _ _ Shape.noConfusion fun s hs => absurd hs List.not_mem_nil
    · exact expressionOf_yields hnode hgather hrs text l
  parameters := fun s hs => field?_expression hrs s hs
  parts := map_yields hrs (fun _ h => h.expression) fun _ hr => (List.mem_filter.1 hr).1
  statements := map_yields hrs (fun _ h => h.statement) fun _ hr => (List.mem_filter.1 hr).1
  body := bodyOf_yields hrs

omit hrs in
/-- **A property that is kept when a node other than a sequence is put above trees, and when trees are
gathered, holds of all that is read.** -/
theorem yields_ofTree (text : Span → String) (t : Ruby.Tree) : Yields q (ofTree text t) := by
  induction t using Rose.induction with
  | node l ts ih =>
    rw [ofTree_node]
    refine yields_of hnode hgather (fun r hr => ?_) text l
    obtain ⟨t, ht, rfl⟩ := List.mem_map.1 hr
    exact ih t ht

end Constructs

end Reading

/-! ### The range of a sequence -/

/-- If the node `n`, above the nodes `below`, is a sequence, it reaches from the first of them to the
last. -/
def SpansStatements (n : Node) (below : List Node) : Prop :=
  n.shape = .sequence → ∃ first last, below.head? = some first ∧ below.getLast? = some last ∧
    n.span = first.span.hull last.span

theorem everywhere_spansStatements_gather {ss : List (Rose Node)}
    (h : ∀ s ∈ ss, s.Everywhere SpansStatements) :
    ∀ s ∈ gather ss, s.Everywhere SpansStatements := by
  match ss, h with
  | [], _ => intro s hs; cases hs
  | [r], h =>
    intro s hs
    rw [← Option.mem_some.1 hs]
    exact h r List.mem_cons_self
  | r :: t :: rest, h =>
    intro s hs
    rw [← Option.mem_some.1 hs]
    refine .node (fun _ => ⟨r.label, _, rfl, ?_, rfl⟩) h
    rw [List.getLast?_map, List.getLast?_cons_cons, List.getLast?_eq_some_getLast (by simp)]
    rfl

/-- **Every sequence of an outline reaches from its first statement to its last.** -/
theorem Outline.everywhere_spansStatements (text : Span → String) (t : Ruby.Tree) :
    ∀ s ∈ gather (Reading.ofTree text t).statements, s.Everywhere SpansStatements := by
  refine everywhere_spansStatements_gather (Reading.yields_ofTree (fun n ss hshape hss => ?_)
    (fun ss hss => everywhere_spansStatements_gather hss) text t).statements
  exact .node (fun hsequence => absurd hsequence hshape) hss

/-! ### What a stop leaves -/

/-- Comments that come in the order in which they start. -/
def InStartOrder (cs : List Comment) : Prop :=
  cs.Pairwise fun b c => b.span.startByte ≤ c.span.startByte

theorem Commentary.inStartOrder_inOrder (cs : List Comment) : InStartOrder (inOrder cs) := by
  have hsorted : (inOrder cs).Pairwise fun b c =>
      decide (b.span.startByte ≤ c.span.startByte) = true :=
    List.pairwise_mergeSort startLe_trans startLe_total cs
  exact hsorted.imp of_decide_eq_true

/-- The comments that are left after some stops. -/
def leftover : List Stop → List Comment → List Comment
  | [], cs => cs
  | s :: rest, cs => leftover rest (cs.dropWhile s.takes)

theorem leftover_append (ss ts : List Stop) :
    ∀ cs, leftover (ss ++ ts) cs = leftover ts (leftover ss cs) := by
  induction ss with
  | nil => intro cs; rfl
  | cons s ss ih => intro cs; exact ih _

theorem sweep_append (ss ts : List Stop) :
    ∀ cs, sweep (ss ++ ts) cs = sweep ss cs ++ sweep ts (leftover ss cs) := by
  induction ss with
  | nil => intro cs; rfl
  | cons s ss ih =>
    intro cs
    rw [List.cons_append, sweep_cons, sweep_cons, ih, List.append_assoc]
    rfl

theorem leftover_sublist (ss : List Stop) : ∀ cs, (leftover ss cs).Sublist cs := by
  induction ss with
  | nil => intro cs; exact List.Sublist.refl _
  | cons s ss ih => intro cs; exact (ih _).trans (List.dropWhile_sublist _)

theorem InStartOrder.leftover {cs : List Comment} (h : InStartOrder cs) (ss : List Stop) :
    InStartOrder (leftover ss cs) :=
  h.sublist (leftover_sublist ss cs)

/-- A comment goes to the node of one of the stops. -/
theorem exists_stop_of_mem_sweep {ss : List Stop} :
    ∀ {cs : List Comment} {w : Nat}, w ∈ sweep ss cs → ∃ s ∈ ss, s.owner = w := by
  induction ss with
  | nil => intro cs w hw; cases hw
  | cons s ss ih =>
    intro cs w hw
    rw [sweep_cons, List.mem_append, List.mem_map] at hw
    rcases hw with ⟨c, -, rfl⟩ | hw
    · exact ⟨s, List.mem_cons_self, rfl⟩
    · obtain ⟨s', hs', rfl⟩ := ih hw
      exact ⟨s', List.mem_cons_of_mem _ hs', rfl⟩

/-- All comments that are taken at the stops of one node go to this node. -/
theorem eq_of_mem_sweep {i : Nat} {ss : List Stop} (h : ∀ s ∈ ss, s.owner = i) {cs : List Comment}
    {w : Nat} (hw : w ∈ sweep ss cs) : w = i := by
  obtain ⟨s, hs, rfl⟩ := exists_stop_of_mem_sweep hw
  exact h s hs

theorem Stop.owner_of_mem_onEnter {i : Nat} {n : Node} {s : Stop} (h : s ∈ onEnter i n) :
    s.owner = i := by
  rw [onEnter] at h
  split at h
  · cases h
  · rw [List.mem_singleton.1 h]
    rfl

theorem Stop.owner_of_mem_onLeave {i : Nat} {n : Node} {s : Stop} (h : s ∈ onLeave i n) :
    s.owner = i := by
  rcases List.mem_cons.1 h with rfl | h
  · rfl
  · rw [List.mem_singleton.1 h]
    rfl

/-- When a node has been left, no comment is left that starts before its end. -/
theorem not_takes_of_mem_leftover {j : Nat} {m : Node} {cs : List Comment} {c : Comment}
    (hsorted : InStartOrder cs) (hc : c ∈ leftover (Stop.onLeave j m) cs) :
    ¬ (Stop.inner j m).takes c = true := by
  have hmem : c ∈ cs.dropWhile (Stop.inner j m).takes := (List.dropWhile_sublist _).subset hc
  refine not_of_mem_dropWhile (hsorted.imp fun {b c} hbc hc => ?_) hmem
  have hlt : c.span.startByte < m.span.endByte := of_decide_eq_true hc
  exact decide_eq_true (Nat.lt_of_le_of_lt hbc hlt)

/-- When a node has been left, nothing is left for a node that ends at the same place. -/
theorem sweep_onLeave_leftover {i j : Nat} {m n : Node} {cs : List Comment}
    (hsorted : InStartOrder cs) (hbyte : n.span.endByte = m.span.endByte)
    (hstop : n.span.stop = m.span.stop) :
    sweep (Stop.onLeave i n) (leftover (Stop.onLeave j m) cs) = [] := by
  have hinner : (Stop.inner i n).takes = (Stop.inner j m).takes := by
    funext c
    simp only [Stop.inner, hbyte]
  have htrailing : (Stop.trailing i n).takes = (Stop.trailing j m).takes := by
    funext c
    simp only [Stop.trailing, hstop]
  have hleft : leftover (Stop.onLeave j m) cs =
      (cs.dropWhile (Stop.inner j m).takes).dropWhile (Stop.trailing j m).takes := rfl
  cases hrest : leftover (Stop.onLeave j m) cs with
  | nil => rfl
  | cons c rest =>
    -- the first comment that is left fails both tests
    have hnot := not_takes_of_mem_leftover hsorted (hrest ▸ List.mem_cons_self)
    rw [hrest] at hleft
    have hnot' : ¬ (Stop.trailing j m).takes c = true := by
      have hhead := List.head?_dropWhile_not (Stop.trailing j m).takes
        (cs.dropWhile (Stop.inner j m).takes)
      rw [← hleft] at hhead
      simpa using hhead
    rw [Stop.onLeave, sweep_cons, hinner, List.takeWhile_cons_of_neg hnot,
      List.dropWhile_cons_of_neg hnot, sweep_cons, htrailing, List.takeWhile_cons_of_neg hnot']
    rfl

/-! ### Sequences take nothing -/

theorem stopsAll_append (ts us : List (Rose (Nat × Node))) :
    stopsAll (ts ++ us) = stopsAll ts ++ stopsAll us := by
  induction ts with
  | nil => rfl
  | cons t ts ih => rw [List.cons_append, stopsAll, stopsAll, ih, List.append_assoc]

/-- The walk through some trees ends with leaving the last of them. -/
theorem exists_stopsAll_eq {ts : List (Rose (Nat × Node))} {l : Nat × Node}
    (h : (ts.map Rose.label).getLast? = some l) :
    ∃ before, stopsAll ts = before ++ Stop.onLeave l.1 l.2 := by
  rw [List.getLast?_map, Option.map_eq_some_iff] at h
  obtain ⟨t, ht, rfl⟩ := h
  obtain ⟨front, rfl⟩ := List.getLast?_eq_some_iff.1 ht
  cases t with
  | node l us =>
    refine ⟨stopsAll front ++ (Stop.onEnter l.1 l.2 ++ stopsAll us), ?_⟩
    rw [stopsAll_append, stopsAll, stops, stopsAll, List.append_nil, List.append_assoc,
      List.append_assoc]
    rfl

/-- A number that takes nothing in each of some trees takes nothing in all of them. -/
theorem notMem_sweep_stopsAll {i : Nat} {ts : List (Rose (Nat × Node))}
    (h : ∀ t ∈ ts, ∀ {cs : List Comment}, InStartOrder cs → i ∉ sweep (stops t) cs) :
    ∀ {cs : List Comment}, InStartOrder cs → i ∉ sweep (stopsAll ts) cs := by
  induction ts with
  | nil => intro cs _ hi; cases hi
  | cons t ts ih =>
    intro cs hsorted hi
    rw [stopsAll, sweep_append, List.mem_append] at hi
    rcases hi with hi | hi
    · exact h t List.mem_cons_self hsorted hi
    · exact ih (fun t ht => h t (List.mem_cons_of_mem _ ht)) (hsorted.leftover _) hi

/-- In a tree whose sequences reach to their last statements, a number that only sequences have takes
no comment. -/
theorem notMem_sweep_stops {i : Nat} {t : Rose (Nat × Node)}
    (h : t.Everywhere fun l below => SpansStatements l.2 (below.map Prod.snd)) :
    (∀ l ∈ t.preorder, l.1 = i → l.2.shape = .sequence) →
      ∀ {cs : List Comment}, InStartOrder cs → i ∉ sweep (stops t) cs := by
  induction h with
  | @node l ts here below ih =>
    intro hsequence cs hsorted hi
    obtain ⟨j, n⟩ := l
    rw [Rose.preorder_node] at hsequence
    have hroot : i = j → n.shape = .sequence := fun hij =>
      hsequence (j, n) List.mem_cons_self hij.symm
    rw [stops, sweep_append, sweep_append, List.mem_append, List.mem_append] at hi
    rcases hi with hi | hi | hi
    · -- a sequence makes no stop on entering
      have hij := eq_of_mem_sweep (fun s hs => Stop.owner_of_mem_onEnter hs) hi
      rw [Stop.onEnter, if_pos (hroot hij)] at hi
      cases hi
    · refine notMem_sweep_stopsAll (fun t ht {cs} => ih t ht fun l hl => hsequence l ?_)
        (hsorted.leftover _) hi
      exact List.mem_cons_of_mem _ (List.mem_flatMap.2 ⟨t, ht, hl⟩)
    · -- on leaving a sequence, its last statement has just been left
      have hij := eq_of_mem_sweep (fun s hs => Stop.owner_of_mem_onLeave hs) hi
      obtain ⟨first, last, -, hlast, hspan⟩ := here (hroot hij)
      rw [List.getLast?_map, Option.map_eq_some_iff] at hlast
      obtain ⟨⟨k, m⟩, hlast, rfl⟩ := hlast
      obtain ⟨before, hstops⟩ := exists_stopsAll_eq hlast
      rw [hstops, leftover_append, sweep_onLeave_leftover ((hsorted.leftover _).leftover _)
        (by rw [hspan]; rfl) (by rw [hspan]; rfl)] at hi
      cases hi

theorem Commentary.positions_eq_nil {k : Commentary} {i : Nat} (h : i ∉ k.owners) :
    k.positions i = [] := by
  rw [positions, List.map_eq_nil_iff, List.filter_eq_nil_iff]
  rintro ⟨w, p⟩ hmem
  rw [beq_iff_eq]
  rintro rfl
  exact h (List.mem_of_getElem? (List.mk_mem_zipIdx_iff_getElem?.1 hmem))

theorem Commentary.attached_eq_nil {k : Commentary} {i : Nat} (h : i ∉ k.owners) :
    k.attached i = [] := by
  rw [attached, positions_eq_nil h]
  rfl

/-- A sequence of statements takes no comment, whatever the comments are. -/
theorem Outline.notMem_owners_of_sequence {text : Span → String} {t : Ruby.Tree} {i : Nat} {n : Node}
    (hn : (ofTree text t).node? i = some n) (hshape : n.shape = .sequence) (cs : List Comment) :
    i ∉ (Commentary.associate (ofTree text t) cs).owners := by
  have heverywhere := everywhere_spansStatements text t
  rw [ofTree_eq] at hn
  rw [ofTree_eq, Commentary.associate]
  cases hs : gather (Reading.ofTree text t).statements with
  | none => rw [hs] at hn; cases hn
  | some s =>
    rw [hs] at hn
    rw [rootTree?_ofRose]
    refine notMem_sweep_stops ((heverywhere s hs).number 0) (fun l hl hli => ?_)
      (Commentary.inStartOrder_inOrder _)
    -- the number is that of the sequence and of no other node
    have hl' : (ofRose (some s)).node? l.1 = some l.2 := node?_ofRose.2 hl
    rw [hli, hn, Option.some.injEq] at hl'
    rw [← hl']
    exact hshape

namespace SourceFile

/-- No comment belongs to a sequence of statements. -/
theorem attached_eq_nil_of_sequence {f : SourceFile} {i : Nat} {n : Node}
    (hn : f.outline.node? i = some n) (hshape : n.shape = .sequence) :
    f.commentary.attached i = [] :=
  Commentary.attached_eq_nil (Outline.notMem_owners_of_sequence hn hshape _)

/-- **Sequences of statements hold no comments**: none is written down for a sequence, neither of those
before it nor of those inside it or on its last line. -/
theorem nothing_attached_to_sequence {f : SourceFile} {i : Nat} {n : Node}
    (hn : f.outline.node? i = some n) (hshape : n.shape = .sequence) :
    f.commentary.positions i = [] ∧ f.commentary.attached i = [] := by
  have howners : i ∉ f.commentary.owners := Outline.notMem_owners_of_sequence hn hshape _
  exact ⟨Commentary.positions_eq_nil howners, Commentary.attached_eq_nil howners⟩

end SourceFile

/-- Two statements, the second a call with a block, and a comment on the last line of both. -/
def trailedBlock : SourceFile where
  text := "a\nb { c } # d\n"
  tree :=
    .node ⟨none, .other, true, ⟨0, 14, ⟨1, 0⟩, ⟨3, 0⟩⟩⟩
      [.node ⟨none, .identifier, true, ⟨0, 1, ⟨1, 0⟩, ⟨1, 1⟩⟩⟩ [],
        .node ⟨none, .call, true, ⟨2, 9, ⟨2, 0⟩, ⟨2, 7⟩⟩⟩
          [.node ⟨some .method, .identifier, true, ⟨2, 3, ⟨2, 0⟩, ⟨2, 1⟩⟩⟩ [],
            .node ⟨some .block, .other, true, ⟨4, 9, ⟨2, 2⟩, ⟨2, 7⟩⟩⟩
              [.node ⟨some .body, .blockBody, true, ⟨6, 7, ⟨2, 4⟩, ⟨2, 5⟩⟩⟩
                [.node ⟨none, .identifier, true, ⟨6, 7, ⟨2, 4⟩, ⟨2, 5⟩⟩⟩ []]]],
        .node ⟨none, .comment, true, ⟨10, 13, ⟨2, 8⟩, ⟨2, 11⟩⟩⟩ []]

/-- The comment starts on the last line of the sequence, which still does not hold it. -/
theorem nothing_attached_to_sequence_trailedBlock :
    trailedBlock.outline.node? 0 = some { shape := .sequence, span := ⟨0, 9, ⟨1, 0⟩, ⟨2, 7⟩⟩ } ∧
      Ruby.comments trailedBlock.textAt trailedBlock.tree = [⟨"# d", ⟨10, 13, ⟨2, 8⟩, ⟨2, 11⟩⟩⟩] ∧
      trailedBlock.commentary.positions 0 = [] ∧ trailedBlock.commentary.attached 0 = [] := by
  have hnode : trailedBlock.outline.node? 0 =
      some { shape := .sequence, span := ⟨0, 9, ⟨1, 0⟩, ⟨2, 7⟩⟩ } := by decide +kernel
  exact ⟨hnode, by decide +kernel, SourceFile.nothing_attached_to_sequence hnode rfl⟩

end ModelLayout

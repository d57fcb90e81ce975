import ModelLayout.Review
import ModelLayout.Proofs.Association
import ModelLayout.Proofs.NodeRanges

/-!
# Where the heading of a declaration stands

A comment belongs to a node either because the node was entered after it or because the node was
left after it, and the heading of a node is the last comment that belongs to it, whichever of the
two it was.  So the heading of a declaration need not stand above it.  Here it is proved when it
does: exactly if the declaration is not *trailed* by a comment, one that is due only when the
declaration, or the group that it takes its heading from, is left.

## Main definitions

* `Trailed` — a comment is due when the node is left, or when the node above is left that it takes
  its heading from.

## Main results

* `SourceFile.orderly_comments`, `SourceFile.attached_eq` — the comments of a file with an aligned
  parse tree are orderly, so each node has the comments that are due to it.
* `SourceFile.heading_precedes_iff` — the heading of a declaration starts before the declaration
  if and only if the declaration is not trailed.
-/

namespace ModelLayout

/-- The heading that is found for the node `i` comes too late: a comment is due when the node is
left, or the node takes its heading from the node above it, which is trailed itself. -/
inductive Trailed (o : Outline) (k : Commentary) : Nat → Prop
  /-- A comment inside the node, or on its last line, that no node below it takes. -/
  | own {i : Nat} {n : Node} {c : Comment} (mem : c ∈ k.comments)
    (due : o.due? c = some (.leave i n)) : Trailed o k i
  /-- The node has no heading of its own and is a member of a group. -/
  | group {i p : Nat} (own : ownHeading? o k i = none) (grouped : o.isGrouped i = true)
    (parent : o.parent? i = some p) (trailed : Trailed o k p) : Trailed o k i

/-! ### Headings, one step at a time -/

theorem heading?_of_own {o : Outline} {k : Commentary} {i : Nat} {c : Comment}
    (h : ownHeading? o k i = some c) : heading? o k i = some c := by
  rw [heading?, h]

/-- A member of a group without a heading of its own has that of the node above it. -/
theorem heading?_of_grouped {o : Outline} {k : Commentary} {i p : Nat}
    (h : ownHeading? o k i = none) (hgrouped : o.isGrouped i = true) (hp : o.parent? i = some p) :
    heading? o k i = heading? o k p := by
  rw [heading?, h]
  dsimp only
  split
  · next hnone => rw [hnone] at hp; cases hp
  · next q hq =>
    rw [hq, Option.some.injEq] at hp
    rw [if_pos hgrouped, hp]

/-- A heading is the node's own, or the node is a member of a group and it is that of the node
above. -/
theorem own_or_grouped_of_heading? {o : Outline} {k : Commentary} {i : Nat} {c : Comment}
    (h : heading? o k i = some c) : ownHeading? o k i = some c ∨
      ownHeading? o k i = none ∧ o.isGrouped i = true ∧
        ∃ p, o.parent? i = some p ∧ heading? o k p = some c := by
  cases hown : ownHeading? o k i with
  | some d => rw [heading?_of_own hown] at h; exact Or.inl h
  | none =>
    refine Or.inr ⟨rfl, ?_⟩
    rw [heading?, hown] at h
    dsimp only at h
    split at h
    · cases h
    · next p hp =>
      split at h
      · next hgrouped => exact ⟨hgrouped, p, hp, h⟩
      · cases h

/-- A heading of the node's own is the last comment that belongs to it, or, if there is none, a
comment on the line above. -/
theorem attached_or_above_of_ownHeading? {o : Outline} {k : Commentary} {i : Nat} {c : Comment}
    (h : ownHeading? o k i = some c) : (k.attached i).getLast? = some c ∨
      k.attached i = [] ∧ c ∈ k.comments ∧ ∃ n, o.node? i = some n ∧ c.line + 1 = n.firstLine := by
  rw [ownHeading?, Option.orElse_eq_orElse, Option.orElse_eq_or, Option.or_eq_some_iff] at h
  rcases h with h | ⟨hnone, h⟩
  · exact Or.inl h
  · refine Or.inr ⟨List.getLast?_eq_none_iff.1 hnone, ?_⟩
    split at h
    · next line hline =>
      obtain ⟨n, hn, hfirst⟩ := Option.map_eq_some_iff.1 hline
      have hfound := List.find?_some h
      refine ⟨List.mem_of_find?_eq_some h, n, hn, ?_⟩
      rw [hfirst, eq_of_beq hfound]
    · cases h

/-! ### The comments of a file -/

namespace SourceFile

section Aligned

variable {f : SourceFile} (haligned : Ruby.Aligned f.tree)
include haligned

theorem sited_node? {i : Nat} {n : Node} (hn : f.outline.node? i = some n) : Sited f.tree n :=
  Outline.sited_ofTree haligned.nested hn

/-- Comments come on the lines in the order of their bytes. -/
theorem line_le_of_start_le {b c : Comment} (hb : b ∈ Ruby.comments f.textAt f.tree)
    (hc : c ∈ Ruby.comments f.textAt f.tree) (h : b.span.startByte ≤ c.span.startByte) :
    b.line ≤ c.line := by
  obtain ⟨k, hk, -, hspan⟩ := Ruby.exists_label_of_mem_comments _ hb
  obtain ⟨l, hl, -, hspan'⟩ := Ruby.exists_label_of_mem_comments _ hc
  have hlines := haligned.lines _ (Ruby.start_mem_marks hk) _ (Ruby.start_mem_marks hl)
  rw [← hspan, ← hspan'] at hlines
  exact hlines h

/-- The comments of a file with an aligned parse tree are orderly. -/
theorem orderly_comments : Orderly f.outline (Ruby.comments f.textAt f.tree) where
  range := fun c hc => (haligned.nested.within_of_mem_comments hc).2.1
  disjoint := haligned.nested.pairwise_comments f.textAt
  lines := by
    refine (haligned.nested.pairwise_comments f.textAt).imp_of_mem fun {b c} hb hc hbc => ?_
    have hrange := (haligned.nested.within_of_mem_comments hb).2.1
    exact line_le_of_start_le haligned hb hc (Nat.le_trans hrange hbc)
  after := by
    intro i n hn c hc hend
    -- the node ends where some node of the parse tree does, so bytes and lines can be compared
    obtain ⟨k, hk, hbyte, hpoint⟩ := (sited_node? haligned hn).stop
    obtain ⟨l, hl, -, hspan⟩ := Ruby.exists_label_of_mem_comments _ hc
    have hlines := haligned.lines _ (Ruby.stop_mem_marks hk) _ (Ruby.start_mem_marks hl)
    rw [← hspan, ← hbyte, ← hpoint] at hlines
    exact hlines hend

/-- The comments of a file need not be sorted before they are shared out. -/
theorem commentary_eq : f.commentary =
    { comments := Ruby.comments f.textAt f.tree
      owners := sweep ((f.outline.rootTree?.map stops).getD []) (Ruby.comments f.textAt f.tree) } := by
  rw [commentary, Commentary.associate, (orderly_comments haligned).inOrder_eq]

theorem comments_commentary : f.commentary.comments = Ruby.comments f.textAt f.tree := by
  rw [commentary_eq haligned]

/-- A node of a file has the comments that are due to it. -/
theorem attached_eq (i : Nat) : f.commentary.attached i =
    (Ruby.comments f.textAt f.tree).filter fun c =>
      (f.outline.due? c).map Moment.owner == some i := by
  have horderly := orderly_comments haligned
  have heq := horderly.inOrder_eq
  rw [← heq] at horderly
  rw [commentary, Commentary.attached_associate horderly, heq]

theorem mem_attached {i : Nat} {c : Comment} : c ∈ f.commentary.attached i ↔
    c ∈ Ruby.comments f.textAt f.tree ∧ (f.outline.due? c).map Moment.owner = some i := by
  rw [attached_eq haligned, List.mem_filter, beq_iff_eq]

/-- A comment that belongs to a node is due when this node is entered or left. -/
theorem due?_of_mem_attached {i : Nat} {n : Node} {c : Comment} (hn : f.outline.node? i = some n)
    (hc : c ∈ f.commentary.attached i) :
    f.outline.due? c = some (.enter i n) ∨ f.outline.due? c = some (.leave i n) := by
  obtain ⟨m, hdue, rfl⟩ := Option.map_eq_some_iff.1 ((mem_attached haligned).1 hc).2
  obtain ⟨n', hn', hcase⟩ := Outline.node?_of_mem_moments (List.mem_of_find?_eq_some hdue)
  rw [hn, Option.some.injEq] at hn'
  subst hn'
  rw [hdue, Option.some.injEq, Option.some.injEq]
  exact hcase

end Aligned

variable {f : SourceFile} (hwf : Ruby.WellFormed f.tree)
include hwf

/-- The heading of a node is a comment of the file. -/
theorem mem_comments_of_heading? {c : Comment} : ∀ {i : Nat},
    heading? f.outline f.commentary i = some c → c ∈ Ruby.comments f.textAt f.tree := by
  intro i
  induction i using Nat.strongRecOn with
  | ind i ih =>
    intro h
    rcases own_or_grouped_of_heading? h with hown | ⟨-, -, p, hp, hheading⟩
    · rcases attached_or_above_of_ownHeading? hown with hlast | ⟨-, hmem, -⟩
      · exact ((mem_attached hwf.aligned).1 (List.mem_of_getLast? hlast)).1
      · rwa [comments_commentary hwf.aligned] at hmem
    · exact ih p (Outline.lt_of_parent? hp) hheading

/-! ### Comments before a node -/

/-- A comment that is due when a node is entered starts before it. -/
theorem start_lt_of_due?_enter {i : Nat} {n : Node} {c : Comment}
    (hc : c ∈ Ruby.comments f.textAt f.tree) (hdue : f.outline.due? c = some (.enter i n)) :
    c.span.startByte < n.span.startByte := by
  have hsuits := List.find?_some hdue
  rw [Moment.suits, Bool.and_eq_true, decide_eq_true_eq] at hsuits
  obtain ⟨l, hl, hkind, hspan⟩ := Ruby.exists_label_of_mem_comments _ hc
  have hnonempty := hwf.nonempty l hl hkind
  rw [← hspan] at hnonempty
  exact Nat.lt_of_lt_of_le hnonempty hsuits.2

/-- A comment on a line before the first line of a node starts before the node. -/
theorem start_lt_of_line_lt {i : Nat} {n : Node} {c : Comment}
    (hc : c ∈ Ruby.comments f.textAt f.tree) (hn : f.outline.node? i = some n)
    (hline : c.line < n.firstLine) : c.span.startByte < n.span.startByte := by
  obtain ⟨k, hk, hbyte, hpoint⟩ := (sited_node? hwf.aligned hn).start
  obtain ⟨l, hl, -, hspan⟩ := Ruby.exists_label_of_mem_comments _ hc
  have hlines := hwf.lines _ (Ruby.start_mem_marks hk) _ (Ruby.start_mem_marks hl)
  rw [← hspan, ← hbyte, ← hpoint] at hlines
  refine Nat.lt_of_not_le fun hle => ?_
  exact absurd (hlines hle) (Nat.not_le_of_lt hline)

/-- A heading starts before its node, or the node is trailed. -/
theorem start_lt_or_trailed {c : Comment} : ∀ {i : Nat} {n : Node},
    f.outline.node? i = some n → heading? f.outline f.commentary i = some c →
      c.span.startByte < n.span.startByte ∨ Trailed f.outline f.commentary i := by
  intro i
  induction i using Nat.strongRecOn with
  | ind i ih =>
    intro n hn h
    have hc := mem_comments_of_heading? hwf h
    rcases own_or_grouped_of_heading? h with hown | ⟨hnone, hgrouped, p, hp, hheading⟩
    · rcases attached_or_above_of_ownHeading? hown with hlast | ⟨-, -, n', hn', hline⟩
      · rcases due?_of_mem_attached hwf.aligned hn (List.mem_of_getLast? hlast) with hdue | hdue
        · exact Or.inl (start_lt_of_due?_enter hwf hc hdue)
        · rw [← comments_commentary hwf.aligned] at hc
          exact Or.inr (.own hc hdue)
      · rw [hn, Option.some.injEq] at hn'
        subst hn'
        exact Or.inl (start_lt_of_line_lt hwf hc hn (by omega))
    · -- the heading of the group, which does not start after its member
      obtain ⟨m, hm⟩ := Outline.exists_node?_of_parent? hp
      rcases ih p (Outline.lt_of_parent? hp) hm hheading with hlt | htrailed
      · have hle := Outline.start_le_of_parent? hwf.nested hp hm hn
        exact Or.inl (Nat.lt_of_lt_of_le hlt hle)
      · exact Or.inr (.group hnone hgrouped hp htrailed)

/-! ### Comments after the start of a node -/

/-- A comment ends before a node starts, or it starts no earlier than the node. -/
theorem separate_node? {i : Nat} {n : Node} {c : Comment}
    (hc : c ∈ Ruby.comments f.textAt f.tree) (hn : f.outline.node? i = some n) :
    c.span.endByte ≤ n.span.startByte ∨ n.span.startByte ≤ c.span.startByte := by
  obtain ⟨l, hl, hbyte, -⟩ := (sited_node? hwf.aligned hn).start
  rw [hbyte]
  exact hwf.nested.separate_comments f.textAt hwf.token l hl c hc

/-- A comment that is due when a node is left starts no earlier than the node, unless the node is a
sequence. -/
theorem start_le_of_due?_leave {i : Nat} {n : Node} {c : Comment}
    (hc : c ∈ Ruby.comments f.textAt f.tree) (hn : f.outline.node? i = some n)
    (hshape : n.shape ≠ .sequence) (hdue : f.outline.due? c = some (.leave i n)) :
    n.span.startByte ≤ c.span.startByte := by
  have htree : f.outline.IsTree := Outline.isTree_ofTree _ _
  have hnot := htree.not_suits_of_due? hdue (htree.enter_leave_sublist_moments hn)
  rw [Moment.suits, bne_iff_ne.2 hshape, Bool.true_and, decide_eq_true_eq] at hnot
  rcases separate_node? hwf hc hn with hle | hle
  · exact absurd hle hnot
  · exact hle

/-- If some comment of a node is due when the node is left, the last one is. -/
theorem due?_leave_of_getLast? {i : Nat} {n : Node} {b c : Comment}
    (hn : f.outline.node? i = some n) (hb : b ∈ f.commentary.attached i)
    (hdue : f.outline.due? b = some (.leave i n))
    (hlast : (f.commentary.attached i).getLast? = some c) :
    f.outline.due? c = some (.leave i n) := by
  have horderly := orderly_comments hwf.aligned
  have hc := List.mem_of_getLast? hlast
  refine (due?_of_mem_attached hwf.aligned hn hc).resolve_left fun henter => ?_
  -- if the last one ended before the node, so did all others
  have hsuits := List.find?_some henter
  have htree : f.outline.IsTree := Outline.isTree_ofTree _ _
  have hnot := htree.not_suits_of_due? hdue (htree.enter_leave_sublist_moments hn)
  have hordered : (f.commentary.attached i).Pairwise fun b c =>
      (Moment.enter i n).suits c = true → (Moment.enter i n).suits b = true := by
    rw [attached_eq hwf.aligned]
    exact (horderly.suits fun _ _ h => by cases h).filter _
  obtain ⟨front, hfront⟩ := List.getLast?_eq_some_iff.1 hlast
  rw [hfront] at hb hordered
  rcases List.mem_append.1 hb with hb | hb
  · exact hnot ((List.pairwise_append.1 hordered).2.2 b hb c List.mem_cons_self hsuits)
  · rw [List.mem_singleton.1 hb] at hnot
    exact hnot hsuits

/-- The heading of a trailed node is due when the node is left, or later when a node is left whose
heading it has. -/
theorem exists_due?_of_trailed {i : Nat} (h : Trailed f.outline f.commentary i) :
    ∀ {n : Node} {c : Comment}, f.outline.node? i = some n →
      heading? f.outline f.commentary i = some c →
      f.outline.due? c = some (.leave i n) ∨ ∃ j m, f.outline.due? c = some (.leave j m) ∧
        [Moment.leave i n, .leave j m].Sublist f.outline.moments := by
  induction h with
  | @own i n' b hb hdue =>
    intro n c hn hheading
    obtain ⟨n'', hn'', hcase⟩ := Outline.node?_of_mem_moments (List.mem_of_find?_eq_some hdue)
    have heq : n' = n := by
      rcases hcase with h | h
      · cases h
      · rw [(Moment.leave.inj h).2]
        exact Option.some.inj (hn''.symm.trans hn)
    subst heq
    rw [comments_commentary hwf.aligned] at hb
    have hattached : b ∈ f.commentary.attached i :=
      (mem_attached hwf.aligned).2 ⟨hb, by rw [hdue]; rfl⟩
    -- a comment belongs to the node, so its heading is the last one that does
    obtain ⟨d, hlast⟩ : ∃ d, (f.commentary.attached i).getLast? = some d := by
      cases hlast : (f.commentary.attached i).getLast? with
      | none => rw [List.getLast?_eq_none_iff.1 hlast] at hattached; cases hattached
      | some d => exact ⟨d, rfl⟩
    have hown : ownHeading? f.outline f.commentary i = some d := by
      rw [ownHeading?, hlast]
      rfl
    rw [heading?_of_own hown, Option.some.injEq] at hheading
    subst hheading
    exact Or.inl (due?_leave_of_getLast? hwf hn hattached hdue hlast)
  | @group i p hnone hgrouped hp _ ih =>
    intro n c hn hheading
    rw [heading?_of_grouped hnone hgrouped hp] at hheading
    obtain ⟨m, hm⟩ := Outline.exists_node?_of_parent? hp
    -- the node is left before the node above it, hence before the one whose comment it has
    have htree : f.outline.IsTree := Outline.isTree_ofTree _ _
    have hbefore := htree.leave_leave_sublist_moments hp hm hn
    refine Or.inr ?_
    rcases ih hm hheading with hdue | ⟨j, q, hdue, hlater⟩
    · exact ⟨p, m, hdue, hbefore⟩
    · exact ⟨j, q, hdue, pair_sublist_trans htree.nodup_moments hbefore hlater⟩

/-- The heading of a trailed node starts no earlier than the node. -/
theorem start_le_of_trailed {i : Nat} {n : Node} {c : Comment} (hn : f.outline.node? i = some n)
    (hshape : n.shape ≠ .sequence) (hheading : heading? f.outline f.commentary i = some c)
    (h : Trailed f.outline f.commentary i) : n.span.startByte ≤ c.span.startByte := by
  rcases exists_due?_of_trailed hwf h hn hheading with hdue | ⟨j, m, hdue, hlater⟩
  · exact start_le_of_due?_leave hwf (mem_comments_of_heading? hwf hheading) hn hshape hdue
  · exact Nat.le_trans (sited_node? hwf.aligned hn).range ((Outline.isTree_ofTree _ _).end_le_of_due?_leave hdue hlater)

/-- **The heading of a declaration is a comment of the file, and it starts before the declaration
if and only if the declaration is not trailed.** -/
theorem heading_precedes_iff {i : Nat} {n : Node} {c : Comment} (hn : f.outline.node? i = some n)
    (hdeclaration : n.shape.isDeclaration = true)
    (hheading : heading? f.outline f.commentary i = some c) :
    c ∈ Ruby.comments f.textAt f.tree ∧
      (c.span.startByte < n.span.startByte ↔ ¬ Trailed f.outline f.commentary i) := by
  have hshape : n.shape ≠ .sequence := by
    intro h
    rw [h] at hdeclaration
    cases hdeclaration
  refine ⟨mem_comments_of_heading? hwf hheading, ?_, ?_⟩
  · intro hlt htrailed
    exact absurd (start_le_of_trailed hwf hn hshape hheading htrailed) (Nat.not_le_of_lt hlt)
  · intro htrailed
    exact (start_lt_or_trailed hwf hn hheading).resolve_right htrailed

end SourceFile

/-! ### A module with a comment on its last line -/

/-- A class with a module that has a comment above it and another one on its last line. -/
def trailedModule : SourceFile where
  text := "class Foo < ApplicationRecord\n  # Modules\n  module A\n    foo\n  end # inner\n  foo\nend\n"
  tree :=
    .node ⟨none, .other, true, ⟨0, 85, ⟨1, 0⟩, ⟨8, 0⟩⟩⟩
      [.node ⟨none, .classDef, true, ⟨0, 84, ⟨1, 0⟩, ⟨7, 3⟩⟩⟩
        [.node ⟨some .name, .constant, true, ⟨6, 9, ⟨1, 6⟩, ⟨1, 9⟩⟩⟩ [],
          .node ⟨some .superclass, .other, true, ⟨10, 29, ⟨1, 10⟩, ⟨1, 29⟩⟩⟩
            [.node ⟨none, .constant, true, ⟨12, 29, ⟨1, 12⟩, ⟨1, 29⟩⟩⟩ []],
          .node ⟨none, .comment, true, ⟨32, 41, ⟨2, 2⟩, ⟨2, 11⟩⟩⟩ [],
          .node ⟨some .body, .bodyStatement, true, ⟨44, 80, ⟨3, 2⟩, ⟨6, 5⟩⟩⟩
            [.node ⟨none, .moduleDef, true, ⟨44, 66, ⟨3, 2⟩, ⟨5, 5⟩⟩⟩
              [.node ⟨some .name, .constant, true, ⟨51, 52, ⟨3, 9⟩, ⟨3, 10⟩⟩⟩ [],
                .node ⟨some .body, .bodyStatement, true, ⟨57, 60, ⟨4, 4⟩, ⟨4, 7⟩⟩⟩
                  [.node ⟨none, .identifier, true, ⟨57, 60, ⟨4, 4⟩, ⟨4, 7⟩⟩⟩ []]],
              .node ⟨none, .comment, true, ⟨67, 74, ⟨5, 6⟩, ⟨5, 13⟩⟩⟩ [],
              .node ⟨none, .identifier, true, ⟨77, 80, ⟨6, 2⟩, ⟨6, 5⟩⟩⟩ []]]]

theorem wellFormed_trailedModule : Ruby.WellFormed trailedModule.tree := by decide +kernel

theorem node?_trailedModule : trailedModule.outline.node? 5 =
    some { shape := .moduleDef, span := ⟨44, 66, ⟨3, 2⟩, ⟨5, 5⟩⟩, name := some "A" } := by
  decide +kernel

/-- The heading that is found for the module is the comment on its last line. -/
theorem heading?_trailedModule : heading? trailedModule.outline trailedModule.commentary 5 =
    some ⟨"# inner", ⟨67, 74, ⟨5, 6⟩, ⟨5, 13⟩⟩⟩ := by
  refine heading?_of_own ?_
  rw [SourceFile.commentary_eq wellFormed_trailedModule.aligned]
  decide +kernel

/-- The module is trailed. -/
theorem trailed_trailedModule :
    Ruby.WellFormed trailedModule.tree ∧
      Trailed trailedModule.outline trailedModule.commentary 5 := by
  have hiff := (SourceFile.heading_precedes_iff wellFormed_trailedModule node?_trailedModule rfl
    heading?_trailedModule).2
  refine ⟨wellFormed_trailedModule, ?_⟩
  by_contra htrailed
  exact absurd (hiff.2 htrailed) (by decide)

/-- No comment with the text of the heading starts before the module, so not every heading
precedes its declaration. -/
theorem not_forall_heading_precedes :
    ¬ ∀ (f : SourceFile) (i : Nat) (n : Node) (c : Comment), Ruby.WellFormed f.tree →
      f.outline.node? i = some n → n.shape.isDeclaration = true →
      heading? f.outline f.commentary i = some c →
      ∃ d ∈ Ruby.comments f.textAt f.tree, d.text = c.text ∧
        d.span.startByte < n.span.startByte := by
  intro h
  obtain ⟨d, hd, htext, hlt⟩ := h trailedModule 5 _ _ wellFormed_trailedModule node?_trailedModule
    rfl heading?_trailedModule
  have hcomments : Ruby.comments trailedModule.textAt trailedModule.tree =
      [⟨"# Modules", ⟨32, 41, ⟨2, 2⟩, ⟨2, 11⟩⟩⟩, ⟨"# inner", ⟨67, 74, ⟨5, 6⟩, ⟨5, 13⟩⟩⟩] := by
    decide +kernel
  rw [hcomments, List.mem_cons, List.mem_singleton] at hd
  rcases hd with rfl | rfl
  · exact absurd htext (by decide)
  · exact absurd hlt (by decide)

end ModelLayout

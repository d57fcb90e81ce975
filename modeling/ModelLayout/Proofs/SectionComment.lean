import ModelLayout.Proofs.Heading
import ModelLayout.Proofs.Review

/-!
# The section comment right above a declaration

A section comment that stands on the line above a declaration need not belong to the declaration: it
goes to the block around a call, or to a statement before it that ends on the same line.  Here it is
proved that it is the heading of the declaration all the same.  Either the comment belongs to the
declaration, and then it is the last one that does; or some earlier node took it, and then that node
took every comment before it as well, so that nothing is left to hide it when the line above is
looked at.

## Main definitions

* `Ruby.Unstraddled` — no comment reaches across the start of a node.
* `SourceFile.HeadedBy` — a comment stands right above a node, and no other comment is near.

## Main results

* `SourceFile.HeadedBy.mem_attached` — if any comment belongs to the node, this one does.
* `Review.offensesOfKind_comment_process` — a declaration under a fitting heading is not reported.
* `SourceFile.heading_of_headedBy` — the comment is the heading of the node, and a review accepts it.
-/

namespace ModelLayout

/-- No comment reaches across the start of a node. -/
def Ruby.Unstraddled (t : Ruby.Tree) : Prop :=
  ∀ k ∈ t.preorder, k.kind = .comment → ∀ l ∈ t.preorder,
    k.span.endByte ≤ l.span.startByte ∨ l.span.startByte ≤ k.span.startByte

instance : DecidablePred Ruby.Unstraddled := fun _ => List.decidableBAll _ _

/-- The comment `h` of a file stands on the line above the node `n`, where no other comment starts.
It is the last comment that starts before the node, and none starts from there on up to the last
line of the node. -/
structure SourceFile.HeadedBy (f : SourceFile) (n : Node) (h : Comment) : Prop where
  mem : h ∈ Ruby.comments f.textAt f.tree
  above : h.line + 1 = n.firstLine
  only : ∀ c ∈ Ruby.comments f.textAt f.tree, c.line + 1 = n.firstLine → c = h
  before : h.span.startByte < n.span.startByte
  last : ∀ c ∈ Ruby.comments f.textAt f.tree, c.span.startByte < n.span.startByte →
    c.span.startByte ≤ h.span.startByte
  clear : ∀ c ∈ Ruby.comments f.textAt f.tree, n.span.startByte ≤ c.span.startByte →
    n.span.stop.line < c.line

/-! ### Comments and the node below them -/

namespace SourceFile

variable {f : SourceFile} (haligned : Ruby.Aligned f.tree)
include haligned

/-- A comment that does not start after the end of a node does not start below its last line. -/
theorem line_le_of_start_le_end {i : Nat} {n : Node} {c : Comment}
    (hc : c ∈ Ruby.comments f.textAt f.tree) (hn : f.outline.node? i = some n)
    (h : c.span.startByte ≤ n.span.endByte) : c.line ≤ n.span.stop.line := by
  obtain ⟨k, hk, -, hspan⟩ := Ruby.exists_label_of_mem_comments _ hc
  obtain ⟨l, hl, hbyte, hpoint⟩ := (sited_node? haligned hn).stop
  have hlines := haligned.lines _ (Ruby.start_mem_marks hk) _ (Ruby.stop_mem_marks hl)
  rw [← hspan, ← hbyte, ← hpoint] at hlines
  exact hlines h

omit haligned in
theorem end_le_or_start_le (hclear : Ruby.Unstraddled f.tree) {n : Node} {c : Comment}
    (hc : c ∈ Ruby.comments f.textAt f.tree) (hn : Sited f.tree n) :
    c.span.endByte ≤ n.span.startByte ∨ n.span.startByte ≤ c.span.startByte := by
  obtain ⟨k, hk, hkind, hspan⟩ := Ruby.exists_label_of_mem_comments _ hc
  obtain ⟨l, hl, hbyte, -⟩ := hn.start
  rw [hspan, hbyte]
  exact hclear k hk hkind l hl

namespace HeadedBy

variable {i : Nat} {n : Node} {h : Comment} (hh : f.HeadedBy n h)
include hh

/-- No other comment starts where the section comment does. -/
theorem eq_of_start_eq {c : Comment} (hc : c ∈ Ruby.comments f.textAt f.tree)
    (hstart : c.span.startByte = h.span.startByte) : c = h := by
  have hle := line_le_of_start_le haligned hc hh.mem (by omega)
  have hge := line_le_of_start_le haligned hh.mem hc (by omega)
  have habove := hh.above
  exact hh.only c hc (by omega)

/-- A comment that starts no later than the section comment is that comment, or it ends before the
section comment starts. -/
theorem eq_or_before {c : Comment} (hc : c ∈ Ruby.comments f.textAt f.tree)
    (hle : c.span.startByte ≤ h.span.startByte) :
    c = h ∨ c.span.endByte ≤ h.span.startByte := by
  have hdisjoint := haligned.nested.pairwise_comments f.textAt
  have hrange := (orderly_comments haligned).range h hh.mem
  -- the comments come one after the other, so only equal starts are left to exclude
  have hcases := List.Pairwise.forall_of_forall_of_flip
    (R := fun b c : Comment => b = c ∨ b.span.endByte ≤ c.span.startByte ∨
      c.span.endByte ≤ b.span.startByte)
    (fun _ _ => Or.inl rfl) (hdisjoint.imp fun hbc => Or.inr (Or.inl hbc))
    (hdisjoint.imp fun hbc => Or.inr (Or.inr hbc)) hc hh.mem
  rcases hcases with heq | hbefore | hafter
  · exact Or.inl heq
  · exact Or.inr hbefore
  · exact Or.inl (hh.eq_of_start_eq haligned hc (by omega))

variable (hn : f.outline.node? i = some n)
include hn

/-- A comment that ends before the node starts no later than the section comment. -/
theorem start_le_of_end_le {c : Comment} (hc : c ∈ Ruby.comments f.textAt f.tree)
    (hend : c.span.endByte ≤ n.span.startByte) : c.span.startByte ≤ h.span.startByte := by
  have hrange := (orderly_comments haligned).range c hc
  have hnode := (sited_node? haligned hn).range
  rcases Nat.lt_or_ge c.span.startByte n.span.startByte with hlt | hge
  · exact hh.last c hc hlt
  · -- a comment without any bytes at the very start of the node, on one of its lines
    have hbelow := hh.clear c hc hge
    have hline := line_le_of_start_le_end haligned hc hn (by omega)
    omega

variable (hclear : Ruby.Unstraddled f.tree) (hshape : n.shape ≠ .sequence)
include hclear hshape

/-- All comments that belong to the node are due when it is entered. -/
theorem due?_eq_enter {c : Comment} (hc : c ∈ f.commentary.attached i) :
    f.outline.due? c = some (.enter i n) := by
  have hmem := ((mem_attached haligned).1 hc).1
  refine (due?_of_mem_attached haligned hn hc).resolve_right fun hleave => ?_
  -- a comment that is due on leaving starts inside the node, or on its last line
  have htree : f.outline.IsTree := Outline.isTree_ofTree _ _
  have hnot := htree.not_suits_of_due? hleave (htree.enter_leave_sublist_moments hn)
  rw [Moment.suits, bne_iff_ne.2 hshape, Bool.true_and, decide_eq_true_eq] at hnot
  have hstart := (end_le_or_start_le hclear hmem (sited_node? haligned hn)).resolve_left hnot
  have hbelow := hh.clear c hmem hstart
  have hsuits := List.find?_some hleave
  rw [Moment.suits, Bool.or_eq_true, decide_eq_true_eq, beq_iff_eq] at hsuits
  rcases hsuits with hlt | hline
  · have hline := line_le_of_start_le_end haligned hmem hn (Nat.le_of_lt hlt)
    omega
  · omega

/-- If any comment belongs to the node, the section comment does: a node that took the section
comment earlier would have taken the other comment with it. -/
theorem mem_attached {c : Comment} (hc : c ∈ f.commentary.attached i) :
    h ∈ f.commentary.attached i := by
  have horderly := orderly_comments haligned
  have hmem := ((SourceFile.mem_attached haligned).1 hc).1
  have hdue := hh.due?_eq_enter haligned hn hclear hshape hc
  have hend : h.span.endByte ≤ n.span.startByte := by
    refine (end_le_or_start_le hclear hh.mem (sited_node? haligned hn)).resolve_right ?_
    exact Nat.not_le_of_lt hh.before
  have hsuits : (Moment.enter i n).suits h = true := by
    rw [Moment.suits, bne_iff_ne.2 hshape, Bool.true_and]
    exact decide_eq_true hend
  have hend' : c.span.endByte ≤ n.span.startByte := by
    have hsuits' := List.find?_some hdue
    rw [Moment.suits, Bool.and_eq_true, decide_eq_true_eq] at hsuits'
    exact hsuits'.2
  have hle := hh.start_le_of_end_le haligned hn hmem hend'
  rcases hh.eq_or_before haligned hmem hle with rfl | hbefore
  · exact hc
  · have hlines := line_le_of_start_le haligned hmem hh.mem hle
    have hdue' := horderly.due?_of_before hmem hh.mem hbefore hlines hdue hsuits
    exact (SourceFile.mem_attached haligned).2 ⟨hh.mem, by rw [hdue']; rfl⟩

/-- If any comment belongs to the node, the section comment is the last that does. -/
theorem eq_of_getLast? {c : Comment} (hlast : (f.commentary.attached i).getLast? = some c) :
    c = h := by
  have hc := List.mem_of_getLast? hlast
  have hmem := ((SourceFile.mem_attached haligned).1 hc).1
  have hattached := hh.mem_attached haligned hn hclear hshape hc
  have hordered : (f.commentary.attached i).Pairwise fun b c =>
      b.span.endByte ≤ c.span.startByte := by
    rw [attached_eq haligned]
    exact (haligned.nested.pairwise_comments f.textAt).filter _
  obtain ⟨front, hfront⟩ := List.getLast?_eq_some_iff.1 hlast
  rw [hfront] at hattached hordered
  rcases List.mem_append.1 hattached with hinner | hend
  · -- were it not the last, the last would start after it and still before the node
    have hafter := (List.pairwise_append.1 hordered).2.2 h hinner c List.mem_cons_self
    have hrange := (orderly_comments haligned).range h hh.mem
    have hdue := hh.due?_eq_enter haligned hn hclear hshape hc
    have hsuits := List.find?_some hdue
    rw [Moment.suits, Bool.and_eq_true, decide_eq_true_eq] at hsuits
    have hle := hh.start_le_of_end_le haligned hn hmem hsuits.2
    exact hh.eq_of_start_eq haligned hmem (by omega)
  · exact (List.mem_singleton.1 hend).symm

/-- The section comment is the heading of the node, whatever node it belongs to. -/
theorem heading?_eq : heading? f.outline f.commentary i = some h := by
  refine heading?_of_own ?_
  rw [ownHeading?, hn]
  cases hlast : (f.commentary.attached i).getLast? with
  | some c => rw [hh.eq_of_getLast? haligned hn hclear hshape hlast]; rfl
  | none =>
    -- nothing belongs to the node: the look at the line above finds the section comment
    have habove : (some n).map Node.firstLine = some (h.line + 1) := by rw [hh.above]; rfl
    rw [habove]
    have hfound : (f.commentary.onLine? h.line).isSome = true := by
      rw [Commentary.onLine?, List.find?_isSome, comments_commentary haligned]
      exact ⟨h, hh.mem, beq_self_eq_true _⟩
    obtain ⟨c, hc⟩ := Option.isSome_iff_exists.1 hfound
    have hpasses := List.find?_some hc
    have hline : c.line = h.line := eq_of_beq hpasses
    have hmem := List.mem_of_find?_eq_some hc
    rw [comments_commentary haligned] at hmem
    have heq := hh.only c hmem (by rw [hline]; exact hh.above)
    rw [← heq] at hc ⊢
    exact hc

end HeadedBy

end SourceFile

/-! ### Reviewing a declaration with a fitting heading -/

namespace Review

theorem offensesOfKind_note (rules : Rules) (r : Review) (c : Category) (kind : OffenseKind) :
    (note rules r c).offensesOfKind kind = r.offensesOfKind kind := by
  rw [note]
  split <;> rfl

theorem offensesOfKind_comment_checkOrder (rules : Rules) (r : Review) (e : Element) :
    (checkOrder rules r e).offensesOfKind .comment = r.offensesOfKind .comment := by
  rw [checkOrder]
  split
  · rfl
  · rw [offensesOfKind, List.filter_append]
    exact List.append_nil _

theorem offensesOfKind_checkComment {rules : Rules} {e : Element}
    (h : missingComment? rules e = none) (r : Review) (kind : OffenseKind) :
    (checkComment rules r e).offensesOfKind kind = r.offensesOfKind kind := by
  rw [checkComment]
  split
  · rfl
  · rw [commentOffense?_eq, h, Option.toList_none, List.append_nil]
    rfl

/-- A review finds nothing wrong with the section comment of a declaration that has the right one. -/
theorem offensesOfKind_comment_process {rules : Rules} {o : Outline} {k : Commentary} {i : Nat}
    {n : Node} (hn : o.node? i = some n)
    (hfits : ∀ e ∈ Visit.element? rules ⟨o, k, i, n, hn⟩, missingComment? rules e = none)
    (r : Review) :
    (process rules o k r i).offensesOfKind .comment = r.offensesOfKind .comment := by
  have hvisit : process rules o k r i = r.visit rules ⟨o, k, i, n, hn⟩ := rfl
  rw [hvisit]
  cases hprivate : r.privateReached with
  | true => rw [visit_of_private hprivate]
  | false =>
    rw [visit_of_not_private hprivate]
    split
    · rfl
    · cases he : Visit.element? rules ⟨o, k, i, n, hn⟩ with
      | none => rfl
      | some e =>
        rw [Option.elim_some, reviewElement, offensesOfKind_comment_checkOrder,
          offensesOfKind_note, offensesOfKind_checkComment (hfits e he)]

end Review

/-- **A section comment right above a declaration is its heading**, whether it belongs to the
declaration, to the block around it or to a statement before it; and if it has the text that the
category of the declaration needs, then in whatever state a review is, it finds nothing wrong with
it. -/
theorem SourceFile.heading_of_headedBy {f : SourceFile} (haligned : Ruby.Aligned f.tree)
    (hclear : Ruby.Unstraddled f.tree) {i : Nat} {n : Node} {h : Comment}
    (hn : f.outline.node? i = some n) (hdeclaration : n.shape.isDeclaration = true)
    (hh : f.HeadedBy n h) :
    heading? f.outline f.commentary i = some h ∧
      ∀ (rules : Rules) (r : Review) (c : Category), n.category? rules.isMisc = some c →
        rules.comment c = some (Text.trim h.text) →
        (Review.process rules f.outline f.commentary r i).offensesOfKind .comment =
          r.offensesOfKind .comment := by
  have hshape : n.shape ≠ .sequence := by
    intro hsequence
    rw [hsequence] at hdeclaration
    cases hdeclaration
  have hheading := hh.heading?_eq haligned hn hclear hshape
  refine ⟨hheading, fun rules r c hcategory hcomment => ?_⟩
  refine Review.offensesOfKind_comment_process hn (fun e he => ?_) r
  -- the declaration that the review sees has this category and this heading
  rw [Visit.element?, Option.mem_def, Option.bind_eq_some_iff] at he
  obtain ⟨c', hc', he⟩ := he
  dsimp only at hc' he
  rw [hcategory, Option.some.injEq] at hc'
  subst hc'
  split at he
  · cases he
  · rw [hheading, Option.some.injEq] at he
    rw [← he, Review.missingComment?]
    dsimp only
    rw [hcomment, Option.bind_some, if_pos]
    exact ⟨h.text, rfl, rfl⟩

/-- A class in which the comment on the line above a call with a block stands behind another
statement. -/
def sharedLine : SourceFile where
  text := "class Foo < ApplicationRecord\n  bar # Validations\n  validate { foo }\nend\n"
  tree :=
    .node ⟨none, .other, true, ⟨0, 73, ⟨1, 0⟩, ⟨5, 0⟩⟩⟩
      [.node ⟨none, .classDef, true, ⟨0, 72, ⟨1, 0⟩, ⟨4, 3⟩⟩⟩
        [.node ⟨some .name, .constant, true, ⟨6, 9, ⟨1, 6⟩, ⟨1, 9⟩⟩⟩ [],
          .node ⟨some .superclass, .other, true, ⟨10, 29, ⟨1, 10⟩, ⟨1, 29⟩⟩⟩
            [.node ⟨none, .constant, true, ⟨12, 29, ⟨1, 12⟩, ⟨1, 29⟩⟩⟩ []],
          .node ⟨some .body, .bodyStatement, true, ⟨32, 68, ⟨2, 2⟩, ⟨3, 18⟩⟩⟩
            [.node ⟨none, .identifier, true, ⟨32, 35, ⟨2, 2⟩, ⟨2, 5⟩⟩⟩ [],
              .node ⟨none, .comment, true, ⟨36, 49, ⟨2, 6⟩, ⟨2, 19⟩⟩⟩ [],
              .node ⟨none, .call, true, ⟨52, 68, ⟨3, 2⟩, ⟨3, 18⟩⟩⟩
                [.node ⟨some .method, .identifier, true, ⟨52, 60, ⟨3, 2⟩, ⟨3, 10⟩⟩⟩ [],
                  .node ⟨some .block, .other, true, ⟨61, 68, ⟨3, 11⟩, ⟨3, 18⟩⟩⟩
                    [.node ⟨some .body, .blockBody, true, ⟨63, 66, ⟨3, 13⟩, ⟨3, 16⟩⟩⟩
                      [.node ⟨none, .identifier, true, ⟨63, 66, ⟨3, 13⟩, ⟨3, 16⟩⟩⟩ []]]]]]]

/-- The comment behind the first statement is the heading of the call below it, and the standard rules
ask for no other. -/
theorem heading_of_headedBy_sharedLine :
    let call : Node :=
      { shape := .call, span := ⟨52, 60, ⟨3, 2⟩, ⟨3, 10⟩⟩, name := some "validate" }
    let comment : Comment := ⟨"# Validations", ⟨36, 49, ⟨2, 6⟩, ⟨2, 19⟩⟩⟩
    sharedLine.outline.node? 7 = some call ∧ sharedLine.HeadedBy call comment ∧
      heading? sharedLine.outline sharedLine.commentary 7 = some comment ∧
      (Review.process .standard sharedLine.outline sharedLine.commentary {} 7).offensesOfKind
        .comment = [] := by
  intro call comment
  have haligned : Ruby.Aligned sharedLine.tree := ⟨by decide +kernel, by decide +kernel⟩
  have hnode : sharedLine.outline.node? 7 = some call := by decide +kernel
  have hheaded : sharedLine.HeadedBy call comment :=
    ⟨by decide +kernel, by decide +kernel, by decide +kernel, by decide +kernel,
      by decide +kernel, by decide +kernel⟩
  obtain ⟨hheading, haccepted⟩ :=
    SourceFile.heading_of_headedBy haligned (by decide +kernel) hnode rfl hheaded
  exact ⟨hnode, hheaded, hheading,
    haccepted .standard {} .validation (by decide +kernel) (by decide +kernel)⟩

end ModelLayout

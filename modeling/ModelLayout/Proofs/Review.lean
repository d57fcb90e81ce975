import Mathlib.Data.List.Basic
import Mathlib.Data.List.Induction
import ModelLayout.Proofs.RequiredOrder

/-!
# What a review finds

A review goes through nodes one by one and keeps four things in mind.  Here its outcome is told
without the going: after some declarations, every part of its state and the whole list of its
offenses is a function of these declarations alone (`Review.after`).  One step of a review
leads from one such state to the next, and so does a run of any length; what a run reports, and
what holds in every state that a review can be in, is then read off.

## Main definitions

* `Visit` — a node that a review is handed, with the comments of its file.
* `Review.qualifying` — the declarations that count: those before the first private marker that
  have a category and are not ignored.
* `Review.firstCategories`, `Review.placed` — their categories in the order of first
  occurrence, and those of them that have a place in the required order.
* `Review.BreaksOrder` — a declaration whose category comes too late.
* `Review.after` — the state of a review after some declarations.
* `Review.Reachable`, `Review.Consistent`, `Review.Extends` — the states a review can be in, what
  holds in all of them, and what every step keeps.

## Main results

* `Review.reviewElement_after`, `Review.ofVisits_eq` — one step, and a run.
* `Review.orderOffenses_eq` — the offenses against the order.
* `Review.commentOffenses_eq` — the offenses against section comments.
* `Review.consistent_of_reachable` — the invariant of a review.
-/

namespace ModelLayout

/-- A node handed to a review: a node of some outline, with the comments it is reviewed under. -/
structure Visit where
  outline : Outline
  commentary : Commentary
  number : Nat
  node : Node
  node?_eq : outline.node? number = some node

namespace Visit

/-- The declaration that a review makes of a node: one with a category that is not ignored. -/
def element? (rules : Rules) (v : Visit) : Option Element :=
  (v.node.category? rules.isMisc).bind fun c =>
    if v.outline.isIgnored v.number then none
    else some ⟨c, v.node.span, (heading? v.outline v.commentary v.number).map Comment.text⟩

/-- What a review makes of a node. -/
def event (rules : Rules) (v : Visit) : Event :=
  Review.observe rules v.outline v.commentary v.number

theorem event_eq (rules : Rules) (v : Visit) :
    v.event rules =
      if v.node.isPrivateMarker then .privateMarker
      else ((v.element? rules).map Event.element).getD .nothing := by
  rw [event, Review.observe, v.node?_eq, element?]
  dsimp only
  cases v.node.category? rules.isMisc with
  | none => rfl
  | some c => cases v.outline.isIgnored v.number <;> rfl

theorem span_of_element? {rules : Rules} (v : Visit) {e : Element} (h : v.element? rules = some e) :
    e.span = v.node.span := by
  rw [element?, Option.bind_eq_some_iff] at h
  obtain ⟨c, -, h⟩ := h
  split at h
  · cases h
  · rw [← Option.some.inj h]

end Visit

namespace Review

/-- Go on with a node. -/
def visit (rules : Rules) (r : Review) (v : Visit) : Review :=
  process rules v.outline v.commentary r v.number

/-- A review of the given nodes, from the beginning. -/
def ofVisits (rules : Rules) (visits : List Visit) : Review :=
  visits.foldl (visit rules) {}

/-- The declarations that count for a review: those before the first private marker that have a
category and are not ignored. -/
def qualifying (rules : Rules) (visits : List Visit) : List Element :=
  (visits.takeWhile (!·.node.isPrivateMarker)).filterMap (Visit.element? rules)

/-- The categories of some declarations, each once and in the order of first occurrence. -/
def firstCategories (es : List Element) : List Category :=
  (es.map Element.category).eraseDups

/-- The categories of some declarations that have a place in the required order, each once and
in the order of first occurrence. -/
def placed (rules : Rules) (es : List Element) : List Category :=
  (firstCategories es).filter (· ∈ rules.order)

/-- After the declarations `before`, the declaration `e` is the first of its category and comes
too late: some category that has occurred already has a later place. -/
def BreaksOrder (rules : Rules) (before : List Element) (e : Element) : Prop :=
  e.category ∉ before.map Element.category ∧ ∃ d ∈ placed rules before, rules.Precedes e.category d

instance (rules : Rules) (before : List Element) (e : Element) :
    Decidable (BreaksOrder rules before e) :=
  inferInstanceAs (Decidable (_ ∧ _))

/-- The offense of a declaration that should stand under a section comment, and stands under no
comment or under one with another text. -/
def missingComment? (rules : Rules) (e : Element) : Option Offense :=
  (rules.comment e.category).bind fun expected =>
    if ∃ text ∈ e.heading, Text.trim text = expected then none
    else some ⟨e.span, .comment, "Expected preceding comment: \"" ++ expected ++ "\""⟩

/-- The offense of a declaration after which the categories that have occurred no longer follow
the required order. -/
def lateCategory? (rules : Rules) (before : List Element) (e : Element) : Option Offense :=
  if rules.Follows (placed rules before) ∧ ¬ rules.Follows (placed rules (before ++ [e])) then
    some ⟨e.span, .order, orderMessage rules.order (placed rules (before ++ [e]))⟩
  else none

/-- What the declaration `e` adds to the offenses of the declarations `before`. -/
def verdict (rules : Rules) (before : List Element) (e : Element) : List Offense :=
  (if e.category ∈ before.map Element.category then [] else (missingComment? rules e).toList) ++
    (lateCategory? rules before e).toList

/-- The offenses of some declarations that come after the declarations `before`. -/
def verdicts (rules : Rules) (before : List Element) : List Element → List Offense
  | [] => []
  | e :: es => verdict rules before e ++ verdicts rules (before ++ [e]) es

/-- The state of a review after some declarations. -/
def after (rules : Rules) (es : List Element) : Review where
  seen := placed rules es
  checked := firstCategories es
  orderReported := !decide (rules.Follows (placed rules es))
  offenses := verdicts rules [] es

/-! ### Categories in the order of first occurrence -/

@[simp] theorem mem_firstCategories {c : Category} {es : List Element} :
    c ∈ firstCategories es ↔ c ∈ es.map Element.category :=
  List.mem_eraseDups

theorem mem_placed {rules : Rules} {c : Category} {es : List Element} :
    c ∈ placed rules es ↔ c ∈ es.map Element.category ∧ c ∈ rules.order := by
  rw [placed, List.mem_filter, mem_firstCategories, decide_eq_true_eq]

theorem firstCategories_concat (es : List Element) (e : Element) :
    firstCategories (es ++ [e]) =
      if e.category ∈ es.map Element.category then firstCategories es
      else firstCategories es ++ [e.category] := by
  rw [firstCategories, List.map_append, List.eraseDups_append, firstCategories,
    List.map_singleton, List.removeAll, List.filter_cons, List.filter_nil, List.elem_eq_mem]
  by_cases h : e.category ∈ es.map Element.category
  · rw [if_pos h, decide_eq_true h, if_neg (by decide), List.eraseDups_nil, List.append_nil]
  · rw [if_neg h, decide_eq_false h, if_pos (by decide)]
    rfl

theorem nodup_firstCategories (es : List Element) : (firstCategories es).Nodup :=
  nodup_eraseDups _

theorem nodup_placed (rules : Rules) (es : List Element) : (placed rules es).Nodup :=
  (nodup_firstCategories es).filter _

theorem placed_concat (rules : Rules) (es : List Element) (e : Element) :
    placed rules (es ++ [e]) =
      if e.category ∉ es.map Element.category ∧ e.category ∈ rules.order then
        placed rules es ++ [e.category]
      else placed rules es := by
  rw [placed, firstCategories_concat, placed]
  by_cases hold : e.category ∈ es.map Element.category
  · rw [if_pos hold, if_neg (fun h => h.1 hold)]
  · rw [if_neg hold, List.filter_append, List.filter_cons, List.filter_nil]
    by_cases horder : e.category ∈ rules.order
    · rw [decide_eq_true horder, if_pos rfl, if_pos ⟨hold, horder⟩]
    · rw [decide_eq_false horder, if_neg Bool.false_ne_true, if_neg (fun h => horder h.2),
        List.append_nil]

/-- More declarations only add to the categories that have occurred. -/
theorem placed_prefix (rules : Rules) (es fs : List Element) :
    placed rules es <+: placed rules (es ++ fs) := by
  rw [placed, placed, firstCategories, firstCategories, List.map_append, List.eraseDups_append,
    List.filter_append]
  exact List.prefix_append _ _

/-- With one more declaration the categories still follow the order, unless that declaration
breaks it. -/
theorem follows_placed_concat (rules : Rules) (es : List Element) (e : Element) :
    rules.Follows (placed rules (es ++ [e])) ↔
      rules.Follows (placed rules es) ∧ ¬ BreaksOrder rules es e := by
  rw [placed_concat]
  split
  · next h =>
    -- a new category of the order: it is compared with all that have occurred
    have hnew : e.category ∉ placed rules es := fun hmem => h.1 (mem_placed.1 hmem).1
    rw [Rules.follows_concat (fun d hd => (mem_placed.1 hd).2) h.2 hnew]
    refine and_congr_right fun _ => not_congr ?_
    exact ⟨fun hlate => ⟨h.1, hlate⟩, fun hbreaks => hbreaks.2⟩
  · next h =>
    refine ⟨fun hfollows => ⟨hfollows, ?_⟩, fun hfollows => hfollows.1⟩
    rintro ⟨hnew, d, -, hprec⟩
    exact h ⟨hnew, hprec.left_mem⟩

/-- Where the categories follow the order at the end, they did so all the way. -/
theorem not_breaksOrder_of_follows {rules : Rules} {es before after : List Element} {e : Element}
    (hfollows : rules.Follows (placed rules es)) (hes : es = before ++ e :: after) :
    ¬ BreaksOrder rules before e := by
  obtain ⟨cs, hcs⟩ := placed_prefix rules (before ++ [e]) after
  rw [List.append_assoc, List.singleton_append, ← hes] at hcs
  rw [← hcs] at hfollows
  exact ((follows_placed_concat rules before e).1 hfollows.of_append_left).2

/-! ### One step -/

/-- A declaration is reported for its section comment exactly if the comment is missing. -/
theorem commentOffense?_eq (rules : Rules) (e : Element) :
    commentOffense? rules e = missingComment? rules e := by
  rw [commentOffense?, missingComment?, headingFits]
  cases hc : rules.comment e.category with
  | none => rfl
  | some expected =>
    have hfits : (e.heading.map Text.trim == some expected) = true ↔
        ∃ text ∈ e.heading, Text.trim text = expected := by
      rw [beq_iff_eq, Option.map_eq_some_iff]
      rfl
    exact if_congr hfits rfl rfl

theorem verdicts_concat (rules : Rules) (es : List Element) (e : Element) :
    ∀ before, verdicts rules before (es ++ [e]) =
      verdicts rules before es ++ verdict rules (before ++ es) e := by
  induction es with
  | nil =>
    intro before
    rw [List.nil_append, verdicts, verdicts, verdicts, List.append_nil, List.append_nil,
      List.nil_append]
  | cons d es ih =>
    intro before
    rw [List.cons_append, verdicts, verdicts, ih, List.append_assoc, List.append_assoc,
      List.singleton_append]

/-- The section comment is checked for the first declaration of a category. -/
theorem checkComment_after (rules : Rules) (es : List Element) (e : Element) :
    checkComment rules (after rules es) e =
      { after rules es with
        checked := firstCategories (es ++ [e])
        offenses := verdicts rules [] es ++
          if e.category ∈ es.map Element.category then []
          else (missingComment? rules e).toList } := by
  have hchecked : e.category ∈ (after rules es).checked ↔ e.category ∈ es.map Element.category :=
    mem_firstCategories
  rw [checkComment, firstCategories_concat, commentOffense?_eq]
  by_cases h : e.category ∈ es.map Element.category
  · rw [if_pos h, if_pos h, if_pos (hchecked.2 h), List.append_nil]
    rfl
  · rw [if_neg h, if_neg h, if_neg (mt hchecked.1 h)]
    rfl

/-- The category of a declaration is noted if it is new and has a place. -/
theorem note_of_seen {rules : Rules} {r : Review} {es : List Element} (e : Element)
    (hseen : r.seen = placed rules es) :
    note rules r e.category = { r with seen := placed rules (es ++ [e]) } := by
  have hskip : ((rules.orderIndex? e.category).isNone || (placed rules es).contains e.category) = true
      ↔ ¬ (e.category ∉ es.map Element.category ∧ e.category ∈ rules.order) := by
    rw [Bool.or_eq_true, Option.isNone_iff_eq_none, Rules.orderIndex?_eq_none_iff,
      List.contains_iff_mem, mem_placed]
    tauto
  rw [note, hseen, placed_concat]
  by_cases h : e.category ∉ es.map Element.category ∧ e.category ∈ rules.order
  · rw [if_pos h, if_neg (fun hs => hskip.1 hs h)]
  · rw [if_neg h, if_pos (hskip.2 h), ← hseen]

/-- A break of the order is reported when it is new. -/
theorem checkOrder_of_seen {rules : Rules} {r : Review} {es : List Element} (e : Element)
    (hseen : r.seen = placed rules (es ++ [e]))
    (hreported : r.orderReported = !decide (rules.Follows (placed rules es))) :
    checkOrder rules r e =
      { r with
        orderReported := !decide (rules.Follows (placed rules (es ++ [e])))
        offenses := r.offenses ++ (lateCategory? rules es e).toList } := by
  have hsorted : (inRequiredOrder rules (placed rules (es ++ [e])) == placed rules (es ++ [e]))
      = decide (rules.Follows (placed rules (es ++ [e]))) := by
    rw [Bool.eq_iff_iff, beq_iff_eq, decide_eq_true_eq]
    exact inRequiredOrder_eq_iff (nodup_placed _ _) fun c hc => (mem_placed.1 hc).2
  obtain ⟨seen, checked, reported, hidden, offenses⟩ := r
  dsimp only at hseen hreported
  subst hseen hreported
  rw [checkOrder, hsorted, lateCategory?]
  by_cases hbefore : rules.Follows (placed rules es)
  · by_cases hafter : rules.Follows (placed rules (es ++ [e]))
    · simp [hbefore, hafter]
    · simp [hbefore, hafter]
  · -- once broken, the order stays broken
    have hafter : ¬ rules.Follows (placed rules (es ++ [e])) := fun h =>
      hbefore ((follows_placed_concat rules es e).1 h).1
    simp [hbefore, hafter]

/-- **One step of a review**: a declaration leads from the state after some declarations to the
state after one more. -/
theorem reviewElement_after (rules : Rules) (es : List Element) (e : Element) :
    reviewElement rules (after rules es) e = after rules (es ++ [e]) := by
  rw [reviewElement, checkComment_after, note_of_seen e rfl, checkOrder_of_seen e rfl rfl, after,
    after, verdicts_concat, List.nil_append, verdict, List.append_assoc]

/-! ### A run -/

/-- After the private marker nothing changes any more. -/
theorem visit_of_private {rules : Rules} {r : Review} (h : r.privateReached = true) (v : Visit) :
    r.visit rules v = r := by
  rw [visit, process, step.eq_def, if_pos h]

theorem visit_of_not_private {rules : Rules} {r : Review} (h : r.privateReached = false)
    (v : Visit) :
    r.visit rules v =
      if v.node.isPrivateMarker then { r with privateReached := true }
      else (v.element? rules).elim r (reviewElement rules r) := by
  have hevent : r.visit rules v = step rules r (v.event rules) := rfl
  rw [hevent, Visit.event_eq, step.eq_def, h, if_neg Bool.false_ne_true]
  cases v.node.isPrivateMarker with
  | true => rfl
  | false => cases v.element? rules <;> rfl

theorem foldl_visit_of_private {rules : Rules} {r : Review} (h : r.privateReached = true)
    (visits : List Visit) : visits.foldl (visit rules) r = r := by
  induction visits with
  | nil => rfl
  | cons v visits ih => rw [List.foldl_cons, visit_of_private h, ih]

theorem qualifying_cons (rules : Rules) (v : Visit) (visits : List Visit) :
    qualifying rules (v :: visits) =
      if v.node.isPrivateMarker then []
      else (v.element? rules).toList ++ qualifying rules visits := by
  rw [qualifying, List.takeWhile_cons]
  cases v.node.isPrivateMarker with
  | true => rfl
  | false =>
    rw [Bool.not_false, if_pos rfl, if_neg Bool.false_ne_true, List.filterMap_cons, qualifying]
    cases v.element? rules <;> rfl

/-- From the state after some declarations, a run leads to the state after those and all that
qualify on the way. -/
theorem foldl_visit_after (rules : Rules) (visits : List Visit) :
    ∀ es, visits.foldl (visit rules) (after rules es) =
      { after rules (es ++ qualifying rules visits) with
        privateReached := visits.any (·.node.isPrivateMarker) } := by
  induction visits with
  | nil =>
    intro es
    rw [List.foldl_nil, qualifying, List.takeWhile_nil, List.filterMap_nil, List.append_nil,
      List.any_nil]
    rfl
  | cons v visits ih =>
    intro es
    rw [List.foldl_cons, List.any_cons, qualifying_cons, visit_of_not_private rfl]
    cases v.node.isPrivateMarker with
    | true =>
      rw [if_pos rfl, if_pos rfl, Bool.true_or, List.append_nil]
      exact foldl_visit_of_private rfl visits
    | false =>
      rw [if_neg Bool.false_ne_true, if_neg Bool.false_ne_true, Bool.false_or]
      cases v.element? rules with
      | none => exact ih es
      | some e =>
        rw [Option.elim_some, reviewElement_after, ih, List.append_assoc]
        rfl

/-- **A run of a review**: its state is that after the declarations that qualify. -/
theorem ofVisits_eq (rules : Rules) (visits : List Visit) :
    ofVisits rules visits =
      { after rules (qualifying rules visits) with
        privateReached := visits.any (·.node.isPrivateMarker) } :=
  foldl_visit_after rules visits []

theorem offenses_ofVisits (rules : Rules) (visits : List Visit) :
    (ofVisits rules visits).offenses = verdicts rules [] (qualifying rules visits) := by
  rw [ofVisits_eq]
  rfl

/-- One more node is one more declaration that qualifies, or none. -/
theorem qualifying_concat (rules : Rules) (visits : List Visit) (v : Visit) :
    ∃ e? : Option Element, (∀ e ∈ e?, v.element? rules = some e) ∧
      qualifying rules (visits ++ [v]) = qualifying rules visits ++ e?.toList := by
  induction visits with
  | nil =>
    rw [List.nil_append, qualifying_cons]
    split
    · exact ⟨none, nofun, rfl⟩
    · exact ⟨v.element? rules, fun e he => he, List.append_nil _⟩
  | cons w visits ih =>
    obtain ⟨e?, hmem, he⟩ := ih
    rw [List.cons_append, qualifying_cons, qualifying_cons, he]
    split
    · exact ⟨none, nofun, rfl⟩
    · exact ⟨e?, hmem, by rw [List.append_assoc]⟩

/-! ### Offenses against the order -/

/-- Categories one below the other, each on a line of its own after a star. -/
def starred (cs : List Category) : String :=
  String.join (cs.map fun c => "\n* " ++ c.name)

theorem bulletList_eq {cs : List Category} (h : cs ≠ []) : bulletList cs = starred cs ++ "\n" := by
  rw [bulletList]
  congr 1
  induction cs with
  | nil => exact absurd rfl h
  | cons c cs ih =>
    cases cs with
    | nil => simp [starred]
    | cons d cs =>
      have hstarred : starred (c :: d :: cs) = "\n* " ++ c.name ++ starred (d :: cs) := by
        rw [starred, List.map_cons, String.join_cons, starred]
      rw [hstarred, ← ih (List.cons_ne_nil d cs)]
      simp only [List.map_cons, String.intercalate_cons_cons, String.append_assoc]

/-- The message about a break of the order, written out. -/
theorem orderMessage_eq {required observed : List Category} (hrequired : required ≠ [])
    (hobserved : observed ≠ []) :
    orderMessage required observed =
      "Model elements must appear in order:" ++ starred required ++ "\n\nObserved order:" ++
        starred observed ++ "\n" := by
  have hheadline : "\n\nObserved order:" = "\n" ++ "\nObserved order:" := by decide
  calc orderMessage required observed
      = "Model elements must appear in order:" ++ bulletList required ++ "\nObserved order:" ++
          bulletList observed := rfl
    _ = "Model elements must appear in order:" ++ (starred required ++ "\n") ++
          "\nObserved order:" ++ (starred observed ++ "\n") := by
      rw [bulletList_eq hrequired, bulletList_eq hobserved]
    _ = _ := by
      rw [hheadline]
      simp only [String.append_assoc]

/-- The offenses of a kind that a review has found. -/
def offensesOfKind (kind : OffenseKind) (r : Review) : List Offense :=
  r.offenses.filter (·.kind = kind)

theorem of_missingComment? {rules : Rules} {e : Element} {x : Offense}
    (h : missingComment? rules e = some x) : x.kind = .comment ∧ x.span = e.span := by
  rw [missingComment?, Option.bind_eq_some_iff] at h
  obtain ⟨expected, -, h⟩ := h
  split at h
  · cases h
  · rw [← Option.some.inj h]
    exact ⟨rfl, rfl⟩

theorem of_lateCategory? {rules : Rules} {before : List Element} {e : Element} {x : Offense}
    (h : lateCategory? rules before e = some x) : x.kind = .order ∧ x.span = e.span := by
  rw [lateCategory?] at h
  split at h
  · rw [← Option.some.inj h]
    exact ⟨rfl, rfl⟩
  · cases h

theorem filter_order_verdict (rules : Rules) (before : List Element) (e : Element) :
    (verdict rules before e).filter (·.kind = .order) = (lateCategory? rules before e).toList := by
  rw [verdict, List.filter_append]
  have hcomment : ∀ x ∈ (missingComment? rules e).toList, ¬ x.kind = .order := by
    intro x hx
    rw [(of_missingComment? (Option.mem_toList.1 hx)).1]
    decide
  have horder : ∀ x ∈ (lateCategory? rules before e).toList, x.kind = .order := by
    intro x hx
    exact (of_lateCategory? (Option.mem_toList.1 hx)).1
  rw [List.filter_eq_self.2 fun x hx => decide_eq_true (horder x hx)]
  split
  · rfl
  · rw [List.filter_eq_nil_iff.2 fun x hx => by simpa using hcomment x hx, List.nil_append]

theorem filter_order_verdicts_concat (rules : Rules) (es : List Element) (e : Element) :
    (verdicts rules [] (es ++ [e])).filter (·.kind = .order) =
      (verdicts rules [] es).filter (·.kind = .order) ++ (lateCategory? rules es e).toList := by
  rw [verdicts_concat, List.filter_append, List.nil_append, filter_order_verdict]

/-- As long as the categories follow the order, no offense against it is found. -/
theorem filter_order_verdicts_of_follows {rules : Rules} {es : List Element}
    (h : rules.Follows (placed rules es)) :
    (verdicts rules [] es).filter (·.kind = .order) = [] := by
  induction es using List.reverseRecOn with
  | nil => rfl
  | append_singleton es e ih =>
    have hbefore := ((follows_placed_concat rules es e).1 h).1
    rw [filter_order_verdicts_concat, ih hbefore, lateCategory?, if_neg (fun hlate => hlate.2 h)]
    rfl

/-- When the categories do not follow the order, one offense is found, at the declaration up to
which they did. -/
theorem filter_order_verdicts_of_not_follows {rules : Rules} {es : List Element}
    (h : ¬ rules.Follows (placed rules es)) :
    ∃ before e after, es = before ++ e :: after ∧ rules.Follows (placed rules before) ∧
      BreaksOrder rules before e ∧
      (verdicts rules [] es).filter (·.kind = .order) =
        [⟨e.span, .order, orderMessage rules.order (placed rules (before ++ [e]))⟩] := by
  induction es using List.reverseRecOn with
  | nil => exact absurd List.Pairwise.nil h
  | append_singleton es e ih =>
    rw [filter_order_verdicts_concat]
    by_cases hbefore : rules.Follows (placed rules es)
    · -- the last declaration is the one that breaks the order
      have hbreaks : BreaksOrder rules es e := by
        by_cases hbreaks : BreaksOrder rules es e
        · exact hbreaks
        · exact absurd ((follows_placed_concat rules es e).2 ⟨hbefore, hbreaks⟩) h
      refine ⟨es, e, [], rfl, hbefore, hbreaks, ?_⟩
      rw [filter_order_verdicts_of_follows hbefore, lateCategory?, if_pos ⟨hbefore, h⟩]
      rfl
    · -- it was broken before, and nothing is added
      obtain ⟨before, d, later, hes, hfollows, hbreaks, hfound⟩ := ih hbefore
      refine ⟨before, d, later ++ [e], ?_, hfollows, hbreaks, ?_⟩
      · rw [hes, List.append_assoc, List.cons_append]
      · rw [hfound, lateCategory?, if_neg (fun hlate => hbefore hlate.1)]
        rfl

/-- **The offenses against the order.**  If the categories of the declarations that qualify, in
the order of first occurrence, follow the required order, there is none.  Otherwise there is one,
at the first declaration that breaks the order; its message lists the required order and then
the categories that have occurred up to that declaration. -/
theorem orderOffenses_eq (rules : Rules) (visits : List Visit) :
    let es := qualifying rules visits
    (rules.Follows (placed rules es) → offensesOfKind .order (ofVisits rules visits) = []) ∧
      (¬ rules.Follows (placed rules es) →
        ∃ before e after, es = before ++ e :: after ∧ BreaksOrder rules before e ∧
          (∀ earlier d later, before = earlier ++ d :: later → ¬ BreaksOrder rules earlier d) ∧
          placed rules (before ++ [e]) = placed rules before ++ [e.category] ∧
          placed rules (before ++ [e]) <+: placed rules es ∧
          offensesOfKind .order (ofVisits rules visits) =
            [⟨e.span, .order,
              "Model elements must appear in order:" ++ starred rules.order ++
                "\n\nObserved order:" ++ starred (placed rules (before ++ [e])) ++ "\n"⟩]) := by
  intro es
  rw [ofVisits_eq]
  refine ⟨fun h => filter_order_verdicts_of_follows h, fun h => ?_⟩
  obtain ⟨before, e, after, hes, hfollows, hbreaks, hfound⟩ :=
    filter_order_verdicts_of_not_follows h
  have hlisted : e.category ∈ rules.order := hbreaks.2.choose_spec.2.left_mem
  have hnoted : e.category ∈ placed rules (before ++ [e]) := mem_placed.2 ⟨by simp, hlisted⟩
  refine ⟨before, e, after, hes, hbreaks, ?_, ?_, ?_, ?_⟩
  · intro earlier d later hbefore
    exact not_breaksOrder_of_follows hfollows hbefore
  · rw [placed_concat, if_pos ⟨hbreaks.1, hlisted⟩]
  · have hprefix := placed_prefix rules (before ++ [e]) after
    rwa [List.append_assoc, List.singleton_append, ← hes] at hprefix
  · rw [← orderMessage_eq (List.ne_nil_of_mem hlisted) (List.ne_nil_of_mem hnoted)]
    exact hfound

-- A constant after an inner module, where the constant should come first.
example :
    lateCategory? ⟨[.constant, .innerModule], fun _ => none, [], by decide⟩
        [⟨.innerModule, default, none⟩] ⟨.constant, default, none⟩ =
      some ⟨default, .order,
        "Model elements must appear in order:\n* constant\n* module\n\n" ++
          "Observed order:\n* module\n* constant\n"⟩ := by
  decide

/-! ### Offenses against section comments -/

theorem filter_comment_verdict (rules : Rules) (before : List Element) (e : Element) :
    (verdict rules before e).filter (·.kind = .comment) =
      if e.category ∈ before.map Element.category then []
      else (missingComment? rules e).toList := by
  rw [verdict, List.filter_append]
  have horder : (lateCategory? rules before e).toList.filter (·.kind = .comment) = [] := by
    rw [List.filter_eq_nil_iff]
    intro x hx
    rw [(of_lateCategory? (Option.mem_toList.1 hx)).1]
    decide
  rw [horder, List.append_nil, List.filter_eq_self]
  intro x hx
  split at hx
  · cases hx
  · exact decide_eq_true (of_missingComment? (Option.mem_toList.1 hx)).1

/-- A category that has occurred keeps its first declaration. -/
theorem find?_concat_of_mem {es : List Element} {c : Category} (e : Element)
    (hc : c ∈ es.map Element.category) :
    (es ++ [e]).find? (·.category = c) = es.find? (·.category = c) := by
  obtain ⟨d, hd, hdc⟩ := List.mem_map.1 hc
  have hsome : (es.find? (·.category = c)).isSome = true :=
    List.find?_isSome.2 ⟨d, hd, decide_eq_true hdc⟩
  rw [List.find?_append, Option.or_of_isSome hsome]

/-- A declaration of a new category is the first of it. -/
theorem find?_concat_of_notMem {es : List Element} {e : Element}
    (hnew : e.category ∉ es.map Element.category) :
    (es ++ [e]).find? (·.category = e.category) = some e := by
  have hnone : es.find? (·.category = e.category) = none := by
    rw [List.find?_eq_none]
    intro d hd hde
    exact hnew (List.mem_map.2 ⟨d, hd, of_decide_eq_true hde⟩)
  rw [List.find?_append, hnone, Option.none_or]
  exact List.find?_cons_of_pos (decide_eq_true rfl)

/-- The offenses against section comments are those of the first declaration of each category. -/
theorem filter_comment_verdicts (rules : Rules) (es : List Element) :
    (verdicts rules [] es).filter (·.kind = .comment) =
      (firstCategories es).filterMap fun c =>
        (es.find? (·.category = c)).bind (missingComment? rules) := by
  induction es using List.reverseRecOn with
  | nil => rfl
  | append_singleton es e ih =>
    have hkept : (firstCategories es).filterMap (fun c =>
          ((es ++ [e]).find? (·.category = c)).bind (missingComment? rules)) =
        (firstCategories es).filterMap fun c =>
          (es.find? (·.category = c)).bind (missingComment? rules) := by
      refine List.filterMap_congr fun c hc => ?_
      rw [find?_concat_of_mem e (mem_firstCategories.1 hc)]
    rw [verdicts_concat, List.filter_append, List.nil_append, filter_comment_verdict,
      firstCategories_concat, ih]
    split
    · rw [List.append_nil, hkept]
    · next hnew =>
      rw [List.filterMap_append, hkept, List.filterMap_cons, List.filterMap_nil,
        find?_concat_of_notMem hnew, Option.bind_some]
      cases missingComment? rules e <;> rfl

/-- What one node adds to the offenses of a review: at most one about a section comment, and
then at most one about the order. -/
theorem offenses_ofVisits_concat (rules : Rules) (visits : List Visit) (v : Visit) :
    ∃ comment order : Option Offense,
      (ofVisits rules (visits ++ [v])).offenses =
          (ofVisits rules visits).offenses ++ (comment.toList ++ order.toList) ∧
        (∀ x ∈ comment, x.kind = .comment ∧ x.span = v.node.span) ∧
        ∀ x ∈ order, x.kind = .order ∧ x.span = v.node.span := by
  obtain ⟨e?, hmem, he⟩ := qualifying_concat rules visits v
  rw [offenses_ofVisits, offenses_ofVisits, he]
  cases e? with
  | none => exact ⟨none, none, by simp, nofun, nofun⟩
  | some e =>
    have hspan : e.span = v.node.span := v.span_of_element? (hmem e rfl)
    have horder : ∀ x ∈ lateCategory? rules (qualifying rules visits) e,
        x.kind = .order ∧ x.span = v.node.span := fun x hx => hspan ▸ of_lateCategory? hx
    rw [Option.toList_some, verdicts_concat, List.nil_append, verdict]
    split
    · exact ⟨none, _, rfl, nofun, horder⟩
    · exact ⟨_, _, rfl, fun x hx => hspan ▸ of_missingComment? hx, horder⟩

/-- **The offenses against section comments.**  They are, in the order in which the categories
first occur, those of the categories whose first declaration should stand under a section
comment and does not; the required order plays no part.  Where one node gives rise to two
offenses, that about the section comment comes right before that about the order. -/
theorem commentOffenses_eq (rules : Rules) (visits : List Visit) :
    let es := qualifying rules visits
    offensesOfKind .comment (ofVisits rules visits) =
        (firstCategories es).filterMap (fun c =>
          (es.find? (·.category = c)).bind (missingComment? rules)) ∧
      ∀ v, ∃ comment order : Option Offense,
        (ofVisits rules (visits ++ [v])).offenses =
            (ofVisits rules visits).offenses ++ (comment.toList ++ order.toList) ∧
          (∀ x ∈ comment, x.kind = .comment ∧ x.span = v.node.span) ∧
          ∀ x ∈ order, x.kind = .order ∧ x.span = v.node.span := by
  intro es
  refine ⟨?_, fun v => offenses_ofVisits_concat rules visits v⟩
  rw [offensesOfKind, offenses_ofVisits, filter_comment_verdicts]

-- A constant under a comment with another text.
example :
    commentOffense? Rules.standard ⟨.constant, default, some "# Limits"⟩ =
      some ⟨default, .comment, "Expected preceding comment: \"# Constants\""⟩ := by
  decide

/-! ### The states of a review -/

/-- The states that a review can be in: the first one, and those that one more node leads to,
whatever outline it is from. -/
inductive Reachable (rules : Rules) : Review → Prop
  | fresh : Reachable rules {}
  | visit {r : Review} (h : Reachable rules r) (v : Visit) : Reachable rules (r.visit rules v)

/-- What holds in every state of a review. -/
structure Consistent (rules : Rules) (r : Review) : Prop where
  /-- No category is checked twice. -/
  nodup_checked : r.checked.Nodup
  /-- The categories noted for the order are those checked that have a place in it. -/
  seen_eq : r.seen = r.checked.filter (· ∈ rules.order)
  /-- The order is reported as broken exactly if it is. -/
  orderReported_iff : r.orderReported = true ↔ ¬ rules.Follows r.seen
  /-- It is reported once or not at all. -/
  length_order : (offensesOfKind .order r).length = if r.orderReported then 1 else 0
  /-- Each category is reported at most once for its section comment. -/
  length_comment : (offensesOfKind .comment r).length ≤
    (r.checked.filter fun c => (rules.comment c).isSome).length

/-- A later state of a review: everything is still there. -/
structure Extends (r s : Review) : Prop where
  seen : r.seen <+: s.seen
  checked : r.checked <+: s.checked
  offenses : r.offenses <+: s.offenses
  orderReported : r.orderReported = true → s.orderReported = true
  privateReached : r.privateReached = true → s.privateReached = true

theorem Extends.refl (r : Review) : Extends r r :=
  ⟨List.prefix_rfl, List.prefix_rfl, List.prefix_rfl, id, id⟩

theorem Extends.trans {r s t : Review} (hrs : Extends r s) (hst : Extends s t) : Extends r t where
  seen := hrs.seen.trans hst.seen
  checked := hrs.checked.trans hst.checked
  offenses := hrs.offenses.trans hst.offenses
  orderReported := hst.orderReported ∘ hrs.orderReported
  privateReached := hst.privateReached ∘ hrs.privateReached

theorem extends_checkComment (rules : Rules) (r : Review) (e : Element) :
    Extends r (checkComment rules r e) := by
  rw [checkComment]
  split
  · exact .refl r
  · exact ⟨List.prefix_rfl, List.prefix_append _ _, List.prefix_append _ _, id, id⟩

theorem extends_note (rules : Rules) (r : Review) (c : Category) : Extends r (note rules r c) := by
  rw [note]
  split
  · exact .refl r
  · exact ⟨List.prefix_append _ _, List.prefix_rfl, List.prefix_rfl, id, id⟩

theorem extends_checkOrder (rules : Rules) (r : Review) (e : Element) :
    Extends r (checkOrder rules r e) := by
  rw [checkOrder]
  split
  · exact .refl r
  · exact ⟨List.prefix_rfl, List.prefix_rfl, List.prefix_append _ _, fun _ => rfl, id⟩

/-- One more node takes nothing back. -/
theorem extends_visit (rules : Rules) (r : Review) (v : Visit) : Extends r (r.visit rules v) := by
  cases hprivate : r.privateReached with
  | true =>
    rw [visit_of_private hprivate]
    exact .refl r
  | false =>
    rw [visit_of_not_private hprivate]
    split
    · exact ⟨List.prefix_rfl, List.prefix_rfl, List.prefix_rfl, id, fun _ => rfl⟩
    · cases v.element? rules with
      | none => exact .refl r
      | some e =>
        exact (extends_checkComment rules r e).trans
          ((extends_note rules _ e.category).trans (extends_checkOrder rules _ e))

/-- A state that a review can be in is that after some run. -/
theorem exists_ofVisits_of_reachable {rules : Rules} {r : Review} (h : Reachable rules r) :
    ∃ visits, ofVisits rules visits = r := by
  induction h with
  | fresh => exact ⟨[], rfl⟩
  | visit h v ih =>
    obtain ⟨visits, rfl⟩ := ih
    refine ⟨visits ++ [v], ?_⟩
    rw [ofVisits, List.foldl_append]
    rfl

theorem length_filter_order_verdicts (rules : Rules) (es : List Element) :
    ((verdicts rules [] es).filter (·.kind = .order)).length =
      if !decide (rules.Follows (placed rules es)) then 1 else 0 := by
  by_cases h : rules.Follows (placed rules es)
  · rw [filter_order_verdicts_of_follows h, decide_eq_true h]
    rfl
  · obtain ⟨before, e, later, -, -, -, hfound⟩ := filter_order_verdicts_of_not_follows h
    rw [hfound, decide_eq_false h]
    rfl

theorem length_filter_comment_verdicts_le (rules : Rules) (es : List Element) :
    ((verdicts rules [] es).filter (·.kind = .comment)).length ≤
      ((firstCategories es).filter fun c => (rules.comment c).isSome).length := by
  rw [filter_comment_verdicts, List.length_filterMap_eq_countP, ← List.countP_eq_length_filter]
  refine List.countP_mono_left fun c _ hsome => ?_
  obtain ⟨x, hx⟩ := Option.isSome_iff_exists.1 hsome
  obtain ⟨e, he, hx⟩ := Option.bind_eq_some_iff.1 hx
  obtain ⟨expected, hexpected, -⟩ := Option.bind_eq_some_iff.1 hx
  have hfound := List.find?_some he
  have hc : e.category = c := of_decide_eq_true hfound
  rw [← hc, hexpected]
  rfl

/-- **The invariant of a review.**  In every state that it can be in, the two lists of
categories, the flag for the order and the offenses agree with each other, and one more node only
adds to the lists and resets neither flag; once the private marker has been reached, it changes
nothing at all. -/
theorem consistent_of_reachable {rules : Rules} {r : Review} (h : Reachable rules r) :
    Consistent rules r ∧
      ∀ v, Extends r (r.visit rules v) ∧ (r.privateReached = true → r.visit rules v = r) := by
  refine ⟨?_, fun v => ⟨extends_visit rules r v, fun hprivate => visit_of_private hprivate v⟩⟩
  obtain ⟨visits, rfl⟩ := exists_ofVisits_of_reachable h
  rw [ofVisits_eq]
  exact {
    nodup_checked := nodup_firstCategories _
    seen_eq := rfl
    orderReported_iff := by
      show (!decide (rules.Follows _)) = true ↔ _
      rw [Bool.not_eq_true', decide_eq_false_iff_not]
      rfl
    length_order := length_filter_order_verdicts rules _
    length_comment := length_filter_comment_verdicts_le rules _ }

/-- A module and then a constant, where constants have to come first. -/
theorem consistent_of_reachable_late_constant :
    let span : Span := ⟨0, 0, ⟨1, 0⟩, ⟨1, 0⟩⟩
    let inner : Node := { shape := .moduleDef, span }
    let constant : Node := { shape := .constant, span }
    let outline := Outline.ofRose (some (.node { shape := .classDef, span }
      [.node { shape := .sequence, span } [.node inner [], .node constant []]]))
    let rules : Rules := ⟨[.constant, .innerModule], fun _ => none, [], by decide⟩
    let r := ofVisits rules
      [⟨outline, default, 2, inner, rfl⟩, ⟨outline, default, 3, constant, rfl⟩]
    Reachable rules r ∧ r.seen = [.innerModule, .constant] ∧ r.orderReported = true ∧
      Consistent rules r ∧
      ∀ v, Extends r (r.visit rules v) ∧ (r.privateReached = true → r.visit rules v = r) := by
  intro span inner constant outline rules r
  have hr : Reachable rules r := .visit (.visit .fresh _) _
  refine ⟨hr, ?_, ?_, consistent_of_reachable hr⟩
  · simp only [r, ofVisits_eq]
    decide +kernel
  · simp only [r, ofVisits_eq]
    decide +kernel

end Review
end ModelLayout

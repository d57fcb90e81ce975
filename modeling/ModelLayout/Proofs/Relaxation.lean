import Mathlib.Data.List.NodupEquivFin
import ModelLayout.Proofs.SourceOrder

/-!
# Relaxing the required order

Two reviews of one outline are compared, of which the second has a shorter required order: some
entries are left out, and the others keep their order.  The second review notes fewer categories and
gives them other places, and it may find the order broken at another declaration or not at all.  But
what it finds late or never, the first one has found by then; and section comments are no concern of
the order.

The two runs are not followed side by side.  What a review has found is a function of the
declarations that qualify (`Review.offenses_ofVisits`), these are the same in both, and so only the
categories of one list of declarations have to be compared.

## Main definitions

* `Rules.Relaxes` — rules that differ only in a shorter required order.
* `Review.offensesAt` — what a review adds to its offenses at one declaration.

## Main results

* `Rules.Relaxes.precedes` — what precedes another category still does so.
* `Review.offenses_run_take` — the offenses so far are those of the declarations so far.
* `Review.offenses_of_relaxes` — what becomes of the offenses with a shorter order.
-/

namespace ModelLayout

/-! ### Places in a shorter order -/

namespace Rules

/-- The rules `rules'` are `rules` with some entries of the required order left out. -/
structure Relaxes (rules' rules : Rules) : Prop where
  order : rules'.order.Sublist rules.order
  comment : rules'.comment = rules.comment
  misc : rules'.misc = rules.misc

/-- No category is listed twice, so a category has its place where it stands. -/
theorem orderIndex?_of_getElem? {rules : Rules} {c : Category} {m : Nat}
    (h : rules.order[m]? = some c) : rules.orderIndex? c = some m := by
  obtain ⟨hm, hc⟩ := List.getElem?_eq_some_iff.1 h
  refine List.idxOf?_eq_some_iff.2 ⟨hm, hc, fun j hj hjc => ?_⟩
  have hjm : j = m := by
    have hj' : j < rules.order.length := by omega
    exact (rules.nodup.getElem_inj_iff (i := j)).1 (hjc.trans hc.symm)
  omega

theorem getElem?_of_orderIndex? {rules : Rules} {c : Category} {m : Nat}
    (h : rules.orderIndex? c = some m) : rules.order[m]? = some c := by
  obtain ⟨hm, hc, -⟩ := List.idxOf?_eq_some_iff.1 h
  rw [List.getElem?_eq_getElem hm, hc]

namespace Relaxes

variable {rules rules' : Rules} (h : rules'.Relaxes rules)
include h

/-- A category that precedes another one in the shorter order does so in the longer one. -/
theorem precedes_of_precedes {c d : Category} (hcd : rules'.Precedes c d) : rules.Precedes c d := by
  obtain ⟨place, hplace⟩ := List.sublist_iff_exists_orderEmbedding_getElem?_eq.1 h.order
  obtain ⟨m, hm, n, hn, hlt⟩ := hcd
  have hc : rules.order[place m]? = some c := by rw [← hplace, getElem?_of_orderIndex? hm]
  have hd : rules.order[place n]? = some d := by rw [← hplace, getElem?_of_orderIndex? hn]
  exact ⟨_, orderIndex?_of_getElem? hc, _, orderIndex?_of_getElem? hd, place.lt_iff_lt.2 hlt⟩

/-- Of the categories that are left, one precedes another if it did before. -/
theorem precedes {c d : Category} (hc : c ∈ rules'.order) (hd : d ∈ rules'.order)
    (hcd : rules.Precedes c d) : rules'.Precedes c d := by
  obtain ⟨m, hm, n, hn, hlt⟩ := hcd
  have hne : c ≠ d := by
    rintro rfl
    rw [Option.mem_def, hm, Option.some.injEq] at hn
    omega
  by_contra hnot
  -- else they would stand the other way round, in the longer order too
  have hdc := h.precedes_of_precedes ((not_precedes_iff hc hd hne).1 hnot)
  have hlt' := (precedes_of_orderIndex? hn hm).1 hdc
  omega

/-- Categories that follow the longer order follow the shorter one, those without a place in it set
aside. -/
theorem follows_filter {cs : List Category} (hcs : rules.Follows cs) :
    rules'.Follows (cs.filter (· ∈ rules'.order)) := by
  refine List.Pairwise.imp_of_mem ?_ (hcs.filter (· ∈ rules'.order))
  intro c d hc hd hcd
  exact h.precedes (of_decide_eq_true (List.mem_filter.1 hc).2)
    (of_decide_eq_true (List.mem_filter.1 hd).2) hcd

end Relaxes

end Rules

namespace Review

/-! ### What is found at one declaration -/

/-- What a review of an outline adds to its offenses at the `k`-th declaration, counted from
zero. -/
def offensesAt (rules : Rules) (o : Outline) (c : Commentary) (k : Nat) : List Offense :=
  (run rules o c (o.declarations.take (k + 1))).offenses.drop
    (run rules o c (o.declarations.take k)).offenses.length

theorem extends_foldl_visit (rules : Rules) (visits : List Visit) :
    ∀ r : Review, Extends r (visits.foldl (visit rules) r) := by
  induction visits with
  | nil => exact Extends.refl
  | cons v visits ih =>
    intro r
    exact (extends_visit rules r v).trans (ih _)

/-- More nodes only add to the offenses. -/
theorem offenses_run_append (rules : Rules) (o : Outline) (c : Commentary) (is js : List Nat) :
    (run rules o c is).offenses <+: (run rules o c (is ++ js)).offenses := by
  rw [run_eq_ofVisits, run_eq_ofVisits, Outline.visits, Outline.visits, List.filterMap_append,
    ofVisits, ofVisits, List.foldl_append]
  exact (extends_foldl_visit rules _ _).offenses

theorem offenses_run_take_succ (rules : Rules) (o : Outline) (c : Commentary) (k : Nat) :
    (run rules o c (o.declarations.take (k + 1))).offenses =
      (run rules o c (o.declarations.take k)).offenses ++ offensesAt rules o c k := by
  have hprefix := offenses_run_append rules o c (o.declarations.take k)
    (o.declarations[k]?).toList
  rw [← List.take_add_one] at hprefix
  exact (List.prefix_iff_eq_append.1 hprefix).symm

/-- **The offenses found so far are those of the declarations so far, one after the other.** -/
theorem offenses_run_take (rules : Rules) (o : Outline) (c : Commentary) (k : Nat) :
    (run rules o c (o.declarations.take k)).offenses =
      (List.range k).flatMap (offensesAt rules o c) := by
  induction k with
  | zero => rfl
  | succ k ih =>
    rw [offenses_run_take_succ, ih, List.range_succ, List.flatMap_append, List.flatMap_singleton]

theorem offensesOf_eq_flatMap (rules : Rules) (o : Outline) (c : Commentary) :
    offensesOf rules o c = (List.range o.declarations.length).flatMap (offensesAt rules o c) := by
  rw [← offenses_run_take, List.take_length, offensesOf]

/-! ### Two reviews of one outline -/

/-- A review has found the order broken exactly if the categories of the declarations that qualify
do not follow it. -/
theorem exists_order_iff (rules : Rules) (visits : List Visit) :
    (∃ x ∈ (ofVisits rules visits).offenses, x.kind = .order) ↔
      ¬ rules.Follows (placed rules (qualifying rules visits)) := by
  rw [offenses_ofVisits]
  constructor
  · rintro ⟨x, hx, hkind⟩ hfollows
    have hmem : x ∈ (verdicts rules [] (qualifying rules visits)).filter (·.kind = .order) :=
      List.mem_filter.2 ⟨hx, decide_eq_true hkind⟩
    rw [filter_order_verdicts_of_follows hfollows] at hmem
    cases hmem
  · intro hnot
    obtain ⟨before, e, later, -, -, -, hfound⟩ := filter_order_verdicts_of_not_follows hnot
    obtain ⟨hx, hkind⟩ := List.mem_filter.1 (hfound ▸ List.mem_singleton.2 rfl)
    exact ⟨_, hx, of_decide_eq_true hkind⟩

section Relaxed

variable {rules rules' : Rules} (h : rules'.Relaxes rules)
include h

/-- The same declarations qualify. -/
theorem qualifying_of_relaxes (visits : List Visit) :
    qualifying rules' visits = qualifying rules visits := by
  have hmisc : rules'.isMisc = rules.isMisc := by
    funext name
    rw [Rules.isMisc, Rules.isMisc, h.misc]
  have helement : Visit.element? rules' = Visit.element? rules := by
    funext v
    rw [Visit.element?, Visit.element?, hmisc]
  rw [qualifying, qualifying, helement]

/-- Section comments are checked alike. -/
theorem offensesOfKind_comment_of_relaxes (visits : List Visit) :
    offensesOfKind .comment (ofVisits rules' visits) =
      offensesOfKind .comment (ofVisits rules visits) := by
  have hmissing : missingComment? rules' = missingComment? rules := by
    funext e
    rw [missingComment?, missingComment?, h.comment]
  rw [offensesOfKind, offensesOfKind, offenses_ofVisits, offenses_ofVisits, filter_comment_verdicts,
    filter_comment_verdicts, qualifying_of_relaxes h, hmissing]

/-- The categories noted with the shorter order are those of the longer one that are left in it. -/
theorem placed_of_relaxes (es : List Element) :
    placed rules' es = (placed rules es).filter (· ∈ rules'.order) := by
  rw [placed, placed, List.filter_filter]
  refine List.filter_congr fun c _ => ?_
  rw [Bool.eq_iff_iff, Bool.and_eq_true, decide_eq_true_eq, decide_eq_true_eq]
  exact ⟨fun hc => ⟨hc, h.order.subset hc⟩, fun hc => hc.1⟩

/-- Where the review with the shorter order has found the order broken, so has the other one. -/
theorem exists_order_of_relaxes {visits : List Visit}
    (hfound : ∃ x ∈ (ofVisits rules' visits).offenses, x.kind = .order) :
    ∃ x ∈ (ofVisits rules visits).offenses, x.kind = .order := by
  rw [exists_order_iff] at hfound ⊢
  intro hfollows
  refine hfound ?_
  rw [qualifying_of_relaxes h, placed_of_relaxes h]
  exact h.follows_filter hfollows

end Relaxed

/-- **A shorter order never makes a file worse.**  If the order is found broken at some declaration,
the longer order was found broken there or at an earlier one; so where nothing breaks the longer
order, nothing breaks the shorter one.  The offenses against section comments are the same. -/
theorem offenses_of_relaxes {rules rules' : Rules} (h : rules'.Relaxes rules) (o : Outline)
    (c : Commentary) :
    (∀ k, ∀ x ∈ offensesAt rules' o c k, x.kind = .order →
        ∃ j ≤ k, ∃ y ∈ offensesAt rules o c j, y.kind = .order) ∧
      ((∀ x ∈ offensesOf rules o c, x.kind ≠ .order) →
        ∀ x ∈ offensesOf rules' o c, x.kind ≠ .order) ∧
      (offensesOf rules' o c).filter (·.kind = .comment) =
        (offensesOf rules o c).filter (·.kind = .comment) := by
  have hearlier : ∀ k, ∀ x ∈ offensesAt rules' o c k, x.kind = .order →
      ∃ j ≤ k, ∃ y ∈ offensesAt rules o c j, y.kind = .order := by
    intro k x hx hkind
    -- the order is broken after this declaration, for both reviews
    have hfound : ∃ x ∈ (run rules' o c (o.declarations.take (k + 1))).offenses,
        x.kind = .order := by
      refine ⟨x, ?_, hkind⟩
      rw [offenses_run_take_succ]
      exact List.mem_append_right _ hx
    rw [run_eq_ofVisits] at hfound
    obtain ⟨y, hy, hykind⟩ := exists_order_of_relaxes h hfound
    rw [← run_eq_ofVisits, offenses_run_take] at hy
    obtain ⟨j, hj, hy⟩ := List.mem_flatMap.1 hy
    exact ⟨j, Nat.le_of_lt_succ (List.mem_range.1 hj), y, hy, hykind⟩
  refine ⟨hearlier, ?_, ?_⟩
  · intro hnone x hx hkind
    rw [offensesOf_eq_flatMap] at hx
    obtain ⟨k, hk, hx⟩ := List.mem_flatMap.1 hx
    obtain ⟨j, hj, y, hy, hykind⟩ := hearlier k x hx hkind
    refine hnone y ?_ hykind
    rw [offensesOf_eq_flatMap]
    have hlt : j < o.declarations.length := Nat.lt_of_le_of_lt hj (List.mem_range.1 hk)
    exact List.mem_flatMap.2 ⟨j, List.mem_range.2 hlt, hy⟩
  · rw [offensesOf, offensesOf, run_eq_ofVisits, run_eq_ofVisits]
    exact offensesOfKind_comment_of_relaxes h _

/-- A module comes before a constant, and a singleton method before the constructor.  With constants
first and constructors later, the order is broken at the constant; with the constructors alone, it
is broken at the constructor. -/
theorem offenses_of_relaxes_lateConstructor :
    let rules : Rules :=
      ⟨[.constant, .innerModule, .constructor, .classMethod], Rules.standardComment, [], by decide⟩
    let rules' : Rules := ⟨[.constructor, .classMethod], Rules.standardComment, [], by decide⟩
    let o := lateConstructor.outline
    let c := lateConstructor.commentary
    rules'.Relaxes rules ∧
      (offensesAt rules' o c 3).map (·.kind) = [.order] ∧
      ∃ j ≤ 3, ∃ y ∈ offensesAt rules o c j, y.kind = .order := by
  intro rules rules' o c
  have hrelaxes : rules'.Relaxes rules := ⟨by decide, rfl, rfl⟩
  have hlate : (offensesAt rules' o c 3).map (·.kind) = [.order] := by
    simp only [offensesAt, run_eq_ofVisits, offenses_ofVisits, o, Outline.declarations,
      SourceFile.outline, Outline.preorder_ofTree]
    decide +kernel
  obtain ⟨x, hx, hkind⟩ := List.mem_map.1 (hlate ▸ List.mem_singleton.2 rfl)
  exact ⟨hrelaxes, hlate, (offenses_of_relaxes hrelaxes o c).1 3 x hx hkind⟩

end Review
end ModelLayout

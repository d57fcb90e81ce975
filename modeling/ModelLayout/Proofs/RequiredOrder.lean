import ModelLayout.Review

/-!
# The required order

A review decides whether the categories that have occurred stand in the required order by
sorting them and looking whether anything moved.  Here the order is described by itself: one
category precedes another if it has the smaller place, and a list follows the order if each of
its categories precedes all that come later.

## Main definitions

* `Rules.Precedes` — one category has its place before another one.
* `Rules.Follows` — each category of a list precedes all later ones.

## Main results

* `Rules.follows_concat` — what one more category means for a list that follows the order.
* `Review.inRequiredOrder_eq_iff` — sorting leaves a list as it is exactly if the list follows
  the order, provided that its categories are different and have a place.
-/

namespace ModelLayout
namespace Rules

/-- The category `c` has its place in the required order before the category `d`. -/
def Precedes (rules : Rules) (c d : Category) : Prop :=
  ∃ m ∈ rules.orderIndex? c, ∃ n ∈ rules.orderIndex? d, m < n

/-- Each category of the list precedes all that come later. -/
def Follows (rules : Rules) (cs : List Category) : Prop :=
  cs.Pairwise rules.Precedes

instance (rules : Rules) (c d : Category) : Decidable (rules.Precedes c d) :=
  inferInstanceAs (Decidable (∃ m ∈ rules.orderIndex? c, ∃ n ∈ rules.orderIndex? d, m < n))

instance (rules : Rules) (cs : List Category) : Decidable (rules.Follows cs) :=
  inferInstanceAs (Decidable (cs.Pairwise rules.Precedes))

/-! ### Places -/

/-- The categories with a place are those of the required order. -/
theorem orderIndex?_eq_none_iff {rules : Rules} {c : Category} :
    rules.orderIndex? c = none ↔ c ∉ rules.order :=
  List.idxOf?_eq_none_iff

theorem exists_orderIndex? {rules : Rules} {c : Category} (hc : c ∈ rules.order) :
    ∃ m, rules.orderIndex? c = some m := by
  cases h : rules.orderIndex? c with
  | none => exact absurd hc (orderIndex?_eq_none_iff.1 h)
  | some m => exact ⟨m, rfl⟩

/-- No two categories have the same place. -/
theorem orderIndex?_inj {rules : Rules} {c d : Category} {m : Nat}
    (hc : rules.orderIndex? c = some m) (hd : rules.orderIndex? d = some m) : c = d := by
  obtain ⟨hm, hcm, -⟩ := List.idxOf?_eq_some_iff.1 hc
  obtain ⟨_, hdm, -⟩ := List.idxOf?_eq_some_iff.1 hd
  rw [← hcm, ← hdm]

theorem precedes_of_orderIndex? {rules : Rules} {c d : Category} {m n : Nat}
    (hc : rules.orderIndex? c = some m) (hd : rules.orderIndex? d = some n) :
    rules.Precedes c d ↔ m < n := by
  constructor
  · rintro ⟨m', hm', n', hn', hlt⟩
    rw [Option.mem_def, hc, Option.some.injEq] at hm'
    rw [Option.mem_def, hd, Option.some.injEq] at hn'
    omega
  · intro hlt
    exact ⟨m, hc, n, hd, hlt⟩

theorem Precedes.left_mem {rules : Rules} {c d : Category} (h : rules.Precedes c d) :
    c ∈ rules.order := by
  obtain ⟨m, hm, -⟩ := h
  by_cases hc : c ∈ rules.order
  · exact hc
  · rw [Option.mem_def, orderIndex?_eq_none_iff.2 hc] at hm
    cases hm

/-- Two different categories of the order have different places. -/
theorem exists_places {rules : Rules} {c d : Category} (hc : c ∈ rules.order)
    (hd : d ∈ rules.order) (hne : c ≠ d) :
    ∃ m n, rules.orderIndex? c = some m ∧ rules.orderIndex? d = some n ∧ m ≠ n := by
  obtain ⟨m, hm⟩ := exists_orderIndex? hc
  obtain ⟨n, hn⟩ := exists_orderIndex? hd
  refine ⟨m, n, hm, hn, ?_⟩
  rintro rfl
  exact hne (orderIndex?_inj hm hn)

/-- Of two different categories of the order one precedes the other, and only one. -/
theorem not_precedes_iff {rules : Rules} {c d : Category} (hc : c ∈ rules.order)
    (hd : d ∈ rules.order) (hne : c ≠ d) : ¬ rules.Precedes c d ↔ rules.Precedes d c := by
  obtain ⟨m, n, hm, hn, hmn⟩ := exists_places hc hd hne
  rw [precedes_of_orderIndex? hm hn, precedes_of_orderIndex? hn hm]
  omega

/-! ### Lists that follow the order -/

theorem Follows.of_append_left {rules : Rules} {cs ds : List Category}
    (h : rules.Follows (cs ++ ds)) : rules.Follows cs :=
  (List.pairwise_append.1 h).1

/-- A list that follows the order still does so with a new category at its end, unless that
category precedes one of the list. -/
theorem follows_concat {rules : Rules} {cs : List Category} {c : Category}
    (hcs : ∀ d ∈ cs, d ∈ rules.order) (hc : c ∈ rules.order) (hnew : c ∉ cs) :
    rules.Follows (cs ++ [c]) ↔ rules.Follows cs ∧ ¬ ∃ d ∈ cs, rules.Precedes c d := by
  have hne : ∀ d ∈ cs, d ≠ c := fun d hd h => hnew (h ▸ hd)
  rw [Follows, List.pairwise_append]
  constructor
  · rintro ⟨hfollows, -, hlast⟩
    refine ⟨hfollows, ?_⟩
    rintro ⟨d, hd, hcd⟩
    exact (not_precedes_iff hc (hcs d hd) (hne d hd).symm).2 (hlast d hd c (by simp)) hcd
  · rintro ⟨hfollows, hlast⟩
    refine ⟨hfollows, List.pairwise_singleton _ _, ?_⟩
    intro d hd e he
    rw [List.mem_singleton] at he
    subst he
    exact (not_precedes_iff hc (hcs d hd) (hne d hd).symm).1 fun hcd => hlast ⟨d, hd, hcd⟩

end Rules

namespace Review

/-! ### Sorting by place -/

/-- The comparison that categories are sorted by: those without a place come first. -/
def placeLe (rules : Rules) (c d : Category) : Bool :=
  match rules.orderIndex? c, rules.orderIndex? d with
  | none, _ => true
  | some _, none => false
  | some m, some n => decide (m ≤ n)

theorem inRequiredOrder_eq_mergeSort (rules : Rules) (cs : List Category) :
    inRequiredOrder rules cs = cs.mergeSort (placeLe rules) := rfl

/-- A category comes before another one in the sorting unless it has a place that the place of the
other does not reach. -/
theorem placeLe_eq_true_iff {rules : Rules} {c d : Category} :
    placeLe rules c d = true ↔
      ∀ m, rules.orderIndex? c = some m → ∃ n, rules.orderIndex? d = some n ∧ m ≤ n := by
  rw [placeLe]
  cases rules.orderIndex? c with
  | none => simp
  | some m =>
    cases rules.orderIndex? d with
    | none => simp
    | some n => simp

theorem placeLe_trans (rules : Rules) (b c d : Category) (hbc : placeLe rules b c = true)
    (hcd : placeLe rules c d = true) : placeLe rules b d = true := by
  rw [placeLe_eq_true_iff] at hbc hcd ⊢
  intro l hl
  obtain ⟨m, hm, hlm⟩ := hbc l hl
  obtain ⟨n, hn, hmn⟩ := hcd m hm
  exact ⟨n, hn, Nat.le_trans hlm hmn⟩

theorem placeLe_total (rules : Rules) (c d : Category) :
    (placeLe rules c d || placeLe rules d c) = true := by
  rw [Bool.or_eq_true, placeLe_eq_true_iff, placeLe_eq_true_iff]
  cases rules.orderIndex? c with
  | none => exact Or.inl nofun
  | some m =>
    cases rules.orderIndex? d with
    | none => exact Or.inr nofun
    | some n =>
      rcases Nat.le_total m n with h | h
      · exact Or.inl fun k hk => ⟨n, rfl, Option.some.inj hk ▸ h⟩
      · exact Or.inr fun k hk => ⟨m, rfl, Option.some.inj hk ▸ h⟩

/-- Among categories of the order, sorting compares by `Precedes`. -/
theorem placeLe_iff {rules : Rules} {c d : Category} (hc : c ∈ rules.order)
    (hd : d ∈ rules.order) (hne : c ≠ d) : placeLe rules c d = true ↔ rules.Precedes c d := by
  obtain ⟨m, n, hm, hn, hmn⟩ := Rules.exists_places hc hd hne
  rw [placeLe, hm, hn, Rules.precedes_of_orderIndex? hm hn, decide_eq_true_eq]
  omega

/-- Sorting leaves different categories of the order as they are exactly if they follow it. -/
theorem inRequiredOrder_eq_iff {rules : Rules} {cs : List Category} (hnodup : cs.Nodup)
    (hcs : ∀ c ∈ cs, c ∈ rules.order) : inRequiredOrder rules cs = cs ↔ rules.Follows cs := by
  rw [inRequiredOrder_eq_mergeSort]
  -- both sides compare the same pairs, all of them different categories of the order
  have hpairs : cs.Pairwise (fun c d => placeLe rules c d = true) ↔ rules.Follows cs := by
    rw [Rules.Follows]
    constructor
    · intro h
      refine (h.and hnodup).imp_of_mem ?_
      rintro c d hc hd ⟨hle, hne⟩
      exact (placeLe_iff (hcs c hc) (hcs d hd) hne).1 hle
    · intro h
      refine (h.and hnodup).imp_of_mem ?_
      rintro c d hc hd ⟨hprec, hne⟩
      exact (placeLe_iff (hcs c hc) (hcs d hd) hne).2 hprec
  rw [← hpairs]
  constructor
  · intro h
    rw [← h]
    exact List.pairwise_mergeSort (placeLe_trans rules) (placeLe_total rules) cs
  · intro h
    exact List.mergeSort_of_pairwise h

end Review
end ModelLayout

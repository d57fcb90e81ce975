/-!
# Stable sorting

Comments, paths and tables of settings are sorted before they are used.  The sort is stable: elements
that sort alike keep their order, and so does what is left of a list when some elements are taken out.

## Main results

* `mergeSort_sublist` — a sorted part of a list is a part of the sorted list.
* `filter_mergeSort` — elements that sort alike stay as they were.
-/

namespace ModelLayout

/-! ### Sorting a part of a list -/

/-- Two lists are cut where a test begins to be passed.  If one list is a part of the other, so are
the pieces. -/
theorem sublist_pieces {α : Type} {p : α → Bool} {front back front' back' : List α}
    (hfront : ∀ b ∈ front, p b = false) (hback : ∀ b ∈ back, p b = true)
    (hfront' : ∀ b ∈ front', p b = false) (hback' : ∀ b ∈ back', p b = true)
    (h : (front ++ back).Sublist (front' ++ back')) : front.Sublist front' ∧ back.Sublist back' := by
  have hpos := h.filter p
  have hneg := h.filter fun b => !p b
  simp only [List.filter_append] at hpos hneg
  -- each filter keeps one of the pieces and drops the other
  rw [List.filter_eq_nil_iff.2 (by simpa using hfront), List.filter_eq_self.2 hback,
    List.filter_eq_nil_iff.2 (by simpa using hfront'), List.filter_eq_self.2 hback'] at hpos
  rw [List.filter_eq_self.2 (by simpa using hfront), List.filter_eq_nil_iff.2 (by simpa using hback),
    List.filter_eq_self.2 (by simpa using hfront'),
    List.filter_eq_nil_iff.2 (by simpa using hback')] at hneg
  exact ⟨by simpa using hneg, by simpa using hpos⟩

section MergeSort

variable {α : Type} {le : α → α → Bool}
  (htrans : ∀ a b c, le a b = true → le b c = true → le a c = true)
  (htotal : ∀ a b, (le a b || le b a) = true)
include htrans htotal

/-- With one more element in front, a sorted list is cut where the element goes: behind all that
sort before it and ahead of all the rest. -/
theorem mergeSort_cons_cut (a : α) (l : List α) :
    ∃ front back, (a :: l).mergeSort le = front ++ a :: back ∧ l.mergeSort le = front ++ back ∧
      (∀ b ∈ front, le a b = false) ∧ ∀ b ∈ back, le a b = true := by
  obtain ⟨front, back, hwith, hwithout, hfront⟩ := List.mergeSort_cons htrans htotal a l
  have hsorted := List.pairwise_mergeSort htrans htotal (a :: l)
  rw [hwith, List.pairwise_append, List.pairwise_cons] at hsorted
  exact ⟨front, back, hwith, hwithout, by simpa using hfront, hsorted.2.1.1⟩

/-- A stable sort of a part of a list is a part of the sorted list. -/
theorem mergeSort_sublist {l l' : List α} (h : l.Sublist l') :
    (l.mergeSort le).Sublist (l'.mergeSort le) := by
  induction h with
  | slnil => exact List.Sublist.refl _
  | @cons l l' a _ ih =>
    -- the element that is missing goes somewhere into the sorted rest
    obtain ⟨front, back, hwith, hwithout, -⟩ := mergeSort_cons_cut htrans htotal a l'
    rw [hwithout] at ih
    rw [hwith]
    exact ih.trans ((List.sublist_cons_self a back).append_left front)
  | @cons_cons l l' a _ ih =>
    obtain ⟨front, back, hwith, hwithout, hfront, hback⟩ := mergeSort_cons_cut htrans htotal a l
    obtain ⟨front', back', hwith', hwithout', hfront', hback'⟩ :=
      mergeSort_cons_cut htrans htotal a l'
    rw [hwithout, hwithout'] at ih
    obtain ⟨hleft, hright⟩ := sublist_pieces hfront hback hfront' hback' ih
    rw [hwith, hwith']
    exact hleft.append (hright.cons_cons a)

/-- Elements that sort alike stay as they were. -/
theorem filter_mergeSort {p : α → Bool}
    (hp : ∀ a b, p a = true → p b = true → le a b = true) (l : List α) :
    (l.mergeSort le).filter p = l.filter p := by
  have hequal : (l.filter p).Pairwise (le · · = true) := by
    refine List.pairwise_of_forall_mem_list fun a ha b hb => ?_
    exact hp a b (List.mem_filter.1 ha).2 (List.mem_filter.1 hb).2
  -- they are sorted already, so they are found in the sorted list in the same order
  have hsub := (List.sublist_mergeSort htrans htotal hequal List.filter_sublist).filter p
  simp only [List.filter_filter, Bool.and_self] at hsub
  exact (hsub.eq_of_length ((List.mergeSort_perm l le).filter p).length_eq.symm).symm

end MergeSort

end ModelLayout

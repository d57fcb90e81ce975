import ModelLayout.Proofs.Heading
import ModelLayout.Proofs.StableSort

/-!
# Comments do not get in each other's way

Comments are shared out in one sweep, so where a comment goes might depend on the comments before
it.  Here it is proved that it does not, as long as comments are orderly: the node that a comment
belongs to is found by looking at the tree and at this comment alone, and so it stays the same when
other comments are taken out of the list.

Comments are sorted before the sweep.  Sorting is stable, so that what is left of a list is sorted
in the same way as the list was (`mergeSort_sublist`).

## Main results

* `Orderly.of_sublist` — some of several orderly comments are orderly.
* `Commentary.owner_eq_first_moment` — a comment belongs to the node of the first moment of the walk
  that suits it, whatever other comments there are.
-/

namespace ModelLayout

namespace Commentary

theorem inOrder_sublist {cs ds : List Comment} (h : ds.Sublist cs) :
    (inOrder ds).Sublist (inOrder cs) :=
  mergeSort_sublist startLe_trans startLe_total h

end Commentary

/-- Some of several orderly comments are orderly. -/
theorem Orderly.of_sublist {o : Outline} {cs ds : List Comment} (h : Orderly o cs)
    (hsub : ds.Sublist cs) : Orderly o ds where
  range := fun c hc => h.range c (hsub.subset hc)
  disjoint := h.disjoint.sublist hsub
  lines := h.lines.sublist hsub
  after := fun i n hn c hc hend => h.after i n hn c (hsub.subset hc) hend

/-! ### The owner of a comment -/

namespace Commentary

/-- **A comment belongs to the node of the first moment of the walk that suits it**, and to none if
there is no such moment; each node has the comments that are due to it, in order; and where comments
are taken out of the list, each of the others stays with its node. -/
theorem owner_eq_first_moment {o : Outline} {cs : List Comment} (h : Orderly o (inOrder cs)) :
    (∀ (k : Nat) (c : Comment), (associate o cs).comments[k]? = some c →
      (associate o cs).owners[k]? = (o.due? c).map Moment.owner) ∧
    (∀ i, (associate o cs).attached i =
      (associate o cs).comments.filter fun c => (o.due? c).map Moment.owner == some i) ∧
    ∀ ds : List Comment, ds.Sublist cs → ∀ (j k : Nat) (c : Comment),
      (associate o ds).comments[j]? = some c → (associate o cs).comments[k]? = some c →
        (associate o ds).owners[j]? = (associate o cs).owners[k]? := by
  refine ⟨fun k c hc => getElem?_owners_associate h hc, attached_associate h, ?_⟩
  intro ds hsub j k c hj hk
  -- the comments that are left are orderly as well, so both owners are that of the same moment
  have hleft : Orderly o (inOrder ds) := h.of_sublist (inOrder_sublist hsub)
  rw [getElem?_owners_associate hleft hj, getElem?_owners_associate h hk]

/-- In a file with a comment above a module and another one on its last line, the second one stays
with the module when the first one is gone. -/
theorem owner_eq_first_moment_trailedModule :
    Orderly trailedModule.outline
        (inOrder (Ruby.comments trailedModule.textAt trailedModule.tree)) ∧
      (associate trailedModule.outline
          (Ruby.comments trailedModule.textAt trailedModule.tree).tail).owners[0]? =
        trailedModule.commentary.owners[1]? := by
  have horderly := SourceFile.orderly_comments wellFormed_trailedModule.aligned
  have hsorted := horderly.inOrder_eq
  have hall : Orderly trailedModule.outline
      (inOrder (Ruby.comments trailedModule.textAt trailedModule.tree)) := by rwa [hsorted]
  refine ⟨hall, ?_⟩
  have htail := horderly.of_sublist (List.tail_sublist _)
  refine (owner_eq_first_moment hall).2.2 _ (List.tail_sublist _) 0 1
    ⟨"# inner", ⟨67, 74, ⟨5, 6⟩, ⟨5, 13⟩⟩⟩ ?_ ?_
  · have hcomments : (associate trailedModule.outline
        (Ruby.comments trailedModule.textAt trailedModule.tree).tail).comments =
        (Ruby.comments trailedModule.textAt trailedModule.tree).tail := htail.inOrder_eq
    rw [hcomments]
    decide +kernel
  · have hcomments : (associate trailedModule.outline
        (Ruby.comments trailedModule.textAt trailedModule.tree)).comments =
        Ruby.comments trailedModule.textAt trailedModule.tree := hsorted
    rw [hcomments]
    decide +kernel

end Commentary

end ModelLayout

import ModelLayout.Proofs.Forest

/-!
# Trees with other labels

A function on labels can be applied to the links of a tree or to the tree itself.  Which node stands
under which is not touched by it, so both come to the same.

## Main definitions

* `Rose.map` — the tree with a function applied to each label.

## Main results

* `Rose.forest_map` — the trees that relabelled links describe.
* `Rose.Everywhere.map` — what holds all over a relabelled tree.
* `Rose.everywhere_forest` — right below a node of a tree are the labels of the links that name it.
-/

namespace ModelLayout
namespace Rose

variable {α β : Type}

mutual

/-- The tree with `f` applied to each label. -/
def map (f : α → β) : Rose α → Rose β
  | node a ts => node (f a) (mapAll f ts)

/-- Several trees with `f` applied to each label. -/
def mapAll (f : α → β) : List (Rose α) → List (Rose β)
  | [] => []
  | t :: ts => map f t :: mapAll f ts

end

theorem mapAll_eq_map (f : α → β) (ts : List (Rose α)) : mapAll f ts = ts.map (map f) := by
  induction ts with
  | nil => rfl
  | cons t ts ih => rw [mapAll, List.map_cons, ih]

theorem map_node (f : α → β) (a : α) (ts : List (Rose α)) :
    (node a ts).map f = node (f a) (ts.map (map f)) := by
  rw [map, mapAll_eq_map]

@[simp] theorem label_map (f : α → β) (t : Rose α) : (t.map f).label = f t.label := by
  cases t with
  | node a ts => rfl

/-! ### Links -/

theorem pending_map (f : α → β) (links : List (Link α)) : ∀ next,
    pending next (links.map (Prod.map id f)) = (pending next links).map (Prod.map id (map f)) := by
  induction links with
  | nil => intro next; rfl
  | cons l links ih =>
    intro next
    -- choosing trees by what they stand under does not look at their labels
    have hfilter : ∀ q : Option Nat → Bool,
        ((pending (next + 1) links).map (Prod.map id (map f))).filter (q ·.1) =
          ((pending (next + 1) links).filter (q ·.1)).map (Prod.map id (map f)) := by
      intro q
      rw [List.filter_map]
      rfl
    simp only [List.map_cons, Prod.map_apply, id_eq, pending, ih, hfilter (· == some next),
      hfilter (· != some next), map_node, List.map_map]
    rfl

/-- The trees that relabelled links describe are the relabelled trees. -/
theorem forest_map (f : α → β) (links : List (Link α)) :
    forest (links.map (Prod.map id f)) = (forest links).map (map f) := by
  rw [forest, forest, pending_map, List.filter_map, List.map_map, List.map_map]
  rfl

/-! ### What holds all over a tree -/

theorem Everywhere.map {p : α → List α → Prop} {q : β → List β → Prop} {f : α → β}
    (h : ∀ a below, p a below → q (f a) (below.map f)) {t : Rose α} (hp : t.Everywhere p) :
    (t.map f).Everywhere q := by
  induction hp with
  | @node a ts here below ih =>
    rw [map_node]
    refine .node ?_ fun u hu => ?_
    · have hq := h a _ here
      rw [List.map_map] at hq ⊢
      simpa only [Function.comp_def, label_map] using hq
    · obtain ⟨t, ht, rfl⟩ := List.mem_map.1 hu
      exact ih t ht

/-- What holds of each label holds all over the tree. -/
theorem everywhere_of_forall {p : α → Prop} (t : Rose α) :
    (∀ a ∈ t.preorder, p a) → t.Everywhere fun a _ => p a := by
  induction t using Rose.induction with
  | node a ts ih =>
    intro h
    rw [preorder_node, List.forall_mem_cons] at h
    exact .node h.1 fun t ht => ih t ht fun b hb => h.2 b (List.mem_flatMap.2 ⟨t, ht, hb⟩)

/-- **Right below a node of a tree are the labels of the links that name it.**  What is right below a
node that is the `i`-th link is `(links.filter (·.1 == some i)).map Prod.snd`. -/
theorem everywhere_forest {links : List (Link α)} (h : BackwardFrom 0 links)
    {p : α → List α → Prop} (hp : ∀ l ∈ links.zipIdx,
      p l.1.2 ((links.filter (·.1 == some l.2)).map Prod.snd)) :
    ∀ t ∈ forest links, t.Everywhere p := by
  let numbered := (links.zipIdx 0).map numberLink
  have hlinks : links = numbered.map (Prod.map id Prod.snd) := by
    rw [List.map_map]
    exact (List.zipIdx_map_fst 0 links).symm
  intro t ht
  rw [hlinks, forest_map] at ht
  obtain ⟨u, hu, rfl⟩ := List.mem_map.1 ht
  -- each label of the numbered tree is a link with its number
  have hlabels : u.Everywhere fun l _ => ∃ parent, ((parent, l.2), l.1) ∈ links.zipIdx := by
    refine u.everywhere_of_forall fun l hl => ?_
    have hmem := mem_of_mem_forest hu hl
    rw [List.map_map, List.mem_map] at hmem
    obtain ⟨⟨⟨parent, a⟩, i⟩, hlink, rfl⟩ := hmem
    exact ⟨parent, hlink⟩
  obtain ⟨⟨parent, v⟩, hv, rfl⟩ := List.mem_map.1 hu
  have hbelow := everywhere_pending h _ (List.mem_filter.1 hv).1
  refine (hlabels.and hbelow).map ?_
  rintro ⟨i, a⟩ below ⟨⟨parent, hlink⟩, -, rfl⟩
  have hfilter : links.filter (·.1 == some i) =
      (numbered.filter (·.1 == some i)).map (Prod.map id Prod.snd) := by
    conv_lhs => rw [hlinks, List.filter_map]
    rfl
  have hlabel := hp _ hlink
  rw [hfilter, List.map_map] at hlabel
  rw [List.map_map]
  exact hlabel

end Rose
end ModelLayout

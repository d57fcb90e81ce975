import ModelLayout.Outline.Basic

/-!
# The outline of a tree

An outline keeps the nodes of a tree as a list of links.  Here the way back is proved: the links
of a tree describe that tree, its nodes numbered in pre-order, so that whatever is known of the
nodes and edges of the tree is known of the nodes and parents of the outline.

## Main definitions

* `Rose.edges` — the pairs of a label and a label right below it.
* `Rose.subtrees` — a tree and all trees below its root.
* `Rose.number` — a tree with the number of each node beside its label.

## Main results

* `Rose.forest_links` — the links of a tree describe that tree.
* `Outline.rootTree?_ofRose`, `Outline.node?_ofRose`, `Outline.edge_of_parent?` — the tree, the
  nodes and the parents of the outline of a tree.
-/

namespace ModelLayout
namespace Rose

variable {α : Type}

/-- What holds of a tree whenever it holds of all trees right below its root holds of every
tree. -/
theorem induction {motive : Rose α → Prop}
    (node : ∀ a ts, (∀ t ∈ ts, motive t) → motive (.node a ts)) (t : Rose α) : motive t :=
  @Rose.rec α motive (fun ts => ∀ t ∈ ts, motive t) node
    (fun _ h => absurd h List.not_mem_nil)
    (fun _ _ hhead htail _ hmem => by
      rcases List.mem_cons.1 hmem with rfl | hmem
      · exact hhead
      · exact htail _ hmem) t

theorem preorderAll_eq_flatMap (ts : List (Rose α)) : preorderAll ts = ts.flatMap preorder := by
  induction ts with
  | nil => rfl
  | cons t ts ih => rw [preorderAll, List.flatMap_cons, ih]

theorem preorder_node (a : α) (ts : List (Rose α)) :
    (node a ts).preorder = a :: ts.flatMap preorder := by
  rw [preorder, preorderAll_eq_flatMap]

theorem label_mem_preorder (t : Rose α) : t.label ∈ t.preorder := by
  cases t with
  | node a ts => exact List.mem_cons_self

/-! ### Edges -/

mutual

/-- The pairs of a label and a label right below it. -/
def edges : Rose α → List (α × α)
  | node a ts => ts.map (fun t => (a, t.label)) ++ edgesAll ts

/-- The edges of several trees. -/
def edgesAll : List (Rose α) → List (α × α)
  | [] => []
  | t :: ts => edges t ++ edgesAll ts

end

theorem edgesAll_eq_flatMap (ts : List (Rose α)) : edgesAll ts = ts.flatMap edges := by
  induction ts with
  | nil => rfl
  | cons t ts ih => rw [edgesAll, List.flatMap_cons, ih]

/-- An edge starts at the root and ends at a child, or it is an edge further down. -/
theorem mem_edges_node {a : α} {ts : List (Rose α)} {e : α × α} :
    e ∈ (node a ts).edges ↔ (∃ t ∈ ts, e = (a, t.label)) ∨ ∃ t ∈ ts, e ∈ t.edges := by
  rw [edges, edgesAll_eq_flatMap, List.mem_append, List.mem_map, List.mem_flatMap]
  refine or_congr_left ?_
  exact exists_congr fun t => and_congr_right fun _ => eq_comm

/-- Both ends of an edge are labels of the tree. -/
theorem mem_preorder_of_mem_edges (t : Rose α) :
    ∀ e ∈ t.edges, e.1 ∈ t.preorder ∧ e.2 ∈ t.preorder := by
  induction t using Rose.induction with
  | node a ts ih =>
    intro e he
    rw [preorder_node]
    rcases mem_edges_node.1 he with ⟨t, ht, rfl⟩ | ⟨t, ht, he⟩
    · refine ⟨List.mem_cons_self, List.mem_cons_of_mem _ ?_⟩
      exact List.mem_flatMap.2 ⟨t, ht, t.label_mem_preorder⟩
    · obtain ⟨h₁, h₂⟩ := ih t ht e he
      exact ⟨List.mem_cons_of_mem _ (List.mem_flatMap.2 ⟨t, ht, h₁⟩),
        List.mem_cons_of_mem _ (List.mem_flatMap.2 ⟨t, ht, h₂⟩)⟩

/-! ### Subtrees -/

mutual

/-- A tree and all trees below its root. -/
def subtrees : Rose α → List (Rose α)
  | node a ts => node a ts :: subtreesAll ts

/-- The subtrees of several trees. -/
def subtreesAll : List (Rose α) → List (Rose α)
  | [] => []
  | t :: ts => subtrees t ++ subtreesAll ts

end

theorem subtreesAll_eq_flatMap (ts : List (Rose α)) : subtreesAll ts = ts.flatMap subtrees := by
  induction ts with
  | nil => rfl
  | cons t ts ih => rw [subtreesAll, List.flatMap_cons, ih]

theorem mem_subtrees_node {a : α} {ts : List (Rose α)} {s : Rose α} :
    s ∈ (node a ts).subtrees ↔ s = node a ts ∨ ∃ t ∈ ts, s ∈ t.subtrees := by
  rw [subtrees, subtreesAll_eq_flatMap, List.mem_cons, List.mem_flatMap]

/-! ### Numbers -/

mutual

/-- A tree with the number of each node beside its label; the root has the number `next`, and
the nodes are numbered in pre-order. -/
def number (next : Nat) : Rose α → Rose (Nat × α)
  | node a ts => node (next, a) (numberAll (next + 1) ts)

/-- Several trees with numbers from `next` on. -/
def numberAll (next : Nat) : List (Rose α) → List (Rose (Nat × α))
  | [] => []
  | t :: ts => number next t :: numberAll (next + t.preorder.length) ts

end

@[simp] theorem label_number (next : Nat) (t : Rose α) : (t.number next).label = (next, t.label) := by
  cases t with
  | node a ts => rfl

mutual

/-- The labels of a numbered tree are the labels in pre-order with their numbers. -/
theorem preorder_number (next : Nat) : ∀ t : Rose α,
    (t.number next).preorder = (t.preorder.zipIdx next).map Prod.swap
  | node a ts => by
    rw [number, preorder, preorder, List.zipIdx_cons, List.map_cons, preorderAll_numberAll]
    rfl

theorem preorderAll_numberAll (next : Nat) : ∀ ts : List (Rose α),
    preorderAll (numberAll next ts) = ((preorderAll ts).zipIdx next).map Prod.swap
  | [] => rfl
  | t :: ts => by
    rw [numberAll, preorderAll, preorderAll, List.zipIdx_append, List.map_append,
      preorder_number next t, preorderAll_numberAll _ ts]

end

/-- No node of a numbered tree occurs twice. -/
theorem nodup_preorder_number (next : Nat) (t : Rose α) : (t.number next).preorder.Nodup := by
  have hnumbers : ((t.number next).preorder.map Prod.fst).Nodup := by
    rw [preorder_number, List.map_map]
    have hfst : (t.preorder.zipIdx next).map (Prod.fst ∘ Prod.swap) =
        (t.preorder.zipIdx next).map Prod.snd := rfl
    rw [hfst, List.zipIdx_map_snd]
    exact List.nodup_range'
  exact List.Pairwise.of_map Prod.fst (fun _ _ hne heq => hne (congrArg Prod.fst heq)) hnumbers

theorem mem_numberAll {ts : List (Rose α)} {u : Rose (Nat × α)} :
    ∀ {next : Nat}, u ∈ numberAll next ts → ∃ t ∈ ts, ∃ k, u = t.number k := by
  induction ts with
  | nil => intro next hu; cases hu
  | cons t ts ih =>
    intro next hu
    rw [numberAll] at hu
    rcases List.mem_cons.1 hu with rfl | hu
    · exact ⟨t, List.mem_cons_self, next, rfl⟩
    · obtain ⟨s, hs, k, rfl⟩ := ih hu
      exact ⟨s, List.mem_cons_of_mem _ hs, k, rfl⟩

/-- The edges of a numbered tree are edges of the tree. -/
theorem mem_edges_of_number (t : Rose α) :
    ∀ (next : Nat), ∀ e ∈ (t.number next).edges, (e.1.2, e.2.2) ∈ t.edges := by
  induction t using Rose.induction with
  | node a ts ih =>
    intro next e he
    rw [number] at he
    rcases mem_edges_node.1 he with ⟨u, hu, rfl⟩ | ⟨u, hu, he⟩
    · obtain ⟨t, ht, k, rfl⟩ := mem_numberAll hu
      rw [label_number]
      exact mem_edges_node.2 (Or.inl ⟨t, ht, rfl⟩)
    · obtain ⟨t, ht, k, rfl⟩ := mem_numberAll hu
      exact mem_edges_node.2 (Or.inr ⟨t, ht, ih t ht k e he⟩)

/-! ### Links -/

mutual

/-- There is one link for each node. -/
theorem length_linksFrom (parent : Option Nat) (next : Nat) : ∀ t : Rose α,
    (linksFrom parent next t).length = t.preorder.length
  | node a ts => by
    rw [linksFrom, preorder, List.length_cons, List.length_cons, length_linksAllFrom]

theorem length_linksAllFrom (parent : Option Nat) (next : Nat) : ∀ ts : List (Rose α),
    (linksAllFrom parent next ts).length = (preorderAll ts).length
  | [] => rfl
  | t :: ts => by
    rw [linksAllFrom, preorderAll, List.length_append, List.length_append, length_linksFrom,
      length_linksAllFrom]

end

mutual

/-- Links carry the labels in pre-order. -/
theorem map_snd_linksFrom (parent : Option Nat) (next : Nat) : ∀ t : Rose α,
    (linksFrom parent next t).map Prod.snd = t.preorder
  | node a ts => by rw [linksFrom, preorder, List.map_cons, map_snd_linksAllFrom]

theorem map_snd_linksAllFrom (parent : Option Nat) (next : Nat) : ∀ ts : List (Rose α),
    (linksAllFrom parent next ts).map Prod.snd = preorderAll ts
  | [] => rfl
  | t :: ts => by
    rw [linksAllFrom, preorderAll, List.map_append, map_snd_linksFrom, map_snd_linksAllFrom]

end

/-- A link with the number of its node beside the label. -/
def numberLink (l : Link α × Nat) : Link (Nat × α) :=
  (l.1.1, (l.2, l.1.2))

mutual

/-- Numbering the links of a tree is numbering the tree. -/
theorem linksFrom_number (parent : Option Nat) (next : Nat) : ∀ t : Rose α,
    linksFrom parent next (t.number next) = ((linksFrom parent next t).zipIdx next).map numberLink
  | node a ts => by
    rw [number, linksFrom, linksFrom, List.zipIdx_cons, List.map_cons, linksAllFrom_number]
    rfl

theorem linksAllFrom_number (parent : Option Nat) (next : Nat) : ∀ ts : List (Rose α),
    linksAllFrom parent next (numberAll next ts) =
      ((linksAllFrom parent next ts).zipIdx next).map numberLink
  | [] => rfl
  | t :: ts => by
    rw [numberAll, linksAllFrom, linksAllFrom, List.zipIdx_append, List.map_append,
      linksFrom_number parent next t, List.length_map, List.length_zipIdx, length_linksFrom,
      linksAllFrom_number parent _ ts]

end

mutual

/-- The links of a tree, followed by others, describe that tree and what the others describe, as
long as none of the others stands under a node of the tree. -/
theorem pending_linksFrom (parent : Option Nat) (next : Nat) : ∀ (t : Rose α) (rest : List (Link α)),
    (∀ l ∈ pending (next + t.preorder.length) rest, ∀ i, next ≤ i → i < next + t.preorder.length →
      l.1 ≠ some i) →
    pending next (linksFrom parent next t ++ rest) =
      (parent, t) :: pending (next + t.preorder.length) rest
  | node a ts, rest, hrest => by
    have hsize : (node a ts).preorder.length = (preorderAll ts).length + 1 := by
      rw [preorder, List.length_cons]
    have hnext : next + 1 + (preorderAll ts).length = next + (node a ts).preorder.length := by omega
    have hbelow := pending_linksAllFrom (some next) (next + 1) ts rest
      (fun p hp => Option.some.inj hp ▸ Nat.lt_succ_self next)
      (by
        rw [hnext]
        intro l hl i hi
        exact hrest l hl i (by omega))
    rw [hnext] at hbelow
    -- the trees below are taken by the root, and nothing else is
    have hother : ∀ l ∈ pending (next + (node a ts).preorder.length) rest, l.1 ≠ some next :=
      fun l hl => hrest l hl next (Nat.le_refl _) (by omega)
    have htaken : (ts.map (fun t => (some next, t))).filter (·.1 == some next) =
        ts.map (fun t => (some next, t)) :=
      List.filter_eq_self.2 fun l hl => by
        obtain ⟨t, -, rfl⟩ := List.mem_map.1 hl
        exact beq_self_eq_true _
    have hkept : (ts.map (fun t => (some next, t))).filter (·.1 != some next) = [] :=
      List.filter_eq_nil_iff.2 fun l hl => by
        obtain ⟨t, -, rfl⟩ := List.mem_map.1 hl
        simp
    rw [linksFrom, List.cons_append, pending, hbelow, List.filter_append, List.filter_append,
      htaken, hkept, List.filter_eq_nil_iff.2 fun l hl => by simpa using hother l hl,
      List.filter_eq_self.2 fun l hl => by simpa using hother l hl]
    simp [Function.comp_def]

theorem pending_linksAllFrom (parent : Option Nat) (next : Nat) : ∀ (ts : List (Rose α))
    (rest : List (Link α)), (∀ p, parent = some p → p < next) →
    (∀ l ∈ pending (next + (preorderAll ts).length) rest, ∀ i, next ≤ i →
      i < next + (preorderAll ts).length → l.1 ≠ some i) →
    pending next (linksAllFrom parent next ts ++ rest) =
      ts.map (fun t => (parent, t)) ++ pending (next + (preorderAll ts).length) rest
  | [], rest, _, _ => rfl
  | t :: ts, rest, hparent, hrest => by
    have hsize : (preorderAll (t :: ts)).length = t.preorder.length + (preorderAll ts).length := by
      rw [preorderAll, List.length_append]
    have hnext : next + t.preorder.length + (preorderAll ts).length =
        next + (preorderAll (t :: ts)).length := by omega
    have hlater := pending_linksAllFrom parent (next + t.preorder.length) ts rest
      (fun p hp => Nat.lt_of_lt_of_le (hparent p hp) (Nat.le_add_right _ _))
      (by
        rw [hnext]
        intro l hl i hi
        exact hrest l hl i (by omega))
    rw [linksAllFrom, length_linksFrom, List.append_assoc, pending_linksFrom parent next t, hlater,
      hnext]
    · rfl
    · rw [hlater, hnext]
      intro l hl i hi hlt
      rcases List.mem_append.1 hl with hl | hl
      · obtain ⟨s, -, rfl⟩ := List.mem_map.1 hl
        intro hs
        exact absurd (hparent i hs) (by omega)
      · exact hrest l hl i hi (by omega)

end

/-- The labels of the trees that links describe are labels of these links. -/
theorem mem_of_mem_pending {a : α} : ∀ {links : List (Link α)} {next : Nat} {l : Link (Rose α)},
    l ∈ pending next links → a ∈ l.2.preorder → a ∈ links.map Prod.snd := by
  intro links
  induction links with
  | nil => intro next l hl; cases hl
  | cons link rest ih =>
    obtain ⟨parent, b⟩ := link
    intro next l hl ha
    rw [pending] at hl
    rw [List.map_cons, List.mem_cons]
    rcases List.mem_cons.1 hl with rfl | hl
    · -- the tree of the first link: its root, or a later tree that stands under it
      rw [preorder_node, List.mem_cons, List.mem_flatMap] at ha
      rcases ha with rfl | ⟨t, ht, ha⟩
      · exact Or.inl rfl
      · obtain ⟨l, hl, rfl⟩ := List.mem_map.1 ht
        exact Or.inr (ih (List.mem_filter.1 hl).1 ha)
    · exact Or.inr (ih (List.mem_filter.1 hl).1 ha)

theorem mem_of_mem_forest {links : List (Link α)} {t : Rose α} {a : α} (ht : t ∈ forest links)
    (ha : a ∈ t.preorder) : a ∈ links.map Prod.snd := by
  obtain ⟨l, hl, rfl⟩ := List.mem_map.1 ht
  exact mem_of_mem_pending (List.mem_filter.1 hl).1 ha

/-- The links of a tree describe that tree and nothing else. -/
theorem forest_links (t : Rose α) : forest t.links = [t] := by
  have h := pending_linksFrom none 0 t [] (by intro l hl; cases hl)
  rw [List.append_nil] at h
  rw [forest, links, h]
  rfl

mutual

/-- A link below the root of a tree is an edge of the numbered tree. -/
theorem edge_of_linksFrom (parent : Option Nat) (next : Nat) : ∀ (t : Rose α) (i p : Nat) (a : α),
    (linksFrom parent next t)[i + 1]? = some (some p, a) →
      ∃ b, ((p, b), (next + (i + 1), a)) ∈ (t.number next).edges
  | node b ts, i, p, a, h => by
    rw [linksFrom, List.getElem?_cons_succ] at h
    have hindex : next + 1 + i = next + (i + 1) := by omega
    rw [number, ← hindex]
    rcases edge_of_linksAllFrom (some next) (next + 1) ts i p a h with ⟨hp, u, hu, hlabel⟩ | hdeep
    · rw [← Option.some.inj hp]
      exact ⟨b, mem_edges_node.2 (Or.inl ⟨u, hu, by rw [hlabel]⟩)⟩
    · obtain ⟨c, u, hu, hedge⟩ := hdeep
      exact ⟨c, mem_edges_node.2 (Or.inr ⟨u, hu, hedge⟩)⟩

theorem edge_of_linksAllFrom (parent : Option Nat) (next : Nat) : ∀ (ts : List (Rose α))
    (i p : Nat) (a : α), (linksAllFrom parent next ts)[i]? = some (some p, a) →
      (parent = some p ∧ ∃ u ∈ numberAll next ts, u.label = (next + i, a)) ∨
        ∃ b, ∃ u ∈ numberAll next ts, ((p, b), (next + i, a)) ∈ u.edges
  | [], i, p, a, h => by simp [linksAllFrom] at h
  | t :: ts, i, p, a, h => by
    rw [linksAllFrom] at h
    rw [numberAll]
    rcases Nat.lt_or_ge i (linksFrom parent next t).length with hi | hi
    · rw [List.getElem?_append_left hi] at h
      cases i with
      | zero =>
        -- the root of the first tree
        cases t with
        | node b us =>
          rw [linksFrom, List.getElem?_cons_zero, Option.some.injEq, Prod.mk.injEq] at h
          refine Or.inl ⟨h.1, _, List.mem_cons_self, ?_⟩
          rw [label_number, label_node, h.2, Nat.add_zero]
      | succ i =>
        obtain ⟨b, hb⟩ := edge_of_linksFrom parent next t i p a h
        exact Or.inr ⟨b, _, List.mem_cons_self, hb⟩
    · rw [List.getElem?_append_right hi] at h
      rw [length_linksFrom] at h hi
      have hindex : next + t.preorder.length + (i - t.preorder.length) = next + i := by omega
      have hlater := edge_of_linksAllFrom parent _ ts _ p a h
      rw [hindex] at hlater
      rcases hlater with ⟨hp, u, hu, hlabel⟩ | ⟨b, u, hu, hedge⟩
      · exact Or.inl ⟨hp, u, List.mem_cons_of_mem _ hu, hlabel⟩
      · exact Or.inr ⟨b, u, List.mem_cons_of_mem _ hu, hedge⟩

end

end Rose

namespace Outline

/-- The outline is that of a tree, or empty. -/
def IsTree (o : Outline) : Prop :=
  ∃ r, o = ofRose r

/-- There is a node above a node that has a parent. -/
theorem exists_node?_of_parent? {o : Outline} {i p : Nat} (h : o.parent? i = some p) :
    ∃ m, o.node? p = some m := by
  have hp : p < o.links.length := Nat.lt_trans (lt_of_parent? h) (lt_size_of_parent? h)
  exact ⟨(o.links[p]).2, by rw [node?, List.getElem?_eq_getElem hp]; rfl⟩

/-- The labels of the tree of an outline are nodes with their numbers. -/
theorem node?_of_mem_rootTree? {o : Outline} {t : Rose (Nat × Node)} (ht : o.rootTree? = some t)
    {i : Nat} {n : Node} (hmem : (i, n) ∈ t.preorder) : o.node? i = some n := by
  have hlabel := Rose.mem_of_mem_forest (List.mem_of_mem_head? ht) hmem
  rw [List.map_map, List.mem_map] at hlabel
  obtain ⟨⟨⟨p, m⟩, j⟩, hj, heq⟩ := hlabel
  obtain ⟨rfl, rfl⟩ := Prod.mk.inj heq
  rw [node?, List.mk_mem_zipIdx_iff_getElem?.1 hj]
  rfl

/-- The tree of the outline of a tree is the tree with its nodes numbered. -/
theorem rootTree?_ofRose (t : Rose Node) : (ofRose (some t)).rootTree? = some (t.number 0) := by
  have htrees : (ofRose (some t)).trees = Rose.forest (t.number 0).links :=
    congrArg Rose.forest (Rose.linksFrom_number none 0 t).symm
  rw [rootTree?, htrees, Rose.forest_links]
  rfl

/-- The nodes of the outline of a tree are its labels in pre-order. -/
theorem node?_ofRose_eq (t : Rose Node) (i : Nat) :
    (ofRose (some t)).node? i = t.preorder[i]? := by
  have hlinks : (ofRose (some t)).links.map Prod.snd = t.preorder := Rose.map_snd_linksFrom none 0 t
  rw [node?, ← hlinks, List.getElem?_map]

/-- The nodes of the outline of a tree are the labels of the numbered tree. -/
theorem node?_ofRose {t : Rose Node} {i : Nat} {n : Node} :
    (ofRose (some t)).node? i = some n ↔ (i, n) ∈ (t.number 0).preorder := by
  rw [node?_ofRose_eq, Rose.preorder_number, List.mem_map]
  constructor
  · intro h
    exact ⟨(n, i), List.mk_mem_zipIdx_iff_getElem?.2 h, rfl⟩
  · rintro ⟨⟨m, j⟩, hmem, hswap⟩
    obtain ⟨rfl, rfl⟩ := Prod.mk.inj hswap
    exact List.mk_mem_zipIdx_iff_getElem?.1 hmem

/-- A node and its parent in the outline of a tree are the ends of an edge. -/
theorem edge_of_parent? {t : Rose Node} {i p : Nat} {m n : Node}
    (hp : (ofRose (some t)).parent? i = some p) (hm : (ofRose (some t)).node? p = some m)
    (hn : (ofRose (some t)).node? i = some n) :
    ((p, m), (i, n)) ∈ (t.number 0).edges ∧ (m, n) ∈ t.edges := by
  obtain ⟨⟨parent, n'⟩, hl, hparent⟩ := Option.bind_eq_some_iff.1 hp
  dsimp only at hparent
  subst hparent
  cases i with
  | zero => exact absurd (lt_of_parent? hp) (Nat.not_lt_zero _)
  | succ i =>
    obtain ⟨m', hedge⟩ := Rose.edge_of_linksFrom none 0 t i p n' hl
    rw [Nat.zero_add] at hedge
    obtain ⟨hm', hn'⟩ := Rose.mem_preorder_of_mem_edges _ _ hedge
    rw [node?_ofRose.2 hm', Option.some.injEq] at hm
    rw [node?_ofRose.2 hn', Option.some.injEq] at hn
    subst hm hn
    exact ⟨hedge, t.mem_edges_of_number 0 _ hedge⟩

end Outline
end ModelLayout

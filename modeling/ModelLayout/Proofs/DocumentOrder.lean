import ModelLayout.Outline.Preorder
import ModelLayout.Proofs.Sequence

/-!
# Children, and the order of the walk

In the outline of a tree the children of a node are found by looking through all links for those
that name it, and the nodes are visited with a stack.  Here both are tied to the tree: the numbers
that are found are those of the trees right below the node, and the walk visits the nodes in the
order of their numbers.

A tree fills a stretch of the list of links.  Links before the stretch and behind it name no node in
it, so only the stretch itself matters for the children of its nodes.

## Main definitions

* `Rose.numbersUnder` — the numbers of the links that name a node.
* `Rose.Outside` — links that name no node of a stretch.
* `Outline.children` — the nodes right under a node.

## Main results

* `Outline.everywhere_childNumbers` — the children of a node, in numbers.
* `Outline.children_of_everywhere` — what holds of every node of a tree and those right below it
  holds of every node of its outline and its children.
* `Outline.preorder_ofRose` — the walk goes from number to number.
-/

namespace ModelLayout
namespace Rose

variable {α : Type}

/-! ### Links that name a node -/

/-- The numbers of the links that name the node `i`, where the first link has the number `next`. -/
def numbersUnder (i next : Nat) (links : List (Link α)) : List Nat :=
  ((links.zipIdx next).filter (·.1.1 == some i)).map (·.2)

theorem numbersUnder_cons (i next : Nat) (l : Link α) (links : List (Link α)) :
    numbersUnder i next (l :: links) =
      if l.1 = some i then next :: numbersUnder i (next + 1) links
      else numbersUnder i (next + 1) links := by
  by_cases h : l.1 = some i
  · simp [numbersUnder, h]
  · simp [numbersUnder, h]

theorem numbersUnder_append (i next : Nat) (links links' : List (Link α)) :
    numbersUnder i next (links ++ links') =
      numbersUnder i next links ++ numbersUnder i (next + links.length) links' := by
  simp [numbersUnder, List.zipIdx_append]

theorem numbersUnder_eq_nil {i : Nat} {links : List (Link α)} (h : ∀ l ∈ links, l.1 ≠ some i) :
    ∀ next, numbersUnder i next links = [] := by
  induction links with
  | nil => intro next; rfl
  | cons l links ih =>
    intro next
    rw [numbersUnder_cons, if_neg (h l List.mem_cons_self)]
    exact ih (fun l hl => h l (List.mem_cons_of_mem _ hl)) (next + 1)

/-- The links of a tree name the node that the tree stands under, and nodes of the tree. -/
theorem ne_of_mem_linksFrom {parent : Option Nat} {next i : Nat} {t : Rose α} {l : Link α}
    (hparent : parent ≠ some i) (hi : i < next ∨ next + t.preorder.length ≤ i)
    (hl : l ∈ linksFrom parent next t) : l.1 ≠ some i := by
  intro hname
  obtain ⟨p, a⟩ := l
  obtain ⟨j, hj⟩ := List.mem_iff_getElem?.1 hl
  have hlt : j < (linksFrom parent next t).length := (List.getElem?_eq_some_iff.1 hj).1
  rw [length_linksFrom] at hlt
  dsimp only at hname
  subst hname
  rcases lt_of_linksFrom parent next t j i a hj with hp | hp
  · exact hparent hp
  · omega

theorem ne_of_mem_linksAllFrom {parent : Option Nat} {next i : Nat} {ts : List (Rose α)}
    {l : Link α} (hparent : parent ≠ some i)
    (hi : i < next ∨ next + (preorderAll ts).length ≤ i)
    (hl : l ∈ linksAllFrom parent next ts) : l.1 ≠ some i := by
  intro hname
  obtain ⟨p, a⟩ := l
  obtain ⟨j, hj⟩ := List.mem_iff_getElem?.1 hl
  have hlt : j < (linksAllFrom parent next ts).length := (List.getElem?_eq_some_iff.1 hj).1
  rw [length_linksAllFrom] at hlt
  dsimp only at hname
  subst hname
  rcases lt_of_linksAllFrom parent next ts j i a hj with hp | hp
  · exact hparent hp
  · omega

mutual

/-- All links of a tree that stands under a node name some node. -/
theorem ne_none_of_mem_linksFrom (p next : Nat) :
    ∀ (t : Rose α), ∀ l ∈ linksFrom (some p) next t, l.1 ≠ none
  | node a ts => by
    intro l hl
    rw [linksFrom] at hl
    rcases List.mem_cons.1 hl with rfl | hl
    · simp
    · exact ne_none_of_mem_linksAllFrom next (next + 1) ts l hl

theorem ne_none_of_mem_linksAllFrom (p next : Nat) :
    ∀ (ts : List (Rose α)), ∀ l ∈ linksAllFrom (some p) next ts, l.1 ≠ none
  | [] => by
    intro l hl
    cases hl
  | t :: ts => by
    intro l hl
    rw [linksAllFrom] at hl
    rcases List.mem_append.1 hl with hl | hl
    · exact ne_none_of_mem_linksFrom p next t l hl
    · exact ne_none_of_mem_linksAllFrom p _ ts l hl

end

/-- Only the root of a tree can stand under no node. -/
theorem eq_zero_of_linksFrom {parent : Option Nat} {next i : Nat} {t : Rose α} {a : α}
    (h : (linksFrom parent next t)[i]? = some (none, a)) : i = 0 := by
  cases t with
  | node b ts =>
    cases i with
    | zero => rfl
    | succ i =>
      rw [linksFrom, List.getElem?_cons_succ] at h
      exact absurd rfl (ne_none_of_mem_linksAllFrom next (next + 1) ts _ (List.mem_of_getElem? h))

/-- In the links of several trees under one node, those that name this node are the roots. -/
theorem numbersUnder_linksAllFrom {p : Nat} (ts : List (Rose α)) : ∀ next, p < next →
    numbersUnder p next (linksAllFrom (some p) next ts) =
      ((numberAll next ts).map label).map Prod.fst := by
  induction ts with
  | nil => intro next _; rfl
  | cons t ts ih =>
    intro next hp
    have hlater := ih (next + t.preorder.length) (by omega)
    have hfirst : numbersUnder p next (linksFrom (some p) next t) = [next] := by
      cases t with
      | node a us =>
        -- the root names the node, and what is below the root names other nodes
        have hbelow : ∀ l ∈ linksAllFrom (some next) (next + 1) us, l.1 ≠ some p := fun l hl =>
          ne_of_mem_linksAllFrom (by simp; omega) (Or.inl (by omega)) hl
        rw [linksFrom, numbersUnder_cons, if_pos rfl, numbersUnder_eq_nil hbelow]
    rw [linksAllFrom, numbersUnder_append, hfirst, length_linksFrom, hlater, numberAll]
    simp

/-! ### The stretch of a tree -/

/-- The links name none of the `size` nodes from number `next` on. -/
def Outside (next size : Nat) (links : List (Link α)) : Prop :=
  ∀ l ∈ links, ∀ i, next ≤ i → i < next + size → l.1 ≠ some i

theorem Outside.append {next size : Nat} {links links' : List (Link α)}
    (h : Outside next size links) (h' : Outside next size links') :
    Outside next size (links ++ links') := by
  intro l hl
  rcases List.mem_append.1 hl with hl | hl
  · exact h l hl
  · exact h' l hl

/-- A shorter stretch. -/
theorem Outside.mono {next size next' size' : Nat} {links : List (Link α)}
    (h : Outside next size links) (hnext : next ≤ next') (hsize : next' + size' ≤ next + size) :
    Outside next' size' links := by
  intro l hl i hi hlt
  exact h l hl i (by omega) (by omega)

theorem numbersUnder_of_outside {next size i : Nat} {links : List (Link α)}
    (h : Outside next size links) (hi : next ≤ i) (hlt : i < next + size) (k : Nat) :
    numbersUnder i k links = [] :=
  numbersUnder_eq_nil (fun l hl => h l hl i hi hlt) k

mutual

/-- Where the links of a tree stand among others that name none of its nodes, the links that name a
node of the tree are the roots of the trees right below it. -/
theorem everywhere_numbersUnder (parent : Option Nat) (next : Nat) :
    ∀ (t : Rose α) (before after : List (Link α)), before.length = next →
      (∀ p, parent = some p → p < next) → Outside next t.preorder.length before →
      Outside next t.preorder.length after →
      (t.number next).Everywhere fun l below =>
        numbersUnder l.1 0 (before ++ (linksFrom parent next t ++ after)) = below.map Prod.fst
  | node a ts, before, after, hlength, hparent, hbefore, hafter => by
    have hsize : (node a ts).preorder.length = (preorderAll ts).length + 1 := by
      rw [preorder, List.length_cons]
    have hroot : parent ≠ some next := fun hp => Nat.lt_irrefl next (hparent next hp)
    rw [hsize] at hbefore hafter
    rw [number]
    refine .node ?_ ?_
    · -- the root: outside nothing names it, and inside the roots of the trees below do
      have hinside := numbersUnder_linksAllFrom ts (next + 1) (Nat.lt_succ_self next)
      rw [numbersUnder_append, numbersUnder_of_outside hbefore (Nat.le_refl _) (by omega),
        numbersUnder_append, numbersUnder_of_outside hafter (Nat.le_refl _) (by omega), hlength,
        linksFrom, numbersUnder_cons, if_neg hroot, Nat.zero_add, hinside]
      simp
    · -- below: the root joins the links before
      have hlinks : before ++ (linksFrom parent next (node a ts) ++ after) =
          (before ++ [(parent, a)]) ++ (linksAllFrom (some next) (next + 1) ts ++ after) := by
        simp [linksFrom]
      have hself : Outside (next + 1) (preorderAll ts).length [(parent, a)] := by
        intro l hl i hi _ hname
        rw [List.mem_singleton.1 hl] at hname
        exact absurd (hparent i hname) (by omega)
      rw [hlinks]
      exact everywhere_numbersUnderAll (some next) (next + 1) ts _ after (by simp [hlength])
        (fun p hp => by simp at hp; omega)
        ((hbefore.mono (by omega) (by omega)).append hself) (hafter.mono (by omega) (by omega))

theorem everywhere_numbersUnderAll (parent : Option Nat) (next : Nat) :
    ∀ (ts : List (Rose α)) (before after : List (Link α)), before.length = next →
      (∀ p, parent = some p → p < next) → Outside next (preorderAll ts).length before →
      Outside next (preorderAll ts).length after →
      ∀ u ∈ numberAll next ts, u.Everywhere fun l below =>
        numbersUnder l.1 0 (before ++ (linksAllFrom parent next ts ++ after)) = below.map Prod.fst
  | [], _, _, _, _, _, _ => by
    intro u hu
    cases hu
  | t :: ts, before, after, hlength, hparent, hbefore, hafter => by
    have hsize : (preorderAll (t :: ts)).length = t.preorder.length + (preorderAll ts).length := by
      rw [preorderAll, List.length_append]
    rw [hsize] at hbefore hafter
    intro u hu
    rw [numberAll] at hu
    rw [linksAllFrom, length_linksFrom]
    rcases List.mem_cons.1 hu with rfl | hu
    · -- the first tree: the others come behind it
      have hothers : Outside next t.preorder.length
          (linksAllFrom parent (next + t.preorder.length) ts) := by
        intro l hl i hi hlt
        exact ne_of_mem_linksAllFrom (fun hp => absurd (hparent i hp) (by omega)) (Or.inl hlt) hl
      rw [List.append_assoc]
      exact everywhere_numbersUnder parent next t before _ hlength hparent
        (hbefore.mono (by omega) (by omega)) (hothers.append (hafter.mono (by omega) (by omega)))
    · -- one of the others: the first tree comes before it
      have hfirst : Outside (next + t.preorder.length) (preorderAll ts).length
          (linksFrom parent next t) := by
        intro l hl i hi _
        exact ne_of_mem_linksFrom (fun hp => absurd (hparent i hp) (by omega)) (Or.inr hi) hl
      rw [List.append_assoc, ← List.append_assoc before]
      exact everywhere_numbersUnderAll parent (next + t.preorder.length) ts _ after
        (by simp [hlength, length_linksFrom])
        (fun p hp => Nat.lt_of_lt_of_le (hparent p hp) (Nat.le_add_right _ _))
        ((hbefore.mono (by omega) (by omega)).append hfirst) (hafter.mono (by omega) (by omega))
        u hu

end

/-! ### Single nodes -/

/-- What holds everywhere holds of each label with the labels right below it. -/
theorem Everywhere.exists_below {p : α → List α → Prop} {t : Rose α} (h : t.Everywhere p) {a : α} :
    a ∈ t.preorder → ∃ below, p a below ∧ ∀ b ∈ below, b ∈ t.preorder := by
  induction h with
  | @node c ts here below ih =>
    intro ha
    rw [preorder_node, List.mem_cons, List.mem_flatMap] at ha
    rcases ha with rfl | ⟨t, ht, ha⟩
    · refine ⟨ts.map label, here, fun b hb => ?_⟩
      obtain ⟨t, ht, rfl⟩ := List.mem_map.1 hb
      rw [preorder_node]
      exact List.mem_cons_of_mem _ (List.mem_flatMap.2 ⟨t, ht, t.label_mem_preorder⟩)
    · obtain ⟨labels, hlabels, hmem⟩ := ih t ht ha
      refine ⟨labels, hlabels, fun b hb => ?_⟩
      rw [preorder_node]
      exact List.mem_cons_of_mem _ (List.mem_flatMap.2 ⟨t, ht, hmem b hb⟩)

theorem Everywhere.imp {p q : α → List α → Prop} (h : ∀ a below, p a below → q a below) {t : Rose α}
    (hp : t.Everywhere p) : t.Everywhere q := by
  induction hp with
  | node here below ih => exact .node (h _ _ here) ih

theorem Everywhere.and {p q : α → List α → Prop} {t : Rose α} (hp : t.Everywhere p) :
    t.Everywhere q → t.Everywhere fun a below => p a below ∧ q a below := by
  induction hp with
  | node here below ih =>
    rintro ⟨here', below'⟩
    exact .node ⟨here, here'⟩ fun t ht => ih t ht (below' t ht)

end Rose

namespace Outline

/-! ### Children -/

/-- The nodes right under the node `i`. -/
def children (o : Outline) (i : Nat) : List Node :=
  (o.childNumbers i).filterMap o.node?

theorem mem_childNumbers {o : Outline} {i j : Nat} :
    j ∈ o.childNumbers i ↔ o.parent? j = some i := by
  simp only [childNumbers, parent?, List.mem_map, List.mem_filter, beq_iff_eq,
    Option.bind_eq_some_iff]
  constructor
  · rintro ⟨⟨l, k⟩, ⟨hmem, hl⟩, rfl⟩
    exact ⟨l, List.mk_mem_zipIdx_iff_getElem?.1 hmem, hl⟩
  · rintro ⟨l, hget, hl⟩
    exact ⟨(l, j), ⟨List.mk_mem_zipIdx_iff_getElem?.2 hget, hl⟩, rfl⟩

/-- **The children of a node of a tree are the roots of the trees right below it.** -/
theorem everywhere_childNumbers (t : Rose Node) :
    (t.number 0).Everywhere fun l below =>
      (ofRose (some t)).childNumbers l.1 = below.map Prod.fst := by
  have h := Rose.everywhere_numbersUnder none 0 t [] [] rfl nofun nofun nofun
  rw [List.append_nil, List.nil_append] at h
  exact h

/-- What holds of every node of a tree and those right below it holds of every node of its outline
and its children; a child is known by its number. -/
theorem exists_below_of_everywhere {p : Node → List Node → Prop} {t : Rose Node}
    (h : t.Everywhere p) {i : Nat} {n : Node} (hn : (ofRose (some t)).node? i = some n) :
    ∃ below : List (Nat × Node), p n (below.map Prod.snd) ∧
      (ofRose (some t)).childNumbers i = below.map Prod.fst ∧
      ∀ l ∈ below, (ofRose (some t)).node? l.1 = some l.2 := by
  obtain ⟨below, ⟨hp, hnumbers⟩, hmem⟩ :=
    ((h.number 0).and (everywhere_childNumbers t)).exists_below (node?_ofRose.1 hn)
  exact ⟨below, hp, hnumbers, fun l hl => node?_ofRose.2 (hmem l hl)⟩

theorem children_of_everywhere {p : Node → List Node → Prop} {t : Rose Node} (h : t.Everywhere p)
    {i : Nat} {n : Node} (hn : (ofRose (some t)).node? i = some n) :
    p n ((ofRose (some t)).children i) := by
  obtain ⟨below, hp, hnumbers, hnodes⟩ := exists_below_of_everywhere h hn
  have hchildren : (ofRose (some t)).children i = below.map Prod.snd := by
    rw [children, hnumbers, List.filterMap_map, ← List.filterMap_eq_map]
    exact List.filterMap_congr fun l hl => hnodes l hl
  rw [hchildren]
  exact hp

/-! ### The walk -/

/-- Trees on the stack are visited one after the other, if each of them is. -/
theorem visit_append {o : Outline} {us : List (Rose (Nat × Node))}
    (h : ∀ u ∈ us, ∀ stack, o.visit (u.label.1 :: stack) = u.preorder.map Prod.fst ++ o.visit stack)
    (stack : List Nat) :
    o.visit ((us.map Rose.label).map Prod.fst ++ stack) =
      (us.flatMap Rose.preorder).map Prod.fst ++ o.visit stack := by
  induction us with
  | nil => rfl
  | cons u us ih =>
    have hfirst := h u List.mem_cons_self
    have hlater := ih fun u hu => h u (List.mem_cons_of_mem _ hu)
    simp only [List.map_cons, List.cons_append, hfirst, hlater, List.flatMap_cons, List.map_append,
      List.append_assoc]

/-- A tree on top of the stack is visited in pre-order, and then the rest of the stack. -/
theorem visit_of_everywhere {o : Outline} {u : Rose (Nat × Node)}
    (h : u.Everywhere fun l below => o.childNumbers l.1 = below.map Prod.fst) :
    ∀ stack, o.visit (u.label.1 :: stack) = u.preorder.map Prod.fst ++ o.visit stack := by
  induction h with
  | @node l us here below ih =>
    intro stack
    rw [Rose.label_node, visit, here, visit_append ih stack, Rose.preorder_node, List.map_cons,
      List.cons_append]

/-- The root of the outline of a tree is its first node. -/
theorem root?_ofRose (t : Rose Node) : (ofRose (some t)).root? = some 0 := by
  cases t with
  | node n ts => rfl

/-- **The walk visits the nodes of the outline of a tree in the order of their numbers.** -/
theorem preorder_ofRose (t : Rose Node) :
    (ofRose (some t)).preorder = List.range t.preorder.length := by
  have hvisit := visit_of_everywhere (everywhere_childNumbers t) []
  have hnumbers : (t.number 0).preorder.map Prod.fst = List.range t.preorder.length := by
    rw [Rose.preorder_number, List.map_map, List.range_eq_range', ← List.zipIdx_map_snd]
    rfl
  rw [Rose.label_number, hnumbers, visit, List.append_nil] at hvisit
  rw [preorder, root?_ofRose]
  exact hvisit

/-- So it does for the outline of a file, of which each node is visited. -/
theorem preorder_ofTree (text : Span → String) (t : Ruby.Tree) :
    (ofTree text t).preorder = List.range (ofTree text t).size := by
  rw [ofTree_eq]
  cases gather (Reading.ofTree text t).statements with
  | none =>
    have hroot : (ofRose none).root? = none := rfl
    rw [preorder, hroot, Option.toList_none, visit]
    rfl
  | some s =>
    have hsize : (ofRose (some s)).size = s.preorder.length := Rose.length_linksFrom none 0 s
    rw [preorder_ofRose, hsize]

end Outline
end ModelLayout

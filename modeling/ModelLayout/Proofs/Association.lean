import Mathlib.Data.List.Flatten
import Mathlib.Data.List.Nodup
import ModelLayout.Comment
import ModelLayout.Proofs.Numbering

/-!
# Which node a comment belongs to

Comments are shared out in one sweep: there is one list of comments, and each stop of the walk
takes from its front.  A comment that no stop wants would hold up all that come after it.  Here
the sweep is compared with a description in which comments do not meet each other: every comment
goes to the node of the first moment of the walk that suits it.

## Main definitions

* `Moment`, `Moment.suits`, `walk` — the walk as a list of nodes entered and left, and which
  comments each of these moments is for.
* `Outline.due?` — the first moment that suits a comment.
* `Orderly` — comments that do not overlap and whose lines agree with their bytes.

## Main results

* `getElem?_owners_associate`, `attached_associate` — in a file with orderly comments each comment
  belongs to the node of the first moment that suits it, and a node has the comments that are due
  to it.
* `Outline.IsTree.enter_leave_sublist_moments`, `Outline.IsTree.leave_leave_sublist_moments` — a node
  is entered before it is left, and left before the node above it.
* `Outline.IsTree.not_suits_of_due?` — no moment before the one at which a comment is due suits it.
-/

namespace ModelLayout

/-! ### The walk as a list of moments -/

/-- A moment of the walk through a tree. -/
inductive Moment
  /-- The node `n` with the number `i` is entered. -/
  | enter (i : Nat) (n : Node)
  /-- The node `n` with the number `i` is left. -/
  | leave (i : Nat) (n : Node)
  deriving DecidableEq, Repr, Inhabited

namespace Moment

/-- The number of the node that is entered or left. -/
def owner : Moment → Nat
  | enter i _ => i
  | leave i _ => i

/-- Whether a comment belongs to a node on account of this moment.  On entering, it has to end
before the node starts, and the node must not be a sequence; on leaving, it has to start before
the node ends or on its last line. -/
def suits : Moment → Comment → Bool
  | enter _ n, c => n.shape != .sequence && decide (c.span.endByte ≤ n.span.startByte)
  | leave _ n, c => decide (c.span.startByte < n.span.endByte) || c.line == n.span.stop.line

/-- The stops that the sweep makes at a moment. -/
def stops : Moment → List Stop
  | enter i n => Stop.onEnter i n
  | leave i n => Stop.onLeave i n

end Moment

mutual

/-- The moments of the walk through a tree. -/
def walk : Rose (Nat × Node) → List Moment
  | .node (i, n) ts => .enter i n :: (walkAll ts ++ [.leave i n])

/-- The moments of the walk through several trees. -/
def walkAll : List (Rose (Nat × Node)) → List Moment
  | [] => []
  | t :: ts => walk t ++ walkAll ts

end

theorem walkAll_eq_flatMap (ts : List (Rose (Nat × Node))) :
    walkAll ts = ts.flatMap walk := by
  induction ts with
  | nil => rfl
  | cons t ts ih => rw [walkAll, List.flatMap_cons, ih]

theorem walk_node (i : Nat) (n : Node) (ts : List (Rose (Nat × Node))) :
    walk (.node (i, n) ts) = .enter i n :: (ts.flatMap walk ++ [.leave i n]) := by
  rw [walk, walkAll_eq_flatMap]

mutual

/-- The stops of the sweep are those of the moments. -/
theorem stops_eq_flatMap : ∀ t : Rose (Nat × Node), stops t = (walk t).flatMap Moment.stops
  | .node (i, n) ts => by
    rw [stops, walk, List.flatMap_cons, List.flatMap_append, stopsAll_eq_flatMap ts,
      List.flatMap_cons, List.flatMap_nil, List.append_nil]
    rfl

theorem stopsAll_eq_flatMap : ∀ ts : List (Rose (Nat × Node)),
    stopsAll ts = (walkAll ts).flatMap Moment.stops
  | [] => rfl
  | t :: ts => by
    rw [stopsAll, walkAll, List.flatMap_append, stops_eq_flatMap t, stopsAll_eq_flatMap ts]

end

namespace Outline

/-- The moments of the walk through an outline. -/
def moments (o : Outline) : List Moment :=
  (o.rootTree?.map walk).getD []

/-- The first moment of the walk that suits a comment. -/
def due? (o : Outline) (c : Comment) : Option Moment :=
  o.moments.find? (·.suits c)

end Outline

/-! ### The sweep, one moment at a time -/

/-- Tests that agree on a list cut it at the same place. -/
theorem takeWhile_congr {α : Type} {p q : α → Bool} {l : List α} (h : ∀ a ∈ l, p a = q a) :
    l.takeWhile p = l.takeWhile q ∧ l.dropWhile p = l.dropWhile q := by
  induction l with
  | nil => exact ⟨rfl, rfl⟩
  | cons a l ih =>
    obtain ⟨htake, hdrop⟩ := ih fun b hb => h b (List.mem_cons_of_mem _ hb)
    rw [List.takeWhile_cons, List.takeWhile_cons, List.dropWhile_cons, List.dropWhile_cons,
      h a List.mem_cons_self, htake, hdrop]
    exact ⟨rfl, rfl⟩

/-- Taking what passes one of two tests is taking what passes the first and then what passes the
second, if the first test is passed by the front of the list only. -/
theorem takeWhile_or {α : Type} {p q r : α → Bool} {l : List α}
    (hp : l.Pairwise fun a b => p b = true → p a = true) (hr : ∀ a, r a = (p a || q a)) :
    l.takeWhile r = l.takeWhile p ++ (l.dropWhile p).takeWhile q ∧
      l.dropWhile r = (l.dropWhile p).dropWhile q := by
  induction l with
  | nil => exact ⟨rfl, rfl⟩
  | cons a l ih =>
    obtain ⟨hhead, htail⟩ := List.pairwise_cons.1 hp
    cases ha : p a with
    | true =>
      obtain ⟨htake, hdrop⟩ := ih htail
      have hra : r a = true := by rw [hr, ha, Bool.true_or]
      rw [List.takeWhile_cons_of_pos hra, List.dropWhile_cons_of_pos hra,
        List.takeWhile_cons_of_pos ha, List.dropWhile_cons_of_pos ha, htake, hdrop]
      exact ⟨rfl, rfl⟩
    | false =>
      -- from here on only the second test can be passed
      have hrest : ∀ b ∈ a :: l, r b = q b := by
        intro b hb
        have hpb : p b = false := by
          rcases List.mem_cons.1 hb with rfl | hb
          · exact ha
          · cases hpb : p b with
            | false => rfl
            | true => rw [hhead b hb hpb] at ha; cases ha
        rw [hr, hpb, Bool.false_or]
      have hna : ¬ p a = true := by rw [ha]; exact Bool.false_ne_true
      rw [List.takeWhile_cons_of_neg hna, List.dropWhile_cons_of_neg hna, List.nil_append]
      exact takeWhile_congr hrest

/-- What is left when the front of a list has been taken fails the test. -/
theorem not_of_mem_dropWhile {α : Type} {p : α → Bool} {l : List α}
    (hp : l.Pairwise fun a b => p b = true → p a = true) {a : α} (ha : a ∈ l.dropWhile p) :
    ¬ p a = true := by
  induction l with
  | nil => cases ha
  | cons b l ih =>
    obtain ⟨hhead, htail⟩ := List.pairwise_cons.1 hp
    by_cases hb : p b = true
    · rw [List.dropWhile_cons_of_pos hb] at ha
      exact ih htail ha
    · rw [List.dropWhile_cons_of_neg hb] at ha
      rcases List.mem_cons.1 ha with rfl | ha
      · exact hb
      · exact fun hpa => hb (hhead a ha hpa)

/-- At one moment the sweep takes the comments at the front that the moment suits. -/
theorem sweep_stops_append (m : Moment) (rest : List Stop) {cs : List Comment}
    (hcs : cs.Pairwise fun b c => b.span.startByte ≤ c.span.startByte) :
    sweep (m.stops ++ rest) cs =
      (cs.takeWhile m.suits).map (fun _ => m.owner) ++ sweep rest (cs.dropWhile m.suits) := by
  cases m with
  | enter i n =>
    by_cases hn : n.shape = .sequence
    · -- a sequence makes no stop on entering, and suits no comment
      have hsuits : ∀ c, (Moment.enter i n).suits c = false := by
        intro c
        rw [Moment.suits, hn]
        rfl
      have hcut := takeWhile_congr (l := cs) fun c _ => hsuits c
      rw [hcut.1, hcut.2, Moment.stops, Stop.onEnter, if_pos hn]
      cases cs <;> rfl
    · have hsuits : ∀ c, (Moment.enter i n).suits c = (Stop.leading i n).takes c := by
        intro c
        rw [Moment.suits, bne_iff_ne.2 hn, Bool.true_and]
        rfl
      have hcut := takeWhile_congr (l := cs) fun c _ => hsuits c
      rw [hcut.1, hcut.2, Moment.stops, Stop.onEnter, if_neg hn, List.singleton_append, sweep_cons]
      rfl
  | leave i n =>
    have hinner : cs.Pairwise fun b c =>
        (Stop.inner i n).takes c = true → (Stop.inner i n).takes b = true := by
      refine hcs.imp fun {b c} hbc hc => ?_
      have hlt : c.span.startByte < n.span.endByte := of_decide_eq_true hc
      exact decide_eq_true (Nat.lt_of_le_of_lt hbc hlt)
    obtain ⟨htake, hdrop⟩ := takeWhile_or (r := (Moment.leave i n).suits)
      (q := (Stop.trailing i n).takes) hinner fun c => rfl
    rw [htake, hdrop, Moment.stops, Stop.onLeave, List.cons_append, List.singleton_append,
      sweep_cons, sweep_cons, List.map_append, List.append_assoc]
    rfl

/-- **The sweep, comment by comment**: if every moment suits the front of the comments, each
comment goes to the node of the first moment that suits it. -/
theorem getElem?_sweep {ms : List Moment} {cs : List Comment}
    (hsorted : cs.Pairwise fun b c => b.span.startByte ≤ c.span.startByte)
    (hfront : ∀ m ∈ ms, cs.Pairwise fun b c => m.suits c = true → m.suits b = true) :
    ∀ {k : Nat} {c : Comment}, cs[k]? = some c →
      (sweep (ms.flatMap Moment.stops) cs)[k]? = (ms.find? (·.suits c)).map Moment.owner := by
  induction ms generalizing cs with
  | nil => intro k c hc; rfl
  | cons m ms ih =>
    intro k c hc
    have hm := hfront m List.mem_cons_self
    have hsub : (cs.dropWhile m.suits).Sublist cs := List.dropWhile_sublist _
    rw [List.flatMap_cons, sweep_stops_append m _ hsorted]
    rw [← List.takeWhile_append_dropWhile (p := m.suits) (l := cs)] at hc
    rcases Nat.lt_or_ge k (cs.takeWhile m.suits).length with hk | hk
    · -- taken at this moment
      rw [List.getElem?_append_left hk] at hc
      have hsuits : m.suits c = true := List.all_eq_true.1 List.all_takeWhile c (List.mem_of_getElem? hc)
      have hfirst : (m :: ms).find? (·.suits c) = some m := List.find?_cons_of_pos hsuits
      rw [List.getElem?_append_left (by rwa [List.length_map]), List.getElem?_map, hc, hfirst]
      rfl
    · -- left for later moments: this one does not suit it
      rw [List.getElem?_append_right hk] at hc
      have hnot : ¬ m.suits c = true :=
        not_of_mem_dropWhile hm (List.mem_of_getElem? hc)
      have hfirst : (m :: ms).find? (·.suits c) = ms.find? (·.suits c) :=
        List.find?_cons_of_neg hnot
      rw [List.getElem?_append_right (by rwa [List.length_map]), List.length_map, hfirst]
      exact ih (hsorted.sublist hsub) (fun m' hm' =>
        (hfront m' (List.mem_cons_of_mem _ hm')).sublist hsub) hc

/-! ### The order in which comments are sorted -/

theorem Commentary.startLe_trans (a b c : Comment)
    (hab : decide (a.span.startByte ≤ b.span.startByte) = true)
    (hbc : decide (b.span.startByte ≤ c.span.startByte) = true) :
    decide (a.span.startByte ≤ c.span.startByte) = true := by
  simp only [decide_eq_true_eq] at hab hbc ⊢
  omega

theorem Commentary.startLe_total (a b : Comment) :
    (decide (a.span.startByte ≤ b.span.startByte) ||
      decide (b.span.startByte ≤ a.span.startByte)) = true := by
  simp only [Bool.or_eq_true, decide_eq_true_eq]
  omega

/-! ### Orderly comments -/

/-- Comments that can be told apart in an outline: each ends before the next one starts, they come
on the lines in the same order as in the text, and none that starts after the end of a node starts
on a line before the last line of that node. -/
structure Orderly (o : Outline) (cs : List Comment) : Prop where
  range : ∀ c ∈ cs, c.span.startByte ≤ c.span.endByte
  disjoint : cs.Pairwise fun b c => b.span.endByte ≤ c.span.startByte
  lines : cs.Pairwise fun b c => b.line ≤ c.line
  after : ∀ i n, o.node? i = some n → ∀ c ∈ cs, n.span.endByte ≤ c.span.startByte →
    n.span.stop.line ≤ c.line

theorem Orderly.sorted {o : Outline} {cs : List Comment} (h : Orderly o cs) :
    cs.Pairwise fun b c => b.span.startByte ≤ c.span.startByte := by
  refine h.disjoint.imp_of_mem fun {b c} hb _ hbc => ?_
  exact Nat.le_trans (h.range b hb) hbc

/-- Orderly comments stand in the order in which they start. -/
theorem Orderly.inOrder_eq {o : Outline} {cs : List Comment} (h : Orderly o cs) :
    Commentary.inOrder cs = cs :=
  List.mergeSort_of_pairwise (h.sorted.imp fun hbc => decide_eq_true hbc)

/-- A moment that suits a comment suits every comment that ends before it starts. -/
theorem Orderly.suits_of_before {o : Outline} {cs : List Comment} (h : Orderly o cs) {m : Moment}
    (hm : ∀ i n, m = .leave i n → o.node? i = some n) {b c : Comment} (hb : b ∈ cs) (hc : c ∈ cs)
    (hbc : b.span.endByte ≤ c.span.startByte) (hlines : b.line ≤ c.line)
    (hsuits : m.suits c = true) : m.suits b = true := by
  have hrange := h.range b hb
  have hrange' := h.range c hc
  cases m with
  | enter i n =>
    rw [Moment.suits, Bool.and_eq_true, decide_eq_true_eq] at hsuits ⊢
    exact ⟨hsuits.1, by omega⟩
  | leave i n =>
    rw [Moment.suits, Bool.or_eq_true, decide_eq_true_eq, beq_iff_eq] at hsuits ⊢
    rcases Nat.lt_or_ge b.span.startByte n.span.endByte with hlt | hge
    · exact Or.inl hlt
    · -- a comment after the end of the node, and not after one on its last line
      have hafter := h.after i n (hm i n rfl) b hb hge
      rcases hsuits with hlt | hline
      · omega
      · exact Or.inr (by omega)

/-- A moment that suits a comment suits all comments before it. -/
theorem Orderly.suits {o : Outline} {cs : List Comment} (h : Orderly o cs) {m : Moment}
    (hm : ∀ i n, m = .leave i n → o.node? i = some n) :
    cs.Pairwise fun b c => m.suits c = true → m.suits b = true :=
  (h.disjoint.and h.lines).imp_of_mem fun hb hc hbc => h.suits_of_before hm hb hc hbc.1 hbc.2

/-! ### Owners -/

/-- No comment is given away twice. -/
theorem length_sweep_le (ss : List Stop) : ∀ cs, (sweep ss cs).length ≤ cs.length := by
  induction ss with
  | nil => intro cs; exact Nat.zero_le _
  | cons s ss ih =>
    intro cs
    have hlater := ih (cs.dropWhile s.takes)
    have hsplit := congrArg List.length (List.takeWhile_append_dropWhile (p := s.takes) (l := cs))
    rw [List.length_append] at hsplit
    rw [sweep_cons, List.length_append, List.length_map]
    omega

/-- The moments of a walk are those of the nodes of the tree. -/
theorem mem_preorder_of_mem_walk (t : Rose (Nat × Node)) :
    ∀ m ∈ walk t, ∃ l ∈ t.preorder, m = .enter l.1 l.2 ∨ m = .leave l.1 l.2 := by
  induction t using Rose.induction with
  | node l ts ih =>
    intro m hm
    rw [walk_node] at hm
    rw [Rose.preorder_node]
    rcases List.mem_cons.1 hm with rfl | hm
    · exact ⟨l, List.mem_cons_self, Or.inl rfl⟩
    · rcases List.mem_append.1 hm with hm | hm
      · obtain ⟨t, ht, hm⟩ := List.mem_flatMap.1 hm
        obtain ⟨k, hk, hmk⟩ := ih t ht m hm
        exact ⟨k, List.mem_cons_of_mem _ (List.mem_flatMap.2 ⟨t, ht, hk⟩), hmk⟩
      · rw [List.mem_singleton] at hm
        exact ⟨l, List.mem_cons_self, Or.inr hm⟩

theorem Outline.node?_of_mem_moments {o : Outline} {m : Moment} (hm : m ∈ o.moments) :
    ∃ n, o.node? m.owner = some n ∧ (m = .enter m.owner n ∨ m = .leave m.owner n) := by
  rw [Outline.moments] at hm
  cases ht : o.rootTree? with
  | none => rw [ht] at hm; cases hm
  | some t =>
    rw [ht] at hm
    obtain ⟨⟨i, n⟩, hmem, hcase⟩ := mem_preorder_of_mem_walk t m hm
    have hnode := Outline.node?_of_mem_rootTree? ht hmem
    rcases hcase with rfl | rfl
    · exact ⟨n, hnode, Or.inl rfl⟩
    · exact ⟨n, hnode, Or.inr rfl⟩

theorem Outline.node?_of_leave_mem_moments {o : Outline} {m : Moment} (hm : m ∈ o.moments) :
    ∀ i n, m = .leave i n → o.node? i = some n := by
  rintro i n rfl
  obtain ⟨n', hn', hcase⟩ := node?_of_mem_moments hm
  rcases hcase with heq | heq
  · cases heq
  · rw [(Moment.leave.inj heq).2]
    exact hn'

/-- If the moment at which a comment is due suits a later comment, that one is due then as well. -/
theorem Orderly.due?_of_before {o : Outline} {cs : List Comment} (h : Orderly o cs)
    {b c : Comment} (hb : b ∈ cs) (hc : c ∈ cs) (hbc : b.span.endByte ≤ c.span.startByte)
    (hlines : b.line ≤ c.line) {m : Moment} (hdue : o.due? b = some m)
    (hsuits : m.suits c = true) : o.due? c = some m := by
  rw [Outline.due?, List.find?_eq_some_iff_append] at hdue ⊢
  obtain ⟨-, before, after, hsplit, hbefore⟩ := hdue
  refine ⟨hsuits, before, after, hsplit, fun x hx => ?_⟩
  -- an earlier moment for the later comment would have been one for the earlier comment
  have hmem : x ∈ o.moments := by rw [hsplit]; exact List.mem_append_left _ hx
  have hnot : ¬ x.suits b = true := by simpa using hbefore x hx
  have hnot' : ¬ x.suits c = true := fun hxc =>
    hnot (h.suits_of_before (Outline.node?_of_leave_mem_moments hmem) hb hc hbc hlines hxc)
  simpa using hnot'

theorem Outline.stops_rootTree? (o : Outline) :
    (o.rootTree?.map stops).getD [] = o.moments.flatMap Moment.stops := by
  rw [Outline.moments]
  cases o.rootTree? with
  | none => rfl
  | some t => exact stops_eq_flatMap t

namespace Commentary

/-- **Each comment belongs to the node of the first moment of the walk that suits it**, and to
none if there is no such moment. -/
theorem getElem?_owners_associate {o : Outline} {cs : List Comment}
    (h : Orderly o (inOrder cs)) {k : Nat} {c : Comment} (hk : (inOrder cs)[k]? = some c) :
    (associate o cs).owners[k]? = (o.due? c).map Moment.owner := by
  have howners : (associate o cs).owners = sweep (o.moments.flatMap Moment.stops) (inOrder cs) := by
    rw [← o.stops_rootTree?]
    rfl
  rw [howners, Outline.due?]
  exact getElem?_sweep h.sorted
    (fun m hm => h.suits (Outline.node?_of_leave_mem_moments hm)) hk

/-- The positions of an owner from `before.length` on, looked up after the comments `before`. -/
theorem filterMap_zipIdx_eq (i : Nat) : ∀ (owners : List Nat) (before cs : List Comment),
    (((owners.zipIdx before.length).filter (·.1 == i)).map Prod.snd).filterMap
        ((before ++ cs)[·]?) =
      ((owners.zip cs).filter (·.1 == i)).map Prod.snd := by
  intro owners
  induction owners with
  | nil => intro before cs; rfl
  | cons w owners ih =>
    intro before cs
    cases cs with
    | nil =>
      -- there are more owners than comments
      rw [List.zip_nil_right, List.filter_nil, List.map_nil, List.append_nil,
        List.filterMap_eq_nil_iff]
      intro j hj
      obtain ⟨⟨v, j'⟩, hmem, rfl⟩ := List.mem_map.1 hj
      exact List.getElem?_eq_none (List.mem_zipIdx (List.mem_filter.1 hmem).1).1
    | cons c cs =>
      have hlater := ih (before ++ [c]) cs
      rw [List.length_append, List.length_singleton, List.append_assoc,
        List.singleton_append] at hlater
      rw [List.zipIdx_cons, List.zip_cons_cons, List.filter_cons, List.filter_cons]
      dsimp only
      split
      · rw [List.map_cons, List.filterMap_cons, List.getElem?_append_right (Nat.le_refl _),
          Nat.sub_self, List.getElem?_cons_zero, List.map_cons, hlater]
      · exact hlater

/-- The comments of a node, from the pairs of an owner and a comment. -/
theorem attached_eq_zip (k : Commentary) (i : Nat) :
    k.attached i = ((k.owners.zip k.comments).filter (·.1 == i)).map Prod.snd :=
  filterMap_zipIdx_eq i k.owners [] k.comments

/-- If the owners of the front of a list of comments are known, and the others have none, then the
comments with a given owner can be picked comment by comment. -/
theorem map_snd_filter_zip {owner? : Comment → Option Nat} (i : Nat) {cs : List Comment} :
    ∀ {owners : List Nat}, owners.length ≤ cs.length →
      (∀ (k : Nat) (c : Comment), cs[k]? = some c → owners[k]? = owner? c) →
      ((owners.zip cs).filter (·.1 == i)).map Prod.snd = cs.filter (owner? · == some i) := by
  induction cs with
  | nil => intro owners _ _; rw [List.zip_nil_right]; rfl
  | cons c cs ih =>
    intro owners hlength howners
    rw [List.filter_cons, ← howners 0 c rfl]
    cases owners with
    | nil =>
      have hnone := @ih [] (Nat.zero_le _) fun k d hd => howners (k + 1) d hd
      rw [List.zip_nil_left, List.filter_nil, List.map_nil] at hnone ⊢
      exact hnone
    | cons w owners =>
      have hlater := ih (Nat.le_of_succ_le_succ hlength) fun k d hd => howners (k + 1) d hd
      rw [List.zip_cons_cons, List.filter_cons, List.getElem?_cons_zero, ← hlater,
        Option.some_beq_some]
      dsimp only
      split <;> rfl

/-- **A node has the comments that are due to it.** -/
theorem attached_associate {o : Outline} {cs : List Comment} (h : Orderly o (inOrder cs))
    (i : Nat) :
    (associate o cs).attached i =
      (inOrder cs).filter fun c => (o.due? c).map Moment.owner == some i := by
  rw [attached_eq_zip]
  exact map_snd_filter_zip i (length_sweep_le _ _) fun k c hc => getElem?_owners_associate h hc

end Commentary

/-! ### The order of moments -/

theorem walk_sublist_flatMap {t : Rose (Nat × Node)} {ts : List (Rose (Nat × Node))}
    (ht : t ∈ ts) : (walk t).Sublist (ts.flatMap walk) := by
  have h := (List.singleton_sublist.2 ht).flatMap walk
  rwa [List.flatMap_cons, List.flatMap_nil, List.append_nil] at h

theorem flatMap_walk_sublist (l : Nat × Node) (ts : List (Rose (Nat × Node))) :
    (ts.flatMap walk).Sublist (walk (.node l ts)) := by
  rw [walk_node]
  exact (List.sublist_append_left _ _).trans (List.sublist_cons_self _ _)

/-- A node is entered before it is left. -/
theorem enter_leave_sublist (t : Rose (Nat × Node)) :
    ∀ l ∈ t.preorder, [Moment.enter l.1 l.2, .leave l.1 l.2].Sublist (walk t) := by
  induction t using Rose.induction with
  | node k ts ih =>
    intro l hl
    rw [Rose.preorder_node, List.mem_cons, List.mem_flatMap] at hl
    rcases hl with rfl | ⟨t, ht, hl⟩
    · rw [walk_node]
      exact (List.sublist_append_right _ _).cons_cons _
    · exact ((ih t ht l hl).trans (walk_sublist_flatMap ht)).trans (flatMap_walk_sublist k ts)

/-- A node is left before the node above it. -/
theorem leave_leave_sublist (t : Rose (Nat × Node)) : ∀ e ∈ t.edges,
    [Moment.leave e.2.1 e.2.2, .leave e.1.1 e.1.2].Sublist (walk t) := by
  induction t using Rose.induction with
  | node k ts ih =>
    intro e he
    rcases Rose.mem_edges_node.1 he with ⟨t, ht, rfl⟩ | ⟨t, ht, he⟩
    · have hleave : Moment.leave t.label.1 t.label.2 ∈ ts.flatMap walk := by
        refine List.mem_flatMap.2 ⟨t, ht, ?_⟩
        exact (enter_leave_sublist t _ t.label_mem_preorder).subset (by simp)
      rw [walk_node]
      exact ((List.singleton_sublist.2 hleave).append (List.Sublist.refl _)).trans
        (List.sublist_cons_self _ _)
    · exact ((ih t ht e he).trans (walk_sublist_flatMap ht)).trans (flatMap_walk_sublist k ts)

/-- If no label occurs twice, no moment does. -/
theorem nodup_walk (t : Rose (Nat × Node)) : t.preorder.Nodup → (walk t).Nodup := by
  induction t using Rose.induction with
  | node l ts ih =>
    intro h
    rw [Rose.preorder_node, List.nodup_cons, List.nodup_flatMap] at h
    obtain ⟨hroot, hbelow, hdisjoint⟩ := h
    -- a moment of a tree comes from a label of that tree
    have hmem : ∀ m ∈ ts.flatMap walk, m ≠ .enter l.1 l.2 ∧ m ≠ .leave l.1 l.2 := by
      intro m hm
      obtain ⟨t, ht, hm⟩ := List.mem_flatMap.1 hm
      obtain ⟨k, hk, hcase⟩ := mem_preorder_of_mem_walk t m hm
      have hne : k ≠ l := by
        rintro rfl
        exact hroot (List.mem_flatMap.2 ⟨t, ht, hk⟩)
      rcases hcase with rfl | rfl
      · refine ⟨fun heq => hne ?_, Moment.noConfusion⟩
        exact Prod.ext (Moment.enter.inj heq).1 (Moment.enter.inj heq).2
      · refine ⟨Moment.noConfusion, fun heq => hne ?_⟩
        exact Prod.ext (Moment.leave.inj heq).1 (Moment.leave.inj heq).2
    have hflat : (ts.flatMap walk).Nodup := by
      refine List.nodup_flatMap.2 ⟨fun t ht => ih t ht (hbelow t ht), ?_⟩
      refine hdisjoint.imp ?_
      intro s t hst m hms hmt
      obtain ⟨j, hj, hcase⟩ := mem_preorder_of_mem_walk s m hms
      obtain ⟨k, hk, hcase'⟩ := mem_preorder_of_mem_walk t m hmt
      have hjk : j = k := by
        rcases hcase with rfl | rfl <;> rcases hcase' with heq | heq
        · exact Prod.ext (Moment.enter.inj heq).1 (Moment.enter.inj heq).2
        · cases heq
        · cases heq
        · exact Prod.ext (Moment.leave.inj heq).1 (Moment.leave.inj heq).2
      exact hst hj (hjk ▸ hk)
    rw [walk_node, List.nodup_cons, List.nodup_append]
    refine ⟨?_, hflat, List.pairwise_singleton _ _, ?_⟩
    · intro hm
      rcases List.mem_append.1 hm with hm | hm
      · exact (hmem _ hm).1 rfl
      · cases List.mem_singleton.1 hm
    · intro m hm m' hm'
      rw [List.mem_singleton] at hm'
      rw [hm']
      exact (hmem m hm).2

/-- What comes before an entry that the second part of a list does not have is in the first. -/
theorem mem_left_of_pair_sublist {α : Type} {x y : α} {l₁ l₂ : List α}
    (hsub : [x, y].Sublist (l₁ ++ l₂)) (hy : y ∉ l₂) : x ∈ l₁ := by
  obtain ⟨k₁, k₂, heq, h₁, h₂⟩ := List.sublist_append_iff.1 hsub
  cases k₁ with
  | cons a k₁ =>
    rw [List.cons_append, List.cons.injEq] at heq
    rw [heq.1]
    exact h₁.subset List.mem_cons_self
  | nil =>
    rw [List.nil_append] at heq
    rw [← heq] at h₂
    exact absurd (h₂.subset (List.mem_cons_of_mem _ List.mem_cons_self)) hy

/-- Coming before something is transitive in a list without repetitions. -/
theorem pair_sublist_trans {α : Type} {x y z : α} {l : List α} (hnodup : l.Nodup)
    (hxy : [x, y].Sublist l) (hyz : [y, z].Sublist l) : [x, z].Sublist l := by
  obtain ⟨l₁, l₂, rfl, hy, hz⟩ := List.cons_sublist_iff.1 hyz
  have hy' : y ∉ l₂ := fun h => (List.nodup_append.1 hnodup).2.2 y hy y h rfl
  have hx := mem_left_of_pair_sublist hxy hy'
  exact (List.singleton_sublist.2 hx).append hz

namespace Outline

theorem moments_ofRose (t : Rose Node) : (ofRose (some t)).moments = walk (t.number 0) := by
  rw [moments, rootTree?_ofRose]
  rfl

namespace IsTree

variable {o : Outline} (ho : o.IsTree)
include ho

theorem nodup_moments : o.moments.Nodup := by
  obtain ⟨r, rfl⟩ := ho
  cases r with
  | none => exact List.nodup_nil
  | some t =>
    rw [moments_ofRose]
    exact nodup_walk _ (t.nodup_preorder_number 0)

theorem enter_leave_sublist_moments {i : Nat} {n : Node} (hn : o.node? i = some n) :
    [Moment.enter i n, .leave i n].Sublist o.moments := by
  obtain ⟨r, rfl⟩ := ho
  cases r with
  | none => cases hn
  | some t =>
    rw [moments_ofRose]
    exact enter_leave_sublist _ (i, n) (node?_ofRose.1 hn)

theorem leave_leave_sublist_moments {i p : Nat} {m n : Node} (hp : o.parent? i = some p)
    (hm : o.node? p = some m) (hn : o.node? i = some n) :
    [Moment.leave i n, .leave p m].Sublist o.moments := by
  obtain ⟨r, rfl⟩ := ho
  cases r with
  | none => cases hn
  | some t =>
    obtain ⟨hedge, -⟩ := edge_of_parent? hp hm hn
    rw [moments_ofRose]
    exact leave_leave_sublist _ _ hedge

/-- No earlier moment suits a comment than the one at which it is due. -/
theorem not_suits_of_due? {c : Comment} {m x : Moment} (hdue : o.due? c = some m)
    (hsub : [x, m].Sublist o.moments) : ¬ x.suits c = true := by
  have hnodup := ho.nodup_moments
  rw [due?, List.find?_eq_some_iff_append] at hdue
  obtain ⟨-, before, after, hsplit, hbefore⟩ := hdue
  have hne : x ≠ m := by
    rintro rfl
    exact List.nodup_iff_sublist.1 hnodup x hsub
  rw [hsplit, List.append_cons] at hnodup hsub
  have hm : m ∉ after := fun h =>
    (List.nodup_append.1 hnodup).2.2 m (List.mem_append_right _ List.mem_cons_self) m h rfl
  have hx : x ∈ before := by
    rcases List.mem_append.1 (mem_left_of_pair_sublist hsub hm) with hx | hx
    · exact hx
    · exact absurd (List.mem_singleton.1 hx) hne
  simpa using hbefore x hx

/-- A comment that is due when a node is left starts after the end of all nodes that are left
before. -/
theorem end_le_of_due?_leave {i j : Nat} {m n : Node} {c : Comment}
    (hdue : o.due? c = some (.leave j m))
    (hbefore : [Moment.leave i n, .leave j m].Sublist o.moments) :
    n.span.endByte ≤ c.span.startByte := by
  have hnot := ho.not_suits_of_due? hdue hbefore
  rw [Moment.suits, Bool.or_eq_true, decide_eq_true_eq, not_or] at hnot
  exact Nat.le_of_not_lt hnot.1

end IsTree

end Outline

end ModelLayout

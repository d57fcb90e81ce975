import Mathlib.Data.List.Induction
import ModelLayout.Proofs.Forest
import ModelLayout.Proofs.StableSort

/-!
# Comments are shared out without loss

The comments of a file can be shared out with a *ledger*: a cursor into the list of comments, and for
each node a list of the positions that it has taken.  The walk moves the cursor forward and never
back, and it comes to a node several times, so the lists of different nodes grow in turns.  Here the
ledger at the end of the walk is compared with the owners that the sweep finds, and whatever holds of
a ledger holds of every commentary.  Nothing is assumed about ranges: nodes and comments may overlap
and end before they start.

## Main definitions

* `Ledger`, `Ledger.attach`, `Ledger.atStop`, `Ledger.visit` — the walk with a ledger.
* `Ledger.Kept` — every position before the cursor stands in one list, and once.
* `Commentary.SharedOut` — what is known of the commentary of any outline.

## Main results

* `Ledger.Kept.attach`, `Ledger.kept_ofOwners` — taking one comment keeps a ledger in order, and so
  does taking any number.
* `Ledger.visit_ofOwners` — the walk with a ledger takes what the sweep takes.
* `Commentary.exists_sharedOut` — comments are shared out without loss and repetition.
-/

namespace ModelLayout

/-! ### The walk with a ledger -/

/-- What is written down on the walk: the position of the next comment, and for each node the
positions of the comments that it has taken. -/
structure Ledger where
  cursor : Nat
  entries : Nat → List Nat

namespace Ledger

/-- The ledger at the beginning of the walk. -/
def blank : Ledger :=
  ⟨0, fun _ => []⟩

/-- The node `i` takes the next comment. -/
def attach (l : Ledger) (i : Nat) : Ledger where
  cursor := l.cursor + 1
  entries j := if j = i then l.entries j ++ [l.cursor] else l.entries j

/-- At a stop, comments are taken as long as the next one passes the test. -/
def atStop (cs : List Comment) (l : Ledger) (s : Stop) : Ledger :=
  if h : l.cursor < cs.length then
    if s.takes cs[l.cursor] then atStop cs (l.attach s.owner) s else l
  else l
termination_by cs.length - l.cursor
decreasing_by
  have hnext : (l.attach s.owner).cursor = l.cursor + 1 := rfl
  omega

theorem atStop_of_le {cs : List Comment} {l : Ledger} (h : cs.length ≤ l.cursor) (s : Stop) :
    atStop cs l s = l := by
  rw [atStop, dif_neg (Nat.not_lt.2 h)]

theorem atStop_of_takes {cs : List Comment} {l : Ledger} {s : Stop} {c : Comment}
    (hc : cs[l.cursor]? = some c) (h : s.takes c = true) :
    atStop cs l s = atStop cs (l.attach s.owner) s := by
  obtain ⟨hlt, rfl⟩ := List.getElem?_eq_some_iff.1 hc
  rw [atStop, dif_pos hlt, if_pos h]

theorem atStop_of_not_takes {cs : List Comment} {l : Ledger} {s : Stop} {c : Comment}
    (hc : cs[l.cursor]? = some c) (h : ¬ s.takes c = true) : atStop cs l s = l := by
  obtain ⟨hlt, rfl⟩ := List.getElem?_eq_some_iff.1 hc
  rw [atStop, dif_pos hlt, if_neg h]

mutual

/-- The walk through a tree: the stops on entering, the trees below, the stops on leaving. -/
def visit (cs : List Comment) (l : Ledger) : Rose (Nat × Node) → Ledger
  | .node (i, n) ts =>
    (Stop.onLeave i n).foldl (atStop cs) (visitAll cs ((Stop.onEnter i n).foldl (atStop cs) l) ts)

/-- The walk through several trees. -/
def visitAll (cs : List Comment) (l : Ledger) : List (Rose (Nat × Node)) → Ledger
  | [] => l
  | t :: ts => visitAll cs (visit cs l t) ts

end

/-- The walk through an outline, from its root. -/
def ofOutline (o : Outline) (cs : List Comment) : Ledger :=
  match o.rootTree? with
  | none => blank
  | some t => visit cs blank t

/-! ### What holds of every ledger -/

/-- Every position before the cursor stands in the list of one node, no other position stands in any
list, and the lists are increasing. -/
structure Kept (l : Ledger) : Prop where
  taken : ∀ p < l.cursor, ∃ i, p ∈ l.entries i ∧ ∀ j, p ∈ l.entries j → j = i
  free : ∀ p, l.cursor ≤ p → ∀ i, p ∉ l.entries i
  increasing : ∀ i, (l.entries i).Pairwise (· < ·)

theorem kept_blank : blank.Kept where
  taken := fun p hp => absurd hp (Nat.not_lt_zero p)
  free := fun _ _ _ => List.not_mem_nil
  increasing := fun _ => .nil

theorem mem_entries_attach {l : Ledger} {i j p : Nat} :
    p ∈ (l.attach i).entries j ↔ p ∈ l.entries j ∨ (j = i ∧ p = l.cursor) := by
  by_cases hj : j = i
  · simp [attach, hj]
  · simp [attach, hj]

/-- Taking one comment keeps a ledger in order. -/
theorem Kept.attach {l : Ledger} (h : l.Kept) (i : Nat) : (l.attach i).Kept where
  taken := by
    intro p hp
    have hnext : (l.attach i).cursor = l.cursor + 1 := rfl
    rcases Nat.lt_or_ge p l.cursor with hlt | hge
    · obtain ⟨k, hk, honly⟩ := h.taken p hlt
      refine ⟨k, mem_entries_attach.2 (Or.inl hk), fun j hj => ?_⟩
      rcases mem_entries_attach.1 hj with hj | ⟨-, rfl⟩
      · exact honly j hj
      · omega
    · -- the comment that is taken now, which is in no list yet
      have hp' : p = l.cursor := by omega
      refine ⟨i, mem_entries_attach.2 (Or.inr ⟨rfl, hp'⟩), fun j hj => ?_⟩
      rcases mem_entries_attach.1 hj with hj | ⟨hj, -⟩
      · exact absurd hj (h.free p hge j)
      · exact hj
  free := by
    intro p hp j hj
    have hnext : (l.attach i).cursor = l.cursor + 1 := rfl
    rcases mem_entries_attach.1 hj with hj | ⟨-, rfl⟩
    · exact h.free p (by omega) j hj
    · omega
  increasing := by
    intro j
    by_cases hj : j = i
    · simp only [Ledger.attach, if_pos hj]
      refine List.pairwise_append.2 ⟨h.increasing j, List.pairwise_singleton _ _, ?_⟩
      intro p hp q hq
      rw [List.mem_singleton.1 hq]
      apply Nat.lt_of_not_le
      intro hle
      exact h.free p hle j hp
    · simp only [Ledger.attach, if_neg hj]
      exact h.increasing j

/-- A position before the cursor occurs once in the list of one node, and nowhere else. -/
theorem Kept.exists_count {l : Ledger} (h : l.Kept) {p : Nat} (hp : p < l.cursor) :
    ∃ i, ∀ j, (l.entries j).count p = if j = i then 1 else 0 := by
  obtain ⟨i, hi, honly⟩ := h.taken p hp
  refine ⟨i, fun j => ?_⟩
  by_cases hj : j = i
  · subst hj
    rw [if_pos rfl]
    exact List.count_eq_one_of_mem ((h.increasing j).imp Nat.ne_of_lt) hi
  · rw [if_neg hj]
    exact List.count_eq_zero.2 fun hmem => hj (honly j hmem)

/-! ### The ledger of a list of owners -/

/-- The ledger in which the comment at position `k` has been taken by the node `owners[k]`. -/
def ofOwners (owners : List Nat) : Ledger where
  cursor := owners.length
  entries i := (owners.zipIdx.filter (·.1 == i)).map (·.2)

@[simp] theorem cursor_ofOwners (owners : List Nat) :
    (ofOwners owners).cursor = owners.length := rfl

theorem ofOwners_concat (owners : List Nat) (i : Nat) :
    ofOwners (owners ++ [i]) = (ofOwners owners).attach i := by
  have hentries : ∀ j, (ofOwners (owners ++ [i])).entries j =
      ((ofOwners owners).attach i).entries j := by
    intro j
    by_cases hj : j = i
    · simp [ofOwners, attach, List.zipIdx_append, hj]
    · simp [ofOwners, attach, List.zipIdx_append, hj, Ne.symm hj]
  have hcursor : (ofOwners (owners ++ [i])).cursor = ((ofOwners owners).attach i).cursor := by
    simp [ofOwners, attach]
  exact Ledger.mk.injEq .. ▸ ⟨hcursor, funext hentries⟩

/-- So does taking any number of comments. -/
theorem kept_ofOwners (owners : List Nat) : (ofOwners owners).Kept := by
  induction owners using List.reverseRecOn with
  | nil => exact kept_blank
  | append_singleton owners i ih =>
    rw [ofOwners_concat]
    exact ih.attach i

/-! ### The walk takes what the sweep takes -/

/-- The comments that are left after some stops are those behind the ones that were taken. -/
theorem leftover_eq_drop (ss : List Stop) :
    ∀ cs : List Comment, leftover ss cs = cs.drop (sweep ss cs).length := by
  induction ss with
  | nil => intro cs; rfl
  | cons s ss ih =>
    intro cs
    have hdrop : cs.drop (cs.takeWhile s.takes).length = cs.dropWhile s.takes := by
      have hsplit := List.takeWhile_append_dropWhile (p := s.takes) (l := cs)
      calc cs.drop (cs.takeWhile s.takes).length
          = (cs.takeWhile s.takes ++ cs.dropWhile s.takes).drop (cs.takeWhile s.takes).length := by
            rw [hsplit]
        _ = cs.dropWhile s.takes := List.drop_left
    rw [leftover, ih, sweep_cons, List.length_append, List.length_map, ← List.drop_drop, hdrop]

/-- Some stops and then others: the cursor stands where the first ones have left it. -/
theorem append_sweep_append (ss ss' : List Stop) (cs : List Comment) (owners : List Nat) :
    (owners ++ sweep ss (cs.drop owners.length)) ++
        sweep ss' (cs.drop (owners ++ sweep ss (cs.drop owners.length)).length) =
      owners ++ sweep (ss ++ ss') (cs.drop owners.length) := by
  rw [sweep_append, leftover_eq_drop, List.drop_drop, List.length_append, List.append_assoc]

theorem atStop_ofOwners (cs : List Comment) (s : Stop) (owners : List Nat) :
    atStop cs (ofOwners owners) s = ofOwners (owners ++ sweep [s] (cs.drop owners.length)) := by
  -- induction on the comments from the cursor on
  generalize hrest : cs.drop owners.length = rest
  induction rest generalizing owners with
  | nil =>
    rw [atStop_of_le (List.drop_eq_nil_iff.1 hrest)]
    simp
  | cons c rest ih =>
    have hc : cs[(ofOwners owners).cursor]? = some c := by
      rw [cursor_ofOwners, ← List.head?_drop, hrest]
      rfl
    have hnext : cs.drop (owners ++ [s.owner]).length = rest := by
      rw [List.length_append, ← List.drop_drop, hrest]
      rfl
    by_cases htakes : s.takes c = true
    · rw [atStop_of_takes hc htakes, ← ofOwners_concat, ih _ hnext]
      simp [htakes]
    · rw [atStop_of_not_takes hc htakes]
      simp [htakes]

theorem foldl_atStop_ofOwners (cs : List Comment) (ss : List Stop) : ∀ owners,
    ss.foldl (atStop cs) (ofOwners owners) =
      ofOwners (owners ++ sweep ss (cs.drop owners.length)) := by
  induction ss with
  | nil => intro owners; simp
  | cons s ss ih =>
    intro owners
    rw [List.foldl_cons, atStop_ofOwners, ih, append_sweep_append]
    rfl

mutual

/-- **The walk with a ledger takes what the sweep takes.** -/
theorem visit_ofOwners (cs : List Comment) : ∀ (t : Rose (Nat × Node)) (owners : List Nat),
    visit cs (ofOwners owners) t = ofOwners (owners ++ sweep (stops t) (cs.drop owners.length))
  | .node (i, n) ts, owners => by
    rw [visit, foldl_atStop_ofOwners, visitAll_ofOwners, foldl_atStop_ofOwners,
      append_sweep_append, append_sweep_append, stops]

theorem visitAll_ofOwners (cs : List Comment) : ∀ (ts : List (Rose (Nat × Node))) (owners : List Nat),
    visitAll cs (ofOwners owners) ts =
      ofOwners (owners ++ sweep (stopsAll ts) (cs.drop owners.length))
  | [], owners => by simp [visitAll, stopsAll]
  | t :: ts, owners => by
    rw [visitAll, visit_ofOwners, visitAll_ofOwners, append_sweep_append, stopsAll]

end

theorem ofOutline_eq (o : Outline) (cs : List Comment) :
    ofOutline o cs = ofOwners (sweep ((o.rootTree?.map stops).getD []) cs) := by
  rw [ofOutline]
  cases o.rootTree? with
  | none => rfl
  | some t => exact visit_ofOwners cs t []

end Ledger

/-! ### Comments in order -/

namespace Commentary

/-- The sort is stable: comments that start at the same byte stay as they were. -/
theorem filter_inOrder (cs : List Comment) (b : Nat) :
    (inOrder cs).filter (·.span.startByte == b) = cs.filter (·.span.startByte == b) := by
  refine filter_mergeSort startLe_trans startLe_total (fun c d hc hd => ?_) cs
  have hcb : c.span.startByte = b := by simpa using hc
  have hdb : d.span.startByte = b := by simpa using hd
  exact decide_eq_true (by omega)

/-- The commentary `k` shares out the comments `cs` among the nodes of the outline `o`, and `cut` is
the position of the first comment that belongs to no node. -/
structure SharedOut (o : Outline) (cs : List Comment) (k : Commentary) (cut : Nat) : Prop where
  perm : k.comments.Perm cs
  sorted : k.comments.Pairwise fun b c => b.span.startByte ≤ c.span.startByte
  stable : ∀ b, k.comments.filter (·.span.startByte == b) = cs.filter (·.span.startByte == b)
  /-- The lists of positions are those that the walk with a cursor writes down. -/
  written : Ledger.ofOutline o k.comments = ⟨cut, k.positions⟩
  cut_le : cut ≤ k.comments.length
  /-- A comment before the cut belongs to one node, and occurs once among its comments. -/
  before : ∀ p < cut, ∃ i, ∀ j, (k.positions j).count p = if j = i then 1 else 0
  /-- A comment from the cut on belongs to no node. -/
  after : ∀ p, cut ≤ p → ∀ i, p ∉ k.positions i
  increasing : ∀ i, (k.positions i).Pairwise (· < ·)
  attached : ∀ i, (k.attached i).map some = (k.positions i).map (k.comments[·]?)
  reachable : ∀ i, k.positions i ≠ [] → o.Reachable i
  /-- Every comment that starts before the end of the root belongs to some node. -/
  covered : ∀ r n, o.root? = some r → o.node? r = some n → ∀ p c, k.comments[p]? = some c →
    c.span.startByte < n.span.endByte → p < cut

/-- Where every look-up succeeds, nothing is left out. -/
theorem map_some_filterMap {α β : Type} {f : α → Option β} {l : List α}
    (h : ∀ a ∈ l, (f a).isSome = true) : (l.filterMap f).map some = l.map f := by
  induction l with
  | nil => rfl
  | cons a l ih =>
    obtain ⟨b, hb⟩ := Option.isSome_iff_exists.1 (h a List.mem_cons_self)
    simp [hb, ih fun a ha => h a (List.mem_cons_of_mem _ ha)]

/-- The stops of the walk through a tree are made at its nodes. -/
theorem owner_of_mem_stops {t : Rose (Nat × Node)} {s : Stop} (hs : s ∈ stops t) :
    ∃ l ∈ t.preorder, s.owner = l.1 := by
  rw [stops_eq_flatMap, List.mem_flatMap] at hs
  obtain ⟨m, hm, hs⟩ := hs
  obtain ⟨l, hl, rfl | rfl⟩ := mem_preorder_of_mem_walk t m hm
  · exact ⟨l, hl, Stop.owner_of_mem_onEnter hs⟩
  · exact ⟨l, hl, Stop.owner_of_mem_onLeave hs⟩

/-- Only nodes that can be reached from the root take comments. -/
theorem reachable_of_mem_owners {o : Outline} {cs : List Comment} {i : Nat}
    (h : i ∈ (associate o cs).owners) : o.Reachable i := by
  obtain ⟨s, hs, rfl⟩ := exists_stop_of_mem_sweep h
  cases ht : o.rootTree? with
  | none => rw [ht] at hs; cases hs
  | some t =>
    rw [ht] at hs
    obtain ⟨l, hl, howner⟩ := owner_of_mem_stops hs
    rw [howner]
    exact Outline.reachable_of_mem_rootTree? ht hl

/-- When the root has been left, no comment is left that starts before its end. -/
theorem lt_length_owners {o : Outline} {cs : List Comment} {r : Nat} {n : Node}
    (hr : o.root? = some r) (hn : o.node? r = some n) {p : Nat} {c : Comment}
    (hc : (inOrder cs)[p]? = some c) (hlt : c.span.startByte < n.span.endByte) :
    p < (associate o cs).owners.length := by
  apply Nat.lt_of_not_le
  intro hle
  rw [Outline.root?_eq, Option.map_eq_some_iff] at hr
  obtain ⟨⟨⟨r', n'⟩, ts⟩, ht, rfl⟩ := hr
  have hn' : o.node? r' = some n' :=
    Outline.node?_of_mem_rootTree? ht (Rose.label_mem_preorder (.node (r', n') ts))
  have hnn : n' = n := Option.some.inj (hn'.symm.trans hn)
  subst hnn
  -- the comment would be among those that are left in the end
  have hmem : c ∈ leftover (stops (.node (r', n') ts)) (inOrder cs) := by
    have howners : (associate o cs).owners = sweep (stops (.node (r', n') ts)) (inOrder cs) := by
      rw [associate, ht]
      rfl
    rw [Ledger.leftover_eq_drop, ← howners]
    refine List.mem_of_getElem? (i := p - (associate o cs).owners.length) ?_
    rw [List.getElem?_drop, Nat.add_sub_cancel' hle]
    exact hc
  rw [stops, leftover_append, leftover_append] at hmem
  have hsorted := ((inStartOrder_inOrder cs).leftover (Stop.onEnter r' n')).leftover (stopsAll ts)
  exact not_takes_of_mem_leftover hsorted hmem (decide_eq_true hlt)

/-- **Comments are shared out without loss and repetition.** -/
theorem exists_sharedOut (o : Outline) (cs : List Comment) :
    ∃ cut, SharedOut o cs (associate o cs) cut := by
  have hkept := Ledger.kept_ofOwners (associate o cs).owners
  have hlength : (associate o cs).owners.length ≤ (associate o cs).comments.length :=
    length_sweep_le _ _
  refine ⟨(associate o cs).owners.length, ?_⟩
  exact {
    perm := List.mergeSort_perm _ _
    sorted := inStartOrder_inOrder cs
    stable := filter_inOrder cs
    written := Ledger.ofOutline_eq o _
    cut_le := hlength
    before := fun p hp => hkept.exists_count hp
    after := hkept.free
    increasing := hkept.increasing
    attached := fun i => map_some_filterMap fun p hp => by
      have hlt : p < (associate o cs).owners.length :=
        Nat.lt_of_not_le fun hle => hkept.free p hle i hp
      rw [List.getElem?_eq_getElem (Nat.lt_of_lt_of_le hlt hlength)]
      rfl
    reachable := fun i hi => reachable_of_mem_owners
      (Classical.byContradiction fun hnot => hi (positions_eq_nil hnot))
    covered := fun r n hr hn p c hc hlt => lt_length_owners hr hn hc hlt }

end Commentary

end ModelLayout

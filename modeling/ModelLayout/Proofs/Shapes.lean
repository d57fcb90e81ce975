import ModelLayout.Proofs.DocumentOrder

/-!
# The shapes in an outline

What is reviewed, and which comment introduces it, is decided by looking at the nodes around a
declaration: a sequence is taken for the body of a class or block, and the first node below a block
for its call.  Here it is proved that the outline of a file has the shapes that this relies on.
Nothing is assumed about the parse tree; fields may be missing, and ranges may be anything.

What holds of a node and those right below it is shown for each construct of the reading, and then
carried over from trees to outlines.

## Main definitions

* `Shape.hasBody` — the shapes below which a sequence may stand.
* `Shaped` — what stands right below a node.
* `Regular` — trees whose nodes are all shaped and whose root is no sequence.
* `Outline.WellShaped` — the same for the numbers of an outline.

## Main results

* `Reading.regular_ofTree` — all that is read is regular.
* `Outline.wellShaped_ofTree` — the outline of every file is well shaped.
-/

namespace ModelLayout

/-- The shapes that have a body, which is a sequence if it has two statements or more. -/
def Shape.hasBody : Shape → Bool
  | .classDef | .moduleDef | .method | .singletonMethod | .block | .lambda => true
  | _ => false

/-- The call `head` is that of the block `n`: of the same method, and it starts where the block
does. -/
structure IsCallOf (head n : Node) : Prop where
  shape : head.shape = .call
  name : head.name = n.name
  hasReceiver : head.hasReceiver = n.hasReceiver
  hasArguments : head.hasArguments = n.hasArguments
  startByte : head.span.startByte = n.span.startByte
  start : head.span.start = n.span.start

/-- What stands right below the node `n`. -/
structure Shaped (n : Node) (below : List Node) : Prop where
  /-- A sequence has at least two statements, and no statement is a sequence. -/
  statements : n.shape = .sequence → 2 ≤ below.length ∧ ∀ m ∈ below, m.shape ≠ .sequence
  spans : SpansStatements n below
  /-- Only the last node below another one can be a sequence. -/
  front : ∀ m ∈ below.dropLast, m.shape ≠ .sequence
  body : ∀ m ∈ below, m.shape = .sequence → n.shape.hasBody = true
  call : n.shape = .block → ∃ head, below.head? = some head ∧ IsCallOf head n
  constant : n.shape = .constant → below.length ≤ 1

/-- All nodes of the tree are shaped, and its root is no sequence. -/
structure Regular (s : Rose Node) : Prop where
  everywhere : s.Everywhere Shaped
  root : s.label.shape ≠ .sequence

/-! ### Putting a node above trees -/

theorem shape_ne_of_mem_map {ss : List (Rose Node)} (h : ∀ s ∈ ss, Regular s) :
    ∀ m ∈ ss.map Rose.label, m.shape ≠ .sequence := by
  intro m hm
  obtain ⟨s, hs, rfl⟩ := List.mem_map.1 hm
  exact (h s hs).root

/-- A node that is neither a sequence nor a block, above regular trees; if it is a constant, there
is at most one of them. -/
theorem Regular.node {n : Node} {ss : List (Rose Node)} (hsequence : n.shape ≠ .sequence)
    (hblock : n.shape ≠ .block) (hconstant : n.shape = .constant → ss.length ≤ 1)
    (hss : ∀ s ∈ ss, Regular s) : Regular (.node n ss) where
  everywhere := by
    have hshape := shape_ne_of_mem_map hss
    refine .node ?_ fun s hs => (hss s hs).everywhere
    exact {
      statements := fun h => absurd h hsequence
      spans := fun h => absurd h hsequence
      front := fun m hm => hshape m ((List.dropLast_sublist _).subset hm)
      body := fun m hm h => absurd h (hshape m hm)
      call := fun h => absurd h hblock
      constant := fun h => by rw [List.length_map]; exact hconstant h }
  root := hsequence

/-- Statements gathered into one node: this may be a sequence, and all is shaped below it. -/
theorem everywhere_shaped_gather {ss : List (Rose Node)} (h : ∀ s ∈ ss, Regular s) :
    ∀ s ∈ gather ss, s.Everywhere Shaped := by
  match ss, h with
  | [], _ => intro s hs; cases hs
  | [r], h =>
    intro s hs
    rw [← Option.mem_some.1 hs]
    exact (h r List.mem_cons_self).everywhere
  | r :: t :: rest, h =>
    intro s hs
    have hshape := shape_ne_of_mem_map h
    have hspans : s.Everywhere SpansStatements := by
      refine everywhere_spansStatements_gather (fun s hs => ?_) s hs
      exact (h s hs).everywhere.imp fun n below hshaped => hshaped.spans
    rw [← Option.mem_some.1 hs] at hspans ⊢
    cases hspans with
    | node here _ =>
      refine .node ?_ fun s hs => (h s hs).everywhere
      exact {
        statements := fun _ => ⟨by simp, hshape⟩
        spans := here
        front := fun m hm => hshape m ((List.dropLast_sublist _).subset hm)
        body := fun m hm hsequence => absurd hsequence (hshape m hm)
        call := fun hblock => by cases hblock
        constant := fun hconstant => by cases hconstant }

/-- A node with a body: the body comes last, behind trees that are no sequences. -/
theorem Regular.node_of_hasBody {n : Node} {front body : List (Rose Node)}
    (hbody : n.shape.hasBody = true)
    (hcall : n.shape = .block → ∃ s, front.head? = some s ∧ IsCallOf s.label n)
    (hfront : ∀ s ∈ front, Regular s) (hstatements : ∀ s ∈ body, Regular s) :
    Regular (.node n (front ++ (gather body).toList)) := by
  have hsequence : n.shape ≠ .sequence := fun h => by rw [h] at hbody; cases hbody
  have hconstant : n.shape ≠ .constant := fun h => by rw [h] at hbody; cases hbody
  have hshape := shape_ne_of_mem_map hfront
  refine ⟨.node ?_ fun s hs => ?_, hsequence⟩
  · exact {
      statements := fun h => absurd h hsequence
      spans := fun h => absurd h hsequence
      front := by
        intro m hm
        refine hshape m ?_
        cases hgather : gather body with
        | none =>
          rw [hgather, Option.toList_none, List.append_nil] at hm
          exact (List.dropLast_sublist _).subset hm
        | some b =>
          rw [hgather, Option.toList_some, List.map_append, List.map_singleton,
            List.dropLast_concat] at hm
          exact hm
      body := fun _ _ _ => hbody
      call := by
        intro hblock
        obtain ⟨s, hs, hheaded⟩ := hcall hblock
        refine ⟨s.label, ?_, hheaded⟩
        rw [List.map_append, List.head?_append, List.head?_map, hs]
        rfl
      constant := fun h => absurd h hconstant }
  · rcases List.mem_append.1 hs with hs | hs
    · exact (hfront s hs).everywhere
    · exact everywhere_shaped_gather hstatements s (Option.mem_toList.1 hs)

/-! ### The constructs of the reading -/

namespace Reading

section Constructs

variable {rs : List Reading} (hrs : ∀ r ∈ rs, Yields Regular r)
include hrs

theorem regular_plain (l : Ruby.Label) : Regular (plain l rs) :=
  Regular.node Shape.noConfusion Shape.noConfusion Shape.noConfusion
    (map_yields hrs (fun _ h => h.expression) fun _ hr => (List.mem_filter.1 hr).1)

theorem regular_definition (text : Span → String) {shape : Shape} (hbody : shape.hasBody = true)
    (hblock : shape ≠ .block) (l : Ruby.Label) : Regular (definition text shape l rs) := by
  refine Regular.node_of_hasBody hbody (fun h => absurd h hblock) (fun s hs => ?_)
    (bodyOf_yields hrs)
  refine map_yields hrs (fun _ h => h.expression) (fun r hr => ?_) s hs
  obtain ⟨f, -, hf⟩ := List.mem_filterMap.1 hr
  exact List.mem_of_find?_eq_some hf

theorem regular_assignment (text : Span → String) (l : Ruby.Label) :
    Regular (assignment text l rs) := by
  have hright : ∀ s ∈ ((field? rs .right).map (·.expression)).toList, Regular s := fun s hs =>
    field?_expression hrs s (Option.mem_toList.1 hs)
  have hlength : ((field? rs .right).map (·.expression)).toList.length ≤ 1 := by
    cases (field? rs .right).map (·.expression) with
    | none => simp
    | some s => simp
  unfold assignment
  split
  · exact regular_plain hrs l
  · split
    · exact Regular.node Shape.noConfusion Shape.noConfusion (fun _ => hlength) hright
    · exact Regular.node Shape.noConfusion Shape.noConfusion (fun _ => hlength) hright
    · exact regular_plain hrs l

theorem regular_call (text : Span → String) (l : Ruby.Label) : Regular (call text l rs) := by
  -- receiver and arguments, which stand below the call with a block and without
  have hbelow : ∀ s ∈ ((field? rs .receiver).map (·.expression)).toList ++
      ((field? rs .arguments).map (·.parts)).getD [], Regular s := by
    intro s hs
    rcases List.mem_append.1 hs with hs | hs
    · exact field?_expression hrs s (Option.mem_toList.1 hs)
    · cases ha : field? rs .arguments with
      | none => rw [ha] at hs; cases hs
      | some r =>
        rw [ha] at hs
        exact (yields_field? hrs ha).parts s hs
  unfold call
  split
  · exact Regular.node Shape.noConfusion Shape.noConfusion Shape.noConfusion hbelow
  · next block hblock =>
    have hyields := yields_field? hrs hblock
    have hstart : (callSpan l rs).startByte = l.span.startByte ∧
        (callSpan l rs).start = l.span.start := by
      unfold callSpan
      split
      · exact ⟨rfl, rfl⟩
      · exact ⟨rfl, rfl⟩
    dsimp only
    rw [← List.cons_append]
    refine Regular.node_of_hasBody rfl (fun _ => ⟨_, rfl, ?_⟩) (fun s hs => ?_) hyields.body
    · exact ⟨rfl, rfl, rfl, rfl, hstart.1, hstart.2⟩
    · rcases List.mem_cons.1 hs with rfl | hs
      · exact Regular.node Shape.noConfusion Shape.noConfusion Shape.noConfusion hbelow
      · exact hyields.parameters s (Option.mem_toList.1 hs)

theorem regular_lambda (l : Ruby.Label) : Regular (lambda l rs) := by
  have hparameters : ∀ s ∈ ((field? rs .parameters).map (·.expression)).toList, Regular s :=
    fun s hs => field?_expression hrs s (Option.mem_toList.1 hs)
  unfold lambda
  cases hbody : field? rs .body with
  | none =>
    have hempty : ∀ s ∈ ([] : List (Rose Node)), Regular s := List.forall_mem_nil _
    exact Regular.node_of_hasBody rfl Shape.noConfusion hparameters hempty
  | some r =>
    exact Regular.node_of_hasBody rfl Shape.noConfusion hparameters (yields_field? hrs hbody).body

theorem regular_expressionOf (text : Span → String) (l : Ruby.Label) :
    Regular (expressionOf text l rs) := by
  unfold expressionOf
  split
  case h_5 => exact regular_assignment hrs text l
  case h_6 => exact regular_call hrs text l
  case h_7 => exact regular_lambda hrs l
  case h_8 => exact regular_plain hrs l
  all_goals exact regular_definition hrs text rfl Shape.noConfusion l

theorem regular_statementOf (text : Span → String) (l : Ruby.Label) :
    Regular (statementOf text l rs) := by
  unfold statementOf
  split
  · exact Regular.node Shape.noConfusion Shape.noConfusion Shape.noConfusion
      (List.forall_mem_nil _)
  · exact regular_expressionOf hrs text l

/-- One step of the reading. -/
theorem regular_of (text : Span → String) (l : Ruby.Label) : Yields Regular (of text l rs) where
  expression := regular_expressionOf hrs text l
  statement := regular_statementOf hrs text l
  parameters := fun s hs => field?_expression hrs s hs
  parts := map_yields hrs (fun _ h => h.expression) fun _ hr => (List.mem_filter.1 hr).1
  statements := map_yields hrs (fun _ h => h.statement) fun _ hr => (List.mem_filter.1 hr).1
  body := bodyOf_yields hrs

end Constructs

/-- **All that is read from a parse tree is regular.** -/
theorem regular_ofTree (text : Span → String) (t : Ruby.Tree) : Yields Regular (ofTree text t) := by
  induction t using Rose.induction with
  | node l ts ih =>
    rw [ofTree_node]
    refine regular_of (fun r hr => ?_) text l
    obtain ⟨t, ht, rfl⟩ := List.mem_map.1 hr
    exact ih t ht

end Reading

/-! ### Outlines -/

namespace Outline

/-- The shapes of an outline: what stands right under each node, and where sequences stand. -/
structure WellShaped (o : Outline) : Prop where
  /-- A sequence has at least two children, and none of them is a sequence. -/
  statements : ∀ {i : Nat} {n : Node}, o.node? i = some n → n.shape = .sequence →
    2 ≤ (o.childNumbers i).length ∧ ∀ m ∈ o.children i, m.shape ≠ .sequence
  /-- A sequence starts where its first child starts and ends where its last child ends. -/
  span : ∀ {i : Nat} {n : Node}, o.node? i = some n → n.shape = .sequence →
    ∃ first last, (o.children i).head? = some first ∧ (o.children i).getLast? = some last ∧
      n.span = ⟨first.span.startByte, last.span.endByte, first.span.start, last.span.stop⟩
  /-- A sequence is the root, or the last child of a node with a body and the only sequence
  there. -/
  place : ∀ {i : Nat} {n : Node}, o.node? i = some n → n.shape = .sequence →
    (o.root? = some i ∧ o.parent? i = none) ∨
      ∃ p m, o.parent? i = some p ∧ o.node? p = some m ∧ m.shape.hasBody = true ∧
        (o.childNumbers p).getLast? = some i ∧
        ∀ j ∈ o.childNumbers p, ∀ k, o.node? j = some k → k.shape = .sequence → j = i
  /-- The first child of a block is its call. -/
  call : ∀ {i : Nat} {n : Node}, o.node? i = some n → n.shape = .block →
    ∃ head, (o.children i).head? = some head ∧ IsCallOf head n
  /-- At most one node stands right under a constant. -/
  constant : ∀ {i : Nat} {n : Node}, o.node? i = some n → n.shape = .constant →
    (o.childNumbers i).length ≤ 1

variable {t : Rose Node}

/-- Only the first node of the outline of a tree has no parent. -/
theorem eq_zero_of_parent?_eq_none {i : Nat} {n : Node} (hn : (ofRose (some t)).node? i = some n)
    (hp : (ofRose (some t)).parent? i = none) : i = 0 := by
  obtain ⟨⟨parent, m⟩, hl, -⟩ := Option.map_eq_some_iff.1 hn
  rw [parent?, hl] at hp
  dsimp only [Option.bind_some] at hp
  subst hp
  cases t with
  | node a ts => exact Rose.eq_zero_of_linksFrom hl

/-- A child that is a sequence is the last one. -/
theorem eq_getLast?_of_sequence (h : t.Everywhere Shaped) {i p : Nat} {n : Node}
    (hn : (ofRose (some t)).node? i = some n) (hsequence : n.shape = .sequence)
    (hp : (ofRose (some t)).parent? i = some p) :
    ((ofRose (some t)).childNumbers p).getLast? = some i := by
  obtain ⟨m, hm⟩ := exists_node?_of_parent? hp
  obtain ⟨below, hshaped, hnumbers, hnodes⟩ := exists_below_of_everywhere h hm
  have hi : i ∈ below.map Prod.fst := by
    rw [← hnumbers]
    exact mem_childNumbers.2 hp
  obtain ⟨⟨i', n'⟩, hmem, rfl⟩ := List.mem_map.1 hi
  have hn' : n' = n := by
    have hnode := hnodes _ hmem
    rw [hn, Option.some.injEq] at hnode
    exact hnode.symm
  subst hn'
  rcases List.eq_nil_or_concat' below with rfl | ⟨front, last, rfl⟩
  · cases hmem
  · rcases List.mem_append.1 hmem with hfront | hlast
    · -- in front of the last one there is no sequence
      refine absurd hsequence (hshaped.front n' ?_)
      rw [List.map_append, List.map_singleton, List.dropLast_concat]
      exact List.mem_map.2 ⟨_, hfront, rfl⟩
    · rw [hnumbers, List.map_append, List.map_singleton, List.getLast?_concat,
        ← List.mem_singleton.1 hlast]

/-- What holds of the nodes of a tree holds of the numbers of its outline. -/
theorem wellShaped_ofRose (h : t.Everywhere Shaped) : (ofRose (some t)).WellShaped where
  statements := by
    intro i n hn hsequence
    have hshaped := children_of_everywhere h hn
    refine ⟨?_, (hshaped.statements hsequence).2⟩
    exact Nat.le_trans (hshaped.statements hsequence).1 (List.length_filterMap_le _ _)
  span := by
    intro i n hn hsequence
    exact (children_of_everywhere h hn).spans hsequence
  place := by
    intro i n hn hsequence
    cases hp : (ofRose (some t)).parent? i with
    | none =>
      have hi := eq_zero_of_parent?_eq_none hn hp
      exact Or.inl ⟨by rw [hi, root?_ofRose], rfl⟩
    | some p =>
      obtain ⟨m, hm⟩ := exists_node?_of_parent? hp
      have hlast := eq_getLast?_of_sequence h hn hsequence hp
      have hbody : m.shape.hasBody = true := by
        refine (children_of_everywhere h hm).body n ?_ hsequence
        exact List.mem_filterMap.2 ⟨i, mem_childNumbers.2 hp, hn⟩
      refine Or.inr ⟨p, m, rfl, hm, hbody, hlast, fun j hj k hk hsequence' => ?_⟩
      have hlast' := eq_getLast?_of_sequence h hk hsequence' (mem_childNumbers.1 hj)
      rw [hlast, Option.some.injEq] at hlast'
      exact hlast'.symm
  call := by
    intro i n hn hblock
    exact (children_of_everywhere h hn).call hblock
  constant := by
    intro i n hn hconstant
    obtain ⟨below, hshaped, hnumbers, -⟩ := exists_below_of_everywhere h hn
    have hlength := hshaped.constant hconstant
    rw [List.length_map] at hlength
    rw [hnumbers, List.length_map]
    exact hlength

/-- **The outline of every file is well shaped**, whatever its parse tree. -/
theorem wellShaped_ofTree (text : Span → String) (t : Ruby.Tree) : (ofTree text t).WellShaped := by
  have hread := (Reading.regular_ofTree text t).statements
  rw [ofTree_eq]
  cases hs : gather (Reading.ofTree text t).statements with
  | none =>
    have hempty : ∀ {i : Nat} {n : Node}, (ofRose none).node? i ≠ some n := by
      intro i n hn
      cases hn
    exact ⟨fun hn => absurd hn hempty, fun hn => absurd hn hempty, fun hn => absurd hn hempty,
      fun hn => absurd hn hempty, fun hn => absurd hn hempty⟩
  | some s => exact wellShaped_ofRose (everywhere_shaped_gather hread s hs)

end Outline
end ModelLayout

import ModelLayout.Proofs.WithoutComments
import ModelLayout.Proofs.DocumentOrder

/-!
# Where the nodes of a parse tree stand in the outline

The outline of a file is made from readings, which know nothing of the parse tree they come from.
Here the way is followed from the other end: which nodes of a parse tree are read at all, in what
role, and under which number what they contribute stands in the outline.

## Main definitions

* `Ruby.readBelow`, `Ruby.IsRead` — the nodes that are read, and in what role.
* `Outline.Holds` — a tree stands in an outline, with its root under the given number.

## Main results

* `Reading.contribution_mem_subtrees` — what is read below a node is found in what it contributes.
* `Outline.exists_holds_of_isRead` — every node that is read has its place in the outline.
* `Outline.Holds.child` — the children of a node, by index.
-/

namespace ModelLayout

/-! ### Subtrees and their numbers -/

namespace Rose

variable {α : Type}

theorem self_mem_subtrees (t : Rose α) : t ∈ t.subtrees := by
  cases t with
  | node a ts => exact mem_subtrees_node.2 (Or.inl rfl)

theorem mem_subtrees_of_mem {a : α} {ts : List (Rose α)} {s : Rose α} (hs : s ∈ ts) :
    s ∈ (node a ts).subtrees :=
  mem_subtrees_node.2 (Or.inr ⟨s, hs, s.self_mem_subtrees⟩)

theorem mem_subtrees_trans {r s : Rose α} (hrs : r ∈ s.subtrees) (t : Rose α) :
    s ∈ t.subtrees → r ∈ t.subtrees := by
  induction t using Rose.induction with
  | node a ts ih =>
    intro hst
    rcases mem_subtrees_node.1 hst with rfl | ⟨t, ht, hst⟩
    · exact hrs
    · exact mem_subtrees_node.2 (Or.inr ⟨t, ht, ih t ht hst⟩)

theorem Everywhere.of_mem_subtrees {p : α → List α → Prop} {s t : Rose α} (h : t.Everywhere p) :
    s ∈ t.subtrees → s.Everywhere p := by
  induction h with
  | node here below ih =>
    intro hs
    rcases mem_subtrees_node.1 hs with rfl | ⟨t, ht, hs⟩
    · exact .node here below
    · exact ih t ht hs

theorem label_mem_preorder_of_mem_subtrees {s : Rose α} (t : Rose α) :
    s ∈ t.subtrees → s.label ∈ t.preorder := by
  induction t using Rose.induction with
  | node a ts ih =>
    intro hs
    rw [preorder_node]
    rcases mem_subtrees_node.1 hs with rfl | ⟨t, ht, hs⟩
    · exact List.mem_cons_self
    · exact List.mem_cons_of_mem _ (List.mem_flatMap.2 ⟨t, ht, ih t ht hs⟩)

/-- Several trees with numbers: each of them is numbered from some number on. -/
theorem getElem?_numberAll {ts : List (Rose α)} {t : Rose α} : ∀ {i : Nat}, ts[i]? = some t →
    ∀ next, ∃ q, (numberAll next ts)[i]? = some (t.number q) := by
  induction ts with
  | nil =>
    intro i ht
    simp at ht
  | cons s ts ih =>
    intro i ht next
    cases i with
    | zero =>
      rw [List.getElem?_cons_zero, Option.some.injEq] at ht
      subst ht
      exact ⟨next, rfl⟩
    | succ i => exact ih ht _

/-- A subtree has some number when the tree is numbered. -/
theorem exists_number_mem_subtrees {s : Rose α} (t : Rose α) :
    s ∈ t.subtrees → ∀ next, ∃ p, s.number p ∈ (t.number next).subtrees := by
  induction t using Rose.induction with
  | node a ts ih =>
    intro hs next
    rcases mem_subtrees_node.1 hs with rfl | ⟨t, ht, hs⟩
    · exact ⟨next, self_mem_subtrees _⟩
    · obtain ⟨i, hi⟩ := List.mem_iff_getElem?.1 ht
      obtain ⟨q, hq⟩ := getElem?_numberAll hi (next + 1)
      obtain ⟨p, hp⟩ := ih t ht hs q
      exact ⟨p, mem_subtrees_node.2 (Or.inr ⟨_, List.mem_of_getElem? hq, hp⟩)⟩

end Rose

/-! ### The nodes that are read -/

namespace Ruby

/-- The method that a call names. -/
def calledName? (text : Span → String) (t : Tree) : Option String :=
  (child? t.children .method).map fun m => text m.label.span

/-- A call that is followed by a block. -/
def IsBlockCall (t : Tree) : Prop :=
  t.label.kind = .call ∧ (child? t.children .block).isSome = true

instance (t : Tree) : Decidable (IsBlockCall t) :=
  inferInstanceAs (Decidable (_ ∧ _))

/-- An assignment whose left side is a constant. -/
def AssignsConstant (t : Tree) : Prop :=
  ∃ target ∈ child? t.children .left,
    target.label.kind = .constant ∨ target.label.kind = .scopeResolution

instance (t : Tree) : Decidable (AssignsConstant t) :=
  inferInstanceAs (Decidable (∃ target ∈ child? t.children .left, _))

/-- The nodes that are read right below a node in the given role, with their own roles. -/
def readBelow (role : Role) (t : Tree) : List (Role × Tree) :=
  let parts (ts : List Tree) : List (Role × Tree) := ts.map (.part, ·)
  let body (b : Tree) : List (Role × Tree) := (bodyStatements b).map (.statement, ·)
  let field (s : Tree) (f : Field) : List Tree := (child? s.children f).toList
  match t.label.kind with
  | .classDef | .moduleDef | .method | .singletonMethod =>
    parts (Field.headers.filterMap (child? t.children)) ++ body t
  | .assignment => if AssignsConstant t then parts (field t .right) else parts (statementsBelow t)
  | .call =>
    parts (field t .receiver ++ (field t .arguments).flatMap statementsBelow) ++
      (field t .block).flatMap fun b => parts (field b .parameters) ++ body b
  | .lambda => parts (field t .parameters) ++ (field t .body).flatMap body
  | .identifier => if role = .statement then [] else parts (statementsBelow t)
  | _ => parts (statementsBelow t)

/-- The nodes that are read when the file with the parse tree `root` is, with their roles. -/
inductive IsRead (root : Tree) : Role → Tree → Prop
  | top {s : Tree} (h : s ∈ statementsBelow root) : IsRead root .statement s
  | under {role role' : Role} {t s : Tree} (ht : IsRead root role t)
      (hs : (role', s) ∈ readBelow role t) : IsRead root role' s

end Ruby

/-! ### One step down -/

namespace Reading

variable (text : Span → String)

/-- A statement is found in the node that its list is gathered to. -/
theorem exists_gather_of_mem {ss : List (Rose Node)} {s : Rose Node} (hs : s ∈ ss) :
    ∃ g, gather ss = some g ∧ s ∈ g.subtrees := by
  match ss, hs with
  | [_], hs =>
    rw [List.mem_singleton] at hs
    subst hs
    exact ⟨s, rfl, s.self_mem_subtrees⟩
  | _ :: _ :: _, hs => exact ⟨_, rfl, Rose.mem_subtrees_of_mem hs⟩

/-- A statement of a body is found in what the body is below. -/
theorem mem_subtrees_of_mem_body {n : Node} {front ss : List (Rose Node)} {s : Rose Node}
    (hs : s ∈ ss) : s ∈ (Rose.node n (front ++ (gather ss).toList)).subtrees := by
  obtain ⟨g, hg, hs⟩ := exists_gather_of_mem hs
  refine Rose.mem_subtrees_trans hs _ (Rose.mem_subtrees_of_mem (List.mem_append_right _ ?_))
  rw [hg]
  exact List.mem_cons_self

theorem mem_subtrees_of_mem_parts {n : Node} {ss : List Ruby.Tree} {back : List (Rose Node)}
    {s : Ruby.Tree} (hs : s ∈ ss) :
    contribution text .part s ∈
      (Rose.node n (ss.map (contribution text .part) ++ back)).subtrees :=
  Rose.mem_subtrees_of_mem (List.mem_append_left _ (List.mem_map_of_mem hs))

theorem contribution_mem_plain {l : Ruby.Label} {ts : List Ruby.Tree} {role : Ruby.Role}
    {s : Ruby.Tree} (h : (role, s) ∈ (Ruby.statementsBelow (.node l ts)).map (Ruby.Role.part, ·)) :
    contribution text role s ∈ (plain l (ts.map (ofTree text))).subtrees := by
  obtain ⟨s, hs, heq⟩ := List.mem_map.1 h
  cases heq
  rw [plain_map]
  exact Rose.mem_subtrees_of_mem (List.mem_map_of_mem hs)

theorem contribution_mem_definition {shape : Shape} {l : Ruby.Label} {ts : List Ruby.Tree}
    {role : Ruby.Role} {s : Ruby.Tree}
    (h : (role, s) ∈ (Ruby.Field.headers.filterMap (Ruby.child? ts)).map (Ruby.Role.part, ·) ++
      (Ruby.bodyStatements (.node l ts)).map (Ruby.Role.statement, ·)) :
    contribution text role s ∈ (definition text shape l (ts.map (ofTree text))).subtrees := by
  rw [definition_map]
  rcases List.mem_append.1 h with h | h
  · obtain ⟨s, hs, heq⟩ := List.mem_map.1 h
    cases heq
    exact mem_subtrees_of_mem_parts text hs
  · obtain ⟨s, hs, heq⟩ := List.mem_map.1 h
    cases heq
    exact mem_subtrees_of_mem_body (List.mem_map_of_mem hs)

theorem contribution_mem_call {l : Ruby.Label} {ts : List Ruby.Tree} {role : Ruby.Role}
    {s : Ruby.Tree}
    (h : (role, s) ∈ ((Ruby.child? ts .receiver).toList ++
        (Ruby.child? ts .arguments).toList.flatMap Ruby.statementsBelow).map (Ruby.Role.part, ·) ++
      (Ruby.child? ts .block).toList.flatMap fun b =>
        (Ruby.child? b.children .parameters).toList.map (Ruby.Role.part, ·) ++
          (Ruby.bodyStatements b).map (Ruby.Role.statement, ·)) :
    contribution text role s ∈ (call text l (ts.map (ofTree text))).subtrees := by
  cases hblock : Ruby.child? ts .block with
  | none =>
    rw [hblock, Option.toList_none, List.flatMap_nil, List.append_nil] at h
    obtain ⟨s, hs, heq⟩ := List.mem_map.1 h
    cases heq
    rw [call_map_of_none text l hblock]
    exact Rose.mem_subtrees_of_mem (List.mem_map_of_mem hs)
  | some b =>
    rw [call_map_of_block text l hblock]
    rw [hblock, Option.toList_some, List.flatMap_singleton] at h
    rcases List.mem_append.1 h with h | h
    · obtain ⟨s, hs, heq⟩ := List.mem_map.1 h
      cases heq
      -- the operands stand below the call, which is the first child of the block
      exact Rose.mem_subtrees_trans (Rose.mem_subtrees_of_mem (List.mem_map_of_mem hs)) _
        (Rose.mem_subtrees_of_mem (List.mem_append_left _ List.mem_cons_self))
    rcases List.mem_append.1 h with h | h
    · obtain ⟨s, hs, heq⟩ := List.mem_map.1 h
      cases heq
      rw [Option.mem_toList] at hs
      rw [show Ruby.child? b.children .parameters = some s from hs]
      exact Rose.mem_subtrees_of_mem (List.mem_append_left _ (by simp))
    · obtain ⟨s, hs, heq⟩ := List.mem_map.1 h
      cases heq
      exact mem_subtrees_of_mem_body (List.mem_map_of_mem hs)

theorem contribution_mem_lambda {l : Ruby.Label} {ts : List Ruby.Tree} {role : Ruby.Role}
    {s : Ruby.Tree}
    (h : (role, s) ∈ (Ruby.child? ts .parameters).toList.map (Ruby.Role.part, ·) ++
      (Ruby.child? ts .body).toList.flatMap fun b =>
        (Ruby.bodyStatements b).map (Ruby.Role.statement, ·)) :
    contribution text role s ∈ (lambda l (ts.map (ofTree text))).subtrees := by
  rw [lambda_map]
  rcases List.mem_append.1 h with h | h
  · obtain ⟨s, hs, heq⟩ := List.mem_map.1 h
    cases heq
    rw [Option.mem_toList] at hs
    rw [show Ruby.child? ts .parameters = some s from hs]
    exact Rose.mem_subtrees_of_mem (List.mem_append_left _ (by simp))
  · obtain ⟨b, hb, h⟩ := List.mem_flatMap.1 h
    obtain ⟨s, hs, heq⟩ := List.mem_map.1 h
    cases heq
    rw [Option.mem_toList] at hb
    rw [show Ruby.child? ts .body = some b from hb]
    exact mem_subtrees_of_mem_body (List.mem_map_of_mem hs)

theorem contribution_mem_assignment {l : Ruby.Label} {ts : List Ruby.Tree} {role : Ruby.Role}
    {s : Ruby.Tree}
    (h : (role, s) ∈ if Ruby.AssignsConstant (.node l ts)
      then (Ruby.child? ts .right).toList.map (Ruby.Role.part, ·)
      else (Ruby.statementsBelow (.node l ts)).map (Ruby.Role.part, ·)) :
    contribution text role s ∈ (assignment text l (ts.map (ofTree text))).subtrees := by
  by_cases hconstant : Ruby.AssignsConstant (.node l ts)
  · rw [if_pos hconstant] at h
    obtain ⟨s, hs, heq⟩ := List.mem_map.1 h
    cases heq
    rw [Option.mem_toList] at hs
    obtain ⟨target, htarget, hkind⟩ := hconstant
    rw [Rose.children_node] at htarget
    rw [assignment_map_of_constant text l htarget hkind,
      show Ruby.child? ts .right = some s from hs]
    exact Rose.mem_subtrees_of_mem List.mem_cons_self
  · rw [if_neg hconstant] at h
    have hplain : ∀ target, Ruby.child? ts .left = some target →
        ¬ (target.label.kind = .constant ∨ target.label.kind = .scopeResolution) :=
      fun target htarget hkind => hconstant ⟨target, htarget, hkind⟩
    rw [assignment_map_of_plain text l hplain]
    exact contribution_mem_plain text h

/-- What is read right below a node is found in what the node contributes. -/
theorem contribution_mem_subtrees {role role' : Ruby.Role} {t s : Ruby.Tree}
    (h : (role', s) ∈ Ruby.readBelow role t) :
    contribution text role' s ∈ (contribution text role t).subtrees := by
  cases t with
  | node l ts =>
    by_cases hid : l.kind = .identifier
    · cases role with
      | statement => simp [Ruby.readBelow, hid] at h
      | part =>
        simp only [Ruby.readBelow, Rose.label_node, hid, reduceCtorEq, if_false] at h
        rw [contribution, ofTree_node]
        show _ ∈ (expressionOf text l _).subtrees
        simp only [expressionOf, hid]
        exact contribution_mem_plain text h
    · rw [contribution_of_ne_identifier text hid]
      rw [Ruby.readBelow] at h
      simp only [Rose.label_node, Rose.children_node] at h
      rw [expressionOf]
      cases hkind : l.kind <;> simp only [hkind] at h ⊢
      case identifier => exact absurd hkind hid
      case classDef | moduleDef | method | singletonMethod =>
        exact contribution_mem_definition text h
      case assignment => exact contribution_mem_assignment text h
      case call => exact contribution_mem_call text h
      case lambda => exact contribution_mem_lambda text h
      all_goals exact contribution_mem_plain text h

end Reading

/-! ### Trees that stand in an outline -/

namespace Outline

/-- A tree stands in the outline, with its root under the number `p`. -/
def Holds (o : Outline) (p : Nat) (r : Rose Node) : Prop :=
  ∃ t, o.rootTree? = some t ∧ r.number p ∈ t.subtrees

theorem holds_ofRose {s? : Option (Rose Node)} {p : Nat} {r : Rose Node} :
    (ofRose s?).Holds p r ↔ ∃ t, s? = some t ∧ r.number p ∈ (t.number 0).subtrees := by
  cases s? with
  | none =>
    constructor
    · rintro ⟨t, ht, -⟩
      exact absurd ht (by simp [ofRose, empty, rootTree?, trees, Rose.forest, Rose.pending])
    · rintro ⟨t, ht, -⟩
      simp at ht
  | some t =>
    unfold Holds
    rw [rootTree?_ofRose]
    simp

variable {o : Outline} {p : Nat}

theorem Holds.node? {r : Rose Node} (h : o.Holds p r) : o.node? p = some r.label := by
  obtain ⟨t, ht, hr⟩ := h
  refine node?_of_mem_rootTree? ht ?_
  have hlabel := Rose.label_mem_preorder_of_mem_subtrees t hr
  rwa [Rose.label_number] at hlabel

/-- The numbers of the nodes right below a tree that stands in an outline. -/
theorem Holds.childNumbers {n : Node} {ss : List (Rose Node)} (h : o.Holds p (.node n ss))
    (ho : o.IsTree) : o.childNumbers p = (Rose.numberAll (p + 1) ss).map (·.label.1) := by
  obtain ⟨s?, rfl⟩ := ho
  obtain ⟨t, rfl, hr⟩ := holds_ofRose.1 h
  have hevery := (everywhere_childNumbers t).of_mem_subtrees hr
  rw [Rose.number] at hevery
  cases hevery with
  | node here _ =>
    rw [here, List.map_map]
    rfl

/-- The child with the given index of a tree that stands in an outline. -/
theorem Holds.child {n : Node} {ss : List (Rose Node)} (h : o.Holds p (.node n ss))
    (ho : o.IsTree) {i : Nat} {s : Rose Node} (hs : ss[i]? = some s) :
    ∃ q, (o.childNumbers p)[i]? = some q ∧ o.Holds q s ∧ o.parent? q = some p := by
  obtain ⟨q, hq⟩ := Rose.getElem?_numberAll hs (p + 1)
  have hindex : (o.childNumbers p)[i]? = some q := by
    rw [h.childNumbers ho, List.getElem?_map, hq, Option.map_some, Rose.label_number]
  refine ⟨q, hindex, ?_, (mem_childNumbers.1 (List.mem_of_getElem? hindex))⟩
  obtain ⟨t, ht, hr⟩ := h
  exact ⟨t, ht, Rose.mem_subtrees_trans (Rose.mem_subtrees_of_mem (List.mem_of_getElem? hq)) t hr⟩

/-- Every node of a parse tree that is read has its place in the outline. -/
theorem exists_holds_of_isRead (text : Span → String) {root t : Ruby.Tree} {role : Ruby.Role}
    (h : Ruby.IsRead root role t) :
    ∃ p, (ofTree text root).Holds p (Reading.contribution text role t) := by
  induction h with
  | @top s hs =>
    have hstatement : Reading.contribution text .statement s ∈
        (Reading.ofTree text root).statements := by
      rw [Reading.statements_ofTree]
      exact List.mem_map_of_mem hs
    obtain ⟨g, hg, hs⟩ := Reading.exists_gather_of_mem hstatement
    obtain ⟨p, hp⟩ := Rose.exists_number_mem_subtrees g hs 0
    rw [ofTree_eq]
    exact ⟨p, holds_ofRose.2 ⟨g, hg, hp⟩⟩
  | under _ hs ih =>
    obtain ⟨p, t, ht, hr⟩ := ih
    obtain ⟨q, hq⟩ :=
      Rose.exists_number_mem_subtrees _ (Reading.contribution_mem_subtrees text hs) p
    exact ⟨q, t, ht, Rose.mem_subtrees_trans hq t hr⟩

end Outline

end ModelLayout

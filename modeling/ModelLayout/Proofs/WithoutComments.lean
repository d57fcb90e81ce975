import Mathlib.Data.List.Forall2
import ModelLayout.Review
import ModelLayout.Proofs.Group

/-!
# Comments and the outline

Comments are collected apart and have no nodes in the outline.  Here a parse tree is compared with
what is left of it when all comments are cut out.  Both have the same outline but for one thing: a
call is taken to have arguments if its argument list has any named node, and a comment is one.  So
`private( # note` with a closing parenthesis on the next line is no private marker, and without the
comment it is.

The constructs of a reading look at their children by field and as statements only, with the headers
or without them.  None of these finds a comment, so readings that agree in these ways lead to outlines
that agree.

## Main definitions

* `Ruby.withoutComments` — a parse tree without its comments.
* `Ruby.namesArgument`, `Ruby.hasArgument` — what a call is taken to have, and what it has.
* `Rose.Alike`, `Reading.Alike`, `Reading.Matching` — trees and readings of the same form.
* `Outline.Uncommented` — what becomes of an outline without the comments of its file.

## Main results

* `Reading.Matching.alike_of`, `Reading.alike_ofTree` — one step of the reading, and the whole.
* `Outline.uncommented_ofTree` — the outline of a file without its comments.
-/

namespace ModelLayout

/-! ### Trees of the same form -/

namespace Rose

variable {α β : Type} {R : α → β → Prop}

/-- Two trees of the same form with related labels. -/
inductive Alike (R : α → β → Prop) : Rose α → Rose β → Prop
  | node {a : α} {b : β} {ss : List (Rose α)} {ts : List (Rose β)} (label : R a b)
      (below : List.Forall₂ (Alike R) ss ts) : Alike R (.node a ss) (.node b ts)

theorem Alike.label_label {s : Rose α} {t : Rose β} (h : Alike R s t) : R s.label t.label := by
  cases h with
  | node label _ => exact label

/-- Links of trees of the same form. -/
def LinkAlike (R : α → β → Prop) (k : Link α) (l : Link β) : Prop :=
  k.1 = l.1 ∧ R k.2 l.2

theorem Alike.linksFrom {s : Rose α} : ∀ {t : Rose β}, Alike R s t → ∀ parent next,
    List.Forall₂ (LinkAlike R) (s.linksFrom parent next) (t.linksFrom parent next) := by
  induction s using Rose.induction with
  | node a ss ih =>
    intro t h parent next
    cases h with
    | @node _ b _ ts label below =>
      -- the children are numbered one after the other
      have hall : ∀ parent next, List.Forall₂ (LinkAlike R) (linksAllFrom parent next ss)
          (linksAllFrom parent next ts) := by
        intro parent
        induction below with
        | nil => exact fun _ => .nil
        | @cons s t ss ts hst _ ihall =>
          intro next
          have hfirst := ih s List.mem_cons_self hst parent next
          rw [linksAllFrom, linksAllFrom, hfirst.length_eq]
          exact List.rel_append hfirst (ihall (fun u hu => ih u (List.mem_cons_of_mem _ hu)) _)
      rw [Rose.linksFrom, Rose.linksFrom]
      exact .cons ⟨rfl, label⟩ (hall _ _)

end Rose

/-! ### Cutting out comments -/

namespace Ruby

mutual

/-- A parse tree without the comments below its root. -/
def withoutComments : Tree → Tree
  | .node l ts => .node l (withoutCommentsAll ts)

/-- Several parse trees, without those that are comments and without the comments in the others. -/
def withoutCommentsAll : List Tree → List Tree
  | [] => []
  | t :: ts =>
    if t.label.kind = .comment then withoutCommentsAll ts
    else withoutComments t :: withoutCommentsAll ts

end

/-- The nodes that are no comments. -/
def kept (ts : List Tree) : List Tree :=
  ts.filter (·.label.kind != .comment)

theorem withoutCommentsAll_eq_map (ts : List Tree) :
    withoutCommentsAll ts = (kept ts).map withoutComments := by
  induction ts with
  | nil => rfl
  | cons t ts ih =>
    rw [withoutCommentsAll, ih]
    by_cases hkind : t.label.kind = .comment
    · simp [kept, hkind]
    · simp [kept, hkind]

@[simp] theorem label_withoutComments (t : Tree) : (withoutComments t).label = t.label := by
  cases t with
  | node l ts => rfl

/-- A comment stands in no field. -/
def LooseComments (ts : List Tree) : Prop :=
  ∀ t ∈ ts, t.label.kind = .comment → t.label.field = none

instance (ts : List Tree) : Decidable (LooseComments ts) :=
  inferInstanceAs (Decidable (∀ t ∈ ts, _))

/-- No comment is found in a field. -/
theorem child?_kept {ts : List Tree} (h : LooseComments ts) (f : Field) :
    child? (kept ts) f = child? ts f := by
  unfold child? kept
  rw [List.find?_filter]
  induction ts with
  | nil => rfl
  | cons t ts ih =>
    have hrest : LooseComments ts := fun s hs => h s (List.mem_cons_of_mem _ hs)
    rw [List.find?_cons, List.find?_cons, ih hrest]
    by_cases hkind : t.label.kind = .comment
    · simp [hkind, h t List.mem_cons_self hkind]
    · have htest : decide ((t.label.kind != .comment) = true ∧ (t.label.field == some f) = true) =
          (t.label.field == some f) := by
        rw [Bool.eq_iff_iff]
        simp [hkind]
      rw [htest]

/-- A comment in no field is none of the nodes that a field takes out. -/
theorem eraseP_kept {ts : List Tree} (h : LooseComments ts) (f : Field) :
    (kept ts).eraseP (·.label.field == some f) = kept (ts.eraseP (·.label.field == some f)) := by
  induction ts with
  | nil => rfl
  | cons t ts ih =>
    have hrest : LooseComments ts := fun s hs => h s (List.mem_cons_of_mem _ hs)
    by_cases hkind : t.label.kind = .comment
    · -- the comment is passed over, by the field and when the comments are cut out
      have hfield : (t.label.field == some f) = false := by
        rw [h t List.mem_cons_self hkind]
        rfl
      rw [List.eraseP_cons_of_neg (by simp [hfield])]
      simpa [kept, hkind] using ih hrest
    · have hkept : ∀ us, kept (t :: us) = t :: kept us := fun us => by simp [kept, hkind]
      rw [hkept, List.eraseP_cons, List.eraseP_cons]
      cases t.label.field == some f with
      | true => rfl
      | false => rw [cond_false, cond_false, hkept, ih hrest]

theorem withoutHeaders_kept {ts : List Tree} (h : LooseComments ts) :
    withoutHeaders Rose.label (kept ts) = kept (withoutHeaders Rose.label ts) := by
  unfold withoutHeaders
  generalize Field.headers = fields
  induction fields generalizing ts with
  | nil => rfl
  | cons f fields ih =>
    rw [List.foldl_cons, List.foldl_cons, eraseP_kept h]
    exact ih fun t ht => h t (List.mem_of_mem_eraseP ht)

/-- A statement is no comment. -/
theorem filter_isStatement_kept (ts : List Tree) :
    (kept ts).filter (·.label.isStatement) = ts.filter (·.label.isStatement) := by
  rw [kept, List.filter_filter]
  congr
  funext t
  unfold Label.isStatement
  cases t.label.named <;> cases t.label.kind <;> rfl

theorem looseStatements_kept {ts : List Tree} (h : LooseComments ts) :
    looseStatements (kept ts) = looseStatements ts := by
  rw [looseStatements, withoutHeaders_kept h, filter_isStatement_kept, looseStatements]

/-- Whether a call has an argument list with a named node in it: this is taken for an argument. -/
def namesArgument (c : Tree) : Bool :=
  (child? c.children .arguments).any fun a => a.children.any (·.label.named)

/-- Whether a call has an argument list with a named node in it that is no comment. -/
def hasArgument (c : Tree) : Bool :=
  (child? c.children .arguments).any fun a => (kept a.children).any (·.label.named)

theorem namesArgument_of_hasArgument {c : Tree} (h : hasArgument c = true) :
    namesArgument c = true := by
  unfold hasArgument at h
  unfold namesArgument
  rw [Option.any_eq_true] at h ⊢
  obtain ⟨a, ha, h⟩ := h
  rw [List.any_eq_true] at h
  obtain ⟨s, hs, hnamed⟩ := h
  exact ⟨a, ha, List.any_eq_true.2 ⟨s, (List.mem_filter.1 hs).1, hnamed⟩⟩

/-- Without comments, a call is taken to have what it has. -/
theorem namesArgument_withoutComments {l : Label} {ts : List Tree} (h : LooseComments ts) :
    namesArgument (withoutComments (.node l ts)) = hasArgument (.node l ts) := by
  have hchild : child? ((kept ts).map withoutComments) .arguments =
      (child? ts .arguments).map withoutComments := by
    rw [← child?_kept h, child?, List.find?_map, child?]
    simp only [Function.comp_def, label_withoutComments]
  rw [namesArgument, hasArgument, withoutComments, Rose.children_node, Rose.children_node,
    withoutCommentsAll_eq_map, hchild, Option.any_map]
  congr
  funext a
  cases a with
  | node k us =>
    rw [withoutComments, withoutCommentsAll_eq_map, Rose.children_node, Rose.children_node,
      List.any_map]
    simp [Function.comp_def]

end Ruby

/-! ### Readings of the same form -/

/-- The nodes of a call: its own, and the one for the whole if the call has a block. -/
def callNodes (e : Rose Node) : List Node :=
  if e.label.shape = .block then e.label :: (e.children.head?.map Rose.label).toList else [e.label]

/-- What is asked of a relation between the nodes of two outlines: related nodes lie in the same
place, and a node without the argument flag is related to itself. -/
structure Corresponds (R : Node → Node → Prop) : Prop where
  span : ∀ n n', R n n' → n'.span = n.span
  self : ∀ n : Node, n.hasArguments = false → R n n

namespace Reading

/-- Two readings of one node that differ only in related nodes of the outline. -/
structure Alike (R : Node → Node → Prop) (r r' : Reading) : Prop where
  label : r'.label = r.label
  expression : Rose.Alike R r.expression r'.expression
  statement : Rose.Alike R r.statement r'.statement
  parameters : Option.Rel (Rose.Alike R) r.parameters r'.parameters
  parts : List.Forall₂ (Rose.Alike R) r.parts r'.parts
  statements : List.Forall₂ (Rose.Alike R) r.statements r'.statements
  body : List.Forall₂ (Rose.Alike R) r.body r'.body

/-- Two lists of readings that look alike by field and as statements, with headers and without. -/
structure Matching (R : Node → Node → Prop) (rs rs' : List Reading) : Prop where
  field : ∀ f, Option.Rel (Alike R) (field? rs f) (field? rs' f)
  statements : List.Forall₂ (Alike R) (statementChildren rs) (statementChildren rs')
  loose : List.Forall₂ (Alike R) (statementChildren (Ruby.withoutHeaders Reading.label rs))
    (statementChildren (Ruby.withoutHeaders Reading.label rs'))

theorem forall₂_toList {α β : Type} {R : α → β → Prop} {a : Option α} {b : Option β}
    (h : Option.Rel R a b) : List.Forall₂ R a.toList b.toList := by
  cases h with
  | none => exact .nil
  | some hab => exact .cons hab .nil

theorem rel_map {α β γ δ : Type} {R : α → β → Prop} {Q : γ → δ → Prop} {a : Option α}
    {b : Option β} {f : α → γ} {g : β → δ} (h : Option.Rel R a b)
    (hfg : ∀ a b, R a b → Q (f a) (g b)) : Option.Rel Q (a.map f) (b.map g) := by
  cases h with
  | none => exact .none
  | some hab => exact .some (hfg _ _ hab)

section Gather

variable {R : Node → Node → Prop} (hR : Corresponds R)
include hR

theorem alike_gather {ss ss' : List (Rose Node)} (h : List.Forall₂ (Rose.Alike R) ss ss') :
    Option.Rel (Rose.Alike R) (gather ss) (gather ss') := by
  have hspan : ∀ {s s'}, Rose.Alike R s s' → s'.label.span = s.label.span := fun hs =>
    hR.span _ _ hs.label_label
  cases h with
  | nil => exact .none
  | @cons s s' rest rest' hs hrest =>
    cases hrest with
    | nil => exact .some hs
    | @cons t t' rest rest' ht hrest =>
      refine .some (.node ?_ (.cons hs (.cons ht hrest)))
      -- a sequence lies between its first and its last statement
      have hlast : ((t' :: rest').getLast (by simp)).label.span =
          ((t :: rest).getLast (by simp)).label.span := by
        induction hrest generalizing t t' with
        | nil => exact hspan ht
        | cons hu _ ih =>
          rw [List.getLast_cons_cons, List.getLast_cons_cons]
          exact ih hu
      rw [hspan hs, hlast]
      exact hR.self _ rfl

end Gather

namespace Matching

variable {R : Node → Node → Prop} {rs rs' : List Reading} (h : Matching R rs rs')
include h

theorem field?_cases (f : Ruby.Field) : field? rs f = none ∧ field? rs' f = none ∨
    ∃ r r', field? rs f = some r ∧ field? rs' f = some r' ∧ Alike R r r' := by
  have hfield := h.field f
  generalize field? rs f = r? at hfield ⊢
  generalize field? rs' f = r'? at hfield ⊢
  cases hfield with
  | none => exact Or.inl ⟨rfl, rfl⟩
  | some hr => exact Or.inr ⟨_, _, rfl, rfl, hr⟩

theorem isSome_field? (f : Ruby.Field) : (field? rs' f).isSome = (field? rs f).isSome := by
  rcases h.field?_cases f with ⟨hnone, hnone'⟩ | ⟨r, r', hsome, hsome', -⟩
  · rw [hnone, hnone']
  · rw [hsome, hsome']
    rfl

/-- What stands in a field covers the same text. -/
theorem map_text (text : Span → String) (f : Ruby.Field) :
    (field? rs' f).map (fun r => text r.label.span) =
      (field? rs f).map fun r => text r.label.span := by
  rcases h.field?_cases f with ⟨hnone, hnone'⟩ | ⟨r, r', hsome, hsome', hr⟩
  · rw [hnone, hnone']
  · rw [hsome, hsome', Option.map_some, Option.map_some, hr.label]

theorem alike_part (f : Ruby.Field) : List.Forall₂ (Rose.Alike R)
    ((field? rs f).map (·.expression)).toList ((field? rs' f).map (·.expression)).toList :=
  forall₂_toList (rel_map (h.field f) fun _ _ hr => hr.expression)

theorem alike_bodyOf : List.Forall₂ (Rose.Alike R) (bodyOf rs) (bodyOf rs') := by
  unfold bodyOf
  rcases h.field?_cases .body with ⟨hnone, hnone'⟩ | ⟨r, r', hsome, hsome', hr⟩
  · rw [hnone, hnone']
    exact List.rel_map (fun r r' hr => hr.statement) h.loose
  · rw [hsome, hsome']
    dsimp only
    rw [hr.label]
    split
    · exact hr.statements
    · exact hr.statements
    · exact .cons hr.statement .nil

theorem callSpan_eq (l : Ruby.Label) : callSpan l rs' = callSpan l rs := by
  unfold callSpan
  rcases h.field?_cases .arguments with ⟨hnone, hnone'⟩ | ⟨r, r', hsome, hsome', hr⟩
  · rcases h.field?_cases .method with ⟨hmethod, hmethod'⟩ | ⟨r, r', hmethod, hmethod', hr⟩
    · simp [hnone, hnone', hmethod, hmethod']
    · simp [hnone, hnone', hmethod, hmethod', hr.label]
  · simp [hsome, hsome', hr.label]

/-- A call, if its own nodes stay related whatever becomes of its argument flag. -/
theorem alike_call {text : Span → String} {l : Ruby.Label} (hR : Corresponds R)
    (hcall : ∀ n ∈ callNodes (call text l rs),
      R n { n with hasArguments := (field? rs' .arguments).any (0 < ·.namedCount) }) :
    Rose.Alike R (call text l rs) (call text l rs') := by
  have hbelow : List.Forall₂ (Rose.Alike R)
      (((field? rs .receiver).map (·.expression)).toList ++
        ((field? rs .arguments).map (·.parts)).getD [])
      (((field? rs' .receiver).map (·.expression)).toList ++
        ((field? rs' .arguments).map (·.parts)).getD []) := by
    refine List.rel_append (h.alike_part .receiver) ?_
    rcases h.field?_cases .arguments with ⟨hnone, hnone'⟩ | ⟨r, r', hsome, hsome', hr⟩
    · rw [hnone, hnone']
      exact .nil
    · rw [hsome, hsome']
      exact hr.parts
  unfold call at hcall ⊢
  dsimp only at hcall ⊢
  rw [h.map_text, h.isSome_field?, h.callSpan_eq]
  rcases h.field?_cases .block with ⟨hnone, hnone'⟩ | ⟨r, r', hsome, hsome', hr⟩
  · rw [hnone] at hcall ⊢
    rw [hnone']
    exact .node (hcall _ (by simp [callNodes])) hbelow
  · rw [hsome] at hcall ⊢
    rw [hsome']
    refine .node (hcall _ (by simp [callNodes])) (.cons (.node (hcall _ ?_) hbelow) ?_)
    · simp [callNodes]
    · exact List.rel_append (forall₂_toList hr.parameters)
        (forall₂_toList (alike_gather hR hr.body))

section Constructs

variable (hR : Corresponds R)
include hR

theorem alike_plain (l : Ruby.Label) : Rose.Alike R (plain l rs) (plain l rs') :=
  .node (hR.self _ rfl) (List.rel_map (fun _ _ hr => hr.expression) h.statements)

theorem alike_definition (text : Span → String) (shape : Shape) (l : Ruby.Label) :
    Rose.Alike R (definition text shape l rs) (definition text shape l rs') := by
  unfold definition
  dsimp only
  rw [h.map_text]
  refine .node (hR.self _ rfl)
    (List.rel_append ?_ (forall₂_toList (alike_gather hR h.alike_bodyOf)))
  refine List.rel_map (R := Alike R) (fun _ _ hr => hr.expression)
    (List.rel_filterMap (R := Eq) ?_ ?_)
  · rintro f g rfl
    exact h.field f
  · exact List.forall₂_refl _

theorem alike_assignment (text : Span → String) (l : Ruby.Label) :
    Rose.Alike R (assignment text l rs) (assignment text l rs') := by
  unfold assignment
  rcases h.field?_cases .left with ⟨hnone, hnone'⟩ | ⟨r, r', hsome, hsome', hr⟩
  · rw [hnone, hnone']
    exact h.alike_plain hR l
  · rw [hsome, hsome']
    dsimp only
    rw [hr.label]
    split
    · exact .node (hR.self _ rfl) (h.alike_part .right)
    · exact .node (hR.self _ rfl) (h.alike_part .right)
    · exact h.alike_plain hR l

theorem alike_lambda (l : Ruby.Label) : Rose.Alike R (lambda l rs) (lambda l rs') := by
  refine .node (hR.self _ rfl) (List.rel_append (h.alike_part .parameters) (forall₂_toList ?_))
  rcases h.field?_cases .body with ⟨hnone, hnone'⟩ | ⟨r, r', hsome, hsome', hr⟩
  · rw [hnone, hnone']
    exact .none
  · rw [hsome, hsome']
    exact alike_gather hR hr.body

variable {text : Span → String} {l : Ruby.Label}
  (hcall : l.kind = .call → ∀ n ∈ callNodes (expressionOf text l rs),
    R n { n with hasArguments := (field? rs' .arguments).any (0 < ·.namedCount) })
include hcall

theorem alike_expressionOf :
    Rose.Alike R (expressionOf text l rs) (expressionOf text l rs') := by
  unfold expressionOf at hcall ⊢
  split
  case h_5 => exact h.alike_assignment hR text l
  case h_6 hkind =>
    rw [hkind] at hcall
    exact h.alike_call hR (hcall rfl)
  case h_7 => exact h.alike_lambda hR l
  case h_8 => exact h.alike_plain hR l
  all_goals exact h.alike_definition hR text _ l

/-- One step of the reading: what a comment can change is left to the argument flags of calls. -/
theorem alike_of : Alike R (Reading.of text l rs) (Reading.of text l rs') where
  label := rfl
  expression := h.alike_expressionOf hR hcall
  statement := by
    show Rose.Alike R (statementOf text l rs) (statementOf text l rs')
    unfold statementOf
    split
    · exact .node (hR.self _ rfl) .nil
    · exact h.alike_expressionOf hR hcall
  parameters := rel_map (h.field .parameters) fun _ _ hr => hr.expression
  parts := List.rel_map (fun _ _ hr => hr.expression) h.statements
  statements := List.rel_map (fun _ _ hr => hr.statement) h.statements
  body := h.alike_bodyOf

end Constructs

end Matching

/-! ### Parse trees with and without comments -/

/-- Calls are taken to have arguments as their argument lists name them. -/
theorem any_namedCount (text : Span → String) (l : Ruby.Label) (ts : List Ruby.Tree) :
    (field? (ts.map (ofTree text)) .arguments).any (0 < ·.namedCount) =
      Ruby.namesArgument (.node l ts) := by
  rw [field?_map (label_ofTree text), Option.any_map, Ruby.namesArgument, Rose.children_node]
  congr
  funext a
  rw [Bool.eq_iff_iff, namedCount_ofTree]
  simp [List.length_pos_iff_exists_mem]

theorem hasArguments_of_mem_callNodes {text : Span → String} {l : Ruby.Label} {rs : List Reading}
    {n : Node} (hn : n ∈ callNodes (call text l rs)) :
    n.hasArguments = (field? rs .arguments).any (0 < ·.namedCount) := by
  unfold call at hn
  dsimp only at hn
  split at hn
  · simp only [callNodes] at hn
    simp at hn
    rw [hn]
  · simp only [callNodes] at hn
    simp at hn
    rcases hn with hn | hn
    · rw [hn]
    · rw [hn]

/-- The nodes with and without comments look alike, where the nodes that are no comments do. -/
theorem matching_withoutComments {R : Node → Node → Prop} {text : Span → String}
    {ts : List Ruby.Tree} (hloose : Ruby.LooseComments ts)
    (h : ∀ t ∈ Ruby.kept ts, Alike R (ofTree text t) (ofTree text (Ruby.withoutComments t))) :
    Matching R (ts.map (ofTree text)) ((Ruby.withoutCommentsAll ts).map (ofTree text)) := by
  have hlabel : ∀ t, (ofTree text (Ruby.withoutComments t)).label = t.label := fun t => by
    rw [label_ofTree, Ruby.label_withoutComments]
  have hmap : (Ruby.withoutCommentsAll ts).map (ofTree text) =
      (Ruby.kept ts).map fun t => ofTree text (Ruby.withoutComments t) := by
    rw [Ruby.withoutCommentsAll_eq_map, List.map_map]
    rfl
  rw [hmap]
  refine ⟨fun f => ?_, ?_, ?_⟩
  · rw [field?_map (label_ofTree text), field?_map hlabel, ← Ruby.child?_kept hloose]
    cases hfound : Ruby.child? (Ruby.kept ts) f with
    | none => exact .none
    | some t => exact .some (h t (List.mem_of_find?_eq_some hfound))
  · rw [statementChildren_map (label_ofTree text), statementChildren_map hlabel,
      ← Ruby.filter_isStatement_kept ts, List.forall₂_map_left_iff, List.forall₂_map_right_iff,
      List.forall₂_same]
    exact fun t ht => h t (List.mem_filter.1 ht).1
  · rw [statementChildren_withoutHeaders_map (label_ofTree text),
      statementChildren_withoutHeaders_map hlabel, ← Ruby.looseStatements_kept hloose,
      List.forall₂_map_left_iff, List.forall₂_map_right_iff, List.forall₂_same]
    exact fun t ht =>
      h t ((Ruby.withoutHeaders_sublist Rose.label _).subset (List.mem_filter.1 ht).1)

end Reading

/-- How a node and the node in its place when the comments are gone belong together.  The second
one differs at most in its argument flag; and where one of them has the flag, both are nodes of a
call among `calls`, and the flag is what the call is taken to have, with comments and without. -/
structure Recounted (text : Span → String) (calls : List Ruby.Tree) (n n' : Node) : Prop where
  same : n' = { n with hasArguments := n'.hasArguments }
  arguments : n.hasArguments = false ∧ n'.hasArguments = false ∨
    ∃ c ∈ calls, c.label.kind = .call ∧ n ∈ callNodes (Reading.ofTree text c).expression ∧
      n.hasArguments = Ruby.namesArgument c ∧ n'.hasArguments = Ruby.hasArgument c

theorem corresponds_recounted (text : Span → String) (calls : List Ruby.Tree) :
    Corresponds (Recounted text calls) where
  span := by
    intro n n' h
    rw [h.same]
  self := by
    intro n hn
    exact ⟨rfl, Or.inl ⟨hn, hn⟩⟩

/-- The whole reading: without comments, only the argument flags of calls can change. -/
theorem Reading.alike_ofTree (text : Span → String) {calls : List Ruby.Tree} {t : Ruby.Tree} :
    (∀ s ∈ t.subtrees, s ∈ calls) → (∀ s ∈ t.subtrees, Ruby.LooseComments s.children) →
      Alike (Recounted text calls) (ofTree text t) (ofTree text (Ruby.withoutComments t)) := by
  induction t using Rose.induction with
  | node l ts ih =>
    intro hcalls hloose
    have hself : (.node l ts : Ruby.Tree) ∈ (Rose.node l ts).subtrees :=
      Rose.mem_subtrees_node.2 (Or.inl rfl)
    have hmatching : Matching (Recounted text calls) (ts.map (ofTree text))
        ((Ruby.withoutCommentsAll ts).map (ofTree text)) := by
      refine matching_withoutComments (hloose _ hself) fun t ht => ?_
      have hsub : ∀ s ∈ t.subtrees, s ∈ (Rose.node l ts).subtrees := fun s hs =>
        Rose.mem_subtrees_node.2 (Or.inr ⟨t, (List.mem_filter.1 ht).1, hs⟩)
      exact ih t (List.mem_filter.1 ht).1 (fun s hs => hcalls s (hsub s hs)) fun s hs =>
        hloose s (hsub s hs)
    rw [Ruby.withoutComments, ofTree_node, ofTree_node]
    refine hmatching.alike_of (corresponds_recounted text calls) fun hkind n hn => ?_
    refine ⟨rfl, Or.inr ⟨.node l ts, hcalls _ hself, hkind, ?_, ?_, ?_⟩⟩
    · rw [ofTree_node]
      exact hn
    · have hexpression : expressionOf text l (ts.map (ofTree text)) =
          call text l (ts.map (ofTree text)) := by
        unfold expressionOf
        rw [hkind]
      rw [hexpression] at hn
      rw [hasArguments_of_mem_callNodes hn, any_namedCount]
    · have hlooseHere : Ruby.LooseComments ts := hloose _ hself
      rw [any_namedCount text l]
      exact Ruby.namesArgument_withoutComments hlooseHere

/-! ### Outlines of the same form -/

/-- Whether a node is a member depends on the shapes of the nodes around it and on which of them are
containers. -/
theorem memberOf_congr {R : Node → Node → Prop} {container : Node → Bool}
    (hshape : ∀ n n', R n n' → n'.shape = n.shape)
    (hcontainer : ∀ n n', R n n' → container n' = container n) {ns ns' : List Node}
    (h : List.Forall₂ R ns ns') : memberOf container ns' = memberOf container ns := by
  cases h with
  | nil => rfl
  | @cons n n' ns ns' hparent houter =>
    rw [memberOf.eq_def, memberOf.eq_def]
    dsimp only
    rw [hcontainer n n' hparent, hshape n n' hparent]
    cases houter with
    | nil => rfl
    | @cons m m' ms ms' hbody houter =>
      cases houter with
      | nil => cases n.shape <;> simp [hcontainer m m' hbody]
      | @cons k k' ks ks' hnext _ =>
        cases n.shape <;> simp [hcontainer m m' hbody, hshape m m' hbody, hcontainer k k' hnext]

namespace Outline

theorem enclosing_of_parent?_eq_none {o : Outline} {i : Nat} (h : o.parent? i = none) :
    o.enclosing i = [] := by
  rw [enclosing]
  split
  · rfl
  · next hp =>
    rw [h] at hp
    cases hp

/-- Two outlines with the same parents and related nodes. -/
def Alike (R : Node → Node → Prop) (o o' : Outline) : Prop :=
  List.Forall₂ (Rose.LinkAlike R) o.links o'.links

theorem alike_ofRose {R : Node → Node → Prop} {s s' : Option (Rose Node)}
    (h : Option.Rel (Rose.Alike R) s s') : Alike R (ofRose s) (ofRose s') := by
  cases h with
  | none => exact .nil
  | some hs => exact hs.linksFrom none 0

namespace Alike

variable {R : Node → Node → Prop} {o o' : Outline} (h : Alike R o o')
include h

theorem size_eq : o'.size = o.size :=
  h.length_eq.symm

theorem rel_links (i : Nat) : Option.Rel (Rose.LinkAlike R) o.links[i]? o'.links[i]? := by
  unfold Alike at h
  generalize o.links = ks at h ⊢
  generalize o'.links = ls at h ⊢
  induction h generalizing i with
  | nil => exact .none
  | cons hkl _ ih =>
    cases i with
    | zero => exact .some hkl
    | succ i => exact ih i

theorem rel_node? (i : Nat) : Option.Rel R (o.node? i) (o'.node? i) :=
  Reading.rel_map (h.rel_links i) fun _ _ hkl => hkl.2

theorem parent?_eq (i : Nat) : o'.parent? i = o.parent? i := by
  have hlinks := h.rel_links i
  unfold parent?
  generalize o.links[i]? = k at hlinks ⊢
  generalize o'.links[i]? = l at hlinks ⊢
  cases hlinks with
  | none => rfl
  | some hkl => exact hkl.1.symm

/-- The nodes around a node correspond. -/
theorem forall₂_enclosing (i : Nat) : List.Forall₂ R (o.enclosing i) (o'.enclosing i) := by
  induction i using Nat.strongRecOn with
  | ind i ih =>
    cases hp : o.parent? i with
    | none =>
      have hp' : o'.parent? i = none := by rw [h.parent?_eq, hp]
      rw [enclosing_of_parent?_eq_none hp, enclosing_of_parent?_eq_none hp']
      exact .nil
    | some p =>
      have hp' : o'.parent? i = some p := by rw [h.parent?_eq, hp]
      obtain ⟨n, hn⟩ := exists_node?_of_parent? hp
      obtain ⟨n', hn'⟩ := exists_node?_of_parent? hp'
      have hnode := h.rel_node? p
      rw [hn, hn'] at hnode
      rw [enclosing_of_parent? hp hn, enclosing_of_parent? hp' hn']
      cases hnode with
      | some hR => exact .cons hR (ih p (lt_of_parent? hp))

end Alike

end Outline

/-! ### What becomes of the outline of a file -/

namespace Recounted

variable {text : Span → String} {calls : List Ruby.Tree} {n n' : Node}
  (h : Recounted text calls n n')
include h

theorem shape_eq : n'.shape = n.shape := by
  rw [h.same]

theorem category?_eq (isMisc : String → Bool) : n'.category? isMisc = n.category? isMisc := by
  rw [h.same]
  rfl

theorem isClass_eq : n'.isClass = n.isClass := by
  rw [h.same]
  rfl

theorem isGrouping_eq : n'.isGrouping = n.isGrouping := by
  rw [h.same]
  rfl

/-- Without comments there are no more arguments than with them. -/
theorem hasArguments_of_hasArguments (hn' : n'.hasArguments = true) : n.hasArguments = true := by
  rcases h.arguments with ⟨-, hnone⟩ | ⟨c, -, -, -, hnamed, hargument⟩
  · rw [hn'] at hnone
    cases hnone
  · rw [hargument] at hn'
    rw [hnamed]
    exact Ruby.namesArgument_of_hasArgument hn'

theorem eq_of_hasArguments_eq (hsame : n'.hasArguments = n.hasArguments) : n' = n := by
  rw [h.same, hsame]

theorem isPrivateMarker_iff : n.isPrivateMarker = true ↔
    n'.isPrivateMarker = true ∧ n'.hasArguments = n.hasArguments := by
  constructor
  · intro hmarker
    have hnone : n.hasArguments = false := by
      simp only [Node.isPrivateMarker, Bool.and_eq_true, Bool.not_eq_true'] at hmarker
      exact hmarker.1.2
    have hnone' : n'.hasArguments = false := by
      by_contra hnot
      rw [Bool.not_eq_false] at hnot
      rw [h.hasArguments_of_hasArguments hnot] at hnone
      cases hnone
    have heq := h.eq_of_hasArguments_eq (hnone'.trans hnone.symm)
    rw [heq]
    exact ⟨hmarker, rfl⟩
  · rintro ⟨hmarker, hsame⟩
    rw [← h.eq_of_hasArguments_eq hsame]
    exact hmarker

end Recounted

namespace Outline

/-- What becomes of the outline `o` of a file with the parse tree `t` when the comments of the file
are taken away, if it becomes `o'`. -/
structure Uncommented (text : Span → String) (t : Ruby.Tree) (o o' : Outline) : Prop where
  size : o'.size = o.size
  parent : ∀ i, o'.parent? i = o.parent? i
  node : ∀ i n n', o.node? i = some n → o'.node? i = some n' →
    n' = { n with hasArguments := n'.hasArguments }
  /-- No argument flag appears. -/
  arguments : ∀ i n n', o.node? i = some n → o'.node? i = some n' → n.hasArguments = false →
    n'.hasArguments = false
  /-- A flag is kept exactly if the call it stands for has an argument that is no comment. -/
  kept : ∀ i n n', o.node? i = some n → o'.node? i = some n' → n.hasArguments = true →
    ∃ c ∈ t.subtrees, c.label.kind = .call ∧
      n ∈ callNodes (Reading.ofTree text c).expression ∧ Ruby.namesArgument c = true ∧
      n'.hasArguments = Ruby.hasArgument c
  /-- The same nodes are declarations of the same categories. -/
  category : ∀ isMisc i, (o'.node? i).bind (Node.category? isMisc) =
    (o.node? i).bind (Node.category? isMisc)
  /-- The same nodes are passed over. -/
  ignored : ∀ i, o'.isIgnored i = o.isIgnored i
  /-- A private marker stays one, and only a node whose argument flag is gone can become one. -/
  privateMarker : ∀ i n n', o.node? i = some n → o'.node? i = some n' →
    (n.isPrivateMarker = true ↔ n'.isPrivateMarker = true ∧ n'.hasArguments = n.hasArguments)
  /-- If no argument list holds comments only, nothing changes. -/
  unchanged : (∀ c ∈ t.subtrees, c.label.kind = .call →
    Ruby.namesArgument c = Ruby.hasArgument c) → o' = o

/-- **Comments shape the outline of a file in nothing but the argument flags of calls.** -/
theorem uncommented_ofTree (text : Span → String) {t : Ruby.Tree}
    (hloose : ∀ s ∈ t.subtrees, Ruby.LooseComments s.children) :
    Uncommented text t (ofTree text t) (ofTree text (Ruby.withoutComments t)) := by
  have halike : Alike (Recounted text t.subtrees) (ofTree text t)
      (ofTree text (Ruby.withoutComments t)) := by
    rw [ofTree_eq, ofTree_eq]
    exact alike_ofRose (Reading.alike_gather (corresponds_recounted text _)
      (Reading.alike_ofTree text (fun _ hs => hs) hloose).statements)
  generalize ofTree text t = o at halike ⊢
  generalize ofTree text (Ruby.withoutComments t) = o' at halike ⊢
  have hnodes : ∀ i n n', o.node? i = some n → o'.node? i = some n' →
      Recounted text t.subtrees n n' := by
    intro i n n' hn hn'
    have hrel := halike.rel_node? i
    rw [hn, hn'] at hrel
    cases hrel with
    | some h => exact h
  exact
    { size := halike.size_eq
      parent := halike.parent?_eq
      node := fun i n n' hn hn' => (hnodes i n n' hn hn').same
      arguments := by
        intro i n n' hn hn' hnone
        by_contra hnot
        rw [Bool.not_eq_false] at hnot
        rw [(hnodes i n n' hn hn').hasArguments_of_hasArguments hnot] at hnone
        cases hnone
      kept := by
        intro i n n' hn hn' hflag
        rcases (hnodes i n n' hn hn').arguments with
          ⟨hnone, -⟩ | ⟨c, hc, hkind, hmem, hnamed, hkept⟩
        · rw [hflag] at hnone
          cases hnone
        · exact ⟨c, hc, hkind, hmem, hnamed.symm.trans hflag, hkept⟩
      category := by
        intro isMisc i
        have hrel := halike.rel_node? i
        generalize o.node? i = n? at hrel ⊢
        generalize o'.node? i = n'? at hrel ⊢
        cases hrel with
        | none => rfl
        | some h => exact h.category?_eq isMisc
      ignored := by
        intro i
        have haround := halike.forall₂_enclosing i
        have hshape : ∀ n n', Recounted text t.subtrees n n' → n'.shape = n.shape :=
          fun _ _ h => h.shape_eq
        rw [isIgnored, isIgnored, isClassMember, isClassMember, isGrouped, isGrouped,
          memberOf_congr hshape (fun _ _ h => h.isClass_eq) haround,
          memberOf_congr hshape (fun _ _ h => h.isGrouping_eq) haround]
      privateMarker := fun i n n' hn hn' => (hnodes i n n' hn hn').isPrivateMarker_iff
      unchanged := by
        intro hcalls
        have hlinks : List.Forall₂ Eq o.links o'.links := by
          refine List.Forall₂.imp ?_ halike
          rintro ⟨p, n⟩ ⟨p', n'⟩ ⟨hparent, h⟩
          have hsame : n'.hasArguments = n.hasArguments := by
            rcases h.arguments with ⟨hnone, hnone'⟩ | ⟨c, hc, hkind, -, hnamed, hkept⟩
            · exact hnone'.trans hnone.symm
            · exact hkept.trans ((hcalls c hc hkind).symm.trans hnamed.symm)
          exact Prod.ext hparent (h.eq_of_hasArguments_eq hsame).symm
        rw [List.forall₂_eq_eq_eq] at hlinks
        cases o
        cases o'
        cases hlinks
        rfl }

end Outline

/-! ### A marker with a comment in its parentheses -/

/-- A class with a bare call of `private` that has a comment in its parentheses. -/
def commentedMarker : SourceFile where
  text := "class A\n  private( # c\n  )\n  has_one :a\nend"
  tree :=
    .node ⟨none, .other, true, ⟨0, 43, ⟨1, 0⟩, ⟨5, 3⟩⟩⟩
      [.node ⟨none, .classDef, true, ⟨0, 43, ⟨1, 0⟩, ⟨5, 3⟩⟩⟩
        [.node ⟨some .name, .constant, true, ⟨6, 7, ⟨1, 6⟩, ⟨1, 7⟩⟩⟩ [],
          .node ⟨some .body, .bodyStatement, true, ⟨10, 39, ⟨2, 2⟩, ⟨4, 12⟩⟩⟩
            [.node ⟨none, .call, true, ⟨10, 26, ⟨2, 2⟩, ⟨3, 3⟩⟩⟩
              [.node ⟨some .method, .identifier, true, ⟨10, 17, ⟨2, 2⟩, ⟨2, 9⟩⟩⟩ [],
                .node ⟨some .arguments, .other, true, ⟨17, 26, ⟨2, 9⟩, ⟨3, 3⟩⟩⟩
                  [.node ⟨none, .comment, true, ⟨19, 22, ⟨2, 11⟩, ⟨2, 14⟩⟩⟩ []]],
              .node ⟨none, .call, true, ⟨29, 39, ⟨4, 2⟩, ⟨4, 12⟩⟩⟩
                [.node ⟨some .method, .identifier, true, ⟨29, 36, ⟨4, 2⟩, ⟨4, 9⟩⟩⟩ [],
                  .node ⟨some .arguments, .other, true, ⟨37, 39, ⟨4, 10⟩, ⟨4, 12⟩⟩⟩
                    [.node ⟨none, .other, true, ⟨37, 39, ⟨4, 10⟩, ⟨4, 12⟩⟩⟩ []]]]]]

theorem wellFormed_commentedMarker : Ruby.WellFormed commentedMarker.tree := by decide +kernel

theorem looseComments_commentedMarker :
    ∀ s ∈ commentedMarker.tree.subtrees, Ruby.LooseComments s.children := by decide +kernel

/-- The call is no private marker. -/
theorem node?_commentedMarker : commentedMarker.outline.node? 3 =
    some { shape := .call, span := ⟨10, 26, ⟨2, 2⟩, ⟨3, 3⟩⟩, name := some "private",
           hasArguments := true } := by
  decide +kernel

/-- Without the comment it is. -/
theorem node?_withoutComments_commentedMarker :
    (Outline.ofTree commentedMarker.textAt (Ruby.withoutComments commentedMarker.tree)).node? 3 =
      some { shape := .call, span := ⟨10, 26, ⟨2, 2⟩, ⟨3, 3⟩⟩, name := some "private" } := by
  decide +kernel

/-- The flag is gone because the call has no argument. -/
theorem uncommented_ofTree_commentedMarker :
    (∀ s ∈ commentedMarker.tree.subtrees, Ruby.LooseComments s.children) ∧
      ∃ c ∈ commentedMarker.tree.subtrees, c.label.kind = .call ∧
        Ruby.namesArgument c = true ∧ Ruby.hasArgument c = false := by
  have h := Outline.uncommented_ofTree commentedMarker.textAt looseComments_commentedMarker
  obtain ⟨c, hc, hkind, -, hnamed, hkept⟩ :=
    h.kept 3 _ _ node?_commentedMarker node?_withoutComments_commentedMarker rfl
  exact ⟨looseComments_commentedMarker, c, hc, hkind, hnamed, hkept.symm⟩

/-- An outline is not the same with and without comments, and a private marker without comments need
not be one with them. -/
theorem not_forall_ofTree_withoutComments :
    (¬ ∀ f : SourceFile, Ruby.WellFormed f.tree →
      (∀ s ∈ f.tree.subtrees, Ruby.LooseComments s.children) →
      Outline.ofTree f.textAt (Ruby.withoutComments f.tree) = f.outline) ∧
    ¬ ∀ (f : SourceFile) (i : Nat), Ruby.WellFormed f.tree →
      (∀ s ∈ f.tree.subtrees, Ruby.LooseComments s.children) →
      ((Outline.ofTree f.textAt (Ruby.withoutComments f.tree)).node? i).map Node.isPrivateMarker =
        (f.outline.node? i).map Node.isPrivateMarker := by
  constructor
  · intro h
    have hsame := h commentedMarker wellFormed_commentedMarker looseComments_commentedMarker
    have hnode := node?_withoutComments_commentedMarker
    rw [hsame, node?_commentedMarker] at hnode
    simp at hnode
  · intro h
    have hsame := h commentedMarker 3 wellFormed_commentedMarker looseComments_commentedMarker
    rw [node?_withoutComments_commentedMarker, node?_commentedMarker] at hsame
    revert hsame
    decide

end ModelLayout

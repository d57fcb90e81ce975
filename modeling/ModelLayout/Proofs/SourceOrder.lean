import ModelLayout.Report
import ModelLayout.Proofs.DocumentOrder
import ModelLayout.Proofs.Review

/-!
# Offenses come in the order of the source

The nodes of an outline are reviewed in document order, but the parts of a construct are not read in
the order in which they stand in the file: the headers of a definition are read field by field, the
object of a singleton method behind its name, and a call with a block is read in two parts.  Here it
is proved that the declarations of a file come in the order in which they start all the same, as
long as the parse tree keeps the order that the grammar gives to the parts; and so do the offenses.

What a node contributes starts inside the node.  So two lists of declarations that are read from
different children are in order if the children are.

## Main definitions

* `Ruby.InGrammarOrder` — the parts of a node come in the order of the grammar.
* `declared` — the declarations of some trees.
* `SortedIn`, `Before` — declarations that start one after the other inside a range, and lists of
  them of which one comes before the other.
* `Reading.Sorted` — all that a reading contributes is sorted.

## Main results

* `Reading.SortedBelow.of`, `Reading.sorted_ofTree` — one step of the reading, and the whole.
* `Review.pairwise_offenses` — a review of nodes in order finds offenses in order.
* `SourceFile.offenses_in_source_order` — declarations, offenses and reports of a file.
-/

namespace ModelLayout

/-! ### The order of the parts -/

namespace Ruby

/-- The kinds that define something with a body. -/
def Kind.isDefinition : Kind → Bool
  | .classDef | .moduleDef | .method | .singletonMethod => true
  | _ => false

/-- Where both nodes stand in one of the given fields, the second one does not stand in an earlier
field than the first one. -/
def InTurn (fields : List Field) (k l : Label) : Prop :=
  ∀ f ∈ k.field, ∀ g ∈ l.field, f ∈ fields → g ∈ fields → fields.idxOf f ≤ fields.idxOf g

/-- The children in the given fields come in the order of the fields. -/
def InFieldOrder (fields : List Field) (ts : List Tree) : Prop :=
  ts.Pairwise fun s t => InTurn fields s.label t.label

/-- The children in the fields `headers` come in this order and before the body.  The body is the
child in the field for bodies or, without one, all children that can stand as statements and are no
headers; the second child in a header field is among these. -/
structure BodyLast (headers : List Field) (ts : List Tree) : Prop where
  fields : InFieldOrder (headers ++ [.body]) ts
  statements : child? ts .body = none → ∀ f ∈ headers, ∀ s ∈ child? ts f, ∀ t ∈ looseStatements ts,
    s.label.span.endByte ≤ t.label.span.startByte

/-- Nothing is below a token.  That it is no call, module or method either is a fact of the grammar:
each of these has a name below it at least. -/
structure IsToken (t : Tree) : Prop where
  children : t.children = []
  kind : t.label.kind ∉ [.call, .moduleDef, .method, .singletonMethod]

/-- The parts of a node come in the order of the grammar. -/
structure InGrammarOrder (t : Tree) : Prop where
  call : t.label.kind = .call → InFieldOrder [.receiver, .method, .arguments, .block] t.children
  block : t.label.kind = .call → ∀ b ∈ child? t.children .block, BodyLast [.parameters] b.children
  lambda : t.label.kind = .lambda → InFieldOrder [.parameters, .body] t.children
  definition : t.label.kind.isDefinition = true →
    BodyLast [.name, .superclass, .parameters] t.children
  /-- The object of a singleton method comes before its name, but it is read behind it. -/
  object : t.label.kind.isDefinition = true → ∀ s ∈ child? t.children .object, IsToken s
  value : t.label.kind.isDefinition = true → ∀ s ∈ t.children, s.label.field ≠ some .value

instance (fields : List Field) (k l : Label) : Decidable (InTurn fields k l) :=
  inferInstanceAs (Decidable (∀ f ∈ k.field, _))

instance (fields : List Field) (ts : List Tree) : Decidable (InFieldOrder fields ts) :=
  inferInstanceAs (Decidable (List.Pairwise _ _))

instance (headers : List Field) (ts : List Tree) : Decidable (BodyLast headers ts) :=
  decidable_of_iff (InFieldOrder (headers ++ [.body]) ts ∧ (child? ts .body = none →
      ∀ f ∈ headers, ∀ s ∈ child? ts f, ∀ t ∈ looseStatements ts,
        s.label.span.endByte ≤ t.label.span.startByte))
    ⟨fun h => ⟨h.1, h.2⟩, fun h => ⟨h.fields, h.statements⟩⟩

instance : DecidablePred IsToken := fun t =>
  decidable_of_iff (t.children = [] ∧
      t.label.kind ∉ [.call, .moduleDef, .method, .singletonMethod])
    ⟨fun h => ⟨h.1, h.2⟩, fun h => ⟨h.children, h.kind⟩⟩

instance : DecidablePred InGrammarOrder := fun t =>
  decidable_of_iff
    ((t.label.kind = .call → InFieldOrder [.receiver, .method, .arguments, .block] t.children) ∧
      (t.label.kind = .call → ∀ b ∈ child? t.children .block, BodyLast [.parameters] b.children) ∧
      (t.label.kind = .lambda → InFieldOrder [.parameters, .body] t.children) ∧
      (t.label.kind.isDefinition = true → BodyLast [.name, .superclass, .parameters] t.children) ∧
      (t.label.kind.isDefinition = true → ∀ s ∈ child? t.children .object, IsToken s) ∧
      (t.label.kind.isDefinition = true → ∀ s ∈ t.children, s.label.field ≠ some .value))
    ⟨fun ⟨h₁, h₂, h₃, h₄, h₅, h₆⟩ => ⟨h₁, h₂, h₃, h₄, h₅, h₆⟩,
      fun h => ⟨h.call, h.block, h.lambda, h.definition, h.object, h.value⟩⟩

/-- Two members of a list are the same, or one of them comes first. -/
theorem eq_or_of_pairwise {α : Type} {p : α → α → Prop} {l : List α} (h : l.Pairwise p) {a b : α}
    (ha : a ∈ l) (hb : b ∈ l) : a = b ∨ p a b ∨ p b a :=
  List.Pairwise.forall_of_forall_of_flip (R := fun a b => a = b ∨ p a b ∨ p b a)
    (fun _ _ => Or.inl rfl) (h.imp fun hab => Or.inr (Or.inl hab))
    (h.imp fun hab => Or.inr (Or.inr hab)) ha hb

/-- A child in an earlier field ends before a child in a later field starts. -/
theorem InFieldOrder.apart {ts : List Tree} {s t : Tree} {f g : Field} {fields : List Field}
    (h : InFieldOrder fields ts)
    (hordered : ts.Pairwise fun s t => s.label.span.endByte ≤ t.label.span.startByte)
    (hs : s ∈ ts) (ht : t ∈ ts) (hf : s.label.field = some f) (hg : t.label.field = some g)
    (hgmem : g ∈ fields) (hlt : fields.idxOf f < fields.idxOf g) :
    s.label.span.endByte ≤ t.label.span.startByte := by
  have hfmem : f ∈ fields := by
    rw [← List.idxOf_lt_length_iff]
    exact Nat.lt_of_lt_of_le hlt List.idxOf_le_length
  rcases eq_or_of_pairwise (hordered.and h) hs ht with rfl | hst | hts
  · rw [hf, Option.some.injEq] at hg
    subst hg
    omega
  · exact hst.1
  · -- the other way round the fields are in the wrong order
    have hwrong := hts.2 g hg f hf hgmem hfmem
    omega

end Ruby

/-! ### The declarations of trees -/

/-- The declarations of some trees, in document order. -/
def declared (ss : List (Rose Node)) : List Node :=
  (ss.flatMap Rose.preorder).filter (·.shape.isDeclaration)

@[simp] theorem declared_append (ss ss' : List (Rose Node)) :
    declared (ss ++ ss') = declared ss ++ declared ss' := by
  simp [declared]

theorem declared_node (n : Node) (ss : List (Rose Node)) :
    declared [.node n ss] = (if n.shape.isDeclaration then [n] else []) ++ declared ss := by
  cases h : n.shape.isDeclaration with
  | true => simp [declared, Rose.preorder_node, h]
  | false => simp [declared, Rose.preorder_node, h]

theorem declared_flatMap {α : Type} (ts : List α) (g : α → List (Rose Node)) :
    declared (ts.flatMap g) = ts.flatMap fun t => declared (g t) := by
  simp only [declared, List.flatMap_assoc, List.filter_flatMap]

/-- Gathering statements adds no declaration. -/
@[simp] theorem declared_gather (ss : List (Rose Node)) :
    declared (gather ss).toList = declared ss := by
  match ss with
  | [] => rfl
  | [s] => rfl
  | s :: t :: rest => simp [gather, declared, Rose.preorder_node, Shape.isDeclaration]

/-- No declaration of `ss'` starts before one of `ss`. -/
def Before (ss ss' : List (Rose Node)) : Prop :=
  ∀ m ∈ declared ss, ∀ n ∈ declared ss', m.span.startByte ≤ n.span.startByte

namespace Before

variable {ss ss' us : List (Rose Node)}

theorem append_left (h : Before ss us) (h' : Before ss' us) : Before (ss ++ ss') us := by
  intro m hm
  rw [declared_append, List.mem_append] at hm
  rcases hm with hm | hm
  · exact h m hm
  · exact h' m hm

theorem append_right (h : Before us ss) (h' : Before us ss') : Before us (ss ++ ss') := by
  intro m hm n hn
  rw [declared_append, List.mem_append] at hn
  rcases hn with hn | hn
  · exact h m hm n hn
  · exact h' m hm n hn

theorem node {n : Node} (h : Before ss us)
    (hn : ∀ m ∈ declared us, n.span.startByte ≤ m.span.startByte) : Before [.node n ss] us := by
  intro m hm
  rw [declared_node, List.mem_append] at hm
  rcases hm with hm | hm
  · split at hm
    · rw [List.mem_singleton.1 hm]
      exact hn
    · cases hm
  · exact h m hm

end Before

/-- The declarations of `ss` start inside the range `s`, none before an earlier one. -/
structure SortedIn (s : Span) (ss : List (Rose Node)) : Prop where
  within : ∀ n ∈ declared ss, s.startByte ≤ n.span.startByte ∧ n.span.startByte ≤ s.endByte
  sorted : (declared ss).Pairwise fun m n => m.span.startByte ≤ n.span.startByte

namespace SortedIn

variable {s s' : Span} {ss ss' : List (Rose Node)}

theorem nil (s : Span) : SortedIn s [] :=
  ⟨nofun, List.Pairwise.nil⟩

/-- Only the declarations matter. -/
theorem congr (h : SortedIn s ss) (heq : declared ss' = declared ss) : SortedIn s ss' := by
  refine ⟨?_, ?_⟩
  · rw [heq]
    exact h.within
  · rw [heq]
    exact h.sorted

theorem widen (h : SortedIn s ss) (hstart : s'.startByte ≤ s.startByte)
    (hend : s.endByte ≤ s'.endByte) : SortedIn s' ss where
  within := by
    intro n hn
    have hwithin := h.within n hn
    omega
  sorted := h.sorted

theorem append (h : SortedIn s ss) (h' : SortedIn s ss') (hbefore : Before ss ss') :
    SortedIn s (ss ++ ss') where
  within := by
    intro n hn
    rw [declared_append, List.mem_append] at hn
    rcases hn with hn | hn
    · exact h.within n hn
    · exact h'.within n hn
  sorted := by
    rw [declared_append, List.pairwise_append]
    exact ⟨h.sorted, h'.sorted, hbefore⟩

/-- What starts inside a range that ends before another one starts comes before all in the other. -/
theorem before (h : SortedIn s ss) (h' : SortedIn s' ss') (hapart : s.endByte ≤ s'.startByte) :
    Before ss ss' := by
  intro m hm n hn
  have hm' := (h.within m hm).2
  have hn' := (h'.within n hn).1
  omega

/-- A node that starts with the range may stand above all that is sorted in it. -/
theorem node {n : Node} (h : SortedIn s ss) (hn : n.span.startByte = s.startByte)
    (hrange : s.startByte ≤ s.endByte) : SortedIn s [.node n ss] := by
  cases hdecl : n.shape.isDeclaration with
  | false => exact h.congr (by simp [declared_node, hdecl])
  | true =>
    have heq : declared [.node n ss] = n :: declared ss := by simp [declared_node, hdecl]
    refine ⟨?_, ?_⟩
    · intro m hm
      rw [heq, List.mem_cons] at hm
      rcases hm with rfl | hm
      · omega
      · exact h.within m hm
    · rw [heq, List.pairwise_cons]
      refine ⟨fun m hm => ?_, h.sorted⟩
      have hwithin := (h.within m hm).1
      omega

end SortedIn

/-! ### Readings -/

namespace Reading

/-- What the child in the field `f` contributes as a part of an expression. -/
def part (rs : List Reading) (f : Ruby.Field) : List (Rose Node) :=
  ((field? rs f).map (·.expression)).toList

/-- All that the reading `r` of the parse tree `t` contributes is sorted in the range of `t`. -/
structure Sorted (t : Ruby.Tree) (r : Reading) : Prop where
  expression : SortedIn t.label.span [r.expression]
  statement : SortedIn t.label.span [r.statement]
  parts : SortedIn t.label.span r.parts
  statements : SortedIn t.label.span r.statements
  body : SortedIn t.label.span r.body
  /-- As a block, a node contributes its parameters and then its body. -/
  block : Ruby.BodyLast [.parameters] t.children →
    SortedIn t.label.span (r.parameters.toList ++ r.body)
  /-- A token declares nothing. -/
  token : Ruby.IsToken t → declared [r.expression] = []

/-- The readings of the nodes right below a node, all of which are sorted. -/
abbrev SortedBelow : (Span → String) → Ruby.Label → List Ruby.Tree → List Reading → Prop :=
  Below Sorted

namespace SortedBelow

variable {text : Span → String} {l : Ruby.Label} {ts : List Ruby.Tree} {rs : List Reading}
  (h : SortedBelow text l ts rs)
include h

/-- What is sorted in a child is sorted in the whole. -/
theorem of_child {t : Ruby.Tree} (ht : t ∈ ts) {ss : List (Rose Node)}
    (hss : SortedIn t.label.span ss) : SortedIn l.span ss :=
  hss.widen (h.within ht).start (h.within ht).stop

/-! ### Several children -/

/-- What some of the children contribute, each in its turn. -/
theorem flatMap {us : List Ruby.Tree} (hsub : us.Sublist ts) {g : Ruby.Tree → List (Rose Node)}
    (hg : ∀ t ∈ ts, SortedIn t.label.span (g t)) : SortedIn l.span (us.flatMap g) where
  within := by
    intro n hn
    rw [declared_flatMap, List.mem_flatMap] at hn
    obtain ⟨t, ht, hn⟩ := hn
    have ht' := hsub.subset ht
    exact (h.of_child ht' (hg t ht')).within n hn
  sorted := by
    rw [declared_flatMap, List.pairwise_flatMap]
    refine ⟨fun t ht => (hg t (hsub.subset ht)).sorted, ?_⟩
    refine (h.nested.ordered.sublist hsub).imp_of_mem fun {s t} hs ht hst => ?_
    exact (hg s (hsub.subset hs)).before (hg t (hsub.subset ht)) hst

/-- Some of the children, as parts of an expression or as statements. -/
theorem map_sublist {us : List Ruby.Tree} (hsub : us.Sublist ts) {g : Reading → Rose Node}
    (hg : ∀ t r, Sorted t r → SortedIn t.label.span [g r]) :
    SortedIn l.span ((us.map (ofTree text)).map g) := by
  have hsorted := h.flatMap hsub fun t ht => hg t _ (h.each t ht)
  rw [List.map_map, List.map_eq_flatMap]
  exact hsorted

/-- The children that can stand as statements, in either way. -/
theorem map_statementChildren {g : Reading → Rose Node}
    (hg : ∀ t r, Sorted t r → SortedIn t.label.span [g r]) :
    SortedIn l.span ((statementChildren rs).map g) := by
  rw [h.readings, statementChildren_map (label_ofTree text)]
  exact h.map_sublist List.filter_sublist hg

/-! ### Children in fields -/

theorem sortedIn_part (f : Ruby.Field) : SortedIn l.span (part rs f) := by
  unfold part
  cases hr : field? rs f with
  | none => exact SortedIn.nil _
  | some r =>
    obtain ⟨t, ht, -, rfl⟩ := h.exists_of_field? hr
    exact h.of_child ht (h.each t ht).expression

section Fields

variable {fields : List Ruby.Field} (hfields : Ruby.InFieldOrder fields ts)
include hfields

/-- What is read from a child in an earlier field comes before all that is read from a child in a
later field. -/
theorem before_child {f g : Ruby.Field} {t : Ruby.Tree} (ht : t ∈ ts)
    (hg : t.label.field = some g) {ss : List (Rose Node)} (hss : SortedIn t.label.span ss)
    (hgmem : g ∈ fields) (hlt : fields.idxOf f < fields.idxOf g) : Before (part rs f) ss := by
  unfold part
  cases hr : field? rs f with
  | none => exact nofun
  | some r =>
    obtain ⟨s, hs, hf, rfl⟩ := h.exists_of_field? hr
    exact (h.each s hs).expression.before hss (hfields.apart h.nested.ordered hs ht hf hg hgmem hlt)

theorem before_part {f g : Ruby.Field} (hgmem : g ∈ fields)
    (hlt : fields.idxOf f < fields.idxOf g) : Before (part rs f) (part rs g) := by
  cases hr : field? rs g with
  | none =>
    intro m _ n hn
    rw [part, hr] at hn
    cases hn
  | some r =>
    obtain ⟨t, ht, hg, rfl⟩ := h.exists_of_field? hr
    have hpart : part rs g = [(ofTree text t).expression] := by simp [part, hr]
    rw [hpart]
    exact h.before_child hfields ht hg (h.each t ht).expression hgmem hlt

end Fields

/-! ### Bodies -/

theorem sortedIn_bodyOf : SortedIn l.span (bodyOf rs) := by
  unfold bodyOf
  split
  · next b hb =>
    obtain ⟨t, ht, -, rfl⟩ := h.exists_of_field? hb
    -- a list of statements, of either kind, or a single statement
    split
    · exact h.of_child ht (h.each t ht).statements
    · exact h.of_child ht (h.each t ht).statements
    · exact h.of_child ht (h.each t ht).statement
  · rw [h.readings, statementChildren_withoutHeaders_map (label_ofTree text)]
    exact h.map_sublist
      (List.filter_sublist.trans (Ruby.withoutHeaders_sublist Rose.label ts))
      fun t r hsorted => hsorted.statement

/-- What is read from a header comes before the body. -/
theorem before_bodyOf {headers : List Ruby.Field} (hlast : Ruby.BodyLast headers ts)
    {f : Ruby.Field} (hfmem : f ∈ headers)
    (hlt : (headers ++ [Ruby.Field.body]).idxOf f < (headers ++ [Ruby.Field.body]).idxOf .body) :
    Before (part rs f) (bodyOf rs) := by
  unfold bodyOf
  split
  · next b hb =>
    obtain ⟨t, ht, hbody, rfl⟩ := h.exists_of_field? hb
    have hmem : Ruby.Field.body ∈ headers ++ [.body] := by simp
    split
    · exact h.before_child hlast.fields ht hbody (h.each t ht).statements hmem hlt
    · exact h.before_child hlast.fields ht hbody (h.each t ht).statements hmem hlt
    · exact h.before_child hlast.fields ht hbody (h.each t ht).statement hmem hlt
  · next hnone =>
    -- without a node for the body, each of its statements comes behind the header
    have hbody := h.child?_eq_none hnone
    unfold part
    cases hr : field? rs f with
    | none => exact nofun
    | some r =>
      obtain ⟨s, hs, rfl⟩ := h.exists_child? hr
      intro m hm n hn
      rw [h.readings, statementChildren_withoutHeaders_map (label_ofTree text), List.map_map,
        List.map_eq_flatMap, declared_flatMap, List.mem_flatMap] at hn
      obtain ⟨t, ht, hn⟩ := hn
      have hmem : t ∈ ts :=
        (Ruby.withoutHeaders_sublist Rose.label ts).subset (List.mem_filter.1 ht).1
      exact (h.each s (List.mem_of_find?_eq_some hs)).expression.before (h.each t hmem).statement
        (hlast.statements hbody f hfmem s hs t ht) m hm n hn

/-! ### One step for each construct -/

theorem sortedIn_plain : SortedIn l.span [plain l rs] :=
  (h.map_statementChildren fun _ _ hsorted => hsorted.expression).node rfl h.nested.range

theorem sortedIn_definition (hlast : Ruby.BodyLast [.name, .superclass, .parameters] ts)
    (hobject : ∀ t ∈ Ruby.child? ts .object, Ruby.IsToken t)
    (hvalue : ∀ t ∈ ts, t.label.field ≠ some .value) (shape : Shape) :
    SortedIn l.span [definition text shape l rs] := by
  have hbody : ∀ f ∈ [Ruby.Field.name, .superclass, .parameters], Before (part rs f) (bodyOf rs) :=
    fun f hf => h.before_bodyOf hlast hf (by revert f; decide)
  have hsorted : SortedIn l.span
      (part rs .name ++ (part rs .superclass ++ (part rs .parameters ++ bodyOf rs))) := by
    refine (h.sortedIn_part _).append ((h.sortedIn_part _).append
      ((h.sortedIn_part _).append h.sortedIn_bodyOf ?_) ?_) ?_
    · exact hbody _ (by decide)
    · exact (h.before_part hlast.fields (by decide) (by decide)).append_right (hbody _ (by decide))
    · exact (h.before_part hlast.fields (by decide) (by decide)).append_right
        ((h.before_part hlast.fields (by decide) (by decide)).append_right (hbody _ (by decide)))
  -- the object declares nothing, and there is no value
  have hnothing : declared (part rs .object) = [] := by
    unfold part
    cases hr : field? rs .object with
    | none => rfl
    | some r =>
      obtain ⟨t, ht, rfl⟩ := h.exists_child? hr
      exact (h.each t (List.mem_of_find?_eq_some ht)).token (hobject t ht)
  have hnone : part rs .value = [] := by
    rw [part, h.readings, field?_map (label_ofTree text), Ruby.child?_eq_none hvalue]
    rfl
  have hparts : (Ruby.Field.headers.filterMap (field? rs)).map (·.expression) =
      part rs .name ++ (part rs .superclass ++ (part rs .parameters ++
        (part rs .object ++ part rs .value))) := by
    rw [List.map_filterMap, List.filterMap_eq_flatMap_toList, Ruby.Field.headers]
    simp [part]
  refine SortedIn.node (hsorted.congr ?_) rfl h.nested.range
  rw [hparts]
  simp [hnothing, hnone]

theorem sortedIn_assignment : SortedIn l.span [assignment text l rs] := by
  unfold assignment
  split
  · exact h.sortedIn_plain
  · split
    · exact (h.sortedIn_part _).node rfl h.nested.range
    · exact (h.sortedIn_part _).node rfl h.nested.range
    · exact h.sortedIn_plain

section Calls

variable (hfields : Ruby.InFieldOrder [.receiver, .method, .arguments, .block] ts)
include hfields

/-- Receiver and arguments of a call. -/
theorem sortedIn_operands :
    SortedIn l.span (part rs .receiver ++ ((field? rs .arguments).map (·.parts)).getD []) := by
  cases ha : field? rs .arguments with
  | none =>
    rw [Option.map_none, Option.getD_none, List.append_nil]
    exact h.sortedIn_part _
  | some a =>
    obtain ⟨t, ht, hf, rfl⟩ := h.exists_of_field? ha
    have hparts := (h.each t ht).parts
    exact (h.sortedIn_part _).append (h.of_child ht hparts)
      (h.before_child hfields ht hf hparts (by decide) (by decide))

/-- Receiver and arguments of a call come before its block. -/
theorem before_block {t : Ruby.Tree} (ht : t ∈ ts) (hf : t.label.field = some .block)
    {ss : List (Rose Node)} (hss : SortedIn t.label.span ss) :
    Before (part rs .receiver ++ ((field? rs .arguments).map (·.parts)).getD []) ss := by
  refine (h.before_child hfields ht hf hss (by decide) (by decide)).append_left ?_
  cases ha : field? rs .arguments with
  | none => exact nofun
  | some a =>
    obtain ⟨s, hs, hf', rfl⟩ := h.exists_of_field? ha
    exact (h.each s hs).parts.before hss
      (hfields.apart h.nested.ordered hs ht hf' hf (by decide) (by decide))

theorem sortedIn_call
    (hblock : ∀ b ∈ Ruby.child? ts .block, Ruby.BodyLast [.parameters] b.children) :
    SortedIn l.span [call text l rs] := by
  have hoperands := h.sortedIn_operands hfields
  have hspan : (callSpan l rs).startByte = l.span.startByte := by
    unfold callSpan
    split
    · rfl
    · rfl
  unfold call
  split
  · exact hoperands.node rfl h.nested.range
  · next b hb =>
    obtain ⟨t, hchild, rfl⟩ := h.exists_child? hb
    have ht : t ∈ ts := List.mem_of_find?_eq_some hchild
    have hf : t.label.field = some .block := Ruby.field_of_child? hchild
    have hinner : SortedIn t.label.span
        ((ofTree text t).parameters.toList ++ (gather (ofTree text t).body).toList) :=
      ((h.each t ht).block (hblock t hchild)).congr (by simp)
    have houter := h.of_child ht hinner
    -- the call itself, and then what the block adds
    refine SortedIn.node ?_ rfl h.nested.range
    rw [← List.singleton_append]
    refine (hoperands.node hspan h.nested.range).append houter
      (Before.node (h.before_block hfields ht hf hinner) fun m hm => ?_)
    rw [hspan]
    exact (houter.within m hm).1

end Calls

theorem sortedIn_lambda (hfields : Ruby.InFieldOrder [.parameters, .body] ts) :
    SortedIn l.span [lambda l rs] := by
  unfold lambda
  refine SortedIn.node ?_ rfl h.nested.range
  cases hb : field? rs .body with
  | none =>
    rw [Option.bind_none, Option.toList_none, List.append_nil]
    exact h.sortedIn_part _
  | some b =>
    obtain ⟨t, ht, hf, rfl⟩ := h.exists_of_field? hb
    have hbody : SortedIn t.label.span (gather (ofTree text t).body).toList :=
      (h.each t ht).body.congr (by simp)
    exact (h.sortedIn_part _).append (h.of_child ht hbody)
      (h.before_child hfields ht hf hbody (by decide) (by decide))

theorem sortedIn_expressionOf (horder : Ruby.InGrammarOrder (.node l ts)) :
    SortedIn l.span [expressionOf text l rs] := by
  have hdefinition : l.kind.isDefinition = true → ∀ shape,
      SortedIn l.span [definition text shape l rs] := fun hkind shape =>
    h.sortedIn_definition (horder.definition hkind) (horder.object hkind) (horder.value hkind) shape
  unfold expressionOf
  split
  case h_5 => exact h.sortedIn_assignment
  case h_6 hkind => exact h.sortedIn_call (horder.call hkind) (horder.block hkind)
  case h_7 hkind => exact h.sortedIn_lambda (horder.lambda hkind)
  case h_8 => exact h.sortedIn_plain
  all_goals next hkind => exact hdefinition (by rw [hkind]; rfl) _

theorem sortedIn_statementOf (horder : Ruby.InGrammarOrder (.node l ts)) :
    SortedIn l.span [statementOf text l rs] := by
  unfold statementOf
  split
  · exact (SortedIn.nil l.span).node rfl h.nested.range
  · exact h.sortedIn_expressionOf horder

theorem declared_token (htoken : Ruby.IsToken (.node l ts)) :
    declared [expressionOf text l rs] = [] := by
  have hkind : l.kind ∉ [.call, .moduleDef, .method, .singletonMethod] := htoken.kind
  have hts : ts = [] := htoken.children
  have hrs : rs = [] := by rw [h.readings, hts, List.map_nil]
  rw [hrs]
  unfold expressionOf
  split
  case h_2 heq => simp [heq] at hkind
  case h_3 heq => simp [heq] at hkind
  case h_4 heq => simp [heq] at hkind
  case h_6 heq => simp [heq] at hkind
  all_goals rfl

/-- One step of the reading. -/
theorem of (horder : Ruby.InGrammarOrder (.node l ts)) :
    Sorted (.node l ts) (Reading.of text l rs) where
  expression := h.sortedIn_expressionOf horder
  statement := h.sortedIn_statementOf horder
  parts := h.map_statementChildren fun _ _ hsorted => hsorted.expression
  statements := h.map_statementChildren fun _ _ hsorted => hsorted.statement
  body := h.sortedIn_bodyOf
  block := fun hlast => (h.sortedIn_part .parameters).append h.sortedIn_bodyOf
    (h.before_bodyOf hlast (by decide) (by decide))
  token := h.declared_token

end SortedBelow

/-- **What is read from a parse tree in the order of the grammar is sorted.** -/
theorem sorted_ofTree {t : Ruby.Tree} (hnested : Ruby.Nested t) (text : Span → String) :
    (∀ s ∈ t.subtrees, Ruby.InGrammarOrder s) → Sorted t (ofTree text t) := by
  induction hnested with
  | @node l ts range inside ordered below ih =>
    intro horder
    rw [ofTree_node]
    have hbelow : SortedBelow text l ts (ts.map (ofTree text)) :=
      ⟨.node range inside ordered below, rfl, fun t ht => ih t ht fun s hs =>
        horder s (Rose.mem_subtrees_node.2 (Or.inr ⟨t, ht, hs⟩))⟩
    exact hbelow.of (horder _ (Rose.mem_subtrees_node.2 (Or.inl rfl)))

end Reading

/-! ### The declarations of an outline -/

theorem filterMap_getElem?_range {α : Type} (l : List α) :
    (List.range l.length).filterMap (l[·]?) = l := by
  induction l with
  | nil => rfl
  | cons a l ih =>
    rw [List.length_cons, List.range_succ_eq_map, List.filterMap_cons, List.filterMap_map]
    exact congrArg (a :: ·) ih

namespace Outline

/-- The declarations of the outline of a tree, as nodes. -/
theorem declarations_ofRose (s : Rose Node) :
    (ofRose (some s)).declarations.filterMap (ofRose (some s)).node? = declared [s] := by
  have hnode : (ofRose (some s)).node? = fun i => s.preorder[i]? := by
    funext i
    exact node?_ofRose_eq s i
  have hfilter : declared [s] = s.preorder.filter (·.shape.isDeclaration) := by
    rw [declared, List.flatMap_singleton]
  have htest : ∀ n? : Option Node, (if n?.any (·.shape.isDeclaration) then n? else none) =
      n?.bind (Option.guard (·.shape.isDeclaration)) := by
    intro n?
    cases n? with
    | none => rfl
    | some n => simp [Option.guard]
  rw [declarations, preorder_ofRose, hnode, List.filterMap_filter, hfilter,
    ← List.filterMap_eq_filter]
  conv_rhs => rw [← filterMap_getElem?_range s.preorder, List.filterMap_filterMap]
  congr
  funext i
  exact htest _

/-- The declarations of a file start one after the other. -/
theorem pairwise_declarations {t : Ruby.Tree} (hnested : Ruby.Nested t)
    (horder : ∀ s ∈ t.subtrees, Ruby.InGrammarOrder s) (text : Span → String) :
    ((ofTree text t).declarations.filterMap (ofTree text t).node?).Pairwise
      fun m n => m.span.startByte ≤ n.span.startByte := by
  have hsorted := (Reading.sorted_ofTree hnested text horder).statements.sorted
  rw [← declared_gather] at hsorted
  rw [ofTree_eq]
  cases hroot : gather (Reading.ofTree text t).statements with
  | none =>
    have hempty : (ofRose none).node? = fun _ => none := rfl
    rw [hempty, List.filterMap_none]
    exact List.Pairwise.nil
  | some s =>
    rw [declarations_ofRose]
    rw [hroot] at hsorted
    exact hsorted

/-- The visits of a review that is handed the nodes with the given numbers. -/
def visits (o : Outline) (k : Commentary) (numbers : List Nat) : List Visit :=
  numbers.filterMap fun i =>
    match h : o.node? i with
    | none => none
    | some n => some ⟨o, k, i, n, h⟩

theorem map_node_visits (o : Outline) (k : Commentary) (numbers : List Nat) :
    (o.visits k numbers).map (·.node) = numbers.filterMap o.node? := by
  rw [visits, List.map_filterMap]
  congr
  funext i
  split
  · next hnone => exact hnone.symm
  · next n hsome => exact hsome.symm

end Outline

/-! ### Offenses -/

namespace Review

/-- A number without a node changes nothing. -/
theorem run_eq_ofVisits (rules : Rules) (o : Outline) (k : Commentary) (numbers : List Nat) :
    run rules o k numbers = ofVisits rules (o.visits k numbers) := by
  rw [run, ofVisits, Outline.visits, List.foldl_filterMap]
  congr
  funext r i
  split
  · next v hv =>
    split at hv
    · cases hv
    · cases hv
      rfl
  · next hnone =>
    split at hnone
    · next hnode =>
      rw [process, observe, hnode]
      unfold step
      split <;> rfl
    · cases hnone

/-- Each offense stands where a visited node does. -/
theorem exists_visit_of_mem_offenses (rules : Rules) (visits : List Visit) :
    ∀ x ∈ (ofVisits rules visits).offenses, ∃ v ∈ visits, x.span = v.node.span := by
  induction visits using List.reverseRecOn with
  | nil => exact nofun
  | append_singleton visits v ih =>
    intro x hx
    obtain ⟨comment, order, heq, hcomment, horder⟩ := offenses_ofVisits_concat rules visits v
    rw [heq, List.mem_append, List.mem_append, Option.mem_toList, Option.mem_toList] at hx
    rcases hx with hx | hx | hx
    · obtain ⟨u, hu, hspan⟩ := ih x hx
      exact ⟨u, List.mem_append_left _ hu, hspan⟩
    · exact ⟨v, by simp, (hcomment x hx).2⟩
    · exact ⟨v, by simp, (horder x hx).2⟩

/-- A review of nodes that start one after the other finds offenses that do. -/
theorem pairwise_offenses (rules : Rules) (visits : List Visit)
    (hsorted : (visits.map (·.node)).Pairwise fun m n => m.span.startByte ≤ n.span.startByte) :
    (ofVisits rules visits).offenses.Pairwise fun x y => x.span.startByte ≤ y.span.startByte := by
  induction visits using List.reverseRecOn with
  | nil => exact List.Pairwise.nil
  | append_singleton visits v ih =>
    rw [List.map_append, List.pairwise_append] at hsorted
    obtain ⟨hvisits, -, hlast⟩ := hsorted
    obtain ⟨comment, order, heq, hcomment, horder⟩ := offenses_ofVisits_concat rules visits v
    have hnew : ∀ x ∈ comment.toList ++ order.toList, x.span = v.node.span := by
      intro x hx
      rw [List.mem_append, Option.mem_toList, Option.mem_toList] at hx
      rcases hx with hx | hx
      · exact (hcomment x hx).2
      · exact (horder x hx).2
    rw [heq, List.pairwise_append]
    refine ⟨ih hvisits, ?_, ?_⟩
    · refine List.pairwise_of_forall_mem_list fun x hx y hy => ?_
      simp [hnew x hx, hnew y hy]
    · intro x hx y hy
      obtain ⟨u, hu, hspan⟩ := exists_visit_of_mem_offenses rules visits x hx
      rw [hspan, hnew y hy]
      exact hlast u.node (List.mem_map_of_mem hu) v.node (by simp)

end Review

/-- **The declarations, the offenses and the reports of a file come in the order of the source.** -/
theorem SourceFile.offenses_in_source_order {f : SourceFile} (hnested : Ruby.Nested f.tree)
    (horder : ∀ t ∈ f.tree.subtrees, Ruby.InGrammarOrder t) :
    ((f.outline.declarations.filterMap f.outline.node?).Pairwise
        fun m n => m.span.startByte ≤ n.span.startByte) ∧
      ∀ rules : Rules,
        (f.offenses rules).Pairwise (fun x y => x.span.startByte ≤ y.span.startByte) ∧
        ∀ path : String,
          records [⟨path, f.offenses rules⟩] = (f.offenses rules).map (Offense.record path) ∧
          renderJson [⟨path, f.offenses rules⟩] =
            (Json.array ((f.offenses rules).map fun x => (x.record path).toJson)).pretty ∧
          reportLines [⟨path, f.offenses rules⟩] =
            (f.offenses rules).flatMap (fun x => (x.record path).textLines) ++
              ["", summaryLine [⟨path, f.offenses rules⟩]] := by
  have hdeclarations := Outline.pairwise_declarations hnested horder f.textAt
  refine ⟨hdeclarations, fun rules => ⟨?_, fun path => ?_⟩⟩
  · rw [SourceFile.offenses, Review.offensesOf, Review.run_eq_ofVisits]
    refine Review.pairwise_offenses rules _ ?_
    rw [Outline.map_node_visits]
    exact hdeclarations
  · have hrecords : records [⟨path, f.offenses rules⟩] =
        (f.offenses rules).map (Offense.record path) := by
      rw [records, List.flatMap_singleton]
    refine ⟨hrecords, ?_, ?_⟩
    · rw [renderJson, hrecords, List.map_map]
      rfl
    · rw [reportLines, hrecords, List.flatMap_map]

/-- The offenses in a file, in a form that can be evaluated. -/
theorem SourceFile.offenses_eq_verdicts (rules : Rules) (f : SourceFile) :
    f.offenses rules = Review.verdicts rules [] (Review.qualifying rules
      (f.outline.visits f.commentary ((List.range f.outline.size).filter fun i =>
        (f.outline.node? i).any (·.shape.isDeclaration)))) := by
  rw [offenses, Review.offensesOf, Review.run_eq_ofVisits, Review.offenses_ofVisits,
    Outline.declarations, outline, Outline.preorder_ofTree]

/-- A class with a module, a constant, a singleton method and a constructor. -/
def lateConstructor : SourceFile where
  text := "class Foo\n  module Bar; end\n  FOO = 'x'\n  def self.build; end\n" ++
    "  def initialize; end\nend\n"
  tree :=
    .node ⟨none, .other, true, ⟨0, 88, ⟨1, 0⟩, ⟨7, 0⟩⟩⟩
      [.node ⟨none, .classDef, true, ⟨0, 87, ⟨1, 0⟩, ⟨6, 3⟩⟩⟩
        [.node ⟨some .name, .constant, true, ⟨6, 9, ⟨1, 6⟩, ⟨1, 9⟩⟩⟩ [],
          .node ⟨some .body, .bodyStatement, true, ⟨12, 83, ⟨2, 2⟩, ⟨5, 21⟩⟩⟩
            [.node ⟨none, .moduleDef, true, ⟨12, 27, ⟨2, 2⟩, ⟨2, 17⟩⟩⟩
              [.node ⟨some .name, .constant, true, ⟨19, 22, ⟨2, 9⟩, ⟨2, 12⟩⟩⟩ []],
              .node ⟨none, .assignment, true, ⟨30, 39, ⟨3, 2⟩, ⟨3, 11⟩⟩⟩
                [.node ⟨some .left, .constant, true, ⟨30, 33, ⟨3, 2⟩, ⟨3, 5⟩⟩⟩ [],
                  .node ⟨some .right, .other, true, ⟨36, 39, ⟨3, 8⟩, ⟨3, 11⟩⟩⟩
                    [.node ⟨none, .other, true, ⟨37, 38, ⟨3, 9⟩, ⟨3, 10⟩⟩⟩ []]],
              .node ⟨none, .singletonMethod, true, ⟨42, 61, ⟨4, 2⟩, ⟨4, 21⟩⟩⟩
                [.node ⟨some .object, .other, true, ⟨46, 50, ⟨4, 6⟩, ⟨4, 10⟩⟩⟩ [],
                  .node ⟨some .name, .identifier, true, ⟨51, 56, ⟨4, 11⟩, ⟨4, 16⟩⟩⟩ []],
              .node ⟨none, .method, true, ⟨64, 83, ⟨5, 2⟩, ⟨5, 21⟩⟩⟩
                [.node ⟨some .name, .identifier, true, ⟨68, 78, ⟨5, 6⟩, ⟨5, 16⟩⟩⟩ []]]]]

/-- Two section comments are missing, and the constructor comes too late. -/
theorem offenses_in_source_order_lateConstructor :
    Ruby.Nested lateConstructor.tree ∧
      (∀ t ∈ lateConstructor.tree.subtrees, Ruby.InGrammarOrder t) ∧
      (lateConstructor.offenses .standard).map (·.span.startByte) = [12, 30, 64] ∧
      (lateConstructor.offenses .standard).Pairwise
        fun x y => x.span.startByte ≤ y.span.startByte := by
  have hnested : Ruby.Nested lateConstructor.tree := by decide +kernel
  have horder : ∀ t ∈ lateConstructor.tree.subtrees, Ruby.InGrammarOrder t := by decide +kernel
  have hsorted := (SourceFile.offenses_in_source_order hnested horder).2 .standard
  refine ⟨hnested, horder, ?_, hsorted.1⟩
  rw [SourceFile.offenses_eq_verdicts]
  decide +kernel

end ModelLayout

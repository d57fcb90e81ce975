import ModelLayout.Proofs.Heading

/-!
# Declarations of nested scopes

A class, module or method inside a class opens a scope of its own, and what is declared there is no
declaration of the class around it.  Whether a node is reviewed is decided by the nodes right around
it, at most three of them, and nothing tells the class that is reviewed from a class inside it or
from a group of declarations anywhere else.  Here it is proved which nodes of nested scopes are
passed over: all but the members of an inner class and the members of a group.

## Main definitions

* `Shape.isScope` — classes, modules and methods.
* `memberPaths` — what may stand between a member and what it is a member of.
* `Outline.InNestedScope` — a node inside a scope that is inside a class.
* `Outline.InNestedClass` — a member of a class that is inside a class.

## Main results

* `memberOf_iff` — where the members of a container stand.
* `Review.process_of_isIgnored` — a node that is passed over leaves the review as it is.
* `Outline.isIgnored_iff_of_inNestedScope` — which nodes of nested scopes are passed over.
-/

namespace ModelLayout

/-- The shapes that open a scope of their own. -/
def Shape.isScope : Shape → Bool
  | .classDef | .moduleDef | .method | .singletonMethod => true
  | _ => false

/-- What may stand between a member and its container, the innermost first: nothing, the sequence
that is the body, or a block or lambda in this sequence. -/
def memberPaths : List (List Shape) :=
  [[], [.sequence], [.block, .sequence], [.lambda, .sequence]]

/-- No scope stands between a member and its container. -/
theorem not_isScope_of_memberPaths {path : List Shape} (h : path ∈ memberPaths) :
    ∀ shape ∈ path, shape.isScope = false := by
  revert path
  decide

/-- **A node is a member of a container exactly if some node around it is one and no more than a
body, or a block in this body, stands between them.** -/
theorem memberOf_iff {container : Node → Bool} {around : List Node} :
    memberOf container around = true ↔ ∃ path body outer, around = path ++ body :: outer ∧
      container body = true ∧ path.map Node.shape ∈ memberPaths := by
  constructor
  · intro h
    cases around with
    | nil => cases h
    | cons parent outer =>
      rw [memberOf.eq_def] at h
      dsimp only at h
      rw [Bool.or_eq_true] at h
      rcases h with h | h
      · exact ⟨[], parent, outer, rfl, h, by decide⟩
      · split at h
        · next body rest hshape =>
          exact ⟨[parent], body, rest, rfl, h, by simp [memberPaths, hshape]⟩
        · next seq body rest hshape =>
          rw [Bool.and_eq_true, beq_iff_eq] at h
          exact ⟨[parent, seq], body, rest, rfl, h.2, by simp [memberPaths, hshape, h.1]⟩
        · next seq body rest hshape =>
          rw [Bool.and_eq_true, beq_iff_eq] at h
          exact ⟨[parent, seq], body, rest, rfl, h.2, by simp [memberPaths, hshape, h.1]⟩
        · cases h
  · rintro ⟨path, body, outer, rfl, hbody, hpath⟩
    simp only [memberPaths, List.mem_cons, List.not_mem_nil, or_false, List.map_eq_nil_iff,
      List.map_eq_cons_iff] at hpath
    -- one case for each way in which a member may stand
    rcases hpath with rfl | ⟨parent, _, rfl, hparent, rfl⟩ |
      ⟨parent, _, rfl, hparent, seq, _, rfl, hseq, rfl⟩ |
      ⟨parent, _, rfl, hparent, seq, _, rfl, hseq, rfl⟩
    · simp [memberOf.eq_def, hbody]
    · simp [memberOf.eq_def, hparent, hbody]
    · simp [memberOf.eq_def, hparent, hseq, hbody]
    · simp [memberOf.eq_def, hparent, hseq, hbody]

namespace Outline

/-- The node `i` stands in a class, module or method that stands in a class. -/
def InNestedScope (o : Outline) (i : Nat) : Prop :=
  ∃ inner scope outer, o.enclosing i = inner ++ scope :: outer ∧ scope.shape.isScope = true ∧
    ∃ n ∈ outer, n.isClass = true

/-- The node `i` is a member of a class that stands in a class. -/
def InNestedClass (o : Outline) (i : Nat) : Prop :=
  ∃ path body outer, o.enclosing i = path ++ body :: outer ∧ body.isClass = true ∧
    path.map Node.shape ∈ memberPaths ∧ ∃ n ∈ outer, n.isClass = true

/-- A member of a class that stands in a nested scope is a member of an inner class: its class is
the innermost scope around it. -/
theorem isClassMember_iff_of_inNestedScope {o : Outline} {i : Nat} (h : o.InNestedScope i) :
    o.isClassMember i = true ↔ o.InNestedClass i := by
  obtain ⟨inner, scope, outer, haround, hscope, n, hn, hclass⟩ := h
  rw [isClassMember, memberOf_iff]
  constructor
  · rintro ⟨path, body, rest, haround', hbody, hpath⟩
    refine ⟨path, body, rest, haround', hbody, hpath, n, ?_, hclass⟩
    -- nothing on the path is a scope, so the scope is the class itself or stands around it
    rw [haround', List.append_eq_append_iff] at haround
    rcases haround with ⟨between, -, hrest⟩ | ⟨between, hpath', hrest⟩
    · cases between with
      | nil => rw [(List.cons.inj hrest).2]; exact hn
      | cons m between =>
        rw [(List.cons.inj hrest).2]
        exact List.mem_append_right _ (List.mem_cons_of_mem _ hn)
    · cases between with
      | nil => rw [← (List.cons.inj hrest).2]; exact hn
      | cons m between =>
        have hmem : scope ∈ path := by
          rw [hpath', (List.cons.inj hrest).1]
          exact List.mem_append_right _ List.mem_cons_self
        have hnot := not_isScope_of_memberPaths hpath _ (List.mem_map_of_mem hmem)
        rw [hscope] at hnot
        cases hnot
  · rintro ⟨path, body, rest, haround', hbody, hpath, -⟩
    exact ⟨path, body, rest, haround', hbody, hpath⟩

end Outline

/-- A node that is passed over leaves all that a review has found as it is. -/
theorem Review.process_of_isIgnored {o : Outline} {i : Nat} (h : o.isIgnored i = true)
    (rules : Rules) (k : Commentary) (r : Review) :
    ∃ hidden, process rules o k r i = { r with privateReached := hidden } := by
  have hevent : observe rules o k i = .privateMarker ∨ observe rules o k i = .nothing := by
    rw [observe, h]
    split
    · exact Or.inr rfl
    · split
      · exact Or.inl rfl
      · split
        · exact Or.inr rfl
        · exact Or.inr rfl
  rw [process, step.eq_def]
  by_cases hprivate : r.privateReached = true
  · exact ⟨true, by rw [if_pos hprivate, ← hprivate]⟩
  · rw [if_neg hprivate]
    rcases hevent with hevent | hevent
    · exact ⟨true, by rw [hevent]⟩
    · exact ⟨r.privateReached, by rw [hevent]⟩

/-- **A node of a nested scope is passed over exactly if it is neither a member of a group nor a
member of an inner class**, and then it adds neither a category nor an offense to a review. -/
theorem Outline.isIgnored_iff_of_inNestedScope {o : Outline} {i : Nat} (h : o.InNestedScope i) :
    (o.isIgnored i = true ↔ o.isGrouped i = false ∧ ¬ o.InNestedClass i) ∧
      (o.isIgnored i = true → ∀ (rules : Rules) (k : Commentary) (r : Review),
        (Review.process rules o k r i).seen = r.seen ∧
          (Review.process rules o k r i).checked = r.checked ∧
          (Review.process rules o k r i).offenses = r.offenses) := by
  constructor
  · rw [← isClassMember_iff_of_inNestedScope h, isIgnored, Bool.not_eq_true', Bool.or_eq_false_iff,
      Bool.not_eq_true]
    exact and_comm
  · intro hignored rules k r
    obtain ⟨hidden, hprocess⟩ := Review.process_of_isIgnored hignored rules k r
    rw [hprocess]
    exact ⟨rfl, rfl, rfl⟩

/-! ### A class in a class in a class -/

/-- Three classes, each inside the one before, and a declaration in the innermost. -/
def nestedClasses : SourceFile where
  text := "class A; class B; class C; has_one :d; end; end; end"
  tree :=
    .node ⟨none, .other, true, ⟨0, 52, ⟨1, 0⟩, ⟨1, 52⟩⟩⟩
      [.node ⟨none, .classDef, true, ⟨0, 52, ⟨1, 0⟩, ⟨1, 52⟩⟩⟩
        [.node ⟨some .name, .constant, true, ⟨6, 7, ⟨1, 6⟩, ⟨1, 7⟩⟩⟩ [],
          .node ⟨some .body, .bodyStatement, true, ⟨9, 48, ⟨1, 9⟩, ⟨1, 48⟩⟩⟩
            [.node ⟨none, .classDef, true, ⟨9, 47, ⟨1, 9⟩, ⟨1, 47⟩⟩⟩
              [.node ⟨some .name, .constant, true, ⟨15, 16, ⟨1, 15⟩, ⟨1, 16⟩⟩⟩ [],
                .node ⟨some .body, .bodyStatement, true, ⟨18, 43, ⟨1, 18⟩, ⟨1, 43⟩⟩⟩
                  [.node ⟨none, .classDef, true, ⟨18, 42, ⟨1, 18⟩, ⟨1, 42⟩⟩⟩
                    [.node ⟨some .name, .constant, true, ⟨24, 25, ⟨1, 24⟩, ⟨1, 25⟩⟩⟩ [],
                      .node ⟨some .body, .bodyStatement, true, ⟨27, 38, ⟨1, 27⟩, ⟨1, 38⟩⟩⟩
                        [.node ⟨none, .call, true, ⟨27, 37, ⟨1, 27⟩, ⟨1, 37⟩⟩⟩
                          [.node ⟨some .method, .identifier, true, ⟨27, 34, ⟨1, 27⟩, ⟨1, 34⟩⟩⟩ [],
                            .node ⟨some .arguments, .other, true, ⟨35, 37, ⟨1, 35⟩, ⟨1, 37⟩⟩⟩
                              [.node ⟨none, .other, true, ⟨35, 37, ⟨1, 35⟩, ⟨1, 37⟩⟩⟩ []]]]]]]]]]

/-- The declaration stands in a nested scope. -/
theorem inNestedScope_nestedClasses : nestedClasses.outline.InNestedScope 6 := by
  have haround : ((nestedClasses.outline.enclosing 6).map Node.shape) =
      [.classDef, .classDef, .classDef] := by decide +kernel
  obtain ⟨inner, rest, hinner, hshape, hrest⟩ := List.map_eq_cons_iff.1 haround
  obtain ⟨middle, rest', rfl, hshape', -⟩ := List.map_eq_cons_iff.1 hrest
  refine ⟨[], inner, middle :: rest', hinner, by rw [hshape]; rfl, middle, List.mem_cons_self, ?_⟩
  rw [Node.isClass, hshape']
  rfl

/-- It is reviewed all the same, since it is a member of an inner class. -/
theorem inNestedClass_nestedClasses :
    nestedClasses.outline.InNestedScope 6 ∧ nestedClasses.outline.InNestedClass 6 := by
  refine ⟨inNestedScope_nestedClasses, ?_⟩
  have hiff := (Outline.isIgnored_iff_of_inNestedScope inNestedScope_nestedClasses).1
  have hreviewed : nestedClasses.outline.isIgnored 6 = false := by decide +kernel
  have hgrouped : nestedClasses.outline.isGrouped 6 = false := by decide +kernel
  by_contra hnot
  rw [hiff.2 ⟨hgrouped, hnot⟩] at hreviewed
  cases hreviewed

/-- Not every node of a nested scope is passed over, and not every one leaves the offenses as they
are. -/
theorem not_forall_isIgnored_of_inNestedScope :
    (¬ ∀ (f : SourceFile) (i : Nat), Ruby.WellFormed f.tree → f.outline.InNestedScope i →
      f.outline.isIgnored i = true) ∧
    ¬ ∀ (f : SourceFile) (i : Nat), Ruby.WellFormed f.tree → f.outline.InNestedScope i →
      ∀ (rules : Rules) (r : Review),
        (Review.process rules f.outline f.commentary r i).offenses = r.offenses := by
  have hwf : Ruby.WellFormed nestedClasses.tree := by decide +kernel
  constructor
  · intro h
    have hignored := h nestedClasses 6 hwf inNestedScope_nestedClasses
    have hreviewed : nestedClasses.outline.isIgnored 6 = false := by decide +kernel
    rw [hreviewed] at hignored
    cases hignored
  · intro h
    have hsame := h nestedClasses 6 hwf inNestedScope_nestedClasses .standard {}
    -- the section comment of the declaration is missing
    have hoffense : (Review.process .standard nestedClasses.outline nestedClasses.commentary {}
        6).offenses.length = 1 := by decide +kernel
    rw [hsame] at hoffense
    cases hoffense

end ModelLayout

import Mathlib.Data.List.Basic
import ModelLayout.Declaration

/-!
# The names of methods

A call is sorted by the name of the method that it calls: by a fixed list of rules first, and by the
`misc` methods of the settings where no rule applies.  No name is known to two rules, so the rules
could stand in any order.  The `misc` methods fill the gaps that the rules leave, and never take a
name from a rule.

## Main definitions

* `PatternStep.spellings` — the texts that a row of words can spell.
* `callbackNames` — the methods that register a callback.
* `NamePattern.Exclusive` — two sets of names without a common name.

## Main results

* `PatternStep.found_textStart`, `PatternStep.taken_words` — a pattern that is held at both ends.
* `matches_callbackPattern_iff` — the callback pattern is found in the callback names only.
* `pairwise_exclusive_callRules` — no name is known to two rules.
* `callRules_independent` — neither the order of the rules nor the `misc` methods change what a
  rule decides.
-/

namespace ModelLayout

/-! ### Patterns that are held at both ends -/

namespace PatternStep

/-- A pattern that begins with the start of the text is not found later on. -/
theorem found_textStart_false (steps : List PatternStep) (cs : List Char) :
    found (textStart :: steps) false cs = false := by
  induction cs with
  | nil => rfl
  | cons c cs ih => rw [found, ih, taken, Bool.false_and, Bool.or_self]

/-- A pattern that begins with the start of the text is found there or not at all. -/
theorem found_textStart (steps : List PatternStep) (cs : List Char) :
    found (textStart :: steps) true cs = taken steps true cs := by
  cases cs with
  | nil => rw [found, taken, Bool.true_and]
  | cons c cs => rw [found, found_textStart_false, Bool.or_false, taken, Bool.true_and]

/-- The texts that are spelled by one word of each list. -/
def spellings : List (List String) → List (List Char)
  | [] => [[]]
  | words :: rest => words.flatMap fun w => (spellings rest).map (w.toList ++ ·)

/-- Words up to the end of the text leave nothing of it. -/
theorem taken_words (rows : List (List String)) : ∀ (atStart : Bool) (cs : List Char),
    taken (rows.map oneOf ++ [textEnd]) atStart cs = true ↔ cs ∈ spellings rows := by
  induction rows with
  | nil =>
    intro atStart cs
    simp [taken, spellings]
  | cons words rows ih =>
    intro atStart cs
    rw [List.map_cons, List.cons_append, taken, List.any_eq_true, spellings, List.mem_flatMap]
    refine exists_congr fun w => and_congr_right fun _ => ?_
    rw [Bool.and_eq_true, List.isPrefixOf_iff_prefix, ih, List.mem_map]
    constructor
    · rintro ⟨⟨rest, rfl⟩, hrest⟩
      rw [List.drop_left] at hrest
      exact ⟨rest, hrest, rfl⟩
    · rintro ⟨rest, hrest, rfl⟩
      rw [List.drop_left]
      exact ⟨List.prefix_append _ _, hrest⟩

end PatternStep

/-- The methods that register a callback: a time and a moment, with an underscore in between. -/
def callbackNames : List String :=
  callbackTimes.flatMap fun time => hooks.map fun hook => time ++ "_" ++ hook

theorem matches_callbackPattern_iff {name : String} :
    (NamePattern.containing callbackPattern).matches name = true ↔ name ∈ callbackNames := by
  have hspelled : (NamePattern.containing callbackPattern).matches name = true ↔
      name.toList ∈ PatternStep.spellings [callbackTimes, ["_"], hooks] := by
    rw [NamePattern.matches, callbackPattern, PatternStep.found_textStart]
    exact PatternStep.taken_words [callbackTimes, ["_"], hooks] true name.toList
  rw [hspelled]
  simp only [PatternStep.spellings, callbackNames, List.mem_flatMap, List.mem_map,
    List.mem_singleton, exists_eq_left, exists_exists_and_eq_and, List.append_nil]
  refine exists_congr fun time => and_congr_right fun _ => exists_congr fun hook =>
    and_congr_right fun _ => ?_
  rw [← String.toList_inj, String.toList_append, String.toList_append, List.append_assoc]

/-! ### Rules that know no common name -/

namespace NamePattern

variable {p q : NamePattern}

/-- No name is in both sets. -/
def Exclusive (p q : NamePattern) : Prop :=
  ∀ name, ¬ (p.matches name = true ∧ q.matches name = true)

theorem Exclusive.symm (h : p.Exclusive q) : q.Exclusive p :=
  fun name hboth => h name hboth.symm

/-- Two texts that no name can both start with. -/
theorem exclusive_startsWith {a b : String} (hab : ¬ a.toList <+: b.toList)
    (hba : ¬ b.toList <+: a.toList) : (startsWith a).Exclusive (startsWith b) := by
  rintro name ⟨ha, hb⟩
  rw [NamePattern.matches, List.isPrefixOf_iff_prefix] at ha hb
  rcases List.prefix_or_prefix_of_prefix ha hb with h | h
  · exact hab h
  · exact hba h

/-- If the names of a set can be listed, it is enough to look at these. -/
theorem exclusive_of_names {names : List String} (hp : ∀ name, p.matches name = true → name ∈ names)
    (hq : ∀ name ∈ names, q.matches name = false) : p.Exclusive q := by
  rintro name ⟨hpname, hqname⟩
  rw [hq name (hp name hpname)] at hqname
  cases hqname

/-- The same for all rules of a list. -/
theorem exclusive_all_of_names {names : List String}
    (hp : ∀ name, p.matches name = true → name ∈ names) {rules : List (NamePattern × Category)}
    (hrules : ∀ r ∈ rules, ∀ name ∈ names, r.1.matches name = false) :
    ∀ r ∈ rules, p.Exclusive r.1 :=
  fun r hr => exclusive_of_names hp (hrules r hr)

theorem mem_of_matches_oneOf {names : List String} (name : String)
    (h : (oneOf names).matches name = true) : name ∈ names :=
  List.contains_iff_mem.1 h

end NamePattern

open NamePattern in
/-- No name is known to two rules.  Five of the rules have finitely many names, which are looked up
in the other rules; the names of the two others differ in their first letter. -/
theorem pairwise_exclusive_callRules : callRules.Pairwise fun p q => p.1.Exclusive q.1 := by
  have hcallback := fun name => (@matches_callbackPattern_iff name).1
  refine .cons ?_ (.cons ?_ (.cons ?_ (.cons ?_ (.cons ?_ (.cons ?_ (.cons ?_ .nil))))))
  · -- the names that start with `validate` cannot be listed, but those of the next five rules can
    simp only [List.forall_mem_cons]
    exact ⟨(exclusive_of_names mem_of_matches_oneOf (by decide)).symm,
      (exclusive_of_names hcallback (by decide)).symm,
      (exclusive_of_names mem_of_matches_oneOf (by decide)).symm,
      (exclusive_of_names mem_of_matches_oneOf (by decide)).symm,
      (exclusive_of_names mem_of_matches_oneOf (by decide)).symm,
      exclusive_startsWith (by decide) (by decide), List.forall_mem_nil _⟩
  · exact exclusive_all_of_names mem_of_matches_oneOf (by decide)
  · exact exclusive_all_of_names hcallback (by decide)
  · exact exclusive_all_of_names mem_of_matches_oneOf (by decide)
  · exact exclusive_all_of_names mem_of_matches_oneOf (by decide)
  · exact exclusive_all_of_names mem_of_matches_oneOf (by decide)
  · exact List.forall_mem_nil _

/-- If at most one rule of a list knows a name, the list can be read in any order. -/
theorem find?_of_perm {rules rules' : List (NamePattern × Category)} (h : rules.Perm rules')
    {name : String}
    (hone : rules'.Pairwise fun p q => ¬ (p.1.matches name = true ∧ q.1.matches name = true)) :
    rules.find? (·.1.matches name) = rules'.find? (·.1.matches name) := by
  have hfilter := h.filter (·.1.matches name)
  rw [← List.head?_filter, ← List.head?_filter]
  have hshort := hone.filter (·.1.matches name)
  have hmatch : ∀ r ∈ rules'.filter (·.1.matches name), r.1.matches name = true :=
    fun r hr => (List.mem_filter.1 hr).2
  generalize rules'.filter (·.1.matches name) = hits at hfilter hshort hmatch ⊢
  match hits with
  | [] => rw [hfilter.eq_nil]
  | [r] => rw [List.perm_singleton.1 hfilter]
  | r :: s :: hits =>
    have hboth := List.rel_of_pairwise_cons hshort List.mem_cons_self
    exact absurd ⟨hmatch r List.mem_cons_self, hmatch s (by simp)⟩ hboth

theorem categoryBy_of_perm {rules : List (NamePattern × Category)} (h : rules.Perm callRules)
    (isMisc : String → Bool) (name : String) :
    categoryBy rules isMisc name = callCategory? isMisc name := by
  have hone := pairwise_exclusive_callRules.imp fun hpq => hpq name
  rw [callCategory?, categoryBy, categoryBy, find?_of_perm h hone]

/-! ### The `misc` methods -/

/-- What the rules decide comes first; no rule gives the category `misc`. -/
theorem callCategory?_cases (name : String) :
    (∃ c, c ≠ .misc ∧ ∀ isMisc, callCategory? isMisc name = some c) ∨
      ∀ isMisc, callCategory? isMisc name = if isMisc name then some .misc else none := by
  cases hfound : callRules.find? (·.1.matches name) with
  | none =>
    refine Or.inr fun isMisc => ?_
    rw [callCategory?, categoryBy, hfound]
  | some r =>
    have hmisc : ∀ r ∈ callRules, r.2 ≠ .misc := by decide
    refine Or.inl ⟨r.2, hmisc r (List.mem_of_find?_eq_some hfound), fun isMisc => ?_⟩
    rw [callCategory?, categoryBy, hfound]

namespace Node

variable {n : Node}

/-- Only calls are looked up among the `misc` methods. -/
theorem category?_of_ne_call (h : n.shape ≠ .call) (isMisc isMisc' : String → Bool) :
    n.category? isMisc = n.category? isMisc' ∧ n.category? isMisc ≠ some .misc := by
  unfold category?
  cases hshape : n.shape with
  | call => exact absurd hshape h
  | method =>
    refine ⟨rfl, ?_⟩
    dsimp only
    split
    · decide
    · decide
  | _ => exact ⟨rfl, by simp⟩

theorem category?_of_call (h : n.shape = .call) (isMisc : String → Bool) :
    n.category? isMisc = n.name.bind (callCategory? isMisc) := by
  rw [category?, h]

/-- The category of a node is settled without the `misc` methods, or the node calls a method that no
rule knows. -/
theorem category?_cases (n : Node) :
    (∃ c, c ≠ some .misc ∧ ∀ isMisc, n.category? isMisc = c) ∨
      ∃ name, ∀ isMisc, n.category? isMisc = if isMisc name then some .misc else none := by
  by_cases hshape : n.shape = .call
  · simp only [category?_of_call hshape]
    cases n.name with
    | none => exact Or.inl ⟨none, by decide, fun _ => rfl⟩
    | some name =>
      simp only [Option.bind_some]
      rcases callCategory?_cases name with ⟨c, hc, hrule⟩ | hgap
      · exact Or.inl ⟨some c, fun h => hc (Option.some.inj h), hrule⟩
      · exact Or.inr ⟨name, hgap⟩
  · have hsettled := category?_of_ne_call hshape
    exact Or.inl ⟨n.category? fun _ => false, (hsettled _ fun _ => false).2,
      fun isMisc => (hsettled isMisc _).1⟩

end Node

/-- No name is known to two of the fixed rules, so their order does not matter; the callback pattern
is found in thirty names, each of them a time and a moment with an underscore in between; a category
other than `misc` does not depend on the `misc` methods, and with more of them a node can only come
from no category to `misc`. -/
theorem callRules_independent :
    (∀ name, callRules.Pairwise fun p q =>
      ¬ (p.1.matches name = true ∧ q.1.matches name = true)) ∧
    (∀ rules, rules.Perm callRules → ∀ isMisc name,
      categoryBy rules isMisc name = callCategory? isMisc name) ∧
    (∀ name, (NamePattern.containing callbackPattern).matches name = true ↔ name ∈ callbackNames) ∧
    callbackNames.Nodup ∧ callbackNames.length = 30 ∧
    (∀ (n : Node) (isMisc isMisc' : String → Bool) (c : Category), n.category? isMisc = some c →
      c ≠ .misc → n.category? isMisc' = some c) ∧
    ∀ (n : Node) (isMisc isMisc' : String → Bool),
      (∀ name, isMisc name = true → isMisc' name = true) →
        n.category? isMisc' = n.category? isMisc ∨
          n.category? isMisc = none ∧ n.category? isMisc' = some .misc := by
  refine ⟨fun name => pairwise_exclusive_callRules.imp fun hpq => hpq name,
    fun rules hrules => categoryBy_of_perm hrules, fun name => matches_callbackPattern_iff,
    by decide, rfl, ?_, ?_⟩
  · intro n isMisc isMisc' c hc hmisc
    rcases n.category?_cases with ⟨settled, -, hsettled⟩ | ⟨name, hgap⟩
    · rw [hsettled] at hc ⊢
      exact hc
    · rw [hgap] at hc
      split at hc
      · cases hc
        exact absurd rfl hmisc
      · cases hc
  · intro n isMisc isMisc' hmore
    rcases n.category?_cases with ⟨settled, -, hsettled⟩ | ⟨name, hgap⟩
    · exact Or.inl ((hsettled isMisc').trans (hsettled isMisc).symm)
    · rw [hgap, hgap]
      by_cases hname : isMisc name = true
      · exact Or.inl (by rw [if_pos hname, if_pos (hmore name hname)])
      · rw [if_neg hname]
        by_cases hname' : isMisc' name = true
        · exact Or.inr ⟨rfl, if_pos hname'⟩
        · exact Or.inl (if_neg hname')

/-- `before_validation` is a callback with the rules in reverse order too; `belongs_to` stays an
association when it is added to the `misc` methods, and `serialize` then comes to `misc`. -/
theorem callRules_independent_serialize :
    let call (name : String) : Node := { shape := .call, name := some name, span := default }
    let isMisc (name : String) : Bool := name == "serialize" || name == "belongs_to"
    categoryBy callRules.reverse isMisc "before_validation" = some .callback ∧
      (call "belongs_to").category? isMisc = some .association ∧
      (call "serialize").category? (fun _ => false) = none ∧
      (call "serialize").category? isMisc = some .misc := by
  intro call isMisc
  obtain ⟨-, horder, -, -, -, hsettled, hgrow⟩ := callRules_independent
  have hreverse := horder callRules.reverse (List.reverse_perm _) isMisc "before_validation"
  have hmore : ∀ name, false = true → isMisc name = true := fun _ h => by cases h
  refine ⟨hreverse.trans (by decide),
    hsettled (call "belongs_to") (fun _ => false) isMisc .association (by decide) (by decide), ?_⟩
  exact (hgrow (call "serialize") (fun _ => false) isMisc hmore).resolve_left (by decide)

end ModelLayout

import ModelLayout.Category

/-!
# The spellings of a category

A category may be written with colons in front of its name, and with white space around both.  Here
the texts that are read as a category are described by how they are written: white space, colons,
the name, white space.  Reading first drops the white space and then the colons, and what it drops
is settled by the names alone, since no name has a blank or a colon in it: the white space ends where
the colons or the name begin, and the colons end where the name begins.  White space between the
colons and the name stays, and such a text is refused.

## Main definitions

* `Category.IsSpelling` — the texts that spell a category.

## Main results

* `Category.dropColons_trim_eq_name_iff` — what both trims leave is the name of a category just if
  the text spells that category.
* `Category.parse_exact` — which texts are read as which category, and which are refused.
-/

namespace ModelLayout
namespace Category

open Text

/-- `c.IsSpelling s` says that `s` is white space, then any number of colons, then the name of `c`,
then white space. -/
def IsSpelling (c : Category) (s : String) : Prop :=
  ∃ front k back, s.toList = front ++ (List.replicate k ':' ++ c.name.toList) ++ back ∧
    (∀ x ∈ front, isBlank x = true) ∧ ∀ x ∈ back, isBlank x = true

/-! ### Names -/

theorem all_toList_name (c : Category) :
    c.name.toList.all (fun x => !isBlank x && x != ':') = true := by
  cases c <;> rfl

/-- No name has a blank or a colon in it. -/
theorem of_mem_toList_name {c : Category} {x : Char} (h : x ∈ c.name.toList) :
    isBlank x = false ∧ x ≠ ':' := by
  have hx := List.all_eq_true.1 c.all_toList_name x h
  simpa using hx

/-- Searching for a name finds its own category, so no two categories have the same name. -/
theorem find?_name (c : Category) : all.find? (·.name == c.name) = some c := by
  cases c <;> rfl

theorem find?_eq_some_iff {word : String} {c : Category} :
    all.find? (·.name == word) = some c ↔ word = c.name := by
  constructor
  · intro h
    have hname := List.find?_some h
    exact (beq_iff_eq.1 hname).symm
  · rintro rfl
    exact find?_name c

/-! ### Spellings -/

/-- Colons before a name leave nothing to trim. -/
theorem not_isBlank_of_mem {c : Category} {k : Nat} {x : Char}
    (h : x ∈ List.replicate k ':' ++ c.name.toList) : isBlank x = false := by
  rcases List.mem_append.1 h with h | h
  · rw [List.eq_of_mem_replicate h]
    decide
  · exact (of_mem_toList_name h).1

/-- **What both trims leave is the name of a category just if the text spells that category.** -/
theorem dropColons_trim_eq_name_iff {c : Category} {s : String} :
    dropColons (trim s) = c.name ↔ c.IsSpelling s := by
  have hhead : c.name.toList.head? ≠ some ':' := fun h =>
    (of_mem_toList_name (List.mem_of_mem_head? h)).2 rfl
  rw [dropColons_eq_iff, and_iff_left hhead, trim, String.toList_ofList]
  constructor
  · rintro ⟨k, htrim⟩
    obtain ⟨⟨front, back, hs, hfront, hback⟩, -⟩ := trimChars_eq_iff.1 htrim
    exact ⟨front, k, back, hs, hfront, hback⟩
  · rintro ⟨front, k, back, hs, hfront, hback⟩
    refine ⟨k, trimChars_eq_iff.2 ⟨⟨front, back, hs, hfront, hback⟩, ?_, ?_⟩⟩
    · intro x hx
      exact not_isBlank_of_mem (List.mem_of_mem_head? hx)
    · intro x hx
      exact not_isBlank_of_mem (List.mem_of_mem_getLast? hx)

theorem parse?_eq_some_iff {s : String} {c : Category} :
    parse? s = some c ↔ c.IsSpelling s := by
  rw [parse?, find?_eq_some_iff, dropColons_trim_eq_name_iff]

theorem parse?_eq_none_iff {s : String} : parse? s = none ↔ ∀ c : Category, ¬ c.IsSpelling s := by
  simp only [← parse?_eq_some_iff, Option.eq_none_iff_forall_ne_some, ne_eq]

theorem isSpelling_name (c : Category) : c.IsSpelling c.name :=
  ⟨[], 0, [], by simp, by simp, by simp⟩

/-! ### Reading -/

theorem parse_eq_ok_iff {s : String} {c : Category} : parse s = .ok c ↔ parse? s = some c := by
  rw [parse]
  cases parse? s <;> simp

theorem parse_eq_error_iff {s : String} {e : UnknownCategory} :
    parse s = .error e ↔ parse? s = none ∧ e = ⟨s⟩ := by
  rw [parse]
  cases parse? s <;> simp [eq_comm]

/-- A text is read as a category just if it spells that category.  A text that spells none is
refused, and the refusal holds the text as it was given.  The name of a category is one of its
spellings. -/
theorem parse_exact :
    (∀ (s : String) (c : Category), parse s = .ok c ↔ c.IsSpelling s) ∧
    (∀ (s : String) (e : UnknownCategory),
      parse s = .error e ↔ (∀ c : Category, ¬ c.IsSpelling s) ∧ e = ⟨s⟩) ∧
    ∀ c : Category, parse c.name = .ok c := by
  refine ⟨fun s c => ?_, fun s e => ?_, fun c => ?_⟩
  · rw [parse_eq_ok_iff, parse?_eq_some_iff]
  · rw [parse_eq_error_iff, parse?_eq_none_iff]
  · rw [parse_eq_ok_iff, parse?_eq_some_iff]
    exact c.isSpelling_name

example : ([" ::scope \n", ": scope", "scope:"].map parse) =
    [.ok .scope, .error ⟨": scope"⟩, .error ⟨"scope:"⟩] := by
  rfl

end Category
end ModelLayout

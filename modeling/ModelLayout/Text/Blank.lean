/-!
# White space

The characters with the Unicode property `White_Space`, and trimming by them.

* `isBlank` — the property itself.
* `trimEnd`, `trim` — a text without the blanks at its end, or at both ends.
* `dropColons` — a text without the colons it starts with, as in `:scope`.
* `trimChars_eq_iff`, `dropColons_eq_iff` — what is left, and what was dropped.
-/

namespace ModelLayout
namespace Text

/-- `isBlank c` says that `c` has the Unicode property `White_Space`. -/
def isBlank (c : Char) : Bool :=
  let n := c.toNat
  (0x09 ≤ n && n ≤ 0x0D) || n == 0x20 || n == 0x85 || n == 0xA0 || n == 0x1680 ||
    (0x2000 ≤ n && n ≤ 0x200A) || n == 0x2028 || n == 0x2029 || n == 0x202F ||
    n == 0x205F || n == 0x3000

/-- The characters without the blanks at their end. -/
def trimEndChars (cs : List Char) : List Char :=
  (cs.reverse.dropWhile isBlank).reverse

/-- The characters without the blanks at both ends. -/
def trimChars (cs : List Char) : List Char :=
  trimEndChars (cs.dropWhile isBlank)

/-- The text without the blanks at its end. -/
def trimEnd (s : String) : String :=
  String.ofList (trimEndChars s.toList)

/-- The text without the blanks at both ends. -/
def trim (s : String) : String :=
  String.ofList (trimChars s.toList)

/-- The text without the colons it starts with. -/
def dropColons (s : String) : String :=
  String.ofList (s.toList.dropWhile (· == ':'))

/-! ### What is left -/

/-- What is left does not start with an entry to be dropped, and only such entries stand before
it. -/
theorem dropWhile_eq_iff {α : Type} {p : α → Bool} {l rest : List α} : l.dropWhile p = rest ↔
    (∃ front, l = front ++ rest ∧ ∀ a ∈ front, p a = true) ∧ ∀ a ∈ rest.head?, p a = false := by
  constructor
  · rintro rfl
    refine ⟨⟨l.takeWhile p, List.takeWhile_append_dropWhile.symm, ?_⟩, fun a ha => ?_⟩
    · exact List.all_eq_true.1 List.all_takeWhile
    · have hnot := List.head?_dropWhile_not p l
      rw [Option.mem_def.1 ha] at hnot
      exact hnot
  · rintro ⟨⟨front, rfl, hfront⟩, hhead⟩
    rw [List.dropWhile_append_of_pos hfront]
    cases rest with
    | nil => rfl
    | cons a rest => exact List.dropWhile_cons_of_neg (by simp [hhead a rfl])

theorem trimEndChars_eq_iff {cs ds : List Char} : trimEndChars cs = ds ↔
    (∃ back, cs = ds ++ back ∧ ∀ c ∈ back, isBlank c = true) ∧
      ∀ c ∈ ds.getLast?, isBlank c = false := by
  rw [trimEndChars, List.reverse_eq_iff, dropWhile_eq_iff, List.head?_reverse]
  refine and_congr_left fun _ => ?_
  constructor
  · rintro ⟨front, hcs, hfront⟩
    refine ⟨front.reverse, ?_, fun c hc => hfront c (List.mem_reverse.1 hc)⟩
    rw [← List.reverse_inj, hcs, List.reverse_append, List.reverse_reverse]
  · rintro ⟨back, rfl, hback⟩
    exact ⟨back.reverse, List.reverse_append, fun c hc => hback c (List.mem_reverse.1 hc)⟩

/-- What trimming leaves neither starts nor ends with a blank, and only blanks stand around it. -/
theorem trimChars_eq_iff {cs ds : List Char} : trimChars cs = ds ↔
    (∃ front back, cs = front ++ ds ++ back ∧ (∀ c ∈ front, isBlank c = true) ∧
      ∀ c ∈ back, isBlank c = true) ∧
    (∀ c ∈ ds.head?, isBlank c = false) ∧ ∀ c ∈ ds.getLast?, isBlank c = false := by
  rw [trimChars, trimEndChars_eq_iff]
  constructor
  · rintro ⟨⟨back, hdrop, hback⟩, hlast⟩
    obtain ⟨⟨front, hcs, hfront⟩, hhead⟩ := dropWhile_eq_iff.1 hdrop
    refine ⟨⟨front, back, by rw [hcs, List.append_assoc], hfront, hback⟩, fun c hc => ?_, hlast⟩
    exact hhead c (by rw [List.head?_append, Option.mem_def.1 hc]; rfl)
  · rintro ⟨⟨front, back, rfl, hfront, hback⟩, hhead, hlast⟩
    refine ⟨?_, hlast⟩
    cases ds with
    | nil =>
      -- nothing is left, so the blanks at the back are dropped from the front
      refine ⟨[], dropWhile_eq_iff.2 ⟨⟨front ++ back, by simp, fun c hc => ?_⟩, by simp⟩, by simp⟩
      rcases List.mem_append.1 hc with hc | hc
      · exact hfront c hc
      · exact hback c hc
    | cons d ds =>
      refine ⟨back, dropWhile_eq_iff.2 ⟨⟨front, List.append_assoc .., hfront⟩, ?_⟩, hback⟩
      exact hhead

theorem dropColons_eq_iff {s t : String} : dropColons s = t ↔
    (∃ k, s.toList = List.replicate k ':' ++ t.toList) ∧ t.toList.head? ≠ some ':' := by
  rw [dropColons, ← String.toList_inj, String.toList_ofList, dropWhile_eq_iff]
  refine and_congr ?_ ?_
  · constructor
    · rintro ⟨front, hs, hfront⟩
      refine ⟨front.length, ?_⟩
      rw [← List.eq_replicate_of_mem fun c hc => beq_iff_eq.1 (hfront c hc), hs]
    · rintro ⟨k, hs⟩
      exact ⟨List.replicate k ':', hs, fun c hc => beq_iff_eq.2 (List.eq_of_mem_replicate hc)⟩
  · cases t.toList.head? with
    | none => simp
    | some c => simp

end Text
end ModelLayout

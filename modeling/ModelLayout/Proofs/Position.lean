import Mathlib.Data.List.DropRight
import ModelLayout.Editor.Position

/-!
# Positions of byte offsets

A parser names a place in a text by its line and by the bytes since the start of that line, an
editor by its line and by the UTF-16 units.  Here a place is given by what stands before it and what
comes after it, and both names are read off from that: lines are counted by line feeds, and a column
is what stands between the last line feed and the place.  The editor sees no carriage return in
front of a line feed, so a place between the two is for the editor the end of the line.

A text is read line by line with the characters of the current line kept back.  What is kept back
after the text before a place is the part of the line in front of it (`Text.linesAfter_append`); all
else is about this one line.

## Main definitions

* `Text.bytes8` — the number of bytes of a list of characters.
* `Text.lineSoFar`, `Text.visibleSoFar` — the line in front of a place, and what an editor sees of
  it.
* `Editor.pointAt`, `Editor.positionAt` — a byte offset as a point, and where it is for an editor.
* `Editor.Position.NotAfter` — the order of positions.

## Main results

* `Text.linesAfter_append`, `Text.lineChars_getD` — the line that a place is on.
* `Editor.position_pointAfter` — the position of a place.
* `Editor.notAfter_append` — more text in front of a place does not move it back.
* `Editor.position_pointAt` — positions of byte offsets, their order, and the range of a span.
-/

namespace ModelLayout
namespace Text

/-! ### Bytes -/

/-- The number of UTF-8 bytes of a list of characters. -/
def bytes8 : List Char → Nat
  | [] => 0
  | c :: cs => c.utf8Size + bytes8 cs

@[simp] theorem bytes8_nil : bytes8 [] = 0 := rfl

@[simp] theorem bytes8_cons (c : Char) (cs : List Char) :
    bytes8 (c :: cs) = c.utf8Size + bytes8 cs := rfl

@[simp] theorem bytes8_append (cs ds : List Char) : bytes8 (cs ++ ds) = bytes8 cs + bytes8 ds := by
  induction cs with
  | nil => simp
  | cons c cs ih => simp [ih, Nat.add_assoc]

@[simp] theorem units16_append (cs ds : List Char) :
    units16 (cs ++ ds) = units16 cs + units16 ds := by
  induction cs with
  | nil => simp
  | cons c cs ih => simp [ih, Nat.add_assoc]

theorem bytes8_toList (s : String) : bytes8 s.toList = s.utf8ByteSize := by
  have hofList : ∀ cs : List Char, (String.ofList cs).utf8ByteSize = bytes8 cs := by
    intro cs
    induction cs with
    | nil => rfl
    | cons c cs ih =>
      have hcons : String.ofList (c :: cs) = String.singleton c ++ String.ofList cs := by
        rw [String.singleton_eq_ofList, ← String.ofList_append]
        rfl
      rw [hcons, String.utf8ByteSize_append, String.utf8ByteSize_singleton, ih, bytes8_cons]
  rw [← hofList, String.ofList_toList]

theorem length_le_bytes8 (cs : List Char) : cs.length ≤ bytes8 cs := by
  induction cs with
  | nil => simp
  | cons c cs ih =>
    have hpos := c.utf8Size_pos
    simp only [List.length_cons, bytes8_cons]
    omega

/-- A character that takes two units takes four bytes. -/
theorem charUnits16_le_utf8Size (c : Char) : charUnits16 c ≤ c.utf8Size := by
  unfold charUnits16
  split
  · exact c.utf8Size_pos
  · next hbig =>
    have hsize : c.utf8Size = 4 := by
      have hval : ¬ c.val.toNat < 65536 := hbig
      simp only [Char.utf8Size, UInt32.le_iff_toNat_le]
      split
      · next h => simp at h; omega
      · split
        · next h => simp at h; omega
        · split
          · next h => simp at h; omega
          · rfl
    omega

theorem units16_le_bytes8 (cs : List Char) : units16 cs ≤ bytes8 cs := by
  induction cs with
  | nil => simp
  | cons c cs ih =>
    have hle := charUnits16_le_utf8Size c
    simp only [units16_cons, bytes8_cons]
    omega

/-! ### Cutting after some bytes -/

theorem takeBytes?_succ_cons (n : Nat) (c : Char) (cs : List Char) :
    takeBytes? (n + 1) (c :: cs) =
      if c.utf8Size ≤ n + 1 then (takeBytes? (n + 1 - c.utf8Size) cs).map (c :: ·) else none := rfl

/-- A text is cut where its first part ends. -/
theorem takeBytes?_bytes8 (cs ds : List Char) : takeBytes? (bytes8 cs) (cs ++ ds) = some cs := by
  induction cs with
  | nil => simp
  | cons c cs ih =>
    have hpos := c.utf8Size_pos
    obtain ⟨n, hn⟩ : ∃ n, bytes8 (c :: cs) = n + 1 := ⟨bytes8 (c :: cs) - 1, by simp; omega⟩
    have hrest : n + 1 - c.utf8Size = bytes8 cs := by rw [← hn]; simp
    have hfits : c.utf8Size ≤ n + 1 := by rw [← hn]; simp
    rw [hn, List.cons_append, takeBytes?_succ_cons, if_pos hfits, hrest, ih]
    rfl

/-- Behind the end of a text there is no cut. -/
theorem takeBytes?_eq_none {cs : List Char} :
    ∀ {n : Nat}, bytes8 cs < n → takeBytes? n cs = none := by
  induction cs with
  | nil =>
    intro n hn
    cases n with
    | zero => simp at hn
    | succ n => rfl
  | cons c cs ih =>
    intro n hn
    cases n with
    | zero => simp at hn
    | succ n =>
      rw [takeBytes?_succ_cons]
      split
      · rw [ih (by simp only [bytes8_cons] at hn; omega)]
        rfl
      · rfl

/-- What is in front of a cut and what is behind it. -/
theorem append_of_takeBytes? {cs before : List Char} : ∀ {n : Nat}, takeBytes? n cs = some before →
    ∃ after, cs = before ++ after ∧ bytes8 before = n ∧ dropBytes? n cs = some after := by
  induction cs generalizing before with
  | nil =>
    intro n h
    cases n with
    | zero =>
      rw [takeBytes?_zero, Option.some.injEq] at h
      subst h
      exact ⟨[], rfl, rfl, rfl⟩
    | succ n => cases h
  | cons c cs ih =>
    intro n h
    cases n with
    | zero =>
      rw [takeBytes?_zero, Option.some.injEq] at h
      subst h
      exact ⟨c :: cs, rfl, rfl, rfl⟩
    | succ n =>
      rw [takeBytes?_succ_cons] at h
      split at h
      · next hfits =>
        obtain ⟨front, hfront, rfl⟩ := Option.map_eq_some_iff.1 h
        obtain ⟨after, rfl, hbytes, hdrop⟩ := ih hfront
        refine ⟨after, rfl, ?_, ?_⟩
        · rw [bytes8_cons, hbytes]
          omega
        · rw [dropBytes?, if_pos hfits, hdrop]
      · cases h

/-! ### The line that a place is on -/

/-- The line in front of the place after the text `before`. -/
def lineSoFar (before : List Char) : List Char :=
  before.rtakeWhile (· != '\n')

/-- What an editor sees of this line, if the text `after` comes next: a carriage return in front of
a line feed does not count. -/
def visibleSoFar (before after : List Char) : List Char :=
  if (lineSoFar before).getLast? = some '\r' ∧ after.head? = some '\n' then
    (lineSoFar before).dropLast
  else lineSoFar before

/-- The bytes up to the last line feed, and those after it. -/
theorem bytes8_lineSoFar (before : List Char) :
    bytes8 (before.rdropWhile (· != '\n')) + bytes8 (lineSoFar before) = bytes8 before := by
  rw [← bytes8_append, lineSoFar, List.rdropWhile_append_rtakeWhile]

theorem units16_visibleSoFar_le (before after : List Char) :
    units16 (visibleSoFar before after) ≤ units16 (lineSoFar before) := by
  unfold visibleSoFar
  split
  · rcases List.eq_nil_or_concat' (lineSoFar before) with hnil | ⟨line, last, hline⟩
    · simp [hnil]
    · simp [hline]
  · exact Nat.le_refl _

theorem reverse_lineSoFar (before : List Char) :
    (lineSoFar before).reverse = before.reverse.takeWhile (· != '\n') :=
  List.reverse_reverse _

/-- The lines from the place after `before` on are those of what comes next, with the line in front
of the place kept back. -/
theorem linesAfter_append (before after : List Char) : ∀ line : List Char, '\n' ∉ line →
    (linesAfter line (before ++ after))[before.count '\n']? =
      (linesAfter ((before.reverse ++ line).takeWhile (· != '\n')) after)[0]? := by
  induction before with
  | nil =>
    intro line hline
    have hall : line.takeWhile (· != '\n') = line := by
      rw [List.takeWhile_eq_self_iff]
      intro c hc
      simpa using fun h : c = '\n' => hline (h ▸ hc)
    rw [List.nil_append, List.reverse_nil, List.nil_append, hall, List.count_nil]
  | cons c before ih =>
    intro line hline
    rw [List.cons_append, linesAfter_cons, List.reverse_cons, List.append_assoc,
      List.singleton_append]
    by_cases hc : c = '\n'
    · -- a line ends, and the next one starts with nothing kept back
      subst hc
      have hstop : (before.reverse ++ '\n' :: line).takeWhile (· != '\n') =
          (before.reverse ++ []).takeWhile (· != '\n') := by
        rw [List.append_nil, List.takeWhile_append]
        split
        · next hall => simpa using ((List.takeWhile_prefix _).eq_of_length hall).symm
        · rfl
      rw [if_pos rfl, List.count_cons_self, List.getElem?_cons_succ, ih [] List.not_mem_nil, hstop]
    · rw [if_neg hc, List.count_cons_of_ne hc, ih (c :: line)]
      intro hmem
      rcases List.mem_cons.1 hmem with h | h
      · exact hc h.symm
      · exact hline h

/-- The first of the lines after some characters of it: up to the first line feed, or all that is
left. -/
theorem linesAfter_getD (cs : List Char) : ∀ line : List Char,
    (linesAfter line cs)[0]?.getD [] =
      if '\n' ∈ cs then closeLine ((cs.takeWhile (· != '\n')).reverse ++ line)
      else line.reverse ++ cs := by
  induction cs with
  | nil =>
    intro line
    cases line with
    | nil => rfl
    | cons c line => simp
  | cons c cs ih =>
    intro line
    rw [linesAfter_cons]
    by_cases hc : c = '\n'
    · subst hc
      simp
    · rw [if_neg hc, ih (c :: line)]
      simp [hc, Ne.symm hc]

/-- **The line that a place is on**, by its number: the line in front of the place and what comes up
to the next line feed, without a carriage return at the end if there is such a line feed. -/
theorem lineChars_getD (before after : List Char) :
    (lineChars (before ++ after))[before.count '\n']?.getD [] =
      if '\n' ∈ after then
        closeLine (lineSoFar before ++ after.takeWhile (· != '\n')).reverse
      else lineSoFar before ++ after := by
  rw [lineChars, linesAfter_append before after [] List.not_mem_nil, linesAfter_getD,
    List.append_nil, ← reverse_lineSoFar, List.reverse_reverse, List.reverse_append]

/-- A line with its last character, as a list that is closed. -/
theorem closeLine_concat (line : List Char) (c : Char) :
    closeLine (line ++ [c]).reverse = if c = '\r' then line else line ++ [c] := by
  rw [List.reverse_append, List.reverse_singleton, List.singleton_append]
  by_cases hc : c = '\r'
  · subst hc
    simp [closeLine]
  · rw [if_neg hc, closeLine]
    · simp
    · intro rest h
      exact hc (List.cons.inj h).1

end Text

namespace Editor

open Text

/-! ### Points and positions -/

/-- The point at the end of the text `before`. -/
def pointAfter (before : List Char) : Point :=
  ⟨1 + before.count '\n', bytes8 before - bytes8 (before.rdropWhile (· != '\n'))⟩

/-- Where the end of the text `before` is for an editor, if the text `after` comes next: as many
lines down as there are line feeds, and as many units to the right as there are on the last line. -/
def positionAfter (before after : List Char) : Position :=
  ⟨before.count '\n', units16 (visibleSoFar before after)⟩

/-- A column counts the bytes since the last line feed. -/
theorem column_pointAfter (before : List Char) :
    (pointAfter before).column = bytes8 (lineSoFar before) := by
  have hsplit := bytes8_lineSoFar before
  show bytes8 before - bytes8 (before.rdropWhile (· != '\n')) = bytes8 (lineSoFar before)
  omega

/-- The units in front of a place on its line. -/
theorem unitsBefore_line (before after : List Char) :
    unitsBefore ((lineChars (before ++ after))[before.count '\n']?.getD [])
      (bytes8 (lineSoFar before)) = units16 (visibleSoFar before after) := by
  rw [lineChars_getD, unitsBefore]
  -- as long as the line goes on behind the place, it is cut there
  have hcut : ∀ rest, (takeBytes? (bytes8 (lineSoFar before)) (lineSoFar before ++ rest)).getD
      (lineSoFar before ++ rest) = lineSoFar before := by
    intro rest
    rw [takeBytes?_bytes8]
    rfl
  cases after with
  | nil => rw [if_neg List.not_mem_nil, hcut, visibleSoFar, if_neg (by simp)]
  | cons c after =>
    by_cases hc : c = '\n'
    · -- the line ends at the place, perhaps with a carriage return in front of it
      subst hc
      rw [if_pos List.mem_cons_self, visibleSoFar, List.takeWhile_cons_of_neg (by decide),
        List.append_nil]
      rcases List.eq_nil_or_concat' (lineSoFar before) with hnil | ⟨line, last, hline⟩
      · rw [hnil]
        rfl
      · rw [hline, closeLine_concat]
        by_cases hlast : last = '\r'
        · rw [if_pos hlast, if_pos (by simp [hlast]), List.dropLast_concat, takeBytes?_eq_none]
          · rfl
          · have hpos := last.utf8Size_pos
            simp
            omega
        · have hwhole := takeBytes?_bytes8 (line ++ [last]) []
          rw [List.append_nil] at hwhole
          rw [if_neg hlast, if_neg (by simp [hlast]), hwhole]
          rfl
    · -- the line goes on, and a carriage return at its end comes behind the place
      have hrest : c :: after.takeWhile (· != '\n') =
          (c :: after).takeWhile (· != '\n') := by simp [hc]
      have hvisible : visibleSoFar before (c :: after) = lineSoFar before := by
        rw [visibleSoFar, if_neg (by simp [hc])]
      rw [hvisible]
      split
      · rcases List.eq_nil_or_concat' ((c :: after).takeWhile (· != '\n')) with
          hnil | ⟨line, last, hline⟩
        · rw [← hrest] at hnil
          cases hnil
        · rw [hline, ← List.append_assoc, closeLine_concat]
          split
          · rw [hcut]
          · rw [List.append_assoc, hcut]
      · rw [hcut]

/-- **The position of a place in a text**, if the text is not too long for the words of an
editor. -/
theorem position_pointAfter {text : String} {before after : List Char}
    (htext : text.toList = before ++ after) (hsize : text.utf8ByteSize < wordSize) :
    position text (pointAfter before) = positionAfter before after := by
  rw [← bytes8_toList, htext, bytes8_append] at hsize
  have hline : before.count '\n' < wordSize := by
    have hcount := List.count_le_length (a := '\n') (l := before)
    have hlength := length_le_bytes8 before
    omega
  have hunits : units16 (visibleSoFar before after) < wordSize := by
    have hvisible := units16_visibleSoFar_le before after
    have hbytes := units16_le_bytes8 (lineSoFar before)
    have hsplit := bytes8_lineSoFar before
    omega
  have hindex : (pointAfter before).line - 1 = before.count '\n' :=
    Nat.add_sub_cancel_left _ _
  simp only [position, positionAfter]
  rw [hindex, htext, column_pointAfter, unitsBefore_line, Nat.mod_eq_of_lt hline,
    Nat.mod_eq_of_lt hunits]

/-! ### The order of positions -/

/-- The position `p` is on an earlier line than `q`, or not behind it on the same one. -/
def Position.NotAfter (p q : Position) : Prop :=
  p.line < q.line ∨ p.line = q.line ∧ p.character ≤ q.character

instance (p q : Position) : Decidable (p.NotAfter q) :=
  inferInstanceAs (Decidable (_ ∨ _))

/-- Without a line feed the line goes on. -/
theorem lineSoFar_append {before between : List Char} (h : '\n' ∉ between) :
    lineSoFar (before ++ between) = lineSoFar before ++ between := by
  have hall : ∀ c ∈ between.reverse, (c != '\n') = true := by
    intro c hc
    simpa using fun heq : c = '\n' => h (heq ▸ List.mem_reverse.1 hc)
  rw [lineSoFar, lineSoFar, List.rtakeWhile, List.reverse_append,
    List.takeWhile_append_of_pos hall, List.reverse_append, List.reverse_reverse]
  rfl

/-- **A later place in a text does not come earlier for an editor.** -/
theorem notAfter_append (before between after : List Char) :
    (positionAfter before (between ++ after)).NotAfter
      (positionAfter (before ++ between) after) := by
  by_cases hfeed : '\n' ∈ between
  · -- with a line feed in between it is on a later line
    refine Or.inl ?_
    have hcount := List.count_pos_iff.2 hfeed
    simp only [positionAfter, List.count_append]
    omega
  · refine Or.inr ⟨?_, ?_⟩
    · simp [positionAfter, List.count_eq_zero_of_not_mem hfeed]
    · show units16 (visibleSoFar before (between ++ after)) ≤
        units16 (visibleSoFar (before ++ between) after)
      rcases List.eq_nil_or_concat' between with rfl | ⟨front, last, rfl⟩
      · simp
      · -- the line in front of the earlier place is all there for the later one
        have hearlier := units16_visibleSoFar_le before (front ++ [last] ++ after)
        have hlater : units16 (lineSoFar before) ≤
            units16 (visibleSoFar (before ++ (front ++ [last])) after) := by
          rw [visibleSoFar, lineSoFar_append hfeed]
          split
          · rw [← List.append_assoc, List.dropLast_concat, units16_append]
            omega
          · rw [units16_append]
            omega
        omega

/-! ### Byte offsets -/

/-- The byte offset `o` does not cut a character in two. -/
def OnBoundary (text : String) (o : Nat) : Prop :=
  (takeBytes? o text.toList).isSome = true

instance (text : String) (o : Nat) : Decidable (OnBoundary text o) :=
  inferInstanceAs (Decidable (_ = true))

/-- The text before a byte offset. -/
def textBefore (text : String) (o : Nat) : List Char :=
  (takeBytes? o text.toList).getD []

/-- The text from a byte offset on. -/
def textFrom (text : String) (o : Nat) : List Char :=
  (dropBytes? o text.toList).getD []

/-- The point at a byte offset: the line is one more than the line feeds before it, the column is
the distance from the offset just after the last of them. -/
def pointAt (text : String) (o : Nat) : Point :=
  ⟨1 + (textBefore text o).count '\n', o - bytes8 ((textBefore text o).rdropWhile (· != '\n'))⟩

/-- Where a byte offset is for an editor. -/
def positionAt (text : String) (o : Nat) : Position :=
  positionAfter (textBefore text o) (textFrom text o)

theorem append_of_onBoundary {text : String} {o : Nat} (h : OnBoundary text o) :
    text.toList = textBefore text o ++ textFrom text o ∧ bytes8 (textBefore text o) = o := by
  obtain ⟨before, hbefore⟩ := Option.isSome_iff_exists.1 h
  obtain ⟨after, htext, hbytes, hafter⟩ := append_of_takeBytes? hbefore
  rw [textBefore, textFrom, hbefore, hafter]
  exact ⟨htext, hbytes⟩

theorem pointAt_eq {text : String} {o : Nat} (h : OnBoundary text o) :
    pointAt text o = pointAfter (textBefore text o) := by
  rw [pointAt, pointAfter, (append_of_onBoundary h).2]

/-- What stands before a smaller offset stands before a larger one. -/
theorem exists_between {text : String} {a b : Nat} (ha : OnBoundary text a) (hb : OnBoundary text b)
    (hab : a ≤ b) : ∃ between, textBefore text b = textBefore text a ++ between ∧
      textFrom text a = between ++ textFrom text b := by
  obtain ⟨htexta, hbytesa⟩ := append_of_onBoundary ha
  obtain ⟨htextb, hbytesb⟩ := append_of_onBoundary hb
  rw [htexta, List.append_eq_append_iff] at htextb
  rcases htextb with ⟨between, hbefore, hafter⟩ | ⟨between, hbefore, hafter⟩
  · exact ⟨between, hbefore, hafter⟩
  · -- the other way round nothing can stand in between
    have hbytes : bytes8 between = 0 := by
      rw [hbefore, bytes8_append] at hbytesa
      omega
    have hnil : between = [] := by
      have hlength := length_le_bytes8 between
      exact List.length_eq_zero_iff.1 (by omega)
    subst hnil
    refine ⟨[], ?_, ?_⟩
    · simpa using hbefore.symm
    · simpa using hafter.symm

/-- **The range of a span is exact**: it goes from the position of its first byte to that of its end,
and the line of a position is the number of line feeds before the byte, its column the number of
units of the text in front of the byte on its line, a carriage return right before a line feed left
out.  So positions come in the order of the bytes, and the range is well ordered. -/
theorem position_pointAt {text : String} (hsize : text.utf8ByteSize < wordSize) :
    (∀ o, OnBoundary text o → position text (pointAt text o) = positionAt text o) ∧
      (∀ a b, OnBoundary text a → OnBoundary text b → a ≤ b →
        (position text (pointAt text a)).NotAfter (position text (pointAt text b))) ∧
      ∀ s : Span, OnBoundary text s.startByte → OnBoundary text s.endByte →
        s.start = pointAt text s.startByte → s.stop = pointAt text s.endByte →
        range text s = ⟨positionAt text s.startByte, positionAt text s.endByte⟩ ∧
          (s.startByte ≤ s.endByte → (range text s).start.NotAfter (range text s).stop) := by
  have hexact : ∀ o, OnBoundary text o → position text (pointAt text o) = positionAt text o := by
    intro o ho
    rw [pointAt_eq ho, position_pointAfter (append_of_onBoundary ho).1 hsize, positionAt]
  have hordered : ∀ a b, OnBoundary text a → OnBoundary text b → a ≤ b →
      (position text (pointAt text a)).NotAfter (position text (pointAt text b)) := by
    intro a b ha hb hab
    obtain ⟨between, hbefore, hafter⟩ := exists_between ha hb hab
    rw [hexact a ha, hexact b hb, positionAt, positionAt, hbefore, hafter]
    exact notAfter_append _ _ _
  refine ⟨hexact, hordered, ?_⟩
  intro s hstart hstop hs ht
  rw [range, hs, ht]
  refine ⟨?_, fun hle => hordered _ _ hstart hstop hle⟩
  rw [hexact _ hstart, hexact _ hstop]

/-- A range over a character outside the basic plane, up to an offset between a carriage return and
a line feed. -/
theorem position_pointAt_lineEnding :
    let text := "x\n𝄞é\r\ny"
    let s : Span := ⟨2, 9, ⟨2, 0⟩, ⟨2, 7⟩⟩
    text.utf8ByteSize < wordSize ∧ OnBoundary text 2 ∧ OnBoundary text 9 ∧
      pointAt text 2 = ⟨2, 0⟩ ∧ pointAt text 9 = ⟨2, 7⟩ ∧
      range text s = ⟨⟨1, 0⟩, ⟨1, 3⟩⟩ := by
  intro text s
  have hsize : text.utf8ByteSize < wordSize := by decide
  have hstart : OnBoundary text 2 := by decide
  have hstop : OnBoundary text 9 := by decide
  have hs : pointAt text 2 = ⟨2, 0⟩ := by decide
  have ht : pointAt text 9 = ⟨2, 7⟩ := by decide
  refine ⟨hsize, hstart, hstop, hs, ht, ?_⟩
  rw [((position_pointAt hsize).2.2 s hstart hstop hs.symm ht.symm).1]
  decide

end Editor
end ModelLayout

import ModelLayout.Proofs.ByteOrder
import ModelLayout.Proofs.Relaxation
import ModelLayout.Proofs.StableSort

/-!
# Which settings are refused, and what rules the others give

A category can be spelled in several ways, so names that differ may stand for one category, and only
reading them shows it: an order may list a category twice, and a table of comments may have two keys
for one category.  Here the rules that settings give are described in terms of the names as they are
written.

## Main definitions

* `firstOccurrences`, `repetitions` — the entries of a list that did not occur before, and those
  that did.
* `IsLeastKey`, `IsGreatestKey` — the first and the last key of some kind, in the order of bytes.
* `Settings.FirstUnknownName`, `Settings.LeastUnknownKey` — the names for which settings are
  refused.
* `Settings.Gives` — the rules that settings give.

## Main results

* `eraseDups_eq_firstOccurrences`, `repeatsAfter_eq_repetitions` — which entries of the order stay,
  and about which there is a warning.
* `Settings.parseComments_sortTable_eq_error_iff`, `Settings.lookupLast_eq_some_iff` — the name that
  is reported, and the comment that counts.
* `Settings.validate_exact` — what comes of any settings.
-/

namespace ModelLayout

/-! ### First occurrences and repetitions -/

section Occurrences

variable {α : Type} [DecidableEq α]

/-- The entries of a list that have not occurred before. -/
def firstOccurrences (l : List α) : List α :=
  (l.zipIdx.filter fun e => !decide (e.1 ∈ l.take e.2)).map Prod.fst

/-- The entries of a list that have occurred before. -/
def repetitions (l : List α) : List α :=
  (l.zipIdx.filter fun e => decide (e.1 ∈ l.take e.2)).map Prod.fst

/-- One more entry does not matter for those before it. -/
theorem filter_zipIdx_concat (q : Bool → Bool) (l : List α) (a : α) :
    (l ++ [a]).zipIdx.filter (fun e => q (decide (e.1 ∈ (l ++ [a]).take e.2))) =
      l.zipIdx.filter (fun e => q (decide (e.1 ∈ l.take e.2))) ++
        if q (decide (a ∈ l)) = true then [(a, l.length)] else [] := by
  have hbefore : ∀ e ∈ l.zipIdx,
      q (decide (e.1 ∈ (l ++ [a]).take e.2)) = q (decide (e.1 ∈ l.take e.2)) := by
    intro e he
    have hlt := (List.mem_zipIdx he).2.1
    rw [List.take_append_of_le_length (by omega)]
  rw [List.zipIdx_append, List.filter_append, List.filter_congr hbefore]
  simp [List.filter_cons]

theorem firstOccurrences_concat (l : List α) (a : α) :
    firstOccurrences (l ++ [a]) =
      firstOccurrences l ++ if a ∈ l then [] else [a] := by
  rw [firstOccurrences, filter_zipIdx_concat not, List.map_append, firstOccurrences]
  by_cases h : a ∈ l <;> simp [h]

theorem repetitions_concat (l : List α) (a : α) :
    repetitions (l ++ [a]) = repetitions l ++ if a ∈ l then [a] else [] := by
  have hcut := filter_zipIdx_concat (fun b => b) l a
  rw [repetitions, hcut, List.map_append, repetitions]
  by_cases h : a ∈ l <;> simp [h]

/-- Every entry is one or the other. -/
theorem length_repetitions_add (l : List α) :
    (repetitions l).length + (firstOccurrences l).length = l.length := by
  have hsplit := List.length_eq_length_filter_add (l := l.zipIdx)
    fun e => decide (e.1 ∈ l.take e.2)
  simp only [repetitions, firstOccurrences, List.length_map]
  rw [← hsplit, List.length_zipIdx]

theorem eraseDups_eq_firstOccurrences (l : List α) : l.eraseDups = firstOccurrences l := by
  induction l using List.reverseRecOn with
  | nil => rfl
  | append_singleton l a ih =>
    rw [List.eraseDups_append, ih, firstOccurrences_concat]
    by_cases h : a ∈ l
    · simp [List.removeAll, h]
    · simp [List.removeAll, h, List.eraseDups_cons]

end Occurrences

theorem repeatsAfter_concat (cs : List Category) (c : Category) : ∀ seen,
    repeatsAfter seen (cs ++ [c]) =
      repeatsAfter seen cs ++ if c ∈ seen ∨ c ∈ cs then [c] else [] := by
  induction cs with
  | nil =>
    intro seen
    by_cases h : c ∈ seen <;> simp [repeatsAfter, h]
  | cons d cs ih =>
    intro seen
    by_cases hd : d ∈ seen
    · -- a category that was seen before adds nothing to those that were seen
      have hiff : (c ∈ seen ∨ c ∈ d :: cs) ↔ (c ∈ seen ∨ c ∈ cs) := by
        rw [List.mem_cons]
        constructor
        · rintro (h | rfl | h)
          · exact Or.inl h
          · exact Or.inl hd
          · exact Or.inr h
        · rintro (h | h)
          · exact Or.inl h
          · exact Or.inr (Or.inr h)
      simp only [List.cons_append, repeatsAfter, if_pos hd, ih seen, hiff]
    · have hiff : (c ∈ seen ∨ c ∈ d :: cs) ↔ (c ∈ d :: seen ∨ c ∈ cs) := by
        simp only [List.mem_cons]
        exact or_left_comm.trans or_assoc.symm
      simp only [List.cons_append, repeatsAfter, if_neg hd, ih (d :: seen), hiff]

theorem repeatsAfter_eq_repetitions (cs : List Category) : repeatsAfter [] cs = repetitions cs := by
  induction cs using List.reverseRecOn with
  | nil => rfl
  | append_singleton cs c ih =>
    rw [repeatsAfter_concat, ih, repetitions_concat]
    simp

/-! ### Results of steps that can fail -/

theorem exists_of_map_eq_ok {ε α β : Type} {x : Except ε α} {f : α → β} {b : β}
    (h : x.map f = .ok b) : ∃ a, x = .ok a ∧ f a = b := by
  cases x with
  | error e => cases h
  | ok a => exact ⟨a, rfl, Except.ok.inj h⟩

theorem exists_of_bind_eq_ok {ε α β : Type} {x : Except ε α} {f : α → Except ε β} {b : β}
    (h : (x >>= f) = .ok b) : ∃ a, x = .ok a ∧ f a = .ok b := by
  cases x with
  | error e => cases h
  | ok a => exact ⟨a, rfl, h⟩

/-! ### Reading one entry after another -/

section MapM

variable {ε α β : Type} {f : α → Except ε β}

theorem map_toOption_of_mapM_eq_ok {l : List α} : ∀ {bs : List β}, l.mapM f = .ok bs →
    l.map (fun a => (f a).toOption) = bs.map some := by
  induction l with
  | nil =>
    intro bs h
    obtain rfl := Except.ok.inj h
    rfl
  | cons a l ih =>
    intro bs h
    rw [List.mapM_cons] at h
    obtain ⟨b, hb, h⟩ := exists_of_bind_eq_ok h
    obtain ⟨rest, hrest, h⟩ := exists_of_bind_eq_ok h
    obtain rfl := Except.ok.inj h
    rw [List.map_cons, List.map_cons, hb, ih hrest]
    rfl

theorem toOption_map {γ : Type} (x : Except ε β) (g : β → γ) :
    (x.map g).toOption = x.toOption.map g := by
  cases x <;> rfl

/-- Where a list is cut at an entry, either this is the first entry or the cut is further on. -/
theorem exists_cut_cons {p q : α → Prop} (c : α) (l : List α) :
    (∃ before a after, c :: l = before ++ a :: after ∧ (∀ b ∈ before, p b) ∧ q a) ↔
      q c ∨ p c ∧ ∃ before a after, l = before ++ a :: after ∧ (∀ b ∈ before, p b) ∧ q a := by
  constructor
  · rintro ⟨before, a, after, hcut, hbefore, ha⟩
    cases before with
    | nil =>
      obtain ⟨rfl, -⟩ := List.cons.inj hcut
      exact Or.inl ha
    | cons b before =>
      obtain ⟨rfl, hrest⟩ := List.cons.inj hcut
      obtain ⟨hc, hbefore⟩ := List.forall_mem_cons.1 hbefore
      exact Or.inr ⟨hc, before, a, after, hrest, hbefore, ha⟩
  · rintro (hc | ⟨hc, before, a, after, rfl, hbefore, ha⟩)
    · exact ⟨[], c, l, rfl, by simp, hc⟩
    · exact ⟨c :: before, a, after, rfl, List.forall_mem_cons.2 ⟨hc, hbefore⟩, ha⟩

/-- Reading stops at the first entry that cannot be read. -/
theorem mapM_eq_error_iff {l : List α} {e : ε} : l.mapM f = .error e ↔
    ∃ before a after, l = before ++ a :: after ∧ (∀ b ∈ before, ∃ y, f b = .ok y) ∧
      f a = .error e := by
  induction l with
  | nil => simp [pure, Except.pure]
  | cons c l ih =>
    rw [exists_cut_cons (p := fun b => ∃ y, f b = .ok y) (q := fun a => f a = .error e), ← ih,
      List.mapM_cons]
    cases f c with
    | error e' => simp [bind, Except.bind]
    | ok b => cases l.mapM f <;> simp [bind, Except.bind, pure, Except.pure]

end MapM

/-- The category that a name stands for, or the complaint that it stands for none. -/
def Category.read (complain : String → SettingsError) (name : String) :
    Except SettingsError Category :=
  (Category.parse? name).elim (.error (complain name)) .ok

theorem Category.toOption_read (complain : String → SettingsError) (name : String) :
    (Category.read complain name).toOption = Category.parse? name := by
  cases h : Category.parse? name <;> simp [Category.read, h, Except.toOption]

theorem Category.read_eq_ok_iff {complain : String → SettingsError} {name : String} {c : Category} :
    Category.read complain name = .ok c ↔ Category.parse? name = some c := by
  cases h : Category.parse? name <;> simp [Category.read, h]

theorem Category.read_eq_error_iff {complain : String → SettingsError} {name : String}
    {e : SettingsError} :
    Category.read complain name = .error e ↔ Category.parse? name = none ∧ e = complain name := by
  cases h : Category.parse? name <;> simp [Category.read, h, eq_comm]

namespace Settings

theorem parseOrder_eq_mapM (names : List String) :
    parseOrder names = names.mapM (Category.read .unknownOrderElement) := by
  induction names with
  | nil => rfl
  | cons name names ih =>
    rw [parseOrder, List.mapM_cons, ih, Category.read]
    cases Category.parse? name <;> rfl

theorem parseComments_eq_mapM (table : List (String × String)) :
    parseComments table =
      table.mapM fun e => (Category.read .unknownCommentElement e.1).map (·, e.2) := by
  induction table with
  | nil => rfl
  | cons entry table ih =>
    rw [parseComments, List.mapM_cons, ih, Category.read]
    cases Category.parse? entry.1 <;> rfl

/-- The first name of the listed order that is not the name of a category is reported. -/
theorem parseOrder_eq_error_iff {names : List String} {e : SettingsError} :
    parseOrder names = .error e ↔ ∃ before x after, names = before ++ x :: after ∧
      (∀ y ∈ before, Category.parse? y ≠ none) ∧ Category.parse? x = none ∧
        e = .unknownOrderElement x := by
  simp only [parseOrder_eq_mapM, mapM_eq_error_iff, Category.read_eq_ok_iff,
    Category.read_eq_error_iff, Option.ne_none_iff_exists']

theorem map_parse?_of_parseOrder {names : List String} {cs : List Category}
    (h : parseOrder names = .ok cs) : names.map Category.parse? = cs.map some := by
  rw [parseOrder_eq_mapM] at h
  have hread := map_toOption_of_mapM_eq_ok h
  simp only [Category.toOption_read] at hread
  exact hread

theorem map_parse?_of_parseComments {table : List (String × String)}
    {entries : List (Category × String)} (h : parseComments table = .ok entries) :
    (table.map fun e => (Category.parse? e.1).map (·, e.2)) = entries.map some := by
  rw [parseComments_eq_mapM] at h
  have hread := map_toOption_of_mapM_eq_ok h
  simp only [toOption_map, Category.toOption_read] at hread
  exact hread

theorem parseComments_eq_error_iff {table : List (String × String)} {e : SettingsError} :
    parseComments table = .error e ↔ ∃ before entry after, table = before ++ entry :: after ∧
      (∀ b ∈ before, Category.parse? b.1 ≠ none) ∧ Category.parse? entry.1 = none ∧
        e = .unknownCommentElement entry.1 := by
  have hok : ∀ b : String × String,
      (∃ y, (Category.read .unknownCommentElement b.1).map (·, b.2) = .ok y) ↔
        Category.parse? b.1 ≠ none := by
    intro b
    cases h : Category.parse? b.1 <;> simp [Category.read, h, Except.map]
  have herror : ∀ b : String × String,
      (Category.read .unknownCommentElement b.1).map (·, b.2) = .error e ↔
        Category.parse? b.1 = none ∧ e = .unknownCommentElement b.1 := by
    intro b
    cases h : Category.parse? b.1 <;> simp [Category.read, h, Except.map, eq_comm]
  simp only [parseComments_eq_mapM, mapM_eq_error_iff, hok, herror]

end Settings

/-! ### Tables in the order of their keys -/

/-- The first of the keys with the property `P`, in the order of bytes. -/
def IsLeastKey (keys : List String) (P : String → Prop) (key : String) : Prop :=
  key ∈ keys ∧ P key ∧ ∀ other ∈ keys, P other → Text.bytes key ≤ Text.bytes other

/-- The last of the keys with the property `P`, in the order of bytes. -/
def IsGreatestKey (keys : List String) (P : String → Prop) (key : String) : Prop :=
  key ∈ keys ∧ P key ∧ ∀ other ∈ keys, P other → Text.bytes other ≤ Text.bytes key

section Keys

variable {keys : List String} {P : String → Prop} {key key' : String}

theorem IsLeastKey.eq (h : IsLeastKey keys P key) (h' : IsLeastKey keys P key') : key = key' := by
  apply String.le_antisymm
  · exact Text.le_iff_bytes_le.2 (h.2.2 key' h'.1 h'.2.1)
  · exact Text.le_iff_bytes_le.2 (h'.2.2 key h.1 h.2.1)

theorem IsGreatestKey.eq (h : IsGreatestKey keys P key) (h' : IsGreatestKey keys P key') :
    key = key' := by
  apply String.le_antisymm
  · exact Text.le_iff_bytes_le.2 (h'.2.2 key h.1 h.2.1)
  · exact Text.le_iff_bytes_le.2 (h.2.2 key' h'.1 h'.2.1)

end Keys

namespace Settings

/-- The text that a table has under a key; if the key stands there more than once, the last entry
counts. -/
def textUnder (table : List (String × String)) (key : String) : Option String :=
  (table.reverse.find? (·.1 == key)).map Prod.snd

section SortTable

variable {table : List (String × String)}

theorem keyLe_trans (a b c : String × String) (hab : decide (a.1 ≤ b.1) = true)
    (hbc : decide (b.1 ≤ c.1) = true) : decide (a.1 ≤ c.1) = true :=
  decide_eq_true (String.le_trans (of_decide_eq_true hab) (of_decide_eq_true hbc))

theorem keyLe_total (a b : String × String) : (decide (a.1 ≤ b.1) || decide (b.1 ≤ a.1)) = true := by
  rcases String.le_total a.1 b.1 with h | h <;> simp [h]

theorem mem_sortTable {entry : String × String} : entry ∈ sortTable table ↔ entry ∈ table :=
  (List.mergeSort_perm table _).mem_iff

theorem pairwise_sortTable (table : List (String × String)) :
    (sortTable table).Pairwise fun a b => a.1 ≤ b.1 :=
  (List.pairwise_mergeSort keyLe_trans keyLe_total table).imp fun h => of_decide_eq_true h

theorem textUnder_sortTable (table : List (String × String)) (key : String) :
    textUnder (sortTable table) key = textUnder table key := by
  have hstable : (sortTable table).filter (·.1 == key) = table.filter (·.1 == key) := by
    apply filter_mergeSort keyLe_trans keyLe_total
    intro a b ha hb
    rw [beq_iff_eq.1 ha, beq_iff_eq.1 hb]
    exact decide_eq_true (String.le_refl key)
  simp only [textUnder, ← List.head?_filter, List.filter_reverse, hstable]

/-- Reading a table in the order of its keys stops at the first key that is not a category. -/
theorem parseComments_sortTable_eq_error_iff {e : SettingsError} :
    parseComments (sortTable table) = .error e ↔ ∃ x, e = .unknownCommentElement x ∧
      IsLeastKey (table.map Prod.fst) (fun key => Category.parse? key = none) x := by
  -- whatever is reported is the least key of its kind
  have hleast : ∀ {e}, parseComments (sortTable table) = .error e → ∃ x,
      e = .unknownCommentElement x ∧
        IsLeastKey (table.map Prod.fst) (fun key => Category.parse? key = none) x := by
    intro e h
    obtain ⟨before, entry, after, hsplit, hbefore, hnone, rfl⟩ := parseComments_eq_error_iff.1 h
    have hsorted := pairwise_sortTable table
    rw [hsplit, List.pairwise_append, List.pairwise_cons] at hsorted
    have hmem : entry ∈ table := mem_sortTable.1 (hsplit ▸ by simp)
    refine ⟨entry.1, rfl, List.mem_map_of_mem hmem, hnone, ?_⟩
    intro other hother hunknown
    obtain ⟨b, hb, rfl⟩ := List.mem_map.1 hother
    have hb' := mem_sortTable.2 hb
    rw [hsplit, List.mem_append, List.mem_cons] at hb'
    rw [← Text.le_iff_bytes_le]
    rcases hb' with hb' | rfl | hb'
    · exact absurd hunknown (hbefore b hb')
    · exact String.le_refl _
    · exact hsorted.2.1.1 b hb'
  refine ⟨hleast, ?_⟩
  rintro ⟨x, rfl, hx⟩
  cases hread : parseComments (sortTable table) with
  | error e =>
    obtain ⟨y, rfl, hy⟩ := hleast hread
    rw [hx.eq hy]
  | ok entries =>
    -- if all could be read, there is no such key
    obtain ⟨entry, hentry, rfl⟩ := List.mem_map.1 hx.1
    have hmem := List.mem_map_of_mem (f := fun e => (Category.parse? e.1).map (·, e.2))
      (mem_sortTable.2 hentry)
    rw [map_parse?_of_parseComments hread, hx.2.1] at hmem
    simp at hmem

/-- The last entry of a sorted table with a key of some kind has the greatest such key. -/
theorem of_find?_reverse_sortTable {p : String → Bool} {entry : String × String}
    (h : (sortTable table).reverse.find? (fun e => p e.1) = some entry) :
    IsGreatestKey (table.map Prod.fst) (fun key => p key = true) entry.1 ∧
      textUnder table entry.1 = some entry.2 := by
  obtain ⟨hp, after, before, hsplit, hafter⟩ := List.find?_eq_some_iff_append.1 h
  have hmem : ∀ b, b ∈ table ↔ b ∈ after ∨ b = entry ∨ b ∈ before := by
    intro b
    rw [← mem_sortTable, ← List.mem_reverse, hsplit, List.mem_append, List.mem_cons]
  have hsorted := List.pairwise_reverse.2 (pairwise_sortTable table)
  rw [hsplit, List.pairwise_append, List.pairwise_cons] at hsorted
  refine ⟨⟨List.mem_map_of_mem ((hmem entry).2 (by simp)), hp, ?_⟩, ?_⟩
  · intro other hother hpo
    obtain ⟨b, hb, rfl⟩ := List.mem_map.1 hother
    rw [← Text.le_iff_bytes_le]
    rcases (hmem b).1 hb with hb | rfl | hb
    · have hnot := hafter b hb
      simp [hpo] at hnot
    · exact String.le_refl _
    · exact hsorted.2.1.1 b hb
  · -- the entries after it have keys of another kind, so they have other keys
    rw [← textUnder_sortTable, textUnder, hsplit, List.find?_append, List.find?_cons_of_pos (by simp)]
    have hother : after.find? (·.1 == entry.1) = none := by
      rw [List.find?_eq_none]
      intro b hb heq
      have hnot := hafter b hb
      simp [beq_iff_eq.1 heq, hp] at hnot
    rw [hother]
    rfl

theorem find?_of_map_parse? {c : Category} : ∀ {entries : List (Category × String)},
    (table.map fun e => (Category.parse? e.1).map (·, e.2)) = entries.map some →
      (entries.find? (·.1 == c)).map Prod.snd =
        (table.find? fun e => Category.parse? e.1 == some c).map Prod.snd := by
  induction table with
  | nil =>
    intro entries h
    rw [List.map_eq_nil_iff.1 h.symm]
    rfl
  | cons e table ih =>
    intro entries h
    cases entries with
    | nil => simp at h
    | cons entry entries =>
      obtain ⟨hentry, hrest⟩ := List.cons.inj h
      obtain ⟨d, hd, rfl⟩ := Option.map_eq_some_iff.1 hentry
      by_cases hdc : d = c
      · simp [hd, hdc]
      · simp [hd, hdc, ih hrest]

/-- Of several keys for one category the last one counts. -/
theorem lookupLast_eq_some_iff {entries : List (Category × String)}
    (h : parseComments (sortTable table) = .ok entries) {c : Category} {text : String} :
    lookupLast entries c = some text ↔ ∃ key,
      IsGreatestKey (table.map Prod.fst) (fun key => Category.parse? key = some c) key ∧
        textUnder table key = some text := by
  have hreverse := congrArg List.reverse (map_parse?_of_parseComments h)
  rw [← List.map_reverse, ← List.map_reverse] at hreverse
  rw [lookupLast, find?_of_map_parse? hreverse]
  have hlast := @of_find?_reverse_sortTable table fun key => Category.parse? key == some c
  simp only [beq_iff_eq] at hlast
  constructor
  · intro hfound
    obtain ⟨entry, hentry, rfl⟩ := Option.map_eq_some_iff.1 hfound
    exact ⟨entry.1, hlast hentry⟩
  · rintro ⟨key, hkey, htext⟩
    -- there is an entry for the category, and the one that is found has the same key
    cases hfound : (sortTable table).reverse.find? fun e => Category.parse? e.1 == some c with
    | none =>
      obtain ⟨entry, hentry, rfl⟩ := List.mem_map.1 hkey.1
      have hnot := List.find?_eq_none.1 hfound entry (List.mem_reverse.2 (mem_sortTable.2 hentry))
      simp [hkey.2.1] at hnot
    | some entry =>
      obtain ⟨hgreatest, hunder⟩ := hlast hfound
      rw [hgreatest.eq hkey, htext] at hunder
      exact hunder.symm

end SortTable

end Settings

/-! ### Names of methods -/

theorem mem_sortedSet {names : List String} {name : String} :
    name ∈ sortedSet names ↔ name ∈ names := by
  rw [sortedSet, (List.mergeSort_perm _ _).mem_iff, List.mem_eraseDups]

namespace Settings

/-! ### What settings give -/

/-- The first name of the listed order that is not the name of a category. -/
def FirstUnknownName (s : Settings) (x : String) : Prop :=
  ∃ before after, s.requiredOrder = some (before ++ x :: after) ∧
    (∀ y ∈ before, Category.parse? y ≠ none) ∧ Category.parse? x = none

/-- The first key of the table of comments that is not the name of a category. -/
def LeastUnknownKey (s : Settings) (x : String) : Prop :=
  ∃ table, s.requiredComments = some table ∧
    IsLeastKey (table.map Prod.fst) (fun key => Category.parse? key = none) x

/-- The categories that the listed order names, one after the other.  If no order is listed, they are
all categories in their usual order. -/
def ListsOrder (s : Settings) (cs : List Category) : Prop :=
  match s.requiredOrder with
  | none => cs = Category.all
  | some names => names.map Category.parse? = cs.map some

/-- The text of the last key that names the category.  Without a table, it is the usual text. -/
def RequiresComment (s : Settings) (c : Category) (text : String) : Prop :=
  match s.requiredComments with
  | none => Rules.standardComment c = some text
  | some table => ∃ key,
    IsGreatestKey (table.map Prod.fst) (fun key => Category.parse? key = some c) key ∧
      textUnder table key = some text

/-- A name that is listed with any number of colons in front of it, and that does not start with a
colon itself. -/
def ListsMethod (s : Settings) (name : String) : Prop :=
  (∃ written ∈ s.miscMethodNames.getD [], ∃ k,
    written.toList = List.replicate k ':' ++ name.toList) ∧ name.toList.head? ≠ some ':'

/-- The rules, and the warnings, that settings give. -/
structure Gives (s : Settings) (v : Validated) : Prop where
  /-- The order has each listed category where it is listed first, and every other time that it is
  listed there is a warning. -/
  order : ∃ cs, s.ListsOrder cs ∧ v.rules.order = firstOccurrences cs ∧
    v.warnings = (repetitions cs).map (fun c =>
      "'required_order' lists '" ++ c.name ++ "' more than once, keeping the first") ∧
    v.warnings.length + v.rules.order.length = cs.length
  nodup : v.rules.order.Nodup
  place : ∀ i c, v.rules.order[i]? = some c → v.rules.orderIndex? c = some i
  comment : ∀ c text, v.rules.comment c = some text ↔ s.RequiresComment c text
  misc : ∀ name, v.rules.isMisc name = true ↔ s.ListsMethod name

variable {s : Settings}

theorem fullOrder_eq_error_iff {e : SettingsError} :
    s.fullOrder = .error e ↔ ∃ x, e = .unknownOrderElement x ∧ s.FirstUnknownName x := by
  cases hnames : s.requiredOrder with
  | none => simp [fullOrder, FirstUnknownName, hnames]
  | some names =>
    simp only [fullOrder, FirstUnknownName, hnames, parseOrder_eq_error_iff, Option.some.injEq]
    constructor
    · rintro ⟨before, x, after, hsplit, hbefore, hx, he⟩
      exact ⟨x, he, before, after, hsplit, hbefore, hx⟩
    · rintro ⟨x, he, before, after, hsplit, hbefore, hx⟩
      exact ⟨before, x, after, hsplit, hbefore, hx, he⟩

theorem listsOrder_of_fullOrder {cs : List Category} (h : s.fullOrder = .ok cs) :
    s.ListsOrder cs := by
  cases hnames : s.requiredOrder with
  | none =>
    simp only [fullOrder, hnames] at h
    simp only [ListsOrder, hnames]
    exact (Except.ok.inj h).symm
  | some names =>
    simp only [fullOrder, hnames] at h
    simp only [ListsOrder, hnames]
    exact map_parse?_of_parseOrder h

theorem commentTable_eq_error_iff {e : SettingsError} :
    s.commentTable = .error e ↔ ∃ x, e = .unknownCommentElement x ∧ s.LeastUnknownKey x := by
  cases htable : s.requiredComments with
  | none => simp [commentTable, LeastUnknownKey, htable]
  | some table =>
    have hmap : ((parseComments (sortTable table)).map lookupLast = .error e) ↔
        parseComments (sortTable table) = .error e := by
      cases parseComments (sortTable table) <;> simp [Except.map]
    simp only [commentTable, LeastUnknownKey, htable, hmap, parseComments_sortTable_eq_error_iff,
      Option.some.injEq, exists_eq_left']

theorem requiresComment_of_commentTable {comment : Category → Option String}
    (h : s.commentTable = .ok comment) (c : Category) (text : String) :
    comment c = some text ↔ s.RequiresComment c text := by
  cases htable : s.requiredComments with
  | none =>
    simp only [commentTable, htable] at h
    obtain rfl := Except.ok.inj h
    simp only [RequiresComment, htable]
    rfl
  | some table =>
    simp only [commentTable, htable] at h
    obtain ⟨entries, hentries, rfl⟩ := exists_of_map_eq_ok h
    simp only [RequiresComment, htable]
    exact lookupLast_eq_some_iff hentries

theorem mem_miscSet {name : String} : name ∈ s.miscSet ↔ s.ListsMethod name := by
  rw [miscSet, mem_sortedSet, List.mem_map]
  simp only [Text.dropColons_eq_iff, ListsMethod]
  constructor
  · rintro ⟨written, hmem, hcolons, hhead⟩
    exact ⟨⟨written, hmem, hcolons⟩, hhead⟩
  · rintro ⟨⟨written, hmem, hcolons⟩, hhead⟩
    exact ⟨written, hmem, hcolons, hhead⟩

theorem gives_of_validate {v : Validated} (h : s.validate = .ok v) : s.Gives v := by
  rw [validate] at h
  split at h
  · cases h
  · next cs horder =>
    split at h
    · cases h
    · next comment hcomment =>
      obtain rfl := Except.ok.inj h
      refine ⟨⟨cs, listsOrder_of_fullOrder horder, eraseDups_eq_firstOccurrences cs, ?_, ?_⟩,
        nodup_eraseDups cs, fun i c hi => Rules.orderIndex?_of_getElem? hi,
        requiresComment_of_commentTable hcomment, fun name => ?_⟩
      · rw [Validated.warnings, repeatsAfter_eq_repetitions]
      · rw [Validated.warnings, List.length_map]
        show (repeatsAfter [] cs).length + cs.eraseDups.length = cs.length
        rw [repeatsAfter_eq_repetitions, eraseDups_eq_firstOccurrences, length_repetitions_add]
      · rw [Rules.isMisc, List.contains_iff_mem, mem_miscSet]

/-- The order is read before the comments. -/
theorem validate_eq_error_iff {e : SettingsError} : s.validate = .error e ↔
    s.fullOrder = .error e ∨ (∃ cs, s.fullOrder = .ok cs) ∧ s.commentTable = .error e := by
  rw [validate]
  cases s.fullOrder with
  | error e' => simp
  | ok cs => cases s.commentTable <;> simp

theorem exists_fullOrder_iff : (∃ cs, s.fullOrder = .ok cs) ↔ ∀ x, ¬ s.FirstUnknownName x := by
  cases h : s.fullOrder with
  | error e =>
    obtain ⟨x, -, hx⟩ := fullOrder_eq_error_iff.1 h
    simp only [reduceCtorEq, exists_false, false_iff, not_forall, not_not]
    exact ⟨x, hx⟩
  | ok cs =>
    simp only [Except.ok.injEq, exists_eq', true_iff]
    intro x hx
    have herror := fullOrder_eq_error_iff.2 ⟨x, rfl, hx⟩
    simp [h] at herror

/-- Settings are accepted if no name in them is unknown. -/
theorem exists_validate_iff : (∃ v, s.validate = .ok v) ↔
    (∀ x, ¬ s.FirstUnknownName x) ∧ ∀ x, ¬ s.LeastUnknownKey x := by
  rw [← exists_fullOrder_iff]
  constructor
  · rintro ⟨v, hv⟩
    rw [validate] at hv
    split at hv
    · cases hv
    · next cs horder =>
      refine ⟨⟨cs, horder⟩, fun x hx => ?_⟩
      simp [commentTable_eq_error_iff.2 ⟨x, rfl, hx⟩] at hv
  · rintro ⟨⟨cs, horder⟩, hknown⟩
    rw [validate, horder]
    cases hcomment : s.commentTable with
    | error e =>
      obtain ⟨x, -, hx⟩ := commentTable_eq_error_iff.1 hcomment
      exact absurd hx (hknown x)
    | ok comment => exact ⟨_, rfl⟩

/-- Settings that say nothing give the usual rules. -/
theorem validate_empty : validate {} = .ok { rules := Rules.standard, repeats := [] } := by
  have horder : Rules.standard.order.eraseDups = Rules.standard.order := by decide
  have hrepeats : repeatsAfter [] Rules.standard.order = [] := by decide
  have hmisc : miscSet {} = [] := by simp [miscSet, sortedSet]
  simp only [validate, fullOrder, commentTable, horder, hrepeats, hmisc]
  rfl

/-- What comes of any settings.  An unknown name in the order is reported before any in the table of
comments. -/
theorem validate_exact (s : Settings) :
    (∀ x, s.validate = .error (.unknownOrderElement x) ↔ s.FirstUnknownName x) ∧
    (∀ x, s.validate = .error (.unknownCommentElement x) ↔
      (∀ y, ¬ s.FirstUnknownName y) ∧ s.LeastUnknownKey x) ∧
    ((∃ v, s.validate = .ok v ∧ s.Gives v) ↔
      (∀ x, ¬ s.FirstUnknownName x) ∧ ∀ x, ¬ s.LeastUnknownKey x) ∧
    validate {} = .ok { rules := Rules.standard, repeats := [] } := by
  refine ⟨fun x => ?_, fun x => ?_, ?_, validate_empty⟩
  · simp [validate_eq_error_iff, fullOrder_eq_error_iff, commentTable_eq_error_iff]
  · simp [validate_eq_error_iff, fullOrder_eq_error_iff, commentTable_eq_error_iff,
      exists_fullOrder_iff]
  · rw [← exists_validate_iff]
    constructor
    · rintro ⟨v, hv, -⟩
      exact ⟨v, hv⟩
    · rintro ⟨v, hv⟩
      exact ⟨v, hv, gives_of_validate hv⟩

example : (validate { requiredOrder := some [":scope", "enum", " scope "] }).map
      (fun v => (v.rules.order, v.warnings)) =
    .ok ([.scope, .enum],
      ["'required_order' lists 'scope' more than once, keeping the first"]) := by
  cbv

end Settings

end ModelLayout

import Mathlib.Algebra.GroupWithZero.Nat
import ModelLayout.Report
import ModelLayout.Proofs.JsonText

/-!
# What a report tells

A report in JSON is read back as one object for each offense, so it tells all there is to tell.  A
report as text tells each offense in a block of lines: the lines of its message, but for the empty
ones after the first, and a summary at the end counts the offenses that the other format lists.

## Main definitions

* `Offense.told` — the object that a report in JSON has for an offense.
* `messageLines`, `firstLine`, `laterLines` — the lines of a message.
* `Offense.block` — the lines that a report as text has for an offense.

## Main results

* `decode?_renderJson` — what is read from a report in JSON.
* `renderJson_faithful` — a report in JSON tells its records, and nothing is lost.
* `Text.lineChars_eq` — the lines of a text, by what stands between its line feeds.
* `renderText_blocks` — a report as text, line by line.
-/

namespace ModelLayout

open JsonText (Value decode?)

/-! ### Reports in JSON -/

theorem Json.values_eq_map (js : List Json) : Json.values js = js.map Json.value := by
  induction js with
  | nil => rfl
  | cons j js ih => rw [Json.values, ih, List.map_cons]

/-- The object that a report in JSON has for an offense in the file `path`. -/
def Offense.told (path : String) (f : Offense) : Value :=
  .object [("path", .string path), ("line", .number f.span.start.line 0),
    ("column", .number (f.span.start.column + 1) 0), ("end_line", .number f.span.stop.line 0),
    ("end_column", .number (f.span.stop.column + 1) 0), ("kind", .string f.kind.name),
    ("message", .string f.message)]

/-- A report in JSON is read as one object for each record. -/
theorem decode?_renderJson (reports : List FileReport) :
    decode? (renderJson reports) =
      some (.array ((records reports).map fun r => r.toJson.value)) := by
  rw [renderJson, JsonText.decode?_pretty, Json.value, Json.values_eq_map, List.map_map]
  rfl

theorem map_value_records (reports : List FileReport) :
    (records reports).map (fun r => r.toJson.value) =
      reports.flatMap fun r => r.offenses.map (Offense.told r.path) := by
  rw [records, List.map_flatMap]
  simp only [List.map_map]
  rfl

theorem OffenseKind.name_injective {k l : OffenseKind} (h : k.name = l.name) : k = l := by
  revert h
  cases k <;> cases l <;> decide

/-- An object tells all of its record. -/
theorem Record.value_toJson_injective : Function.Injective fun r : Record => r.toJson.value := by
  intro r s h
  simp only [toJson, Json.value, Json.members, Json.member, Value.object.injEq, List.cons.injEq,
    Prod.mk.injEq, Value.string.injEq, Value.number.injEq, Int.natCast_inj, true_and,
    and_true] at h
  obtain ⟨hpath, hline, hcolumn, hendLine, hendColumn, hkind, hmessage⟩ := h
  have hkind := OffenseKind.name_injective hkind
  cases r
  cases s
  subst hpath hline hcolumn hendLine hendColumn hkind hmessage
  rfl

/-- A report in JSON is read as one object for each offense, file by file, which tells the path, the
lines and columns, the kind and the message; reports that differ in a record differ as texts. -/
theorem renderJson_faithful :
    (∀ reports, decode? (renderJson reports) =
      some (.array (reports.flatMap fun r => r.offenses.map (Offense.told r.path)))) ∧
    ∀ reports reports', renderJson reports = renderJson reports' ↔
      records reports = records reports' := by
  refine ⟨fun reports => ?_, fun reports reports' => ⟨fun h => ?_, fun h => ?_⟩⟩
  · rw [decode?_renderJson, map_value_records]
  · have hread := congrArg decode? h
    rw [decode?_renderJson, decode?_renderJson, Option.some.injEq, Value.array.injEq] at hread
    exact List.map_injective_iff.2 Record.value_toJson_injective hread
  · rw [renderJson, renderJson, h]

/-! ### The lines of a message -/

namespace Text

/-- A piece of a text without a carriage return at its end. -/
def dropReturn (piece : List Char) : List Char :=
  if piece.getLast? = some '\r' then piece.dropLast else piece

/-- The lines of a text that is cut at its line feeds.  A line feed may come with a carriage return
in front; behind the last one there is a line only if there is anything. -/
def endedLines : List (List Char) → List (List Char)
  | [] => []
  | [last] => if last.isEmpty then [] else [last]
  | piece :: next :: more => dropReturn piece :: endedLines (next :: more)

theorem closeLine_eq (line : List Char) : closeLine line = dropReturn line.reverse := by
  cases line with
  | nil => rfl
  | cons c line =>
    by_cases hc : c = '\r'
    · simp [closeLine, dropReturn, hc]
    · simp [closeLine, dropReturn, hc]

theorem linesAfter_eq (cs : List Char) : ∀ line : List Char,
    linesAfter line cs = endedLines (cs.splitOnPPrepend (· == '\n') line) := by
  induction cs with
  | nil =>
    intro line
    simp [endedLines]
  | cons c cs ih =>
    intro line
    rw [linesAfter_cons, List.splitOnPPrepend_cons_eq_if]
    by_cases hc : c = '\n'
    · rw [if_pos hc, if_pos (by simp [hc]), ih, List.splitOnPPrepend_nil_right, closeLine_eq]
      cases hcut : cs.splitOnP (· == '\n') with
      | nil => exact absurd hcut (List.splitOnP_ne_nil _ _)
      | cons next more => rfl
    · rw [if_neg hc, if_neg (by simp [hc]), ih]

theorem lineChars_eq (cs : List Char) : lineChars cs = endedLines (cs.splitOn '\n') :=
  linesAfter_eq cs []

/-- Nothing is added to the pieces. -/
theorem exists_subset_of_mem_endedLines {pieces : List (List Char)} {line : List Char}
    (h : line ∈ endedLines pieces) : ∃ piece ∈ pieces, line ⊆ piece := by
  fun_induction endedLines pieces with
  | case1 => cases h
  | case2 => cases h
  | case3 last _ =>
    obtain rfl := List.mem_singleton.1 h
    exact ⟨line, List.mem_singleton_self _, List.Subset.refl _⟩
  | case4 piece next more ih =>
    rcases List.mem_cons.1 h with rfl | h
    · refine ⟨piece, List.mem_cons_self, ?_⟩
      unfold dropReturn
      split
      · exact List.dropLast_subset _
      · exact List.Subset.refl _
    · obtain ⟨other, hother, hline⟩ := ih h
      exact ⟨other, List.mem_cons_of_mem _ hother, hline⟩

/-- There is no separator in what stands between the separators. -/
theorem not_mem_of_mem_splitOn {sep : Char} {cs piece : List Char} (h : piece ∈ cs.splitOn sep) :
    sep ∉ piece := by
  induction cs generalizing piece with
  | nil =>
    rw [List.splitOn_nil, List.mem_singleton] at h
    rw [h]
    exact List.not_mem_nil
  | cons c cs ih =>
    rw [List.splitOn_cons_eq_if_modifyHead] at h
    split at h
    · rcases List.mem_cons.1 h with rfl | h
      · exact List.not_mem_nil
      · exact ih h
    · rename_i hc
      cases hcut : cs.splitOn sep with
      | nil => exact absurd hcut (List.splitOn_ne_nil _ _)
      | cons first more =>
        rw [hcut] at h ih
        rcases List.mem_cons.1 h with rfl | h
        · have hne : sep ≠ c := by
            rintro rfl
            exact hc (beq_self_eq_true _)
          exact List.not_mem_cons_of_ne_of_not_mem hne (ih List.mem_cons_self)
        · exact ih (List.mem_cons_of_mem _ h)

end Text

/-- The lines of a message. -/
def messageLines (message : String) : List String :=
  (Text.endedLines (message.toList.splitOn '\n')).map String.ofList

theorem lines_eq_messageLines (message : String) : Text.lines message = messageLines message := by
  rw [Text.lines, Text.lineChars_eq, messageLines]

theorem lineFeed_not_mem_messageLines {message line : String} (h : line ∈ messageLines message) :
    '\n' ∉ line.toList := by
  obtain ⟨cs, hcs, rfl⟩ := List.mem_map.1 h
  obtain ⟨piece, hpiece, hsubset⟩ := Text.exists_subset_of_mem_endedLines hcs
  rw [String.toList_ofList]
  exact fun hmem => Text.not_mem_of_mem_splitOn hpiece (hsubset hmem)

/-- The line of a message that stands next to its place. -/
def firstLine (message : String) : String :=
  (messageLines message).headD ""

/-- The lines of a message that follow, without the empty ones. -/
def laterLines (message : String) : List String :=
  (messageLines message).tail.filter (· ≠ "")

/-- The lines that a report as text has for an offense in the file `path`. -/
def Offense.block (path : String) (f : Offense) : List String :=
  (path ++ ":" ++ Nat.repr f.span.start.line ++ ":" ++ Nat.repr (f.span.start.column + 1) ++ ": " ++
      f.kind.name ++ ": " ++ firstLine f.message) ::
    (laterLines f.message).map ("    " ++ ·)

/-! ### Reports as text -/

theorem textLines_record (path : String) (f : Offense) :
    (f.record path).textLines = f.block path := by
  have hlater : ((Text.lines f.message).drop 1).filter (!·.isEmpty) = laterLines f.message := by
    rw [lines_eq_messageLines, laterLines, List.drop_one]
    refine List.filter_congr fun line _ => ?_
    rw [Bool.eq_iff_iff]
    simp
  rw [Record.textLines, Record.headLine, Record.moreLines]
  show (path ++ ":" ++ _ ++ ":" ++ _ ++ ": " ++ _ ++ ": " ++ (Text.lines f.message).headD "") ::
    (((Text.lines f.message).drop 1).filter (!·.isEmpty)).map ("    " ++ ·) = _
  rw [hlater, lines_eq_messageLines]
  rfl

theorem reportLines_eq (reports : List FileReport) :
    reportLines reports = (reports.flatMap fun r => r.offenses.flatMap (Offense.block r.path)) ++
      ["", summaryLine reports] := by
  rw [reportLines, records, List.flatMap_assoc]
  simp only [List.flatMap_map, textLines_record]

/-- Lines that are ended by line feeds, cut at the line feeds. -/
theorem splitOn_join {ls : List String} (h : ∀ l ∈ ls, '\n' ∉ l.toList) :
    (String.join (ls.map (· ++ "\n"))).toList.splitOn '\n' = ls.map String.toList ++ [[]] := by
  induction ls with
  | nil => rfl
  | cons l ls ih =>
    obtain ⟨hl, hls⟩ := List.forall_mem_cons.1 h
    have hfeed : "\n".toList = ['\n'] := rfl
    rw [List.map_cons, String.join_cons, String.toList_append, String.toList_append, hfeed,
      List.append_assoc, List.singleton_append, List.splitOn_append_cons_self_of_not_mem hl, ih hls]
    rfl

theorem count_join {ls : List String} (h : ∀ l ∈ ls, '\n' ∉ l.toList) :
    (String.join (ls.map (· ++ "\n"))).toList.count '\n' = ls.length := by
  induction ls with
  | nil => rfl
  | cons l ls ih =>
    obtain ⟨hl, hls⟩ := List.forall_mem_cons.1 h
    have hfeed : "\n".toList.count '\n' = 1 := rfl
    rw [List.map_cons, String.join_cons, String.toList_append, String.toList_append,
      List.count_append, List.count_append, List.count_eq_zero_of_not_mem hl, hfeed, ih hls,
      List.length_cons]
    omega

theorem lineFeed_not_mem_toDigits (n : Nat) : '\n' ∉ Nat.toDigits 10 n := by
  intro hmem
  exact absurd (Nat.isDigit_of_mem_toDigits (by decide) (by decide) hmem) (by decide)

/-- No line about an offense has a line feed in it, if the path has none. -/
theorem lineFeed_not_mem_block {path : String} (hpath : '\n' ∉ path.toList) {f : Offense}
    {line : String} (h : line ∈ f.block path) : '\n' ∉ line.toList := by
  have hfirst : '\n' ∉ (firstLine f.message).toList := by
    rw [firstLine]
    cases hlines : messageLines f.message with
    | nil => exact List.not_mem_nil
    | cons line more => exact lineFeed_not_mem_messageLines (hlines ▸ List.mem_cons_self)
  have hkind : '\n' ∉ f.kind.name.toList := by
    cases f.kind <;> decide
  rcases List.mem_cons.1 h with rfl | h
  · simp [hpath, hfirst, hkind, lineFeed_not_mem_toDigits]
  · obtain ⟨later, hlater, rfl⟩ := List.mem_map.1 h
    have hmem := List.mem_of_mem_tail (List.mem_of_mem_filter hlater)
    simp [lineFeed_not_mem_messageLines hmem]

theorem lineFeed_not_mem_summaryLine (reports : List FileReport) :
    '\n' ∉ (summaryLine reports).toList := by
  simp [summaryLine, lineFeed_not_mem_toDigits]

theorem lineFeed_not_mem_reportLines {reports : List FileReport}
    (hpaths : ∀ r ∈ reports, '\n' ∉ r.path.toList) :
    ∀ line ∈ reportLines reports, '\n' ∉ line.toList := by
  intro line hline
  rw [reportLines_eq, List.mem_append] at hline
  rcases hline with hline | hline
  · obtain ⟨r, hr, hline⟩ := List.mem_flatMap.1 hline
    obtain ⟨f, -, hline⟩ := List.mem_flatMap.1 hline
    exact lineFeed_not_mem_block (hpaths r hr) hline
  · rcases List.mem_pair.1 hline with rfl | rfl
    · exact List.not_mem_nil
    · exact lineFeed_not_mem_summaryLine reports

theorem length_reportLines (reports : List FileReport) :
    (reportLines reports).length =
      (reports.map fun r => (r.offenses.map fun f => 1 + (laterLines f.message).length).sum).sum +
        2 := by
  have hblock : ∀ (path : String) (f : Offense),
      (f.block path).length = 1 + (laterLines f.message).length := by
    intro path f
    rw [Offense.block, List.length_cons, List.length_map, Nat.add_comm]
  rw [reportLines_eq, List.length_append, List.length_flatMap]
  simp only [List.length_flatMap, hblock]
  rfl

/-- A report as text, if no path has a line feed: a block of lines for each offense, file by file,
then an empty line and the summary; so the line feeds can be counted.  The summary gives the number
of files, of the objects in the report in JSON, and of the files with an offense. -/
theorem renderText_blocks (reports : List FileReport)
    (hpaths : ∀ r ∈ reports, '\n' ∉ r.path.toList) :
    ∃ (summary : String) (objects : List Value),
      ((renderText reports).toList.splitOn '\n').map String.ofList =
        (reports.flatMap fun r => r.offenses.flatMap (Offense.block r.path)) ++ ["", summary, ""] ∧
      (renderText reports).toList.count '\n' =
        (reports.map fun r => (r.offenses.map fun f => 1 + (laterLines f.message).length).sum).sum +
          2 ∧
      decode? (renderJson reports) = some (.array objects) ∧
      summary = Nat.repr reports.length ++ " file(s) inspected, " ++ Nat.repr objects.length ++
        " offense(s) detected in " ++ Nat.repr (reports.countP fun r => r.offenses ≠ []) ++
        " file(s)" := by
  have hlines := lineFeed_not_mem_reportLines hpaths
  refine ⟨summaryLine reports, _, ?_, ?_, decode?_renderJson reports, ?_⟩
  · rw [renderText, splitOn_join hlines, List.map_append, List.map_map, reportLines_eq]
    simp
  · rw [renderText, count_join hlines, length_reportLines]
  · have hcount : reports.countP (fun r => r.offenses ≠ []) =
        (reports.filter (!·.offenses.isEmpty)).length := by
      rw [List.countP_eq_length_filter]
      congr 2
      funext r
      cases r.offenses <;> rfl
    rw [summaryLine, List.length_map, hcount]

/-- A file with an offense whose message has both kinds of line endings and an empty line, and a
file without any. -/
def brokenLines : List FileReport :=
  [⟨"a.rb", [{ span := ⟨40, 60, ⟨5, 2⟩, ⟨5, 22⟩⟩, kind := .order, message := "one\r\n\ntwo\r" }]⟩,
    ⟨"b.rb", []⟩]

theorem renderText_blocks_brokenLines :
    (∀ r ∈ brokenLines, '\n' ∉ r.path.toList) ∧
      (renderText brokenLines).toList.count '\n' = 4 ∧
      ∃ summary, ((renderText brokenLines).toList.splitOn '\n').map String.ofList =
        ["a.rb:5:3: order: one", "    two\r", "", summary, ""] := by
  have hpaths : ∀ r ∈ brokenLines, '\n' ∉ r.path.toList := by decide
  obtain ⟨summary, objects, hlines, hcount, -, -⟩ := renderText_blocks brokenLines hpaths
  exact ⟨hpaths, hcount.trans rfl, summary, hlines.trans rfl⟩

end ModelLayout

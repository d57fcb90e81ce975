import ModelLayout.CommandLine
import ModelLayout.Proofs.SourceOrder
import ModelLayout.Proofs.Writing

/-!
# The outcome of a run

A run that cannot settle the rules or find the files writes no report.  Any other run reports every
file that it can check, whatever becomes of the rest: a file cannot be checked if it cannot be read,
if its bytes are no text, or if the text cannot be parsed.  The report of a file depends on its bytes
and the rules only.  So one file that is changed, added or broken leaves the reports of all others as
they were, unless settings are looked for in that file.

## Main definitions

* `Machine.CanBeChecked`, `Machine.reportOf?` — the files that can be checked, and their reports.
* `Machine.Reports` — what a run tells about the files that it found.
* `Machine.locked` — a machine on which a file refuses to be read.

## Main results

* `Machine.reportsOf_checkFiles`, `Machine.failuresOf_checkFiles_eq_nil_iff` — reports and failures.
* `Machine.SameElsewhere.reports` — the reports of the files elsewhere.
* `Machine.check_outcome` — the outcome of a run.
-/

namespace ModelLayout

/-! ### Exit codes and empty reports -/

/-- Failures come before offenses. -/
theorem exitCodeOf_cases (reports : List FileReport) (failures : List FileError) :
    (failures ≠ [] ∧ exitCodeOf reports failures = 2) ∨
    (failures = [] ∧ (∃ r ∈ reports, r.offenses ≠ []) ∧ exitCodeOf reports failures = 1) ∨
    (failures = [] ∧ (∀ r ∈ reports, r.offenses = []) ∧ exitCodeOf reports failures = 0) := by
  unfold exitCodeOf
  cases failures with
  | cons e failures => exact Or.inl ⟨List.cons_ne_nil e failures, rfl⟩
  | nil =>
    right
    by_cases hany : reports.any (!·.offenses.isEmpty) = true
    · exact Or.inl ⟨rfl, by simpa [List.any_eq_true] using hany, by simp [hany]⟩
    · exact Or.inr ⟨rfl, by simpa [List.any_eq_true] using hany, by simp [hany]⟩

theorem exitCodeOf_eq_two_iff {reports : List FileReport} {failures : List FileError} :
    exitCodeOf reports failures = 2 ↔ failures ≠ [] := by
  rcases exitCodeOf_cases reports failures with ⟨hsome, hcode⟩ | ⟨hnil, -, hcode⟩ | ⟨hnil, -, hcode⟩
  · exact iff_of_true hcode hsome
  · exact iff_of_false (by simp [hcode]) (by simp [hnil])
  · exact iff_of_false (by simp [hcode]) (by simp [hnil])

theorem exitCodeOf_eq_one_iff {reports : List FileReport} {failures : List FileError} :
    exitCodeOf reports failures = 1 ↔ failures = [] ∧ ∃ r ∈ reports, r.offenses ≠ [] := by
  rcases exitCodeOf_cases reports failures with
    ⟨hsome, hcode⟩ | ⟨hnil, hany, hcode⟩ | ⟨hnil, hnone, hcode⟩
  · exact iff_of_false (by simp [hcode]) fun h => hsome h.1
  · exact iff_of_true hcode ⟨hnil, hany⟩
  · refine iff_of_false (by simp [hcode]) ?_
    rintro ⟨-, r, hr, hoffenses⟩
    exact hoffenses (hnone r hr)

theorem exitCodeOf_eq_zero_iff {reports : List FileReport} {failures : List FileError} :
    exitCodeOf reports failures = 0 ↔ failures = [] ∧ ∀ r ∈ reports, r.offenses = [] := by
  rcases exitCodeOf_cases reports failures with
    ⟨hsome, hcode⟩ | ⟨hnil, ⟨r, hr, hoffenses⟩, hcode⟩ | ⟨hnil, hnone, hcode⟩
  · exact iff_of_false (by simp [hcode]) fun h => hsome h.1
  · exact iff_of_false (by simp [hcode]) fun h => hoffenses (h.2 r hr)
  · exact iff_of_true hcode ⟨hnil, hnone⟩

theorem records_eq_nil_iff {reports : List FileReport} :
    records reports = [] ↔ ∀ r ∈ reports, r.offenses = [] := by
  simp [records, List.flatMap_eq_nil_iff]

/-- A report in JSON is an empty array exactly if there are no offenses. -/
theorem renderJson_eq_iff {reports : List FileReport} :
    renderJson reports = "[]" ↔ ∀ r ∈ reports, r.offenses = [] := by
  rw [← records_eq_nil_iff, renderJson]
  cases records reports with
  | nil => exact iff_of_true rfl rfl
  | cons r rest =>
    refine iff_of_false (fun h => ?_) (by simp)
    have hchars := congrArg String.toList h
    rw [List.map_cons, Json.pretty, String.toList_ofList, Json.prettyChars,
      Json.lineBreak] at hchars
    simp at hchars

/-! ### The report of a file -/

/-- The report of a file with the given bytes, if these are a text that can be parsed. -/
def reportFrom? (grammar : Ruby.Grammar) (rules : Rules) (path : String) (bytes : ByteArray) :
    Option FileReport :=
  (String.fromUTF8? bytes).bind fun text =>
    (grammar text).toOption.map fun tree => ⟨path, SourceFile.offenses rules ⟨text, tree⟩⟩

namespace Machine

variable {m m' : Machine} {grammar : Ruby.Grammar} {rules : Rules} {p : String}
  {files : List String}

/-- The file under a path can be read, and its bytes are a text that can be parsed. -/
def CanBeChecked (m : Machine) (grammar : Ruby.Grammar) (path : String) : Prop :=
  ∃ bytes text tree, m.read path = .ok bytes ∧ String.fromUTF8? bytes = some text ∧
    grammar text = .ok tree

/-- The report of the file under a path, if it can be checked. -/
def reportOf? (m : Machine) (grammar : Ruby.Grammar) (rules : Rules) (path : String) :
    Option FileReport :=
  (m.read path).toOption.bind (reportFrom? grammar rules path)

/-- A file is reported if it can be checked, and else it is a failure. -/
theorem checkFile_cases (m : Machine) (grammar : Ruby.Grammar) (rules : Rules) (p : String) :
    (∃ r, m.checkFile grammar rules p = .ok r ∧ m.reportOf? grammar rules p = some r ∧
      m.CanBeChecked grammar p) ∨
    ∃ e, m.checkFile grammar rules p = .error e ∧ m.reportOf? grammar rules p = none ∧
      ¬ m.CanBeChecked grammar p := by
  unfold checkFile readText reportOf? reportFrom? CanBeChecked offensesIn
  cases hread : m.read p with
  | error cause => exact Or.inr ⟨_, rfl, rfl, by simp⟩
  | ok bytes =>
    cases htext : String.fromUTF8? bytes with
    | none =>
      refine Or.inr ⟨.unreadable p notText, by simp only [htext], ?_, by simp [htext]⟩
      simp [Except.toOption, htext]
    | some text =>
      simp only [htext]
      cases htree : grammar text with
      | error cause =>
        refine Or.inr ⟨.unparsed p cause, by simp [Except.map], ?_, by simp [htext, htree]⟩
        simp [Except.toOption, htext, htree]
      | ok tree =>
        refine Or.inl ⟨⟨p, SourceFile.offenses rules ⟨text, tree⟩⟩, by simp [Except.map], ?_,
          bytes, text, tree, rfl, htext, htree⟩
        simp [Except.toOption, htext, htree]

theorem path_of_reportOf? {r : FileReport} (h : m.reportOf? grammar rules p = some r) :
    r.path = p := by
  obtain ⟨bytes, -, h⟩ := Option.bind_eq_some_iff.1 h
  obtain ⟨text, -, h⟩ := Option.bind_eq_some_iff.1 h
  obtain ⟨tree, -, rfl⟩ := Option.map_eq_some_iff.1 h
  rfl

/-- Reports can be left out file by file. -/
theorem filter_filterMap_reportOf? (keep : String → Bool) (files : List String) :
    (files.filterMap (m.reportOf? grammar rules)).filter (keep ·.path) =
      (files.filter keep).filterMap (m.reportOf? grammar rules) := by
  rw [List.filter_filterMap, List.filterMap_filter]
  refine List.filterMap_congr fun p _ => ?_
  cases hreport : m.reportOf? grammar rules p with
  | none => simp
  | some r => simp [Option.filter_some, path_of_reportOf? hreport]

/-! ### Reports and failures -/

theorem reportsOf_checkFiles : reportsOf (m.checkFiles grammar rules files) =
    files.filterMap (m.reportOf? grammar rules) := by
  rw [reportsOf, checkFiles, List.filterMap_map]
  refine List.filterMap_congr fun p _ => ?_
  rw [Function.comp_apply]
  rcases checkFile_cases m grammar rules p with ⟨r, hcheck, hreport, -⟩ | ⟨e, hcheck, hreport, -⟩
  · rw [hcheck, hreport]
  · rw [hcheck, hreport]

theorem failuresOf_checkFiles_eq_nil_iff : failuresOf (m.checkFiles grammar rules files) = [] ↔
    ∀ p ∈ files, m.CanBeChecked grammar p := by
  rw [failuresOf, checkFiles, List.filterMap_map, List.filterMap_eq_nil_iff]
  refine forall₂_congr fun p _ => ?_
  rw [Function.comp_apply]
  rcases checkFile_cases m grammar rules p with ⟨r, hcheck, -, hcan⟩ | ⟨e, hcheck, -, hcannot⟩
  · rw [hcheck]
    exact iff_of_true rfl hcan
  · rw [hcheck]
    exact iff_of_false (by simp) hcannot

/-- What a run tells about the files that it found. -/
structure Reports (m : Machine) (grammar : Ruby.Grammar) (plan : Plan) (files : List String)
    (r : RunOutcome) : Prop where
  output : r.output = render plan.format (files.filterMap (m.reportOf? grammar plan.rules))
  incomplete : r.exitCode = 2 ↔ ∃ p ∈ files, ¬ m.CanBeChecked grammar p
  offenses : r.exitCode = 1 ↔ (∀ p ∈ files, m.CanBeChecked grammar p) ∧
    ∃ x ∈ files.filterMap (m.reportOf? grammar plan.rules), x.offenses ≠ []
  clean : r.exitCode = 0 ↔ (∀ p ∈ files, m.CanBeChecked grammar p) ∧
    ∀ x ∈ files.filterMap (m.reportOf? grammar plan.rules), x.offenses = []
  json : renderJson (files.filterMap (m.reportOf? grammar plan.rules)) ≠ "[]" ↔
    ∃ x ∈ files.filterMap (m.reportOf? grammar plan.rules), x.offenses ≠ []

theorem reports_ofResults (m : Machine) (grammar : Ruby.Grammar) (plan : Plan)
    (files : List String) : m.Reports grammar plan files
      (.ofResults plan.format (m.checkFiles grammar plan.rules files)) where
  output := by rw [RunOutcome.ofResults, reportsOf_checkFiles]
  incomplete := by
    show exitCodeOf _ _ = 2 ↔ _
    rw [exitCodeOf_eq_two_iff, ne_eq, failuresOf_checkFiles_eq_nil_iff]
    simp
  offenses := by
    show exitCodeOf _ _ = 1 ↔ _
    rw [exitCodeOf_eq_one_iff, failuresOf_checkFiles_eq_nil_iff, reportsOf_checkFiles]
  clean := by
    show exitCodeOf _ _ = 0 ↔ _
    rw [exitCodeOf_eq_zero_iff, failuresOf_checkFiles_eq_nil_iff, reportsOf_checkFiles]
  json := by
    rw [ne_eq, renderJson_eq_iff]
    simp only [not_forall, exists_prop, ne_eq]

/-! ### Other files -/

/-- The report of a file elsewhere stays as it was. -/
theorem SameElsewhere.reportOf?_eq {elsewhere : String → Bool} (h : SameElsewhere elsewhere m m')
    {path : String} (hp : elsewhere p = true) (hlists : m.Lists path p) :
    m'.reportOf? grammar rules p = m.reportOf? grammar rules p := by
  rw [reportOf?, reportOf?]
  cases hread : m.read p with
  | error cause =>
    obtain ⟨cause', hread'⟩ := h.unreadable hp hlists hread
    rw [hread']
    rfl
  | ok bytes => rw [h.read hp hread]

/-- So do the reports of all files that are collected elsewhere. -/
theorem SameElsewhere.reports {elsewhere : String → Bool} (h : SameElsewhere elsewhere m m')
    {paths : List String} (hfiles : m.collect paths = .ok files) :
    ∃ files', m'.collect paths = .ok files' ∧
      (files'.filterMap (m'.reportOf? grammar rules)).filter (elsewhere ·.path) =
        (files.filterMap (m.reportOf? grammar rules)).filter (elsewhere ·.path) := by
  obtain ⟨files', hfiles', hfilter⟩ := h.collect hfiles
  refine ⟨files', hfiles', ?_⟩
  rw [filter_filterMap_reportOf?, filter_filterMap_reportOf?, hfilter]
  refine List.filterMap_congr fun p hp => ?_
  obtain ⟨hmem, hkeep⟩ := List.mem_filter.1 hp
  obtain ⟨path, -, hlists⟩ := lists_of_mem_collect hfiles hmem
  exact h.reportOf?_eq hkeep hlists

/-! ### A whole run -/

section

variable {parse : SettingsReader} {args : Arguments} {plan : Plan}

theorem paths_of_plan (h : m.plan parse args = .ok plan) :
    plan.paths = if args.paths.isEmpty then ["."] else args.paths := by
  unfold Machine.plan at h
  split at h
  · cases h
  · cases h
    rfl
  · obtain ⟨rules, -, rfl⟩ := exists_of_map_eq_ok h
    rfl

theorem check_of_plan_error {e : ConfigurationError} (h : m.plan parse args = .error e) :
    m.check parse grammar args = .failed e.message := by
  simp only [check, h]

theorem check_of_collect_error (hplan : m.plan parse args = .ok plan) {e : MissingPath}
    (h : m.collect plan.paths = .error e) : m.check parse grammar args = .failed e.message := by
  simp only [check, hplan, h]

theorem check_of_collect (hplan : m.plan parse args = .ok plan)
    (h : m.collect plan.paths = .ok files) : m.check parse grammar args =
      .ofResults plan.format (m.checkFiles grammar plan.rules files) := by
  simp only [check, hplan, h]

end

/-- **The outcome of a run.**  Without rules, or if a path leads to nothing, no report is written and
the exit code is 2.  Otherwise all files that can be checked are reported, each by its own text.  The
exit code is 2 if some file cannot be checked, else 1 if some report has an offense, else 0.  When a
file is changed, added or broken, the reports of all others stay the same, if the rules do; and they
do if settings are looked for elsewhere. -/
theorem check_outcome (parse : SettingsReader) (grammar : Ruby.Grammar) (m : Machine)
    (args : Arguments) :
    (∀ e, m.plan parse args = .error e →
      (m.check parse grammar args).exitCode = 2 ∧ (m.check parse grammar args).output = "") ∧
    ∀ plan, m.plan parse args = .ok plan →
      (∀ e, m.collect plan.paths = .error e →
        (m.check parse grammar args).exitCode = 2 ∧ (m.check parse grammar args).output = "") ∧
      ∀ files, m.collect plan.paths = .ok files →
        m.Reports grammar plan files (m.check parse grammar args) ∧
        ∀ (elsewhere : String → Bool) (m' : Machine), SameElsewhere elsewhere m m' →
          (SettingsElsewhere elsewhere m m' args → m'.plan parse args = .ok plan) ∧
          ∀ plan', m'.plan parse args = .ok plan' → plan'.rules = plan.rules →
            ∃ files', m'.collect plan'.paths = .ok files' ∧
              m'.Reports grammar plan' files' (m'.check parse grammar args) ∧
              (files'.filterMap (m'.reportOf? grammar plan'.rules)).filter (elsewhere ·.path) =
                (files.filterMap (m.reportOf? grammar plan.rules)).filter (elsewhere ·.path) := by
  constructor
  · intro e he
    rw [check_of_plan_error he]
    exact ⟨rfl, rfl⟩
  intro plan hplan
  constructor
  · intro e he
    rw [check_of_collect_error hplan he]
    exact ⟨rfl, rfl⟩
  intro files hfiles
  constructor
  · rw [check_of_collect hplan hfiles]
    exact reports_ofResults m grammar plan files
  intro elsewhere m' hsame
  refine ⟨fun hsettings => hsame.plan hsettings hplan, ?_⟩
  intro plan' hplan' hrules
  have hpaths : plan'.paths = plan.paths := (paths_of_plan hplan').trans (paths_of_plan hplan).symm
  obtain ⟨files', hfiles', hreports⟩ := hsame.reports hfiles
  rw [← hpaths] at hfiles'
  refine ⟨files', hfiles', ?_, ?_⟩
  · rw [check_of_collect hplan' hfiles']
    exact reports_ofResults m' grammar plan' files'
  · rw [hrules]
    exact hreports

/-! ### A file that refuses to be read, next to one that does not -/

/-- The machine on which the file under a path refuses to be read. -/
def locked (m : Machine) (path cause : String) : Machine :=
  { m with read := fun p => if Path.same p path then .error cause else m.read p }

/-- To lock a file is to break it. -/
theorem sameElsewhere_locked {path : String} (cause : String)
    (h : ∀ p, Path.same p path = true → m.isDirectory p = false) :
    SameElsewhere (fun p => !Path.same p path) m (m.locked path cause) := by
  have hread : ∀ {p}, (!Path.same p path) = true → (m.locked path cause).read p = m.read p := by
    intro p hp
    have hsame : ¬ Path.same p path = true := by simpa using hp
    exact if_neg hsame
  exact
    { spelling := fun p q hsame => by rw [Path.same_congr hsame]
      kind := fun _ hkind => hkind
      read := fun hp hok => (hread hp).trans hok
      unreadable := fun hp _ herror => ⟨_, (hread hp).trans herror⟩
      walk := fun _ => rfl
      no_directory := fun hp => h _ (by simpa using hp)
      file := fun _ hfile => hfile
      workingDirectory := rfl
      settingsDirectory := rfl }

end Machine

theorem fromUTF8?_toUTF8 (s : String) : String.fromUTF8? s.toUTF8 = some s := by
  have hvalid : s.toUTF8.IsValidUTF8 := s.isValidUTF8
  rw [String.fromUTF8?, dif_pos hvalid]
  rfl

theorem Machine.reportOf?_of_text {m : Machine} {grammar : Ruby.Grammar} {p text : String}
    {tree : Ruby.Tree} (rules : Rules) (hread : m.read p = .ok text.toUTF8)
    (htree : grammar text = .ok tree) :
    m.reportOf? grammar rules p = some ⟨p, SourceFile.offenses rules ⟨text, tree⟩⟩ := by
  rw [reportOf?, hread]
  show reportFrom? grammar rules p text.toUTF8 = _
  rw [reportFrom?, fromUTF8?_toUTF8, Option.bind_some, htree]
  rfl

theorem reportOf?_lateConstructor {m : Machine} {p : String} (rules : Rules)
    (hread : m.read p = .ok lateConstructor.text.toUTF8) :
    m.reportOf? (SourceFile.grammar [lateConstructor]) rules p =
      some ⟨p, lateConstructor.offenses rules⟩ :=
  Machine.reportOf?_of_text rules hread lateConstructor.grammar_singleton

/-- A directory with two Ruby files. -/
def twoModels : Disk where
  files := [(["proj", "a.rb"], lateConstructor.text.toUTF8),
    (["proj", "b.rb"], lateConstructor.text.toUTF8)]
  directories := []

/-- Settings are given by an empty text, or by one that asks for no order. -/
def terseSettings : SettingsReader := fun text =>
  if text = "" then .ok {}
  else if text = "required_order = []\n" then .ok { requiredOrder := some [] }
  else .error "expected `required_order`"

/-- When one of two files refuses to be read, the run fails, and the other file has the report that
it had. -/
theorem check_outcome_twoModels :
    let m := twoModels.machine ["proj"] none
    let m' := m.locked "b.rb" "Permission denied (os error 13)"
    let elsewhere := fun p => !Path.same p "b.rb"
    let grammar := SourceFile.grammar [lateConstructor]
    let args : Arguments := { paths := ["b.rb", "a.rb"] }
    let report : FileReport := ⟨"a.rb", lateConstructor.offenses .standard⟩
    Machine.SameElsewhere elsewhere m m' ∧ Machine.SettingsElsewhere elsewhere m m' args ∧
      (m'.check terseSettings grammar args).exitCode = 2 ∧
      (m'.check terseSettings grammar args).output = render .text [report] ∧
      ∃ files', m'.collect args.paths = .ok files' ∧
        (files'.filterMap (m'.reportOf? grammar .standard)).filter (elsewhere ·.path) =
          [report] := by
  intro m m' elsewhere grammar args report
  have hshows : m.Shows twoModels.kindAt? ["proj"] := twoModels.shows _ _
  have hsame : Machine.SameElsewhere elsewhere m m' := by
    refine Machine.sameElsewhere_locked _ fun p hp => ?_
    rw [← Bool.not_eq_true, Machine.isDirectory_iff]
    intro hkind
    have htree := hshows.kind hkind
    rw [Path.target_of_same hp] at htree
    cases htree
  have hsettings : Machine.SettingsElsewhere elsewhere m m' args := by
    rintro path (⟨here, dir, hhere, hdir, rfl⟩ | ⟨user, huser, -⟩)
    · cases hhere
      rw [← mem_ancestors] at hdir
      refine ⟨?_, id⟩
      revert dir
      decide
    · cases huser
  have hplan : m.plan terseSettings args = .ok (args.planWith none .standard) := rfl
  have hcollect : ∀ m : Machine, m.filesAtAll args.paths = .ok args.paths →
      m.collect args.paths = .ok ["a.rb", "b.rb"] := fun m hall =>
    Machine.collect_eq_ok hall (spelledOnce_eq (by decide) (by decide) (by decide))
  have hbroken : m'.read "b.rb" = .error "Permission denied (os error 13)" := rfl
  obtain ⟨hreports, hbreak⟩ :=
    ((Machine.check_outcome terseSettings grammar m args).2 _ hplan).2 _ (hcollect m rfl)
  obtain ⟨hkept, hothers⟩ := hbreak elsewhere m' hsame
  obtain ⟨files', hfiles', hreports', hfilter⟩ := hothers _ (hkept hsettings) rfl
  obtain rfl : ["a.rb", "b.rb"] = files' := Except.ok.inj ((hcollect m' rfl).symm.trans hfiles')
  have hreport : m'.reportOf? grammar .standard "b.rb" = none := by
    rw [Machine.reportOf?, hbroken]
    rfl
  have hcannot : ¬ m'.CanBeChecked grammar "b.rb" := by
    rintro ⟨bytes, -, -, hbytes, -⟩
    cases hbroken.symm.trans hbytes
  have hall : ["a.rb", "b.rb"].filterMap (m'.reportOf? grammar .standard) = [report] := by
    rw [List.filterMap_cons_some (reportOf?_lateConstructor _ rfl),
      List.filterMap_cons_none hreport, List.filterMap_nil]
  refine ⟨hsame, hsettings, hreports'.incomplete.2 ⟨"b.rb", by simp, hcannot⟩,
    hreports'.output.trans (congrArg (render .text) hall), _, hfiles', hfilter.trans ?_⟩
  have hkeep : ["a.rb", "b.rb"].filter elsewhere = ["a.rb"] :=
    show ["a.rb", "b.rb"].filter (fun p => !Path.same p "b.rb") = ["a.rb"] by decide
  rw [Machine.filter_filterMap_reportOf?, hkeep,
    List.filterMap_cons_some (reportOf?_lateConstructor _ rfl), List.filterMap_nil]
  rfl

/-! ### A path that is too long, and a file with settings -/

/-- The working directory, written with `k` dots. -/
def dots : Nat → String
  | 0 => ""
  | k + 1 => "./" ++ dots k

theorem utf8ByteSize_dots (k : Nat) : (dots k).utf8ByteSize = 2 * k := by
  induction k with
  | zero => rfl
  | succ k ih =>
    have hstep : ("./" : String).utf8ByteSize = 2 := rfl
    rw [dots, String.utf8ByteSize_append, ih, hstep]
    omega

theorem zero_not_mem_dots (k : Nat) : '\x00' ∉ (dots k).toList := by
  induction k with
  | zero => simp [dots]
  | succ k ih =>
    rw [dots, String.toList_append, List.mem_append]
    exact not_or.2 ⟨by decide, ih⟩

theorem dots_ne_empty (k : Nat) : dots (k + 1) ≠ "" := by
  intro hempty
  have hsize := utf8ByteSize_dots (k + 1)
  rw [hempty, String.utf8ByteSize_empty] at hsize
  omega

namespace Disk

variable {d : Disk} {here : Place}

/-- However many dots there are, they lead nowhere else. -/
theorem follow_dots (h : d.entry? here = some .directory) (k : Nat) :
    d.follow here (Path.parts (dots k)) = .ok here := by
  induction k with
  | zero => exact follow_cons_eq_ok_iff.2 ⟨h, by simp [Path.component?], rfl⟩
  | succ k ih =>
    have hparts : Path.parts (dots (k + 1)) = "." :: Path.parts (dots k) :=
      Path.parts_append "." (dots k)
    rw [hparts]
    exact follow_cons_eq_ok_iff.2 ⟨h, by simp [Path.component?], ih⟩

theorem lookup_dots (h : d.entry? here = some .directory) {k : Nat}
    (hk : 2 * (k + 1) ≤ maxPathBytes) : d.lookup here (dots (k + 1)) = .ok (here, .directory) := by
  have htakes : Takes (dots (k + 1)) :=
    ⟨zero_not_mem_dots _, by rwa [utf8ByteSize_dots], dots_ne_empty k⟩
  have horigin : Path.origin here (dots (k + 1)) = here := by
    rw [Path.origin, dots, Path.isAbsolute_append (by decide)]
    rfl
  refine lookup_eq_ok_iff.2 ⟨locate_eq_ok_iff.2 ⟨htakes, ?_⟩, h⟩
  rw [horigin]
  exact follow_dots h (k + 1)

/-- The report of the file at the place that a path spells, if its bytes are a text that can be
parsed. -/
def storedReport? (d : Disk) (here : Place) (grammar : Ruby.Grammar) (rules : Rules)
    (path : String) : Option FileReport :=
  (d.files.lookup (Path.target here path)).bind (reportFrom? grammar rules path)

end Disk

/-- A directory with one empty file. -/
def emptyModel : Disk where
  files := [(["proj", "abc.rb"], ⟨#[]⟩)]
  directories := []

section EmptyModel

variable {k : Nat} (hk : 2 * (k + 1) ≤ maxPathBytes)
include hk

theorem lookup_emptyModel :
    emptyModel.lookup ["proj"] (dots (k + 1)) = .ok (["proj"], .directory) :=
  Disk.lookup_dots (by rfl) hk

/-- The file is collected as long as the path of its directory is not too long. -/
theorem collect_emptyModel : (emptyModel.machine ["proj"] none).collect [dots (k + 1)] =
    .ok [Path.join (dots (k + 1)) "abc.rb"] := by
  have hdir : (emptyModel.machine ["proj"] none).isDirectory (dots (k + 1)) = true :=
    Disk.isDirectory_machine_iff.2 ⟨_, lookup_emptyModel hk⟩
  have hfile : ¬ (emptyModel.machine ["proj"] none).isFile (dots (k + 1)) = true := by
    rw [Machine.isFile_iff, Machine.isDirectory_iff.1 hdir]
    simp
  have hbelow : emptyModel.below ["proj"] = [["abc.rb"]] := rfl
  have henter : Disk.canEnter (dots (k + 1)) [] = true := by
    rw [Disk.canEnter, decide_eq_true_iff]
    show (dots (k + 1)).utf8ByteSize ≤ maxPathBytes
    rwa [utf8ByteSize_dots]
  have hruby : Path.isRuby (Path.below (dots (k + 1)) ["abc.rb"]) = true :=
    (Path.isRuby_below_iff (dots_ne_empty k) (by simp) (by decide)).2
      ⟨"abc.rb", rfl, "abc", by decide, rfl⟩
  have hfiles : (emptyModel.machine ["proj"] none).rubyFilesBelow (dots (k + 1)) =
      [Path.join (dots (k + 1)) "abc.rb"] := by
    rw [Machine.rubyFilesBelow, Disk.filesBelow_machine (lookup_emptyModel hk), hbelow,
      List.filter_cons_of_pos (by exact henter), List.filter_nil, List.map_singleton,
      List.filter_cons_of_pos hruby, List.filter_nil]
    rfl
  simp only [Machine.collect, Machine.filesAtAll, Machine.filesAt, if_neg hfile, if_pos hdir, hfiles,
    Except.map, List.append_nil, List.mergeSort_singleton]
  rfl

theorem target_emptyModel :
    Path.target ["proj"] (Path.join (dots (k + 1)) "abc.rb") = ["proj", "abc.rb"] := by
  have hdots := Disk.target_of_locate (Disk.lookup_eq_ok_iff.1 (lookup_emptyModel hk)).1
  have hbelow := Path.target_below (dots_ne_empty k) (show ∀ name ∈ ["abc.rb"], IsName name by decide)
    ["proj"]
  rw [hdots] at hbelow
  exact hbelow

end EmptyModel

theorem le_utf8ByteSize_join (dir name : String) :
    dir.utf8ByteSize + name.utf8ByteSize ≤ (Path.join dir name).utf8ByteSize := by
  have happend : (dir ++ name).utf8ByteSize = dir.utf8ByteSize + name.utf8ByteSize :=
    String.utf8ByteSize_append
  have hslash : (dir ++ "/" ++ name).utf8ByteSize =
      (dir ++ "/").utf8ByteSize + name.utf8ByteSize := String.utf8ByteSize_append
  have hdir : (dir ++ "/").utf8ByteSize = dir.utf8ByteSize + ("/" : String).utf8ByteSize :=
    String.utf8ByteSize_append
  unfold Path.join
  split <;> omega

/-- The file cannot be read under a path that is too long. -/
theorem reportOf?_emptyModel (grammar : Ruby.Grammar) (rules : Rules) :
    (emptyModel.machine ["proj"] none).reportOf? grammar rules
      (Path.join (dots (2045 + 1)) "abc.rb") = none := by
  have hlong : maxPathBytes < (Path.join (dots (2045 + 1)) "abc.rb").utf8ByteSize := by
    have hsize := le_utf8ByteSize_join (dots (2045 + 1)) "abc.rb"
    have hname : ("abc.rb" : String).utf8ByteSize = 6 := rfl
    rw [utf8ByteSize_dots, hname] at hsize
    exact Nat.lt_of_lt_of_le (by decide) hsize
  cases hread : (emptyModel.machine ["proj"] none).read (Path.join (dots (2045 + 1)) "abc.rb") with
  | error cause =>
    rw [Machine.reportOf?, hread]
    rfl
  | ok bytes =>
    obtain ⟨place, hlookup⟩ := Disk.read_machine_eq_ok_iff.1 hread
    have htakes := (Disk.locate_eq_ok_iff.1 (Disk.lookup_eq_ok_iff.1 hlookup).1).1
    exact absurd htakes.fits (Nat.not_le.2 hlong)

/-- The file is text, and would have a report of its own. -/
theorem storedReport?_emptyModel :
    emptyModel.storedReport? ["proj"] (fun _ => .ok default) .standard
        (Path.join (dots (2045 + 1)) "abc.rb") =
      some ⟨Path.join (dots (2045 + 1)) "abc.rb", []⟩ := by
  have hbytes : emptyModel.files.lookup ["proj", "abc.rb"] = some "".toUTF8 := rfl
  have hoffenses : SourceFile.offenses .standard ⟨"", default⟩ = [] := by
    rw [SourceFile.offenses_eq_verdicts]
    decide +kernel
  rw [Disk.storedReport?, target_emptyModel (by decide), hbytes, Option.bind_some, reportFrom?,
    fromUTF8?_toUTF8, Option.bind_some]
  show some (FileReport.mk _ (SourceFile.offenses .standard ⟨"", default⟩)) = _
  rw [hoffenses]

theorem renderText_ne (p : String) : renderText [] ≠ renderText [⟨p, []⟩] := by
  -- without offenses the path is not written
  have hpath : renderText [⟨p, []⟩] = renderText [⟨"", []⟩] := rfl
  rw [hpath]
  decide +kernel

/-- A directory with one Ruby file. -/
def soleModel : Disk where
  files := [(["proj", "a.rb"], lateConstructor.text.toUTF8)]
  directories := []

/-- The same with a settings file, which asks for no order. -/
def configuredModel : Disk where
  files := [(["proj", "a.rb"], lateConstructor.text.toUTF8),
    (["proj", projectFileName], "required_order = []\n".toUTF8)]
  directories := []

theorem written_configuredModel :
    Disk.Written ["proj", projectFileName] soleModel configuredModel :=
  ⟨by rfl, ⟨_, List.mem_cons_of_mem _ List.mem_cons_self⟩, rfl⟩

theorem collect_singleton {m : Machine} {path : String} (h : m.filesAtAll [path] = .ok [path]) :
    m.collect [path] = .ok [path] := by
  rw [Machine.collect, h]
  simp only [Except.map, List.mergeSort_singleton]
  rfl

theorem offenses_standard_lateConstructor :
    (lateConstructor.offenses .standard).map (·.span.startByte) = [12, 30, 64] := by
  rw [SourceFile.offenses_eq_verdicts]
  decide +kernel

/-- The rules of settings that ask for no order. -/
def orderless : Rules :=
  ⟨[], Rules.standardComment, [], by decide⟩

/-- Without an order, a constructor cannot come too late. -/
theorem offenses_orderless_lateConstructor :
    (lateConstructor.offenses orderless).map (·.span.startByte) = [12, 30] := by
  rw [SourceFile.offenses_eq_verdicts]
  decide +kernel

theorem plan_configuredModel {args : Arguments} (h : args.config = none) :
    (configuredModel.machine ["proj"] none).plan terseSettings args =
      .ok (args.planWith (some "/proj/.model-structure.toml") orderless) := by
  have hchoice : (configuredModel.machine ["proj"] none).Chooses args
      (some "/proj/.model-structure.toml") := by
    rw [Machine.chooses_iff, Machine.settingsFile_of_here h rfl]
    rfl
  have hvalid : Settings.validate { requiredOrder := some [] } = .ok ⟨orderless, []⟩ := by
    have hmisc : Settings.miscSet { requiredOrder := some [] } = [] := by
      simp [Settings.miscSet, sortedSet]
    simp only [Settings.validate, Settings.fullOrder, Settings.parseOrder, Settings.commentTable,
      hmisc]
    rfl
  refine (Machine.plan_eq_ok_iff hchoice).2 ⟨_, _, ?_, hvalid, rfl⟩
  exact ⟨_, "required_order = []\n", rfl, fromUTF8?_toUTF8 _, rfl⟩

/-- A run can pass over a file that is text and can be parsed, and the reports of other files can
change when a file is added. -/
theorem not_forall_reports :
    (¬ ∀ (parse : SettingsReader) (grammar : Ruby.Grammar) (d : Disk) (here : Place)
        (settings : Option String) (args : Arguments) (plan : Plan) (files : List String),
        (d.machine here settings).plan parse args = .ok plan →
        (d.machine here settings).collect plan.paths = .ok files →
        ((d.machine here settings).check parse grammar args).output =
          render plan.format (files.filterMap (d.storedReport? here grammar plan.rules))) ∧
    ¬ ∀ (parse : SettingsReader) (grammar : Ruby.Grammar) (elsewhere : String → Bool)
        (m m' : Machine) (args : Arguments) (plan plan' : Plan) (files files' : List String),
        Machine.SameElsewhere elsewhere m m' → m.plan parse args = .ok plan →
        m'.plan parse args = .ok plan' → m.collect plan.paths = .ok files →
        m'.collect plan'.paths = .ok files' →
        (files'.filterMap (m'.reportOf? grammar plan'.rules)).filter (elsewhere ·.path) =
          (files.filterMap (m.reportOf? grammar plan.rules)).filter (elsewhere ·.path) := by
  constructor
  · intro h
    let args : Arguments := { paths := [dots (2045 + 1)] }
    have hplan : (emptyModel.machine ["proj"] none).plan terseSettings args =
        .ok (args.planWith none .standard) := rfl
    have hcollect : (emptyModel.machine ["proj"] none).collect
        (args.planWith none .standard).paths = .ok [Path.join (dots (2045 + 1)) "abc.rb"] :=
      collect_emptyModel (by decide)
    have hread : [Path.join (dots (2045 + 1)) "abc.rb"].filterMap
        ((emptyModel.machine ["proj"] none).reportOf? (fun _ => .ok default) .standard) = [] :=
      List.filterMap_cons_none (reportOf?_emptyModel _ _)
    have hstored : [Path.join (dots (2045 + 1)) "abc.rb"].filterMap
        (emptyModel.storedReport? ["proj"] (fun _ => .ok default) .standard) =
          [⟨Path.join (dots (2045 + 1)) "abc.rb", []⟩] :=
      List.filterMap_cons_some storedReport?_emptyModel
    have houtput := h terseSettings (fun _ => .ok default) _ _ _ _ _ _ hplan hcollect
    rw [Machine.check_of_collect hplan hcollect, (Machine.reports_ofResults _ _ _ _).output]
      at houtput
    exact renderText_ne _ ((congrArg renderText hread).symm.trans
      (houtput.trans (congrArg renderText hstored)))
  · intro h
    let args : Arguments := { paths := ["a.rb"] }
    have hplan : (soleModel.machine ["proj"] none).plan terseSettings args =
        .ok (args.planWith none .standard) := rfl
    have hplan' : (configuredModel.machine ["proj"] none).plan terseSettings args =
        .ok (args.planWith (some "/proj/.model-structure.toml") orderless) :=
      plan_configuredModel rfl
    have hcollect : (soleModel.machine ["proj"] none).collect ["a.rb"] = .ok ["a.rb"] :=
      collect_singleton rfl
    have hcollect' : (configuredModel.machine ["proj"] none).collect ["a.rb"] = .ok ["a.rb"] :=
      collect_singleton rfl
    have hreports := h terseSettings (SourceFile.grammar [lateConstructor]) _ _ _ _ _ _ _ _
      (written_configuredModel.sameElsewhere ["proj"] none) hplan hplan' hcollect hcollect'
    have hkeep : ["a.rb"].filter (Disk.leadsElsewhere ["proj"] ["proj", projectFileName]) =
        ["a.rb"] := by decide
    rw [Machine.filter_filterMap_reportOf?, Machine.filter_filterMap_reportOf?, hkeep,
      List.filterMap_cons_some (reportOf?_lateConstructor _ rfl),
      List.filterMap_cons_some (reportOf?_lateConstructor _ rfl)] at hreports
    have hoffenses : lateConstructor.offenses orderless = lateConstructor.offenses .standard :=
      congrArg FileReport.offenses (List.head_eq_of_cons_eq hreports)
    have hbytes := offenses_orderless_lateConstructor
    rw [hoffenses, offenses_standard_lateConstructor] at hbytes
    exact absurd hbytes (by decide)

end ModelLayout

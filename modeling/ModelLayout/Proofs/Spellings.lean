import Mathlib.Data.List.Dedup
import Mathlib.Data.List.Perm.Subperm
import ModelLayout.Proofs.Outcome

/-!
# One file under several paths

Paths are compared as they are spelled, component by component, and a file can be spelled in more than
one way: in the directory `/m`, `a.rb`, `./a.rb`, `../m/a.rb` and `/m/a.rb` are four paths of one file.
Here it is proved how often a file can be collected where there are no links.

What a walk comes by has the approach of the directory that was given, and with one approach there is
one path to a file.  So a file is collected once for each approach at the most.

## Main results

* `Machine.approach_of_lists` — what is listed for a path has its approach.
* `Machine.count_collect_le` — a file is collected once for each approach at the most.
* `Machine.collect_once` — paths with one approach collect, report and count every file once.
-/

namespace ModelLayout

/-- Records can be left out file by file. -/
theorem filter_records (keep : String → Bool) (reports : List FileReport) :
    (records reports).filter (keep ·.path) = records (reports.filter (keep ·.path)) := by
  induction reports with
  | nil => rfl
  | cons r reports ih =>
    have hhere : (r.offenses.map (Offense.record r.path)).filter (keep ·.path) =
        if keep r.path = true then r.offenses.map (Offense.record r.path) else [] := by
      split
      · next hkeep => exact List.filter_eq_self.2 (List.forall_mem_map.2 fun _ _ => hkeep)
      · next hkeep => exact List.filter_eq_nil_iff.2 (List.forall_mem_map.2 fun _ _ => hkeep)
    have hrecords : ∀ rs, records (r :: rs) =
        r.offenses.map (Offense.record r.path) ++ records rs := fun _ => List.flatMap_cons
    rw [hrecords, List.filter_append, hhere, ih, List.filter_cons]
    split
    · rw [hrecords]
    · rfl

namespace Machine

variable {m : Machine} {tree : Place → Option EntryKind} {here : Place} {paths files : List String}

/-- What is listed for a path is a file, and has the approach of the path. -/
theorem approach_of_lists (hshows : m.Shows tree here) {path p : String} (h : m.Lists path p) :
    tree (Path.target here p) = some .file ∧ Path.approach p = Path.approach path := by
  rcases h with ⟨hfile, rfl⟩ | ⟨hdir, hp⟩
  · exact ⟨hshows.kind (isFile_iff.1 hfile), rfl⟩
  · obtain ⟨-, names, hnames, rfl, htree, -⟩ := finds_of_mem_rubyFilesBelow hshows hdir hp
    have hne := hshows.ne_empty (isDirectory_iff.1 hdir)
    rw [Path.target_below hne hnames, Path.approach_below hne hnames]
    exact ⟨htree, rfl⟩

/-- One approach and one place make one path among those that are collected. -/
theorem eq_of_mem_collect (h : m.collect paths = .ok files) {p q : String} (hp : p ∈ files)
    (hq : q ∈ files) (hplace : Path.target here p = Path.target here q)
    (happroach : Path.approach p = Path.approach q) : p = q :=
  List.inj_on_of_nodup_map (nodup_map_components (mem_collect h).1) hp hq
    (Path.same_iff.1 (Path.same_of_target_eq happroach hplace))

section Collected

variable (hshows : m.Shows tree here) (h : m.collect paths = .ok files)
include hshows h

/-- What is collected is a file, and has the approach of one of the paths. -/
theorem exists_approach_of_mem_collect {p : String} (hp : p ∈ files) :
    tree (Path.target here p) = some .file ∧
      ∃ path ∈ paths, Path.approach path = Path.approach p := by
  obtain ⟨path, hpath, hlists⟩ := lists_of_mem_collect h hp
  obtain ⟨hfile, happroach⟩ := approach_of_lists hshows hlists
  exact ⟨hfile, path, hpath, happroach.symm⟩

/-- A file is collected at most once for each approach that the paths have. -/
theorem count_collect_le (place : Place) :
    files.countP (Path.target here · == place) ≤ (paths.map Path.approach).dedup.length := by
  have hnodup : files.Nodup := (mem_collect h).1.imp Path.Lt.ne
  have happroaches :
      ((files.filter (Path.target here · == place)).map Path.approach).Nodup := by
    refine List.Nodup.map_on (fun p hp q hq happroach => ?_) (hnodup.filter _)
    obtain ⟨hp, hpplace⟩ := List.mem_filter.1 hp
    obtain ⟨hq, hqplace⟩ := List.mem_filter.1 hq
    exact eq_of_mem_collect h hp hq ((beq_iff_eq.1 hpplace).trans (beq_iff_eq.1 hqplace).symm)
      happroach
  rw [List.countP_eq_length_filter, ← List.length_map Path.approach]
  refine (happroaches.subperm fun cs hcs => ?_).length_le
  obtain ⟨p, hp, rfl⟩ := List.mem_map.1 hcs
  rw [List.mem_dedup, List.mem_map]
  exact (exists_approach_of_mem_collect hshows h (List.mem_filter.1 hp).1).2

section OneApproach

variable (hone : ∀ path ∈ paths, ∀ path' ∈ paths, Path.approach path = Path.approach path')
include hone

theorem eq_of_target_eq {p q : String} (hp : p ∈ files) (hq : q ∈ files)
    (hplace : Path.target here p = Path.target here q) : p = q := by
  obtain ⟨-, path, hpath, hpa⟩ := exists_approach_of_mem_collect hshows h hp
  obtain ⟨-, path', hpath', hqa⟩ := exists_approach_of_mem_collect hshows h hq
  refine eq_of_mem_collect h hp hq hplace ?_
  rw [← hpa, ← hqa, hone path hpath path' hpath']

theorem filter_target_eq {p : String} (hp : p ∈ files) :
    files.filter (Path.target here · == Path.target here p) = [p] := by
  have hnodup : files.Nodup := (mem_collect h).1.imp Path.Lt.ne
  have hfilter : files.filter (Path.target here · == Path.target here p) =
      files.filter (· == p) := by
    refine List.filter_congr fun q hq => ?_
    rw [Bool.eq_iff_iff, beq_iff_eq, beq_iff_eq]
    exact ⟨eq_of_target_eq hshows h hone hq hp, fun hqp => by rw [hqp]⟩
  rw [hfilter, List.filter_beq, List.count_eq_one_of_mem hnodup hp, List.replicate_one]

/-- A file has the report of the one path to it. -/
theorem filter_reports_eq (grammar : Ruby.Grammar) (rules : Rules) {p : String} (hp : p ∈ files) :
    (reportsOf (m.checkFiles grammar rules files)).filter
        (Path.target here ·.path == Path.target here p) =
      (m.reportOf? grammar rules p).toList := by
  rw [reportsOf_checkFiles,
    filter_filterMap_reportOf? (Path.target here · == Path.target here p),
    filter_target_eq hshows h hone hp]
  cases hreport : m.reportOf? grammar rules p with
  | none => exact List.filterMap_cons_none hreport
  | some r => exact List.filterMap_cons_some hreport

end OneApproach

end Collected

/-- **How often a file is collected.**  The collected paths are in order, each in one spelling, and
each leads to a file.  Two of them that lead to one file have different approaches, so a file is
collected at most once for each approach that the paths have.  If the paths all have one approach,
then no file is collected twice, a file has the one report that belongs to its path, and its offenses
are recorded once. -/
theorem collect_once (grammar : Ruby.Grammar) (rules : Rules) (hshows : m.Shows tree here)
    (h : m.collect paths = .ok files) :
    files.Pairwise Path.Lt ∧
      (∀ p ∈ files, tree (Path.target here p) = some .file) ∧
      (∀ p ∈ files, ∀ q ∈ files, Path.target here p = Path.target here q →
        Path.approach p = Path.approach q → p = q) ∧
      (∀ place, files.countP (Path.target here · == place) ≤
        (paths.map Path.approach).dedup.length) ∧
      ((∀ path ∈ paths, ∀ path' ∈ paths, Path.approach path = Path.approach path') →
        (files.map (Path.target here)).Nodup ∧
        ∀ p ∈ files,
          let there := fun q => Path.target here q == Path.target here p
          let reports := reportsOf (m.checkFiles grammar rules files)
          reports.filter (there ·.path) = (m.reportOf? grammar rules p).toList ∧
            (records reports).filter (there ·.path) =
              records (m.reportOf? grammar rules p).toList) := by
  have horder := (mem_collect h).1
  refine ⟨horder, fun p hp => (exists_approach_of_mem_collect hshows h hp).1,
    fun p hp q hq => eq_of_mem_collect h hp hq, count_collect_le hshows h,
    fun hone => ⟨?_, fun p hp => ?_⟩⟩
  · exact List.Nodup.map_on (fun p hp q hq => eq_of_target_eq hshows h hone hp hq)
      (horder.imp Path.Lt.ne)
  · intro there reports
    have hreports : reports.filter (there ·.path) = (m.reportOf? grammar rules p).toList :=
      filter_reports_eq hshows h hone grammar rules hp
    refine ⟨hreports, ?_⟩
    rw [filter_records there, hreports]

end Machine

/-- A file that is named, and found in the directory that it is in, is collected once, and its three
offenses are recorded once. -/
theorem collect_once_soleModel :
    let m := soleModel.machine ["proj"] none
    let paths := ["/proj", "//proj/a.rb", "/./proj/"]
    m.Shows soleModel.kindAt? ["proj"] ∧ m.collect paths = .ok ["/proj/a.rb"] ∧
      (∀ path ∈ paths, ∀ path' ∈ paths, Path.approach path = Path.approach path') ∧
      ((records (reportsOf (m.checkFiles (SourceFile.grammar [lateConstructor]) .standard
          ["/proj/a.rb"]))).filter (Path.target ["proj"] ·.path == ["proj", "a.rb"])).length = 3 := by
  intro m paths
  have hshows : m.Shows soleModel.kindAt? ["proj"] := soleModel.shows _ _
  have hcollect : m.collect paths = .ok ["/proj/a.rb"] :=
    Machine.collect_eq_ok rfl (spelledOnce_eq (by decide) (by decide) (by decide))
  have hone : ∀ path ∈ paths, ∀ path' ∈ paths, Path.approach path = Path.approach path' := by
    decide
  have hreport : m.reportOf? (SourceFile.grammar [lateConstructor]) .standard "/proj/a.rb" =
      some ⟨"/proj/a.rb", lateConstructor.offenses .standard⟩ := reportOf?_lateConstructor _ rfl
  obtain ⟨-, -, -, -, honce⟩ :=
    Machine.collect_once (SourceFile.grammar [lateConstructor]) .standard hshows hcollect
  obtain ⟨-, hrecords⟩ := (honce hone).2 "/proj/a.rb" List.mem_cons_self
  refine ⟨hshows, hcollect, hone, ?_⟩
  have hplace : Path.target ["proj"] "/proj/a.rb" = ["proj", "a.rb"] := rfl
  have hlength := congrArg List.length offenses_standard_lateConstructor
  rw [List.length_map] at hlength
  rw [← hplace]
  refine (congrArg List.length hrecords).trans ?_
  rw [hreport]
  simp only [Option.toList_some, records, List.flatMap_cons, List.flatMap_nil, List.append_nil,
    List.length_map]
  exact hlength

/-- Paths with several approaches can collect one file several times. -/
theorem not_forall_nodup_target : ¬ ∀ (m : Machine) (tree : Place → Option EntryKind) (here : Place)
    (paths files : List String), m.Shows tree here → m.collect paths = .ok files →
    (files.map (Path.target here)).Nodup := by
  intro h
  have hcollect : (soleModel.machine ["proj"] none).collect [".", "a.rb", "/proj"] =
      .ok ["/proj/a.rb", "./a.rb", "a.rb"] :=
    Machine.collect_eq_ok rfl (spelledOnce_eq (by decide) (by decide) (by decide))
  exact absurd (h _ _ _ _ _ (soleModel.shows ["proj"] none) hcollect) (by decide)

end ModelLayout

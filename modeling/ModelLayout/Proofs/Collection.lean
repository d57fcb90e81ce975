import ModelLayout.Proofs.Disk
import ModelLayout.Proofs.Validation

/-!
# The files that are collected

A path that is a file stands for itself, and a directory for the Ruby files that a walk through it
comes by.  Here it is proved that the files that are collected are those that the paths stand for, no
more and no less, each path once and in order.  So nothing depends on the order of the paths, on
repetitions, or on paths that stand for files which are there already.

That a walk comes by every file below its directory is asked for, and only of the directories among
the paths.

## Main definitions

* `Machine.Lists` — the files that are listed for a path.
* `Machine.Finds` — the Ruby files below a directory.
* `Machine.Inside` — a directory or a Ruby file below a directory, spelled as a walk would.

## Main results

* `Machine.mem_filesAtAll`, `Machine.filesAtAll_eq_error_iff` — what is listed, and when this fails.
* `Machine.mem_rubyFilesBelow_iff` — what is listed for a directory is what is below it.
* `Machine.rubyFilesBelow_of_inside` — what is inside a directory adds nothing to it.
* `Machine.collect_exact` — what is collected.
-/

namespace ModelLayout

/-! ### Lists of paths, up to spelling -/

/-- The components of paths in order are in order, and no list of components occurs twice. -/
theorem nodup_map_components {ps : List String} (h : ps.Pairwise Path.Lt) :
    (ps.map Path.components).Nodup := by
  rw [List.Nodup, List.pairwise_map]
  exact h.imp fun hpq heq => hpq.2 (Path.same_iff.2 heq)

/-- Paths in order are the same up to spelling if the same paths are among them. -/
theorem map_components_eq_of_pairwise_lt {ps qs : List String} (hps : ps.Pairwise Path.Lt)
    (hqs : qs.Pairwise Path.Lt)
    (h : ∀ p, (∃ q ∈ ps, Path.same q p = true) ↔ ∃ q ∈ qs, Path.same q p = true) :
    ps.map Path.components = qs.map Path.components := by
  have hmem : ∀ cs, cs ∈ ps.map Path.components ↔ cs ∈ qs.map Path.components := by
    intro cs
    constructor
    · intro hcs
      obtain ⟨p, hp, rfl⟩ := List.mem_map.1 hcs
      obtain ⟨q, hq, hsame⟩ := (h p).1 ⟨p, hp, Path.same_iff.2 rfl⟩
      exact List.mem_map.2 ⟨q, hq, Path.same_iff.1 hsame⟩
    · intro hcs
      obtain ⟨q, hq, rfl⟩ := List.mem_map.1 hcs
      obtain ⟨p, hp, hsame⟩ := (h q).2 ⟨q, hq, Path.same_iff.2 rfl⟩
      exact List.mem_map.2 ⟨p, hp, Path.same_iff.1 hsame⟩
  have hperm := (List.perm_ext_iff_of_nodup (nodup_map_components hps)
    (nodup_map_components hqs)).2 hmem
  have horder : ∀ {rs : List String}, rs.Pairwise Path.Lt →
      (rs.map Path.components).Pairwise fun as bs => Path.componentsLe as bs = true :=
    fun hrs => List.pairwise_map.2 (hrs.imp fun hpq => hpq.1)
  exact hperm.eq_of_pairwise (fun _ _ _ _ => Path.componentsLe_antisymm) (horder hps) (horder hqs)

/-- A path is kept in some spelling exactly if it is listed in some spelling. -/
theorem exists_same_spelledOnce {files : List String} {p : String} :
    (∃ q ∈ spelledOnce files, Path.same q p = true) ↔ ∃ q ∈ files, Path.same q p = true := by
  constructor
  · rintro ⟨q, hq, hsame⟩
    exact ⟨q, mem_of_mem_spelledOnce hq, hsame⟩
  · rintro ⟨q, hq, hsame⟩
    -- the spelling that is listed first is kept
    cases hfirst : files.find? (Path.same p) with
    | none =>
      exact absurd (Path.same_symm hsame) (List.find?_eq_none.1 hfirst q hq)
    | some r =>
      have hrp := Path.same_symm (List.find?_some hfirst)
      refine ⟨r, mem_spelledOnce.2 ?_, hrp⟩
      rw [Path.same_congr hrp, hfirst]

namespace Machine

variable {m : Machine} {tree : Place → Option EntryKind} {here : Place}

/-! ### What is listed -/

/-- For the path `path` the file `p` is listed: it is this file, or a Ruby file that a walk comes
by. -/
def Lists (m : Machine) (path p : String) : Prop :=
  (m.isFile path = true ∧ p = path) ∨ (m.isDirectory path = true ∧ p ∈ m.rubyFilesBelow path)

theorem mem_filesAt {path : String} {files : List String} (h : m.filesAt path = .ok files)
    (p : String) : p ∈ files ↔ m.Lists path p := by
  unfold filesAt at h
  rw [Lists]
  split at h
  · next hfile =>
    have hdirectory : m.isDirectory path = false := by
      rw [← Bool.not_eq_true, isDirectory_iff, isFile_iff.1 hfile]
      simp
    cases h
    simp [hfile, hdirectory]
  · next hfile =>
    split at h
    · next hdirectory =>
      cases h
      simp [hfile, hdirectory]
    · cases h

theorem filesAt_eq_error_iff {path : String} :
    (∃ e, m.filesAt path = .error e) ↔ ¬ m.isFile path = true ∧ ¬ m.isDirectory path = true := by
  unfold filesAt
  split
  · next hfile => simp [hfile]
  · next hfile => split <;> simp_all

/-- Listing fails exactly if a path is neither a file nor a directory. -/
theorem filesAtAll_eq_error_iff {paths : List String} :
    (∃ e, m.filesAtAll paths = .error e) ↔
      ∃ path ∈ paths, ¬ m.isFile path = true ∧ ¬ m.isDirectory path = true := by
  induction paths with
  | nil => simp [filesAtAll]
  | cons path paths ih =>
    rw [List.exists_mem_cons_iff, ← ih, ← filesAt_eq_error_iff, filesAtAll]
    cases m.filesAt path with
    | error e => simp
    | ok here =>
      cases m.filesAtAll paths with
      | error e => simp [Except.map]
      | ok rest => simp [Except.map]

/-- Listed are the files that are listed for some path. -/
theorem mem_filesAtAll {paths files : List String} (h : m.filesAtAll paths = .ok files)
    (p : String) : p ∈ files ↔ ∃ path ∈ paths, m.Lists path p := by
  induction paths generalizing files with
  | nil =>
    cases h
    simp
  | cons path paths ih =>
    rw [filesAtAll] at h
    split at h
    · cases h
    · next here hhere =>
      obtain ⟨rest, hrest, rfl⟩ := exists_of_map_eq_ok h
      rw [List.mem_append, List.exists_mem_cons_iff, mem_filesAt hhere, ih hrest]

theorem collect_eq_error_iff {paths : List String} :
    (∃ e, m.collect paths = .error e) ↔
      ∃ path ∈ paths, ¬ m.isFile path = true ∧ ¬ m.isDirectory path = true := by
  rw [← filesAtAll_eq_error_iff, collect]
  cases m.filesAtAll paths with
  | error e => simp [Except.map]
  | ok files => simp [Except.map]

theorem lists_of_mem_collect {paths files : List String} (h : m.collect paths = .ok files)
    {p : String} (hp : p ∈ files) : ∃ path ∈ paths, m.Lists path p := by
  obtain ⟨all, hall, rfl⟩ := exists_of_map_eq_ok h
  exact (mem_filesAtAll hall p).1 (mem_of_mem_spelledOnce hp)

/-- What is collected comes in order, and some spelling of a path is there exactly if some spelling of
it is listed. -/
theorem mem_collect {paths files : List String} (h : m.collect paths = .ok files) :
    files.Pairwise Path.Lt ∧ ∀ p, (∃ q ∈ files, Path.same q p = true) ↔
      ∃ q, Path.same q p = true ∧ ∃ path ∈ paths, m.Lists path q := by
  obtain ⟨all, hall, rfl⟩ := exists_of_map_eq_ok h
  refine ⟨pairwise_spelledOnce all, fun p => ?_⟩
  refine exists_same_spelledOnce.trans (exists_congr fun q => ?_)
  rw [mem_filesAtAll hall, and_comm]

theorem collect_eq_ok {paths all files : List String} (h : m.filesAtAll paths = .ok all)
    (hfiles : spelledOnce all = files) : m.collect paths = .ok files := by
  rw [collect, h]
  exact congrArg Except.ok hfiles

/-! ### What is below a directory -/

/-- Below the directory `dir` there is the Ruby file `p`, called by the path of the directory and then
the names that lead there. -/
def Finds (m : Machine) (tree : Place → Option EntryKind) (here : Place) (dir p : String) : Prop :=
  m.isDirectory dir = true ∧ ∃ names : Place, (∀ name ∈ names, IsName name) ∧
    p = Path.below dir names ∧ tree (Path.target here dir ++ names) = some .file ∧
    ∃ name ∈ names.getLast?, Path.HasRubyExtension name

theorem mem_rubyFilesBelow {dir p : String} :
    p ∈ m.rubyFilesBelow dir ↔ some ⟨p, .file⟩ ∈ m.walk dir ∧ Path.isRuby p = true := by
  rw [rubyFilesBelow, List.mem_filter, filesBelow, List.mem_filterMap]
  refine and_congr_left fun _ => ⟨?_, fun h => ⟨_, h, rfl⟩⟩
  rintro ⟨e, he, hbind⟩
  obtain ⟨⟨path, kind⟩, rfl, hfile⟩ := Option.bind_eq_some_iff.1 hbind
  obtain ⟨rfl, hpath⟩ := Option.ite_none_right_eq_some.1 hfile
  cases hpath
  exact he

/-- What is listed for a directory is below it. -/
theorem finds_of_mem_rubyFilesBelow (hshows : m.Shows tree here) {dir p : String}
    (hdir : m.isDirectory dir = true) (hp : p ∈ m.rubyFilesBelow dir) : m.Finds tree here dir p := by
  have hkind := isDirectory_iff.1 hdir
  obtain ⟨hwalk, hruby⟩ := mem_rubyFilesBelow.1 hp
  obtain ⟨names, hnames, rfl, htree⟩ := hshows.walked hkind hwalk
  have hne : names ≠ [] := by
    rintro rfl
    rw [List.append_nil, hshows.kind hkind] at htree
    cases htree
  exact ⟨hdir, names, hnames, rfl, htree,
    (Path.isRuby_below_iff (hshows.ne_empty hkind) hne hnames).1 hruby⟩

/-- And if the walk comes by all files, all that is below it is listed. -/
theorem mem_rubyFilesBelow_iff (hshows : m.Shows tree here) {dir p : String}
    (hdir : m.isDirectory dir = true) (hwalk : m.WalksAll tree here dir) :
    p ∈ m.rubyFilesBelow dir ↔ m.Finds tree here dir p := by
  refine ⟨finds_of_mem_rubyFilesBelow hshows hdir, ?_⟩
  rintro ⟨-, names, hnames, rfl, htree, hruby⟩
  have hne : names ≠ [] := by
    rintro rfl
    obtain ⟨name, hname, -⟩ := hruby
    cases hname
  have hdir' := hshows.ne_empty (isDirectory_iff.1 hdir)
  exact mem_rubyFilesBelow.2
    ⟨hwalk names hnames htree, (Path.isRuby_below_iff hdir' hne hnames).2 hruby⟩

/-! ### Paths that add nothing -/

/-- The path `path` is a directory or a Ruby file below the directory `dir`, spelled with `dir` in
front. -/
def Inside (m : Machine) (dir path : String) : Prop :=
  ∃ names : Place, (∀ name ∈ names, IsName name) ∧ path = Path.below dir names ∧
    m.isDirectory dir = true ∧
    (m.isDirectory path = true ∨
      m.isFile path = true ∧ ∃ name ∈ names.getLast?, Path.HasRubyExtension name)

/-- For what is inside a directory nothing is listed that is not listed for the directory. -/
theorem rubyFilesBelow_of_inside (hshows : m.Shows tree here) {dir path p : String}
    (hinside : m.Inside dir path) (hwalk : m.WalksAll tree here dir) (hp : m.Lists path p) :
    p ∈ m.rubyFilesBelow dir := by
  obtain ⟨names, hnames, rfl, hdir, hkind⟩ := hinside
  have hne := hshows.ne_empty (isDirectory_iff.1 hdir)
  rw [mem_rubyFilesBelow_iff hshows hdir hwalk]
  rcases hp with ⟨hfile, rfl⟩ | ⟨hdirectory, hp⟩
  · have hruby : ∃ name ∈ names.getLast?, Path.HasRubyExtension name := by
      rcases hkind with hdirectory | ⟨-, hruby⟩
      · rw [isDirectory_iff, isFile_iff.1 hfile] at hdirectory
        cases hdirectory
      · exact hruby
    have htree := hshows.kind (isFile_iff.1 hfile)
    rw [Path.target_below hne hnames] at htree
    exact ⟨hdir, names, hnames, rfl, htree, hruby⟩
  · -- the walk through the inner directory comes by what the walk through the outer one does
    obtain ⟨-, names', hnames', rfl, htree, name, hname, hruby⟩ :=
      finds_of_mem_rubyFilesBelow hshows hdirectory hp
    rw [Path.target_below hne hnames, List.append_assoc] at htree
    refine ⟨hdir, names ++ names', ?_, (Path.below_append dir names names').symm, htree, name, ?_,
      hruby⟩
    · exact fun name hname => (List.mem_append.1 hname).elim (hnames name) (hnames' name)
    · rw [List.getLast?_append, hname]
      rfl

section Arguments

variable {paths paths' : List String} (hsub : ∀ path ∈ paths, path ∈ paths')
  (hmore : ∀ path ∈ paths', path ∈ paths ∨ ∃ dir ∈ paths, m.Inside dir path)
include hsub hmore

/-- More paths of which each is there already, or inside a directory that is, make no difference for
whether the collection fails. -/
theorem collect_eq_error_iff_of_inside :
    (∃ e, m.collect paths' = .error e) ↔ ∃ e, m.collect paths = .error e := by
  rw [collect_eq_error_iff, collect_eq_error_iff]
  constructor
  · rintro ⟨path, hpath, hfile, hdirectory⟩
    rcases hmore path hpath with hpath | ⟨dir, -, names, -, -, -, hinside | ⟨hinside, -⟩⟩
    · exact ⟨path, hpath, hfile, hdirectory⟩
    · exact absurd hinside hdirectory
    · exact absurd hinside hfile
  · rintro ⟨path, hpath, hmissing⟩
    exact ⟨path, hsub path hpath, hmissing⟩

/-- Nor do they make a difference for what is listed. -/
theorem lists_iff_of_inside (hshows : m.Shows tree here)
    (hwalk : ∀ dir ∈ paths, m.isDirectory dir = true → m.WalksAll tree here dir) (p : String) :
    (∃ path ∈ paths', m.Lists path p) ↔ ∃ path ∈ paths, m.Lists path p := by
  constructor
  · rintro ⟨path, hpath, hp⟩
    rcases hmore path hpath with hpath | ⟨dir, hdir, hinside⟩
    · exact ⟨path, hpath, hp⟩
    · have hdirectory : m.isDirectory dir = true := hinside.choose_spec.2.2.1
      have hlisted := rubyFilesBelow_of_inside hshows hinside (hwalk dir hdir hdirectory) hp
      exact ⟨dir, hdir, Or.inr ⟨hdirectory, hlisted⟩⟩
  · rintro ⟨path, hpath, hp⟩
    exact ⟨path, hsub path hpath, hp⟩

end Arguments

/-- **What is collected.**  The collection fails exactly if a path is neither a file nor a directory.
Else it gives paths in order, each in one spelling, and these are the files among the paths and the
Ruby files below the directories among the paths.  The order of the paths, repetitions, and
directories or Ruby files inside a directory that is among the paths make no difference but in
spelling. -/
theorem collect_exact (hshows : m.Shows tree here) {paths : List String}
    (hwalk : ∀ dir ∈ paths, m.isDirectory dir = true → m.WalksAll tree here dir) :
    ((∃ e, m.collect paths = .error e) ↔
        ∃ path ∈ paths, ¬ m.isFile path = true ∧ ¬ m.isDirectory path = true) ∧
      (∀ files, m.collect paths = .ok files → files.Pairwise Path.Lt ∧
        ∀ p, (∃ q ∈ files, Path.same q p = true) ↔
          ∃ q, Path.same q p = true ∧
            ((q ∈ paths ∧ m.isFile q = true) ∨ ∃ dir ∈ paths, m.Finds tree here dir q)) ∧
      ∀ paths' : List String, (∀ path ∈ paths, path ∈ paths') →
        (∀ path ∈ paths', path ∈ paths ∨ ∃ dir ∈ paths, m.Inside dir path) →
        ((∃ e, m.collect paths' = .error e) ↔ ∃ e, m.collect paths = .error e) ∧
        ∀ files files', m.collect paths = .ok files → m.collect paths' = .ok files' →
          files'.map Path.components = files.map Path.components := by
  refine ⟨collect_eq_error_iff, fun files h => ?_, fun paths' hsub hmore => ?_⟩
  · obtain ⟨horder, hmem⟩ := mem_collect h
    refine ⟨horder, fun p => (hmem p).trans (exists_congr fun q => and_congr_right fun _ => ?_)⟩
    constructor
    · rintro ⟨path, hpath, ⟨hfile, rfl⟩ | ⟨hdir, hq⟩⟩
      · exact Or.inl ⟨hpath, hfile⟩
      · exact Or.inr ⟨path, hpath, finds_of_mem_rubyFilesBelow hshows hdir hq⟩
    · rintro (⟨hpath, hfile⟩ | ⟨dir, hdir, hfinds⟩)
      · exact ⟨q, hpath, Or.inl ⟨hfile, rfl⟩⟩
      · have hlisted := (mem_rubyFilesBelow_iff hshows hfinds.1 (hwalk dir hdir hfinds.1)).2 hfinds
        exact ⟨dir, hdir, Or.inr ⟨hfinds.1, hlisted⟩⟩
  · refine ⟨collect_eq_error_iff_of_inside hsub hmore, fun files files' h h' => ?_⟩
    obtain ⟨horder, hmem⟩ := mem_collect h
    obtain ⟨horder', hmem'⟩ := mem_collect h'
    refine map_components_eq_of_pairwise_lt horder' horder fun p => ?_
    rw [hmem', hmem]
    exact exists_congr fun q => and_congr_right fun _ =>
      lists_iff_of_inside hsub hmore hshows hwalk q

end Machine

/-- A directory with two Ruby files, one of them further down, and a file of notes. -/
def notedModels : Disk where
  files := [(["proj", "m", "notes.txt"], ⟨#[]⟩), (["proj", "m", "sub", "y.rb"], ⟨#[]⟩),
    (["proj", "m", "x.rb"], ⟨#[]⟩)]
  directories := []

theorem collect_notedModels :
    (notedModels.machine ["proj"] none).collect ["m"] = .ok ["m/sub/y.rb", "m/x.rb"] :=
  Machine.collect_eq_ok rfl (spelledOnce_eq (by decide) (by decide) (by decide))

/-- The directory by its absolute path, twice, with what is inside it named before and after, gives
what the directory gives. -/
theorem collect_exact_notedModels :
    let m := notedModels.machine ["proj"] none
    let paths := ["/proj/m/x.rb", "/proj/m", "/proj/m/sub", "/proj/m"]
    let files := ["/proj/m/sub/y.rb", "/proj/m/x.rb"]
    m.Shows notedModels.kindAt? ["proj"] ∧
      m.WalksAll notedModels.kindAt? ["proj"] "/proj/m" ∧ m.collect ["/proj/m"] = .ok files ∧
      (∀ path ∈ paths, path ∈ ["/proj/m"] ∨ ∃ dir ∈ ["/proj/m"], m.Inside dir path) ∧
      ∃ files', m.collect paths = .ok files' ∧
        files'.map Path.components = files.map Path.components := by
  intro m paths files
  have hshows : m.Shows notedModels.kindAt? ["proj"] := notedModels.shows _ _
  have hlookup : notedModels.lookup ["proj"] "/proj/m" = .ok (["proj", "m"], .directory) := rfl
  have hwalk : m.WalksAll notedModels.kindAt? ["proj"] "/proj/m" :=
    Disk.walksAll none hlookup (by decide)
  have hwalks : ∀ dir ∈ ["/proj/m"], m.isDirectory dir = true →
      m.WalksAll notedModels.kindAt? ["proj"] dir := by
    simpa using fun _ => hwalk
  have hcollect : m.collect ["/proj/m"] = .ok files :=
    Machine.collect_eq_ok rfl (spelledOnce_eq (by decide) (by decide) (by decide))
  have hinside : ∀ path ∈ paths, path ∈ ["/proj/m"] ∨ ∃ dir ∈ ["/proj/m"], m.Inside dir path := by
    have hfile : m.Inside "/proj/m" "/proj/m/x.rb" :=
      ⟨["x.rb"], by decide, rfl, rfl, Or.inr ⟨rfl, "x.rb", rfl, "x", by decide, rfl⟩⟩
    have hsub : m.Inside "/proj/m" "/proj/m/sub" := ⟨["sub"], by decide, rfl, rfl, Or.inl rfl⟩
    simp [paths, hfile, hsub]
  obtain ⟨hfails, hsame⟩ :=
    (Machine.collect_exact hshows hwalks).2.2 paths (by decide) hinside
  refine ⟨hshows, hwalk, hcollect, hinside, ?_⟩
  cases hfiles : m.collect paths with
  | error e =>
    obtain ⟨e', he'⟩ := hfails.1 ⟨e, hfiles⟩
    rw [hcollect] at he'
    cases he'
  | ok files' => exact ⟨files', rfl, hsame _ _ hcollect hfiles⟩

/-- That a file inside the directory is a Ruby file cannot be left out: notes that are named are
collected, and a walk through the directory passes over them. -/
theorem collect_named_notes : ¬ ∀ (m : Machine) (tree : Place → Option EntryKind) (here : Place)
    (dir : String) (names : Place), m.Shows tree here → m.WalksAll tree here dir →
    (∀ name ∈ names, IsName name) → m.isDirectory dir = true →
    m.isFile (Path.below dir names) = true →
    ∀ files files', m.collect [dir] = .ok files →
      m.collect [dir, Path.below dir names] = .ok files' →
      files'.map Path.components = files.map Path.components := by
  intro h
  have hnotes : (notedModels.machine ["proj"] none).collect ["m", "m/notes.txt"] =
      .ok ["m/notes.txt", "m/sub/y.rb", "m/x.rb"] :=
    Machine.collect_eq_ok rfl (spelledOnce_eq (by decide) (by decide) (by decide))
  have hlookup : notedModels.lookup ["proj"] "m" = .ok (["proj", "m"], .directory) := rfl
  have hwalk : (notedModels.machine ["proj"] none).WalksAll notedModels.kindAt? ["proj"] "m" :=
    Disk.walksAll none hlookup (by decide)
  have hsame := h _ _ _ "m" ["notes.txt"] (notedModels.shows _ _) hwalk (by decide) rfl rfl _ _
    collect_notedModels hnotes
  have hlength := congrArg List.length hsame
  rw [List.length_map, List.length_map] at hlength
  exact absurd hlength (by decide)

end ModelLayout

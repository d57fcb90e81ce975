import ModelLayout.Proofs.Collection
import ModelLayout.Proofs.SettingsChoice

/-!
# What one file changes

One file is changed, added or broken.  To the program this is another machine, which answers as before
unless it is asked about a path that leads to this file.  So of the files that are collected, those
elsewhere stay the same, in the same order and spelling, and the rules stay the same if no settings
are looked for in that file.

On a disk a file is written.  Paths that could be followed before lead to the same places then, and
the files at other places have the bytes that they had.

## Main definitions

* `Machine.SameElsewhere` — two machines that differ in one file.
* `Machine.Consults`, `Machine.SettingsElsewhere` — the paths under which settings are looked for, and
  that the file is none of them.
* `Disk.Written` — two disks that differ in one file.

## Main results

* `Machine.SameElsewhere.collect` — the files that are collected elsewhere.
* `Machine.SameElsewhere.plan` — what a check needs to know.
* `Disk.Written.sameElsewhere` — writing a file makes a difference for this file only.
-/

namespace ModelLayout

namespace Machine

variable {m m' : Machine} {elsewhere : String → Bool}

theorem readText_eq_ok_iff {path text : String} : m.readText path = .ok text ↔
    ∃ bytes, m.read path = .ok bytes ∧ String.fromUTF8? bytes = some text := by
  unfold readText
  cases m.read path with
  | error cause => simp
  | ok bytes => cases hdecode : String.fromUTF8? bytes <;> simp [hdecode]

/-- Between the first machine and the second, one file was changed, added or broken.  The paths that
lead elsewhere are told by `elsewhere`. -/
structure SameElsewhere (elsewhere : String → Bool) (m m' : Machine) : Prop where
  /-- Two spellings of a path lead to the same file. -/
  spelling : ∀ p q, Path.same p q = true → elsewhere p = elsewhere q
  /-- What is elsewhere stays there. -/
  kind : ∀ {p kind}, elsewhere p = true → m.kind? p = some kind → m'.kind? p = some kind
  read : ∀ {p bytes}, elsewhere p = true → m.read p = .ok bytes → m'.read p = .ok bytes
  /-- A file that is listed and cannot be read does not become readable. -/
  unreadable : ∀ {p path cause}, elsewhere p = true → m.Lists path p → m.read p = .error cause →
    ∃ cause', m'.read p = .error cause'
  walk : ∀ {dir}, m.isDirectory dir = true →
    (m'.filesBelow dir).filter elsewhere = (m.filesBelow dir).filter elsewhere
  /-- The file does not take the place of a directory. -/
  no_directory : ∀ {p}, elsewhere p = false → m.isDirectory p = false
  /-- It may refuse to be read, but it is not gone. -/
  file : ∀ {p}, elsewhere p = false → m.isFile p = true → m'.isFile p = true
  workingDirectory : m'.workingDirectory = m.workingDirectory
  settingsDirectory : m'.settingsDirectory = m.settingsDirectory

/-- The paths under which settings are looked for. -/
def Consults (m : Machine) (args : Arguments) (path : String) : Prop :=
  match args.config with
  | some named => path = named
  | none =>
    (∃ here dir, m.workingDirectory = .ok here ∧ dir <+: here ∧ path = projectFileIn dir) ∨
      ∃ user, m.settingsDirectory = some user ∧ path = Path.below user userFileNames

/-- Settings are looked for elsewhere only, and no file with settings has come into sight. -/
def SettingsElsewhere (elsewhere : String → Bool) (m m' : Machine) (args : Arguments) : Prop :=
  ∀ path, m.Consults args path →
    elsewhere path = true ∧ (m'.isFile path = true → m.isFile path = true)

/-- A settings file that is used is one that is looked for. -/
theorem consults_of_chooses {args : Arguments} {path : String} (h : m.Chooses args (some path)) :
    m.Consults args path := by
  rw [Consults]
  cases h with
  | named h => rw [h]
  | project h hhere hdir =>
    rw [h]
    exact Or.inl ⟨_, _, hhere, hdir.above, rfl⟩
  | user h _ _ huser _ =>
    rw [h]
    exact Or.inr ⟨_, huser, rfl⟩

namespace SameElsewhere

variable (h : SameElsewhere elsewhere m m')
include h

/-! ### The files that are collected -/

theorem filter_rubyFilesBelow {dir : String} (hdir : m.isDirectory dir = true) :
    (m'.rubyFilesBelow dir).filter elsewhere = (m.rubyFilesBelow dir).filter elsewhere := by
  have hswap : ∀ files : List String,
      (files.filter Path.isRuby).filter elsewhere = (files.filter elsewhere).filter Path.isRuby := by
    intro files
    simp only [List.filter_filter, Bool.and_comm]
  rw [rubyFilesBelow, rubyFilesBelow, hswap, hswap, h.walk hdir]

theorem isFile_of_isFile {path : String} (hfile : m.isFile path = true) : m'.isFile path = true := by
  cases helse : elsewhere path with
  | false => exact h.file helse hfile
  | true => exact isFile_iff.2 (h.kind helse (isFile_iff.1 hfile))

theorem isDirectory_of_isDirectory {path : String} (hdir : m.isDirectory path = true) :
    m'.isDirectory path = true := by
  cases helse : elsewhere path with
  | false =>
    rw [h.no_directory helse] at hdir
    cases hdir
  | true => exact isDirectory_iff.2 (h.kind helse (isDirectory_iff.1 hdir))

/-- What one path stands for. -/
theorem filesAt {path : String} {files : List String} (hfiles : m.filesAt path = .ok files) :
    ∃ files', m'.filesAt path = .ok files' ∧ files'.filter elsewhere = files.filter elsewhere := by
  unfold Machine.filesAt at hfiles ⊢
  split at hfiles
  · next hfile =>
    rw [if_pos (h.isFile_of_isFile hfile)]
    exact ⟨files, hfiles, rfl⟩
  · split at hfiles
    · next hdir =>
      have hdir' := h.isDirectory_of_isDirectory hdir
      have hfile' : ¬ m'.isFile path = true := by
        rw [isFile_iff, isDirectory_iff.1 hdir']
        simp
      rw [if_neg hfile', if_pos hdir']
      cases hfiles
      exact ⟨_, rfl, h.filter_rubyFilesBelow hdir⟩
    · cases hfiles

theorem filesAtAll {paths : List String} : ∀ {files : List String},
    m.filesAtAll paths = .ok files → ∃ files', m'.filesAtAll paths = .ok files' ∧
      files'.filter elsewhere = files.filter elsewhere := by
  induction paths with
  | nil => exact fun hfiles => ⟨_, hfiles, rfl⟩
  | cons path paths ih =>
    intro files hfiles
    rw [Machine.filesAtAll] at hfiles
    split at hfiles
    · cases hfiles
    · next here hhere =>
      obtain ⟨rest, hrest, rfl⟩ := exists_of_map_eq_ok hfiles
      obtain ⟨here', hhere', hfilter⟩ := h.filesAt hhere
      obtain ⟨rest', hrest', hfilter'⟩ := ih hrest
      refine ⟨here' ++ rest', ?_, ?_⟩
      · rw [Machine.filesAtAll, hhere', hrest']
        rfl
      · rw [List.filter_append, List.filter_append, hfilter, hfilter']

/-- The files that are collected elsewhere are the same, in the same order and spelling. -/
theorem collect {paths files : List String} (hfiles : m.collect paths = .ok files) :
    ∃ files', m'.collect paths = .ok files' ∧
      files'.filter elsewhere = files.filter elsewhere := by
  obtain ⟨all, hall, rfl⟩ := exists_of_map_eq_ok hfiles
  obtain ⟨all', hall', hfilter⟩ := h.filesAtAll hall
  refine ⟨spelledOnce all', collect_eq_ok hall' rfl, ?_⟩
  show (spelledOnce all').filter elsewhere = (spelledOnce all).filter elsewhere
  rw [filter_spelledOnce h.spelling, filter_spelledOnce h.spelling, hfilter]

/-! ### The rules -/

section Settings

variable {args : Arguments} (hsettings : SettingsElsewhere elsewhere m m' args)
include hsettings

theorem isFile_of_consults {path : String} (hpath : m.Consults args path) :
    m'.isFile path = m.isFile path :=
  Bool.eq_iff_iff.2 ⟨(hsettings path hpath).2, h.isFile_of_isFile⟩

/-- The choice of a settings file is the same. -/
theorem settingsFile : m'.settingsFile args = m.settingsFile args := by
  have hconsults : ∀ {path}, m.Consults args path → m'.isFile path = m.isFile path :=
    h.isFile_of_consults hsettings
  cases hconfig : args.config with
  | some path => rw [settingsFile_of_config hconfig, settingsFile_of_config hconfig]
  | none =>
    simp only [Consults, hconfig] at hconsults
    cases hhere : m.workingDirectory with
    | error cause =>
      rw [settingsFile_of_nowhere hconfig hhere,
        settingsFile_of_nowhere hconfig (h.workingDirectory.trans hhere)]
    | ok here =>
      have hproject : m'.projectFile? here = m.projectFile? here := by
        rw [projectFile?, projectFile?, ← List.head?_filter, ← List.head?_filter]
        refine congrArg List.head? (List.filter_congr fun path hpath => ?_)
        obtain ⟨dir, hdir, rfl⟩ := List.mem_map.1 hpath
        exact hconsults (Or.inl ⟨here, dir, hhere, mem_ancestors.1 hdir, rfl⟩)
      have huser : m'.userFile? = m.userFile? := by
        rw [userFile?, userFile?, h.settingsDirectory]
        cases hdirectory : m.settingsDirectory with
        | none => rfl
        | some user =>
          rw [Option.map_some, Option.filter_some, Option.filter_some,
            hconsults (Or.inr ⟨user, hdirectory, rfl⟩)]
      rw [settingsFile_of_here hconfig hhere,
        settingsFile_of_here hconfig (h.workingDirectory.trans hhere), hproject, huser]

/-- What a check needs to know is the same, if the settings could be read. -/
theorem plan {parse : SettingsReader} {p : Plan} (hplan : m.plan parse args = .ok p) :
    m'.plan parse args = .ok p := by
  unfold Machine.plan at hplan ⊢
  rw [h.settingsFile hsettings]
  cases hfile : m.settingsFile args with
  | error e =>
    rw [hfile] at hplan
    cases hplan
  | ok file =>
    rw [hfile] at hplan
    cases file with
    | none => exact hplan
    | some path =>
      have helse := (hsettings path (consults_of_chooses (chooses_iff.2 hfile))).1
      have hrules : m'.rulesIn parse path = m.rulesIn parse path := by
        cases htext : m.readText path with
        | error cause =>
          -- then there would be no rules
          simp only [rulesIn, htext] at hplan
          cases hplan
        | ok text =>
          obtain ⟨bytes, hread, hdecode⟩ := readText_eq_ok_iff.1 htext
          rw [rulesIn, rulesIn, htext, readText_eq_ok_iff.2 ⟨bytes, h.read helse hread, hdecode⟩]
      simp only [hrules]
      exact hplan

end Settings

end SameElsewhere

end Machine

/-! ### Writing on a disk -/

namespace Disk

variable {d d' : Disk} {here place q : Place} {path : String} {settings : Option String}

/-- On the second disk the file at `place` was changed, or added if there was none. -/
structure Written (place : Place) (d d' : Disk) : Prop where
  others : d'.files.filter (·.1 != place) = d.files.filter (·.1 != place)
  there : ∃ bytes, (place, bytes) ∈ d'.files
  directories : d'.directories = d.directories

/-- Whether a path spells some other place than the given one. -/
def leadsElsewhere (here place : Place) (path : String) : Bool :=
  Path.target here path != place

namespace Written

variable (h : Written place d d')
include h

theorem mem_files_iff {f : Place × ByteArray} (hf : f.1 ≠ place) : f ∈ d'.files ↔ f ∈ d.files := by
  have hmem : ∀ files : List (Place × ByteArray), f ∈ files ↔ f ∈ files.filter (·.1 != place) := by
    intro files
    rw [List.mem_filter, bne_iff_ne]
    exact (and_iff_left hf).symm
  rw [hmem, h.others, ← hmem]

theorem entry?_of_file {bytes : ByteArray} (hq : q ≠ place)
    (hentry : d.entry? q = some (.file bytes)) : d'.entry? q = some (.file bytes) := by
  rw [entry?_eq_file_iff] at hentry ⊢
  exact (h.mem_files_iff hq).2 hentry

/-- A directory is still there, since nothing can be below the file that was written. -/
theorem entry?_of_directory (hentry : d.entry? q = some .directory) :
    d'.entry? q = some .directory := by
  obtain ⟨new, hnew⟩ := h.there
  rw [entry?_eq_directory_iff, isDirectoryAt_iff] at hentry ⊢
  rw [h.directories]
  obtain ⟨hfile, hdirectory⟩ := hentry
  constructor
  · intro bytes hbytes
    by_cases hq : q = place
    · -- then what makes this place a directory would be below the file that was written
      subst hq
      rcases hdirectory with hnil | ⟨dir, hdir, habove⟩ | ⟨f, hf, habove⟩
      · exact d'.sound.nonempty _ hnew hnil
      · exact d'.sound.no_directory_below _ hnew dir (h.directories ▸ hdir) habove
      · have hne : f.1 ≠ q := fun heq => hfile f.2 (heq ▸ hf)
        exact hne (d'.sound.no_file_below _ hnew f ((h.mem_files_iff hne).2 hf) habove).symm
    · exact hfile bytes ((h.mem_files_iff hq).1 hbytes)
  · rcases hdirectory with hnil | hdir | ⟨f, hf, habove⟩
    · exact Or.inl hnil
    · exact Or.inr (Or.inl hdir)
    · refine Or.inr (Or.inr ?_)
      by_cases hplace : f.1 = place
      · exact ⟨(place, new), hnew, hplace ▸ habove⟩
      · exact ⟨f, (h.mem_files_iff hplace).2 hf, habove⟩

/-- What could be followed leads to the same place. -/
theorem follow {pieces : List String} : ∀ {start : Place}, d.follow start pieces = .ok q →
    d'.follow start pieces = .ok q := by
  induction pieces with
  | nil => exact fun hfollow => hfollow
  | cons piece pieces ih =>
    intro start hfollow
    obtain ⟨hentry, hfits, hrest⟩ := follow_cons_eq_ok_iff.1 hfollow
    exact follow_cons_eq_ok_iff.2 ⟨h.entry?_of_directory hentry, hfits, ih hrest⟩

theorem locate (hlocate : d.locate here path = .ok q) : d'.locate here path = .ok q := by
  obtain ⟨htakes, hfollow⟩ := locate_eq_ok_iff.1 hlocate
  exact locate_eq_ok_iff.2 ⟨htakes, h.follow hfollow⟩

/-- What a path leads to is the same, unless it is the file that was written. -/
theorem lookup {entry : DiskEntry} (hpath : leadsElsewhere here place path = true)
    (hlookup : d.lookup here path = .ok (q, entry)) : d'.lookup here path = .ok (q, entry) := by
  obtain ⟨hlocate, hentry⟩ := lookup_eq_ok_iff.1 hlookup
  refine lookup_eq_ok_iff.2 ⟨h.locate hlocate, ?_⟩
  cases entry with
  | file bytes =>
    have hq : q ≠ place := target_of_locate hlocate ▸ bne_iff_ne.1 hpath
    exact h.entry?_of_file hq hentry
  | directory => exact h.entry?_of_directory hentry

theorem lookup_directory (hlookup : d.lookup here path = .ok (q, .directory)) :
    d'.lookup here path = .ok (q, .directory) := by
  obtain ⟨hlocate, hentry⟩ := lookup_eq_ok_iff.1 hlookup
  exact lookup_eq_ok_iff.2 ⟨h.locate hlocate, h.entry?_of_directory hentry⟩

/-- The files below a directory that are at other places stay as they are. -/
theorem filter_below (dir : Place) :
    (d'.below dir).filter (dir ++ · != place) = (d.below dir).filter (dir ++ · != place) := by
  have hbelow : ∀ e : Disk, (e.below dir).filter (dir ++ · != place) =
      ((e.files.filter (·.1 != place)).filter fun f => dir.isPrefixOf f.1 && dir != f.1).map
        fun f => f.1.drop dir.length := by
    intro e
    rw [below, List.filter_map, List.filter_filter, List.filter_filter]
    congr 1
    refine List.filter_congr fun f _ => ?_
    by_cases habove : dir <+: f.1
    · have hwhole : dir ++ f.1.drop dir.length = f.1 := List.prefix_iff_eq_append.1 habove
      rw [Function.comp_apply, hwhole, Bool.and_comm]
    · have hno : dir.isPrefixOf f.1 = false := by
        rw [← Bool.not_eq_true, List.isPrefixOf_iff_prefix]
        exact habove
      rw [hno, Bool.false_and, Bool.and_false, Bool.false_and]
  rw [hbelow, hbelow, h.others]

end Written

theorem filesBelow_machine (hlookup : d.lookup here path = .ok (q, .directory)) :
    (d.machine here settings).filesBelow path =
      ((d.below q).filter fun names => canEnter path names.dropLast).map (Path.below path) := by
  have hwalk : (d.machine here settings).walk path = (d.walk here path).map some := rfl
  rw [Machine.filesBelow, hwalk, walk, hlookup, List.map_map, List.filterMap_map,
    ← List.filterMap_eq_map]
  rfl

/-- The files that a walk comes by and that are at other places. -/
theorem filter_filesBelow (hlookup : d.lookup here path = .ok (q, .directory)) :
    ((d.machine here settings).filesBelow path).filter (leadsElsewhere here place) =
      (((d.below q).filter (q ++ · != place)).filter fun names =>
        canEnter path names.dropLast).map (Path.below path) := by
  have hlocate := (lookup_eq_ok_iff.1 hlookup).1
  have hne := (locate_eq_ok_iff.1 hlocate).1.ne_empty
  have hplace : ∀ names ∈ d.below q,
      leadsElsewhere here place (Path.below path names) = (q ++ names != place) := by
    intro names hnames
    obtain ⟨-, b, hfile⟩ := mem_below.1 hnames
    have hname : ∀ name ∈ names, IsName name := fun name hname =>
      d.sound.isName _ hfile name (List.mem_append_right _ hname)
    rw [leadsElsewhere, Path.target_below hne hname, target_of_locate hlocate]
  rw [filesBelow_machine hlookup, List.filter_map, List.filter_filter, List.filter_filter]
  congr 1
  refine List.filter_congr fun names hnames => ?_
  rw [Function.comp_apply, hplace names hnames, Bool.and_comm]

/-- A file that a walk comes by cannot be read only if the system does not take its path. -/
theorem not_takes_of_mem_walk {p : String} {cause : String}
    (hwalk : some ⟨p, .file⟩ ∈ (d.machine here settings).walk path)
    (hread : (d.machine here settings).read p = .error cause) : ¬ Takes p := by
  intro htakes
  obtain ⟨e, hmem, heq⟩ := List.mem_map.1 hwalk
  cases heq
  obtain ⟨place, hlookup, names, hbelow, -, hp⟩ := mem_walk.1 hmem
  obtain rfl : p = Path.below path names := congrArg Walked.path hp
  obtain ⟨-, bytes, hfile⟩ := mem_below.1 hbelow
  obtain ⟨hdir, hfollow⟩ := locate_eq_ok_iff.1 (lookup_eq_ok_iff.1 hlookup).1
  have hlocate : d.locate here (Path.below path names) = .ok (place ++ names) := by
    refine locate_eq_ok_iff.2 ⟨htakes, ?_⟩
    rw [Path.origin, Path.isAbsolute_below hdir.ne_empty]
    exact follow_below hdir.ne_empty hfollow hfile
  have hentry := lookup_eq_ok_iff.2 ⟨hlocate, entry?_eq_file_iff.2 hfile⟩
  cases (read_machine_eq_ok_iff.2 ⟨_, hentry⟩).symm.trans hread

/-- Writing a file makes a difference for this file only. -/
theorem Written.sameElsewhere (h : Written place d d') (here : Place) (settings : Option String) :
    Machine.SameElsewhere (leadsElsewhere here place) (d.machine here settings)
      (d'.machine here settings) where
  spelling p q hsame := by rw [leadsElsewhere, leadsElsewhere, Path.target_of_same hsame]
  kind hpath hkind := by
    obtain ⟨q, entry, hlookup, rfl⟩ := kind?_machine_eq_some_iff.1 hkind
    exact kind?_machine_eq_some_iff.2 ⟨q, entry, h.lookup hpath hlookup, rfl⟩
  read hpath hread := by
    obtain ⟨q, hlookup⟩ := read_machine_eq_ok_iff.1 hread
    exact read_machine_eq_ok_iff.2 ⟨q, h.lookup hpath hlookup⟩
  unreadable := by
    rintro p path cause - (⟨hfile, rfl⟩ | ⟨-, hp⟩) hread
    · -- what is found can be read
      obtain ⟨q, bytes, hlookup⟩ := isFile_machine_iff.1 hfile
      cases (read_machine_eq_ok_iff.2 ⟨q, hlookup⟩).symm.trans hread
    · have htakes := not_takes_of_mem_walk (Machine.mem_rubyFilesBelow.1 hp).1 hread
      cases hread' : (d'.machine here settings).read p with
      | error cause' => exact ⟨cause', rfl⟩
      | ok bytes =>
        obtain ⟨q, hlookup⟩ := read_machine_eq_ok_iff.1 hread'
        exact absurd (locate_eq_ok_iff.1 (lookup_eq_ok_iff.1 hlookup).1).1 htakes
  walk hdir := by
    obtain ⟨q, hlookup⟩ := isDirectory_machine_iff.1 hdir
    rw [filter_filesBelow hlookup, filter_filesBelow (h.lookup_directory hlookup), h.filter_below]
  no_directory := by
    intro path hpath
    rw [← Bool.not_eq_true, isDirectory_machine_iff]
    rintro ⟨q, hlookup⟩
    obtain ⟨hlocate, hentry⟩ := lookup_eq_ok_iff.1 (h.lookup_directory hlookup)
    obtain ⟨bytes, hbytes⟩ := h.there
    rw [← bne_eq_false_iff_eq.1 hpath, target_of_locate hlocate] at hbytes
    exact (entry?_eq_directory_iff.1 hentry).1 bytes hbytes
  file := by
    intro path hpath hfile
    obtain ⟨q, old, hlookup⟩ := isFile_machine_iff.1 hfile
    have hlocate := (lookup_eq_ok_iff.1 hlookup).1
    obtain ⟨bytes, hbytes⟩ := h.there
    rw [← bne_eq_false_iff_eq.1 hpath, target_of_locate hlocate] at hbytes
    exact isFile_machine_iff.2
      ⟨q, bytes, lookup_eq_ok_iff.2 ⟨h.locate hlocate, entry?_eq_file_iff.2 hbytes⟩⟩
  workingDirectory := rfl
  settingsDirectory := rfl

end Disk

end ModelLayout

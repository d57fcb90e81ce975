import ModelLayout.Disk
import ModelLayout.Proofs.Paths

/-!
# What a machine shows of its file system

A file system without links is a tree: it is told by what is at each place.  A machine shows such a
tree if the paths under which it finds something lead to the places that they spell, and its walks
come by what is there.  It need not find something under every path that spells a place: a path can
be too long, for one.

A machine with a disk shows what is on the disk.

## Main definitions

* `Machine.Shows` — a machine shows a tree of files and directories.
* `Machine.WalksAll` — a walk through a directory comes by every file below it.
* `Disk.kindAt?` — the tree of a disk.
* `Disk.Takes` — what the system takes for a path.

## Main results

* `Disk.follow_cons_eq_ok_iff`, `Disk.follow_below` — following one piece of a path, and the names
  below a directory.
* `Disk.target_of_locate` — a path that leads somewhere leads to the place that it spells.
* `Disk.shows`, `Disk.walksAll` — what a machine with a disk shows, and how far its walks go.
-/

namespace ModelLayout

namespace Machine

/-- To a program that runs at the place `here`, the machine shows a file system without links, in
which `tree` tells what is at each place. -/
structure Shows (m : Machine) (tree : Place → Option EntryKind) (here : Place) : Prop where
  /-- The empty path leads nowhere. -/
  empty : m.kind? "" = none
  /-- What is found under a path is what is at the place that it spells. -/
  kind : ∀ {path kind}, m.kind? path = some kind → tree (Path.target here path) = some kind
  /-- What a walk comes by is below the directory, and is called by its path and then the names that
  lead there. -/
  walked : ∀ {dir e}, m.kind? dir = some .directory → some e ∈ m.walk dir →
    ∃ names : Place, (∀ name ∈ names, IsName name) ∧ e.path = Path.below dir names ∧
      tree (Path.target here dir ++ names) = some e.kind

/-- A walk through the directory `dir` comes by every file that is below it. -/
def WalksAll (m : Machine) (tree : Place → Option EntryKind) (here : Place) (dir : String) : Prop :=
  ∀ names : Place, (∀ name ∈ names, IsName name) →
    tree (Path.target here dir ++ names) = some .file →
    some ⟨Path.below dir names, .file⟩ ∈ m.walk dir

theorem isFile_iff {m : Machine} {path : String} :
    m.isFile path = true ↔ m.kind? path = some .file :=
  decide_eq_true_iff

theorem isDirectory_iff {m : Machine} {path : String} :
    m.isDirectory path = true ↔ m.kind? path = some .directory :=
  decide_eq_true_iff

theorem Shows.ne_empty {m : Machine} {tree : Place → Option EntryKind} {here : Place}
    (h : m.Shows tree here) {path : String} {kind : EntryKind} (hpath : m.kind? path = some kind) :
    path ≠ "" := by
  rintro rfl
  rw [h.empty] at hpath
  cases hpath

end Machine

namespace Disk

variable {d : Disk} {here place : Place} {path : String}

/-! ### What is at a place -/

theorem mem_of_lookup {bytes : ByteArray} (h : d.files.lookup place = some bytes) :
    (place, bytes) ∈ d.files := by
  obtain ⟨before, after, hfiles, -⟩ := List.lookup_eq_some_iff.1 h
  rw [hfiles]
  exact List.mem_append_right _ List.mem_cons_self

theorem lookup_of_mem {bytes : ByteArray} (h : (place, bytes) ∈ d.files) :
    d.files.lookup place = some bytes := by
  obtain ⟨before, after, hfiles⟩ := List.append_of_mem h
  refine List.lookup_eq_some_iff.2 ⟨before, after, hfiles, fun f hf => ?_⟩
  have hdistinct := d.sound.distinct
  rw [hfiles, List.map_append, List.map_cons, List.nodup_append] at hdistinct
  have hne := hdistinct.2.2 f.1 (List.mem_map_of_mem hf) place List.mem_cons_self
  simpa [bne_iff_ne] using Ne.symm hne

theorem isDirectoryAt_iff : d.isDirectoryAt place = true ↔
    place = [] ∨ (∃ dir ∈ d.directories, place <+: dir) ∨ ∃ f ∈ d.files, place <+: f.1 := by
  simp only [isDirectoryAt, Bool.or_eq_true, List.isEmpty_iff, List.any_eq_true,
    List.isPrefixOf_iff_prefix, or_assoc]

theorem entry?_eq_file_iff {bytes : ByteArray} :
    d.entry? place = some (.file bytes) ↔ (place, bytes) ∈ d.files := by
  have hlookup : d.entry? place = some (.file bytes) ↔ d.files.lookup place = some bytes := by
    unfold entry?
    cases d.files.lookup place with
    | none => simp
    | some b => simp
  rw [hlookup]
  exact ⟨mem_of_lookup, lookup_of_mem⟩

theorem entry?_eq_directory_iff :
    d.entry? place = some .directory ↔
      (∀ bytes, (place, bytes) ∉ d.files) ∧ d.isDirectoryAt place = true := by
  unfold entry?
  cases hlookup : d.files.lookup place with
  | none =>
    have hnone : ∀ bytes, (place, bytes) ∉ d.files := by
      intro bytes hmem
      rw [lookup_of_mem hmem] at hlookup
      cases hlookup
    simp [hnone]
  | some b =>
    refine iff_of_false (by simp) fun h => h.1 b (mem_of_lookup hlookup)

/-- What kind of entry is at a place. -/
def kindAt? (d : Disk) (place : Place) : Option EntryKind :=
  (d.entry? place).map DiskEntry.kind

theorem kindAt?_eq_file_iff : d.kindAt? place = some .file ↔ ∃ bytes, (place, bytes) ∈ d.files := by
  simp only [kindAt?, Option.map_eq_some_iff, ← entry?_eq_file_iff]
  constructor
  · rintro ⟨entry, hentry, hkind⟩
    cases entry with
    | file bytes => exact ⟨bytes, hentry⟩
    | directory => cases hkind
  · rintro ⟨bytes, hentry⟩
    exact ⟨_, hentry, rfl⟩

/-! ### Where paths lead -/

/-- One piece of a path: it is followed in a directory, and if it is a name, it must not be too
long. -/
theorem follow_cons_eq_ok_iff {start : Place} {piece : String} {pieces : List String} :
    d.follow start (piece :: pieces) = .ok place ↔ d.entry? start = some .directory ∧
      (∀ name, Path.component? piece = some (.normal name) → name.utf8ByteSize ≤ maxNameBytes) ∧
      d.follow ((Path.component? piece).elim start (Component.step start)) pieces = .ok place := by
  rw [follow]
  split
  · next hentry => simp [hentry]
  · next hentry => simp [hentry]
  · next hentry =>
    rw [and_iff_right hentry]
    by_cases hdot : piece = "" ∨ piece = "."
    · have hnone : Path.component? piece = none := by rcases hdot with rfl | rfl <;> rfl
      rw [if_pos hdot, hnone]
      simp
    · rw [if_neg hdot]
      by_cases hdots : piece = ".."
      · have hparent : Path.component? piece = some .parent := by rw [hdots]; rfl
        rw [if_pos hdots, hparent]
        simp [Component.step]
      · have hname : Path.component? piece = some (.normal piece) := by
          unfold Path.component?
          split
          · exact absurd (Or.inl rfl) hdot
          · exact absurd (Or.inr rfl) hdot
          · exact absurd rfl hdots
          · rfl
        rw [if_neg hdots, hname]
        by_cases hlong : maxNameBytes < piece.utf8ByteSize
        · simp [hlong, Nat.not_le.2 hlong]
        · simp [hlong, Nat.le_of_not_lt hlong, Component.step]

/-- Pieces that can be followed lead to the place that they spell. -/
theorem foldl_step_of_follow {pieces : List String} : ∀ {start place : Place},
    d.follow start pieces = .ok place →
    (pieces.filterMap Path.component?).foldl Component.step start = place := by
  induction pieces with
  | nil => exact fun h => Except.ok.inj h
  | cons piece pieces ih =>
    intro start place h
    obtain ⟨-, -, hrest⟩ := follow_cons_eq_ok_iff.1 h
    cases hpiece : Path.component? piece with
    | none =>
      rw [hpiece] at hrest
      rw [List.filterMap_cons_none hpiece]
      exact ih hrest
    | some c =>
      rw [hpiece] at hrest
      rw [List.filterMap_cons_some hpiece]
      exact ih hrest

/-- Pieces are followed one after the other. -/
theorem follow_append_eq_ok_iff {pieces more : List String} : ∀ {start : Place},
    d.follow start (pieces ++ more) = .ok place ↔
      ∃ middle, d.follow start pieces = .ok middle ∧ d.follow middle more = .ok place := by
  induction pieces with
  | nil =>
    intro start
    exact ⟨fun h => ⟨start, rfl, h⟩, fun ⟨middle, hstart, h⟩ => Except.ok.inj hstart ▸ h⟩
  | cons piece pieces ih =>
    intro start
    simp only [List.cons_append, follow_cons_eq_ok_iff, ih, exists_and_left, and_assoc]

/-- One step down into a directory. -/
theorem follow_join {start : Place} {dir name : String} (hdir : dir ≠ "")
    (h : d.follow start (Path.parts dir) = .ok place) (hentry : d.entry? place = some .directory)
    (hname : IsName name) (hfits : name.utf8ByteSize ≤ maxNameBytes) :
    d.follow start (Path.parts (Path.join dir name)) = .ok (place ++ [name]) := by
  have hstep : d.follow place [name] = .ok (place ++ [name]) := by
    refine follow_cons_eq_ok_iff.2 ⟨hentry, fun other hother => ?_, ?_⟩
    · rw [Path.component?_of_isName hname] at hother
      cases hother
      exact hfits
    · rw [Path.component?_of_isName hname]
      rfl
  rcases Path.join_cases hdir name with ⟨stem, rfl, hjoin⟩ | hjoin
  · -- the empty piece after the slash leads nowhere
    rw [Path.parts_slash, follow_append_eq_ok_iff] at h
    obtain ⟨middle, hstem, hslash⟩ := h
    obtain rfl : middle = place := foldl_step_of_follow hslash
    rw [hjoin, Path.parts_append, Path.parts_of_isName hname]
    exact follow_append_eq_ok_iff.2 ⟨middle, hstem, hstep⟩
  · rw [hjoin, Path.parts_append, Path.parts_of_isName hname]
    exact follow_append_eq_ok_iff.2 ⟨place, h, hstep⟩

theorem entry?_above_file {bytes : ByteArray} {names : Place} (hne : names ≠ [])
    (hfile : (place ++ names, bytes) ∈ d.files) : d.entry? place = some .directory := by
  refine entry?_eq_directory_iff.2 ⟨fun other hother => ?_, ?_⟩
  · have heq := d.sound.no_file_below _ hother _ hfile (List.prefix_append _ _)
    exact hne (List.append_right_eq_self.1 heq.symm)
  · exact isDirectoryAt_iff.2 (Or.inr (Or.inr ⟨_, hfile, List.prefix_append _ _⟩))

/-- A path below a directory can be followed to any file that is there. -/
theorem follow_below {start names : Place} {bytes : ByteArray} : ∀ {dir : String} {place : Place},
    dir ≠ "" → d.follow start (Path.parts dir) = .ok place → (place ++ names, bytes) ∈ d.files →
    d.follow start (Path.parts (Path.below dir names)) = .ok (place ++ names) := by
  induction names with
  | nil =>
    intro dir place _ h _
    rw [List.append_nil]
    exact h
  | cons name names ih =>
    intro dir place hdir h hfile
    have hmem : name ∈ place ++ name :: names := by simp
    have hjoin := follow_join hdir h (entry?_above_file (by simp) hfile)
      (d.sound.isName _ hfile name hmem) (d.sound.fits _ hfile name hmem).2
    have hrest : place ++ name :: names = place ++ [name] ++ names := by simp
    rw [hrest] at hfile ⊢
    exact ih (Path.join_ne_empty hdir name) hjoin hfile

/-- What the system takes for a path. -/
structure Takes (path : String) : Prop where
  no_zero : '\x00' ∉ path.toList
  fits : path.utf8ByteSize ≤ maxPathBytes
  ne_empty : path ≠ ""

theorem locate_eq_ok_iff : d.locate here path = .ok place ↔
    Takes path ∧ d.follow (Path.origin here path) (Path.parts path) = .ok place := by
  unfold locate
  split
  · next hzero =>
    refine iff_of_false (by simp) fun h => h.1.no_zero ?_
    simpa using hzero
  · next hzero =>
    split
    · next hlong => exact iff_of_false (by simp) fun h => Nat.not_le.2 hlong h.1.fits
    · next hlong =>
      split
      · next hempty => exact iff_of_false (by simp) fun h => h.1.ne_empty hempty
      · next hempty =>
        exact (and_iff_right ⟨by simpa using hzero, Nat.le_of_not_lt hlong, hempty⟩).symm

/-- A path that leads somewhere leads to the place that it spells. -/
theorem target_of_locate (h : d.locate here path = .ok place) : Path.target here path = place := by
  rw [Path.target_eq_foldl]
  exact foldl_step_of_follow (locate_eq_ok_iff.1 h).2

theorem lookup_eq_ok_iff {entry : DiskEntry} :
    d.lookup here path = .ok (place, entry) ↔
      d.locate here path = .ok place ∧ d.entry? place = some entry := by
  unfold lookup
  cases d.locate here path with
  | error e => simp [bind, Except.bind]
  | ok place' =>
    cases hentry : d.entry? place' with
    | none =>
      simp only [bind, Except.bind, hentry]
      constructor
      · intro h
        cases h
      · rintro ⟨h, hsome⟩
        cases h
        rw [hentry] at hsome
        cases hsome
    | some entry' =>
      simp only [bind, Except.bind, hentry, pure, Except.pure, Except.ok.injEq, Prod.mk.injEq]
      constructor
      · rintro ⟨rfl, rfl⟩
        exact ⟨rfl, hentry⟩
      · rintro ⟨rfl, hsome⟩
        rw [hentry] at hsome
        exact ⟨rfl, Option.some.inj hsome⟩

/-! ### What a machine with a disk answers -/

variable {settings : Option String}

theorem kind?_machine_eq_some_iff {kind : EntryKind} :
    (d.machine here settings).kind? path = some kind ↔
      ∃ place entry, d.lookup here path = .ok (place, entry) ∧ entry.kind = kind := by
  show (d.lookup here path).toOption.map (·.2.kind) = some kind ↔ _
  cases d.lookup here path with
  | error e => simp [Except.toOption]
  | ok found => simp [Except.toOption, Prod.ext_iff]

theorem isFile_machine_iff : (d.machine here settings).isFile path = true ↔
    ∃ place bytes, d.lookup here path = .ok (place, .file bytes) := by
  rw [Machine.isFile_iff, kind?_machine_eq_some_iff]
  constructor
  · rintro ⟨place, entry, hlookup, hkind⟩
    cases entry with
    | file bytes => exact ⟨place, bytes, hlookup⟩
    | directory => cases hkind
  · rintro ⟨place, bytes, hlookup⟩
    exact ⟨place, _, hlookup, rfl⟩

theorem isDirectory_machine_iff : (d.machine here settings).isDirectory path = true ↔
    ∃ place, d.lookup here path = .ok (place, .directory) := by
  rw [Machine.isDirectory_iff, kind?_machine_eq_some_iff]
  constructor
  · rintro ⟨place, entry, hlookup, hkind⟩
    cases entry with
    | file bytes => cases hkind
    | directory => exact ⟨place, hlookup⟩
  · rintro ⟨place, hlookup⟩
    exact ⟨place, _, hlookup, rfl⟩

theorem read_machine_eq_ok_iff {bytes : ByteArray} :
    (d.machine here settings).read path = .ok bytes ↔
      ∃ place, d.lookup here path = .ok (place, .file bytes) := by
  show (d.read here path).mapError _ = _ ↔ _
  unfold Disk.read
  cases d.lookup here path with
  | error e => simp [bind, Except.bind, Except.mapError]
  | ok found =>
    obtain ⟨place, entry⟩ := found
    cases entry <;> simp [bind, Except.bind, pure, Except.pure, Except.mapError]

/-! ### Walks -/

theorem mem_below {place names : Place} :
    names ∈ d.below place ↔ names ≠ [] ∧ ∃ bytes, (place ++ names, bytes) ∈ d.files := by
  simp only [below, List.mem_map, List.mem_filter, Bool.and_eq_true, List.isPrefixOf_iff_prefix,
    bne_iff_ne]
  constructor
  · rintro ⟨⟨_, bytes⟩, ⟨hmem, ⟨names, rfl⟩, hne⟩, rfl⟩
    rw [List.drop_left]
    refine ⟨?_, bytes, hmem⟩
    rintro rfl
    exact hne (List.append_nil place).symm
  · rintro ⟨hne, bytes, hmem⟩
    refine ⟨_, ⟨hmem, List.prefix_append _ _, ?_⟩, List.drop_left⟩
    intro heq
    exact hne (List.append_right_eq_self.1 heq.symm)

theorem mem_walk {dir : String} {e : Walked} :
    e ∈ d.walk here dir ↔ ∃ place, d.lookup here dir = .ok (place, .directory) ∧
      ∃ names ∈ d.below place, canEnter dir names.dropLast = true ∧
        e = ⟨Path.below dir names, .file⟩ := by
  unfold walk
  split
  · next place hlookup =>
    simp only [hlookup, List.mem_map, List.mem_filter, Except.ok.injEq, Prod.mk.injEq, and_true,
      exists_eq_left', and_assoc, eq_comm (a := e)]
  · next hlookup =>
    refine iff_of_false (by simp) ?_
    rintro ⟨place, hplace, -⟩
    exact hlookup place hplace

/-- A machine shows the disk that it has. -/
theorem shows (d : Disk) (here : Place) (settings : Option String) :
    (d.machine here settings).Shows d.kindAt? here where
  empty := rfl
  kind := by
    intro path kind h
    obtain ⟨place, entry, hlookup, rfl⟩ := kind?_machine_eq_some_iff.1 h
    obtain ⟨hlocate, hentry⟩ := lookup_eq_ok_iff.1 hlookup
    rw [target_of_locate hlocate, kindAt?, hentry, Option.map_some]
  walked := by
    intro dir e _ hmem
    obtain ⟨e', hwalk, heq⟩ := List.mem_map.1 hmem
    cases heq
    obtain ⟨place, hlookup, names, hbelow, -, rfl⟩ := mem_walk.1 hwalk
    obtain ⟨-, bytes, hfile⟩ := mem_below.1 hbelow
    refine ⟨names, fun name hname => ?_, rfl, ?_⟩
    · exact d.sound.isName _ hfile name (List.mem_append_right _ hname)
    · rw [target_of_locate (lookup_eq_ok_iff.1 hlookup).1]
      exact kindAt?_eq_file_iff.2 ⟨bytes, hfile⟩

/-- A walk comes by all files if it can enter the directories on its way. -/
theorem walksAll {dir : String} (settings : Option String)
    (hlookup : d.lookup here dir = .ok (place, .directory))
    (henter : ∀ names ∈ d.below place, canEnter dir names.dropLast = true) :
    (d.machine here settings).WalksAll d.kindAt? here dir := by
  intro names _ hfile
  obtain ⟨hlocate, hentry⟩ := lookup_eq_ok_iff.1 hlookup
  rw [target_of_locate hlocate] at hfile
  obtain ⟨bytes, hmem⟩ := kindAt?_eq_file_iff.1 hfile
  have hne : names ≠ [] := by
    rintro rfl
    rw [List.append_nil] at hmem
    exact (entry?_eq_directory_iff.1 hentry).1 bytes hmem
  have hbelow : names ∈ d.below place := mem_below.2 ⟨hne, bytes, hmem⟩
  refine List.mem_map.2 ⟨_, mem_walk.2 ⟨place, hlookup, names, hbelow, henter names hbelow, rfl⟩, rfl⟩

end Disk

end ModelLayout

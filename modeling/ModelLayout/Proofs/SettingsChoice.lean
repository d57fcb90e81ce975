import ModelLayout.Configuration
import ModelLayout.Disk
import ModelLayout.Proofs.Validation

/-!
# The choice of a settings file

The rules come from one file, and it is chosen before anything is read: the file that the arguments
name; else the deepest one in the working directory and the directories above it; else the one of
the user.  From there on nothing but the chosen file counts.  If there is something wrong with it,
there are no rules at all.

All this holds of every machine, and of every way to read settings from a text.

## Main definitions

* `Settings.NamesUnknown` — settings that name something that is not a category.
* `Machine.HoldsSettings`, `Machine.Faulty` — the settings in a file, and what can be wrong with it.
* `Machine.Chooses` — which settings file is used.

## Main results

* `Settings.namesUnknown_iff` — settings are refused exactly for a name that is not a category.
* `Machine.projectFile?_eq_some_iff` — the file of a project is the deepest one.
* `Machine.chooses_iff` — what is chosen is what the relation says.
* `Machine.plan_of_choice` — the choice alone decides which rules there are, and whether there are
  any.
-/

namespace ModelLayout

/-! ### Names that are not categories -/

theorem exists_map_eq_error_iff {ε α β : Type} {x : Except ε α} {f : α → β} :
    (∃ e, x.map f = .error e) ↔ ∃ e, x = .error e := by
  cases x <;> simp [Except.map]

/-- Reading a list fails if one of its entries cannot be read. -/
theorem exists_mapM_eq_error_iff {ε α β : Type} {f : α → Except ε β} {l : List α} :
    (∃ e, l.mapM f = .error e) ↔ ∃ a ∈ l, ∃ e, f a = .error e := by
  constructor
  · rintro ⟨e, h⟩
    obtain ⟨before, a, after, rfl, -, ha⟩ := mapM_eq_error_iff.1 h
    exact ⟨a, by simp, e, ha⟩
  · rintro ⟨a, ha, e, he⟩
    cases h : l.mapM f with
    | error e' => exact ⟨e', rfl⟩
    | ok bs =>
      -- in a list that has been read, something was read for every entry
      have hmem : (f a).toOption ∈ bs.map some := by
        rw [← map_toOption_of_mapM_eq_ok h]
        exact List.mem_map_of_mem ha
      rw [he] at hmem
      obtain ⟨b, -, hb⟩ := List.mem_map.1 hmem
      cases hb

namespace Settings

/-- A name in the order, or a key in the table of comments, is not the name of a category. -/
def NamesUnknown (s : Settings) : Prop :=
  (∃ names, s.requiredOrder = some names ∧ ∃ name ∈ names, Category.parse? name = none) ∨
    ∃ table, s.requiredComments = some table ∧ ∃ entry ∈ table, Category.parse? entry.1 = none

variable {s : Settings}

theorem exists_fullOrder_eq_error_iff : (∃ e, s.fullOrder = .error e) ↔
    ∃ names, s.requiredOrder = some names ∧ ∃ name ∈ names, Category.parse? name = none := by
  cases hnames : s.requiredOrder with
  | none => simp [fullOrder, hnames]
  | some names =>
    simp [fullOrder, hnames, parseOrder_eq_mapM, exists_mapM_eq_error_iff,
      Category.read_eq_error_iff]

theorem exists_commentTable_eq_error_iff : (∃ e, s.commentTable = .error e) ↔
    ∃ table, s.requiredComments = some table ∧
      ∃ entry ∈ table, Category.parse? entry.1 = none := by
  cases htable : s.requiredComments with
  | none => simp [commentTable, htable]
  | some table =>
    simp [commentTable, htable, exists_map_eq_error_iff, parseComments_eq_mapM,
      exists_mapM_eq_error_iff, mem_sortTable, Category.read_eq_error_iff]

theorem namesUnknown_iff : s.NamesUnknown ↔ ∃ e, s.validate = .error e := by
  rw [NamesUnknown, ← exists_fullOrder_eq_error_iff, ← exists_commentTable_eq_error_iff, validate]
  cases s.fullOrder with
  | error e => simp
  | ok order => cases s.commentTable <;> simp

end Settings

/-! ### The directories above a directory -/

theorem mem_ancestors {dir place : Place} : dir ∈ ancestors place ↔ dir <+: place := by
  simp only [ancestors, List.mem_map, List.mem_reverse, List.mem_range]
  constructor
  · rintro ⟨n, -, rfl⟩
    exact List.take_prefix _ _
  · intro h
    exact ⟨dir.length, Nat.lt_succ_of_le h.length_le, (List.prefix_iff_eq_take.1 h).symm⟩

/-- The nearest directory comes first. -/
theorem pairwise_ancestors (place : Place) :
    (ancestors place).Pairwise fun near far => far.length < near.length := by
  rw [ancestors, List.pairwise_map, List.pairwise_reverse]
  refine List.pairwise_lt_range.imp_of_mem fun {m n} hm hn hlt => ?_
  rw [List.mem_range] at hm hn
  rw [List.length_take, List.length_take]
  omega

/-- The file in which the error is, if it is in a file. -/
def ConfigurationError.path? : ConfigurationError → Option String
  | nowhere _ => none
  | unreadable path _ => some path
  | malformed path _ => some path
  | refused path _ => some path

namespace Machine

variable {m m' : Machine} {parse : SettingsReader} {args : Arguments} {here : Place} {path : String}

/-! ### The rules in a file -/

/-- The file under a path is text, and this is how its text is read. -/
def HoldsSettings (m : Machine) (parse : SettingsReader) (path : String) (s : Settings) : Prop :=
  ∃ bytes text, m.read path = .ok bytes ∧ String.fromUTF8? bytes = some text ∧ parse text = .ok s

/-- What can be wrong with a settings file. -/
inductive Faulty (m : Machine) (parse : SettingsReader) (path : String) : Prop
  /-- It is missing, or cannot be read. -/
  | unreadable {cause : String} (h : m.read path = .error cause)
  | notText {bytes : ByteArray} (h : m.read path = .ok bytes)
    (htext : String.fromUTF8? bytes = none)
  | malformed {bytes : ByteArray} {text cause : String} (h : m.read path = .ok bytes)
    (htext : String.fromUTF8? bytes = some text) (hparse : parse text = .error cause)
  | unknownName {s : Settings} (h : m.HoldsSettings parse path s) (hs : s.NamesUnknown)

/-- What becomes of a settings file: rules, or an error that names it. -/
theorem rulesIn_cases (m : Machine) (parse : SettingsReader) (path : String) :
    (∃ s v, m.HoldsSettings parse path s ∧ s.validate = .ok v ∧
        m.rulesIn parse path = .ok v.rules) ∨
      (m.Faulty parse path ∧ ∃ e, m.rulesIn parse path = .error e ∧ e.path? = some path) := by
  unfold rulesIn readText
  cases hread : m.read path with
  | error cause => exact Or.inr ⟨.unreadable hread, _, rfl, rfl⟩
  | ok bytes =>
    cases htext : String.fromUTF8? bytes with
    | none =>
      exact Or.inr ⟨.notText hread htext, .unreadable path notText, by simp only [htext], rfl⟩
    | some text =>
      simp only [htext]
      cases hparse : parse text with
      | error cause => exact Or.inr ⟨.malformed hread htext hparse, _, rfl, rfl⟩
      | ok s =>
        have hs : m.HoldsSettings parse path s := ⟨bytes, text, hread, htext, hparse⟩
        cases hv : s.validate with
        | error e =>
          exact Or.inr ⟨.unknownName hs (Settings.namesUnknown_iff.2 ⟨e, hv⟩), .refused path e,
            by simp only [hv], rfl⟩
        | ok v => exact Or.inl ⟨s, v, hs, hv, by simp only [hv]⟩

theorem HoldsSettings.eq {s s' : Settings} (h : m.HoldsSettings parse path s)
    (h' : m.HoldsSettings parse path s') : s = s' := by
  obtain ⟨bytes, text, hread, htext, hparse⟩ := h
  obtain ⟨bytes', text', hread', htext', hparse'⟩ := h'
  obtain rfl := Except.ok.inj (hread.symm.trans hread')
  obtain rfl := Option.some.inj (htext.symm.trans htext')
  exact Except.ok.inj (hparse.symm.trans hparse')

/-- A file with something wrong holds no settings that would pass. -/
theorem Faulty.validate_ne_ok (h : m.Faulty parse path) {s : Settings}
    (hs : m.HoldsSettings parse path s) (v : Validated) : s.validate ≠ .ok v := by
  intro hv
  obtain ⟨bytes, text, hread, htext, hparse⟩ := id hs
  cases h with
  | unreadable h => cases hread.symm.trans h
  | notText h hnone =>
    obtain rfl := Except.ok.inj (hread.symm.trans h)
    cases htext.symm.trans hnone
  | malformed h htext' hparse' =>
    obtain rfl := Except.ok.inj (hread.symm.trans h)
    obtain rfl := Option.some.inj (htext.symm.trans htext')
    cases hparse.symm.trans hparse'
  | unknownName h hunknown =>
    obtain rfl := hs.eq h
    obtain ⟨e, he⟩ := Settings.namesUnknown_iff.1 hunknown
    cases hv.symm.trans he

theorem rulesIn_eq_ok_iff {rules : Rules} : m.rulesIn parse path = .ok rules ↔
    ∃ s v, m.HoldsSettings parse path s ∧ s.validate = .ok v ∧ rules = v.rules := by
  rcases rulesIn_cases m parse path with ⟨s, v, hs, hv, hrules⟩ | ⟨hfaulty, e, he, -⟩
  · rw [hrules]
    constructor
    · intro heq
      exact ⟨s, v, hs, hv, (Except.ok.inj heq).symm⟩
    · rintro ⟨s', v', hs', hv', rfl⟩
      obtain rfl := hs.eq hs'
      obtain rfl := Except.ok.inj (hv.symm.trans hv')
      rfl
  · rw [he]
    refine iff_of_false (by simp) ?_
    rintro ⟨s, v, hs, hv, -⟩
    exact hfaulty.validate_ne_ok hs v hv

theorem faulty_iff : m.Faulty parse path ↔ ∃ e, m.rulesIn parse path = .error e := by
  rcases rulesIn_cases m parse path with ⟨s, v, hs, hv, hrules⟩ | ⟨hfaulty, e, he, -⟩
  · rw [hrules]
    exact iff_of_false (fun hfaulty => hfaulty.validate_ne_ok hs v hv) (by simp)
  · exact iff_of_true hfaulty ⟨e, he⟩

/-! ### The deepest file of the project -/

/-- The directory `here` or one above it holds a settings file, and none below that does. -/
structure HoldsDeepest (m : Machine) (here dir : Place) : Prop where
  above : dir <+: here
  holds : m.isFile (projectFileIn dir) = true
  deepest : ∀ dir', dir' <+: here → m.isFile (projectFileIn dir') = true →
    dir'.length ≤ dir.length

theorem HoldsDeepest.eq {dir dir' : Place} (h : m.HoldsDeepest here dir)
    (h' : m.HoldsDeepest here dir') : dir = dir' := by
  have hlength : dir.length = dir'.length :=
    Nat.le_antisymm (h'.deepest _ h.above h.holds) (h.deepest _ h'.above h'.holds)
  exact (List.prefix_of_prefix_length_le h.above h'.above hlength.le).eq_of_length hlength

theorem exists_holdsDeepest_of_projectFile? (h : m.projectFile? here = some path) :
    ∃ dir, m.HoldsDeepest here dir ∧ path = projectFileIn dir := by
  rw [projectFile?, List.find?_map, Option.map_eq_some_iff] at h
  obtain ⟨dir, hdir, rfl⟩ := h
  obtain ⟨hfile, nearer, farther, hsplit, hnearer⟩ := List.find?_eq_some_iff_append.1 hdir
  refine ⟨dir, ⟨?_, hfile, ?_⟩, rfl⟩
  · exact mem_ancestors.1 (hsplit ▸ List.mem_append_right _ List.mem_cons_self)
  · intro dir' hdir' hfile'
    have hmem := mem_ancestors.2 hdir'
    rw [hsplit, List.mem_append, List.mem_cons] at hmem
    rcases hmem with hmem | rfl | hmem
    · have hnot := hnearer dir' hmem
      simp [hfile'] at hnot
    · exact Nat.le_refl _
    · have hpairwise := pairwise_ancestors here
      rw [hsplit, List.pairwise_append, List.pairwise_cons] at hpairwise
      exact (hpairwise.2.1.1 dir' hmem).le

theorem projectFile?_eq_none_iff : m.projectFile? here = none ↔
    ∀ dir, dir <+: here → ¬ m.isFile (projectFileIn dir) = true := by
  simp only [projectFile?, List.find?_eq_none, List.forall_mem_map, mem_ancestors]

/-- The file of a project is the deepest one. -/
theorem projectFile?_eq_some_iff : m.projectFile? here = some path ↔
    ∃ dir, m.HoldsDeepest here dir ∧ path = projectFileIn dir := by
  refine ⟨exists_holdsDeepest_of_projectFile?, ?_⟩
  rintro ⟨dir, hdir, rfl⟩
  cases hfound : m.projectFile? here with
  | none => exact absurd hdir.holds (projectFile?_eq_none_iff.1 hfound dir hdir.above)
  | some path =>
    obtain ⟨dir', hdir', rfl⟩ := exists_holdsDeepest_of_projectFile? hfound
    rw [hdir.eq hdir']

theorem userFile?_eq_some_iff : m.userFile? = some path ↔
    ∃ user, m.settingsDirectory = some user ∧ path = Path.below user userFileNames ∧
      m.isFile path = true := by
  rw [userFile?, Option.filter_eq_some_iff, Option.map_eq_some_iff]
  constructor
  · rintro ⟨⟨user, huser, rfl⟩, hfile⟩
    exact ⟨user, huser, rfl, hfile⟩
  · rintro ⟨user, huser, rfl, hfile⟩
    exact ⟨⟨user, huser, rfl⟩, hfile⟩

/-! ### The choice -/

/-- Which settings file is used, if any. -/
inductive Chooses (m : Machine) (args : Arguments) : Option String → Prop
  /-- The arguments name a file: it is used even if there is no such file. -/
  | named {path : String} (h : args.config = some path) : Chooses m args (some path)
  | project {here dir : Place} (h : args.config = none) (hhere : m.workingDirectory = .ok here)
    (hdir : m.HoldsDeepest here dir) : Chooses m args (some (projectFileIn dir))
  | user {here : Place} {user : String} (h : args.config = none)
    (hhere : m.workingDirectory = .ok here)
    (hproject : ∀ dir, dir <+: here → ¬ m.isFile (projectFileIn dir) = true)
    (huser : m.settingsDirectory = some user)
    (hfile : m.isFile (Path.below user userFileNames) = true) :
    Chooses m args (some (Path.below user userFileNames))
  | nothing {here : Place} (h : args.config = none) (hhere : m.workingDirectory = .ok here)
    (hproject : ∀ dir, dir <+: here → ¬ m.isFile (projectFileIn dir) = true)
    (huser : ∀ user, m.settingsDirectory = some user →
      ¬ m.isFile (Path.below user userFileNames) = true) :
    Chooses m args none

theorem settingsFile_of_config (h : args.config = some path) :
    m.settingsFile args = .ok (some path) := by
  rw [settingsFile, h]

theorem settingsFile_of_nowhere {cause : String} (h : args.config = none)
    (hhere : m.workingDirectory = .error cause) :
    m.settingsFile args = .error (.nowhere cause) := by
  simp only [settingsFile, h, hhere]

theorem settingsFile_of_here (h : args.config = none) (hhere : m.workingDirectory = .ok here) :
    m.settingsFile args = .ok ((m.projectFile? here).or m.userFile?) := by
  simp only [settingsFile, h, hhere, Option.orElse_eq_orElse, Option.orElse_eq_or]

theorem settingsFile_of_chooses {c : Option String} (h : m.Chooses args c) :
    m.settingsFile args = .ok c := by
  cases h with
  | named h => exact settingsFile_of_config h
  | project h hhere hdir =>
    rw [settingsFile_of_here h hhere, projectFile?_eq_some_iff.2 ⟨_, hdir, rfl⟩, Option.some_or]
  | user h hhere hproject huser hfile =>
    rw [settingsFile_of_here h hhere, projectFile?_eq_none_iff.2 hproject, Option.none_or,
      userFile?_eq_some_iff.2 ⟨_, huser, rfl, hfile⟩]
  | nothing h hhere hproject huser =>
    have hnone : m.userFile? = none := by
      rw [Option.eq_none_iff_forall_ne_some]
      intro path hpath
      obtain ⟨user, hdirectory, rfl, hfile⟩ := userFile?_eq_some_iff.1 hpath
      exact huser user hdirectory hfile
    rw [settingsFile_of_here h hhere, projectFile?_eq_none_iff.2 hproject, hnone, Option.none_or]

theorem chooses_of_here (h : args.config = none) (hhere : m.workingDirectory = .ok here) :
    m.Chooses args ((m.projectFile? here).or m.userFile?) := by
  cases hproject : m.projectFile? here with
  | some path =>
    obtain ⟨dir, hdir, rfl⟩ := projectFile?_eq_some_iff.1 hproject
    exact .project h hhere hdir
  | none =>
    have hproject := projectFile?_eq_none_iff.1 hproject
    rw [Option.none_or]
    cases huser : m.userFile? with
    | some path =>
      obtain ⟨user, hdirectory, rfl, hfile⟩ := userFile?_eq_some_iff.1 huser
      exact .user h hhere hproject hdirectory hfile
    | none =>
      refine .nothing h hhere hproject fun user hdirectory hfile => ?_
      cases huser.symm.trans (userFile?_eq_some_iff.2 ⟨user, hdirectory, rfl, hfile⟩)

/-- What is chosen is what the relation says. -/
theorem chooses_iff {c : Option String} : m.Chooses args c ↔ m.settingsFile args = .ok c := by
  refine ⟨settingsFile_of_chooses, fun h => ?_⟩
  cases hconfig : args.config with
  | some path =>
    obtain rfl := Except.ok.inj ((settingsFile_of_config hconfig).symm.trans h)
    exact .named hconfig
  | none =>
    cases hhere : m.workingDirectory with
    | error cause => cases (settingsFile_of_nowhere hconfig hhere).symm.trans h
    | ok here =>
      obtain rfl := Except.ok.inj ((settingsFile_of_here hconfig hhere).symm.trans h)
      exact chooses_of_here hconfig hhere

/-- There is a choice unless the working directory would be needed and is not known. -/
theorem exists_chooses (h : args.config = none → ∃ here, m.workingDirectory = .ok here) :
    ∃ c, m.Chooses args c := by
  cases hconfig : args.config with
  | some path => exact ⟨_, .named hconfig⟩
  | none =>
    obtain ⟨here, hhere⟩ := h hconfig
    exact ⟨_, chooses_of_here hconfig hhere⟩

/-! ### What comes of the choice -/

theorem plan_of_chooses_none (h : m.Chooses args none) :
    m.plan parse args = .ok (args.planWith none Rules.standard) := by
  simp only [plan, settingsFile_of_chooses h]

theorem plan_of_chooses_some (h : m.Chooses args (some path)) :
    m.plan parse args = (m.rulesIn parse path).map (args.planWith (some path)) := by
  simp only [plan, settingsFile_of_chooses h]

theorem plan_of_nowhere {cause : String} (h : args.config = none)
    (hhere : m.workingDirectory = .error cause) : m.plan parse args = .error (.nowhere cause) := by
  simp only [plan, settingsFile_of_nowhere h hhere]

/-- A chosen file gives its own rules or none. -/
theorem plan_eq_ok_iff (h : m.Chooses args (some path)) {plan : Plan} :
    m.plan parse args = .ok plan ↔ ∃ s v, m.HoldsSettings parse path s ∧ s.validate = .ok v ∧
      plan = args.planWith (some path) v.rules := by
  rw [plan_of_chooses_some h]
  constructor
  · intro hok
    obtain ⟨rules, hrules, rfl⟩ := exists_of_map_eq_ok hok
    obtain ⟨s, v, hs, hv, rfl⟩ := rulesIn_eq_ok_iff.1 hrules
    exact ⟨s, v, hs, hv, rfl⟩
  · rintro ⟨s, v, hs, hv, rfl⟩
    rw [rulesIn_eq_ok_iff.2 ⟨s, v, hs, hv, rfl⟩]
    rfl

theorem path?_of_plan_eq_error (h : m.Chooses args (some path)) {e : ConfigurationError}
    (he : m.plan parse args = .error e) : e.path? = some path := by
  rw [plan_of_chooses_some h] at he
  rcases rulesIn_cases m parse path with ⟨s, v, -, -, hrules⟩ | ⟨-, e', he', hpath⟩
  · rw [hrules] at he
    cases he
  · rw [he'] at he
    cases he
    exact hpath

/-- **The choice of a settings file.**  The file that the arguments name is chosen; else the deepest
one of the project, else that of the user, else none.  There is one choice, unless the working
directory would be needed and is not known, and then there are no rules.  Without a file the rules are
the standard ones.  A file that has been chosen gives the rules that it holds, or an error that names
it if there is something wrong with it; nothing else that is on the machine plays a part. -/
theorem plan_of_choice (m : Machine) (parse : SettingsReader) (args : Arguments) :
    (∀ cause, args.config = none → m.workingDirectory = .error cause →
      (∀ c, ¬ m.Chooses args c) ∧ m.plan parse args = .error (.nowhere cause)) ∧
    ((args.config = none → ∃ here, m.workingDirectory = .ok here) →
      ∃ c, ∀ c', m.Chooses args c' ↔ c' = c) ∧
    (m.Chooses args none → m.plan parse args = .ok (args.planWith none Rules.standard)) ∧
    ∀ path, m.Chooses args (some path) →
      (m.Faulty parse path ↔ ∃ e, m.plan parse args = .error e) ∧
      (∀ e, m.plan parse args = .error e → e.path? = some path) ∧
      (∀ plan, m.plan parse args = .ok plan ↔
        ∃ s v, m.HoldsSettings parse path s ∧ s.validate = .ok v ∧
          plan = args.planWith (some path) v.rules) ∧
      ∀ m' : Machine, m'.Chooses args (some path) → m'.read path = m.read path →
        m'.plan parse args = m.plan parse args := by
  refine ⟨fun cause h hhere => ⟨fun c hc => ?_, plan_of_nowhere h hhere⟩, fun h => ?_,
    plan_of_chooses_none, fun path h => ⟨?_, fun e => path?_of_plan_eq_error h,
      fun plan => plan_eq_ok_iff h, fun m' h' hread => ?_⟩⟩
  · cases (settingsFile_of_nowhere h hhere).symm.trans (settingsFile_of_chooses hc)
  · obtain ⟨c, hc⟩ := exists_chooses h
    refine ⟨c, fun c' => ⟨fun hc' => ?_, fun hc' => hc' ▸ hc⟩⟩
    exact Except.ok.inj ((settingsFile_of_chooses hc').symm.trans (settingsFile_of_chooses hc))
  · rw [faulty_iff, plan_of_chooses_some h, exists_map_eq_error_iff]
  · rw [plan_of_chooses_some h', plan_of_chooses_some h]
    simp only [rulesIn, readText, hread]

/-- A project whose nearest settings file is no text.  Below it a directory has the name of a
settings file; above it, and with the user, there are files that say nothing and are fine. -/
def damagedProject : Disk where
  files := [
    (["home", "shop", projectFileName], ⟨#[0xff]⟩),
    ([projectFileName], ⟨#[]⟩),
    (["home", ".config", "model-structure", "config.toml"], ⟨#[]⟩)]
  directories := [["home", "shop", "app", projectFileName]]

/-- The damaged file is chosen, and then it is not passed over.  Nor is a file that is named and is
not there. -/
theorem plan_of_choice_damagedProject :
    let m := damagedProject.machine ["home", "shop", "app"] (some "/home/.config")
    let parse : SettingsReader := fun text => if text = "" then .ok {} else .error "no settings"
    let missing : Arguments := { config := some "../none.toml" }
    m.Chooses {} (some "/home/shop/.model-structure.toml") ∧
      (∃ e, m.plan parse {} = .error e ∧ e.path? = some "/home/shop/.model-structure.toml") ∧
      m.Chooses missing (some "../none.toml") ∧
      ∃ e, m.plan parse missing = .error e ∧ e.path? = some "../none.toml" := by
  intro m parse missing
  have hchoice : m.Chooses {} (some "/home/shop/.model-structure.toml") := chooses_iff.2 (by rfl)
  have hmissing : m.Chooses missing (some "../none.toml") := .named rfl
  have hbytes : m.read "/home/shop/.model-structure.toml" = .ok ⟨#[0xff]⟩ := rfl
  have hread : m.read "../none.toml" = .error (DiskError.message .notFound) := rfl
  obtain ⟨-, -, -, hchosen⟩ := plan_of_choice m parse {}
  obtain ⟨hfaulty, hpath, -⟩ := hchosen _ hchoice
  obtain ⟨e, he⟩ := hfaulty.1 (.notText hbytes (by decide))
  obtain ⟨-, -, -, hchosen'⟩ := plan_of_choice m parse missing
  obtain ⟨hfaulty', hpath', -⟩ := hchosen' _ hmissing
  obtain ⟨e', he'⟩ := hfaulty'.1 (.unreadable hread)
  exact ⟨hchoice, ⟨e, he, hpath e he⟩, hmissing, e', he', hpath' e' he'⟩

end Machine

end ModelLayout

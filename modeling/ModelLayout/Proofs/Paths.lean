import Mathlib.Data.List.DropRight
import ModelLayout.Proofs.PathOrder

/-!
# Where paths lead

A path below a directory is written with the path of the directory in front, and so are its
components.  Where there are no links, a path leads to the place that its components spell, and the
path of something below a directory to the place below that of the directory.

A path is an approach, which ends with the last component that is no name, and then names only.  The
approach decides from where the names are followed.  So two paths with one approach lead to one place
only if they have the same components.

## Main definitions

* `Path.target` — the place that a path spells.
* `Path.approach` — the components of a path up to the last one that is no name.
* `Path.HasRubyExtension` — the names of Ruby files.

## Main results

* `Path.components_join` — the components of a path below a directory.
* `Path.target_below`, `Path.approach_below` — where such a path leads, and how.
* `Path.isRuby_below_iff` — when it is the path of a Ruby file.
* `Path.same_of_target_eq` — one approach and one place make one path.
-/

namespace ModelLayout

/-! ### Pieces -/

namespace Text

variable {isSeparator : Char → Bool}

theorem pieces_ne_nil (cs : List Char) : pieces isSeparator cs ≠ [] := by
  cases cs with
  | nil => simp
  | cons c cs =>
    rw [pieces]
    split
    · simp
    · split <;> simp

theorem pieces_append {sep : Char} (hsep : isSeparator sep = true) (cs ds : List Char) :
    pieces isSeparator (cs ++ sep :: ds) = pieces isSeparator cs ++ pieces isSeparator ds := by
  induction cs with
  | nil => rw [List.nil_append, pieces_nil, pieces, if_pos hsep, List.singleton_append]
  | cons c cs ih =>
    rw [List.cons_append, pieces, pieces, ih]
    by_cases hc : isSeparator c = true
    · rw [if_pos hc, if_pos hc, List.cons_append]
    · rw [if_neg hc, if_neg hc]
      cases hpieces : pieces isSeparator cs with
      | nil => exact absurd hpieces (pieces_ne_nil cs)
      | cons piece rest => rfl

theorem pieces_of_forall {cs : List Char} (h : ∀ c ∈ cs, isSeparator c = false) :
    pieces isSeparator cs = [cs] := by
  induction cs with
  | nil => rfl
  | cons c cs ih =>
    obtain ⟨hc, hcs⟩ := List.forall_mem_cons.1 h
    rw [pieces, if_neg (by rw [hc]; exact Bool.false_ne_true), ih hcs]

end Text

namespace Path

/-! ### What is below a directory -/

theorem parts_append (dir rest : String) :
    parts (dir ++ "/" ++ rest) = parts dir ++ parts rest := by
  rw [parts, String.toList_append, String.toList_append, List.append_assoc]
  show (Text.pieces _ (dir.toList ++ '/' :: rest.toList)).map _ = _
  rw [Text.pieces_append (by rfl), List.map_append]
  rfl

theorem parts_of_isName {name : String} (h : IsName name) : parts name = [name] := by
  rw [parts, Text.pieces_of_forall]
  · rw [List.map_singleton, String.ofList_toList]
  · intro c hc
    rw [beq_eq_false_iff_ne]
    rintro rfl
    exact h.no_slash hc

theorem component?_of_isName {name : String} (h : IsName name) :
    component? name = some (.normal name) := by
  unfold component?
  split
  · exact absurd rfl h.ne_empty
  · exact absurd rfl h.ne_dot
  · exact absurd rfl h.ne_dots
  · rfl

/-- The two ways in which a directory is written: with a slash at its end or without. -/
theorem join_cases {dir : String} (hdir : dir ≠ "") (name : String) :
    (∃ stem, dir = stem ++ "/" ∧ join dir name = stem ++ "/" ++ name) ∨
      join dir name = dir ++ "/" ++ name := by
  by_cases hlast : dir.toList.getLast? = some '/'
  · left
    obtain ⟨cs, hcs⟩ := List.getLast?_eq_some_iff.1 hlast
    have hstem : dir = String.ofList cs ++ "/" := by
      apply String.toList_injective
      rw [hcs, String.toList_append, String.toList_ofList]
      rfl
    refine ⟨String.ofList cs, hstem, ?_⟩
    rw [join, if_pos (Or.inr hlast), ← hstem]
  · right
    rw [join, if_neg (not_or.2 ⟨hdir, hlast⟩)]

theorem parts_ne_nil (path : String) : parts path ≠ [] := by
  rw [parts, ne_eq, List.map_eq_nil_iff]
  exact Text.pieces_ne_nil _

theorem head?_parts_append (path : String) (more : List String) :
    (parts path ++ more).head? = (parts path).head? := by
  obtain ⟨piece, rest, hparts⟩ := List.exists_cons_of_ne_nil (parts_ne_nil path)
  rw [hparts]
  rfl

theorem parts_slash (stem : String) : parts (stem ++ "/") = parts stem ++ [""] := by
  have h := parts_append stem ""
  rwa [String.append_empty] at h

theorem isAbsolute_append {dir : String} (hdir : dir ≠ "") (rest : String) :
    isAbsolute (dir ++ rest) = isAbsolute dir := by
  rw [isAbsolute, isAbsolute, String.toList_append]
  cases hlist : dir.toList with
  | nil => exact absurd (String.toList_eq_nil_iff.1 hlist) hdir
  | cons c cs => rfl

/-- What is below a directory is written with the path of the directory in front. -/
theorem exists_join_eq_append {dir : String} (hdir : dir ≠ "") (name : String) :
    ∃ rest, join dir name = dir ++ rest := by
  rcases join_cases hdir name with ⟨stem, hstem, hjoin⟩ | hjoin
  · exact ⟨name, by rw [hjoin, hstem]⟩
  · exact ⟨"/" ++ name, by rw [hjoin, String.append_assoc]⟩

theorem isAbsolute_join {dir : String} (hdir : dir ≠ "") (name : String) :
    isAbsolute (join dir name) = isAbsolute dir := by
  obtain ⟨rest, hrest⟩ := exists_join_eq_append hdir name
  rw [hrest, isAbsolute_append hdir]

theorem join_ne_empty {dir : String} (hdir : dir ≠ "") (name : String) : join dir name ≠ "" := by
  obtain ⟨rest, hrest⟩ := exists_join_eq_append hdir name
  rw [hrest]
  intro hempty
  exact hdir (String.append_eq_empty_iff.1 hempty).1

/-- The components of what is below a directory. -/
theorem components_join {dir name : String} (hdir : dir ≠ "") (hname : IsName name) :
    components (join dir name) = components dir ++ [.normal name] := by
  have hparts : (parts (join dir name)).head? = (parts dir).head? ∧
      (parts (join dir name)).filterMap component? =
        (parts dir).filterMap component? ++ [.normal name] := by
    rcases join_cases hdir name with ⟨stem, rfl, hjoin⟩ | hjoin
    · rw [hjoin, parts_append, parts_slash, parts_of_isName hname]
      refine ⟨by rw [head?_parts_append, head?_parts_append], ?_⟩
      rw [List.filterMap_append, List.filterMap_append,
        List.filterMap_cons_some (component?_of_isName hname)]
      show _ = _ ++ [] ++ _
      rw [List.append_nil]
      rfl
    · rw [hjoin, parts_append, parts_of_isName hname]
      refine ⟨head?_parts_append dir _, ?_⟩
      rw [List.filterMap_append, List.filterMap_cons_some (component?_of_isName hname)]
      rfl
  rw [components, components, start, start, isAbsolute_join hdir, hparts.1, hparts.2,
    List.append_assoc]

theorem isAbsolute_below {names : Place} : ∀ {dir : String}, dir ≠ "" →
    isAbsolute (below dir names) = isAbsolute dir := by
  induction names with
  | nil => exact fun _ => rfl
  | cons name names ih =>
    exact fun hdir => (ih (join_ne_empty hdir name)).trans (isAbsolute_join hdir name)

theorem below_append (dir : String) (names names' : Place) :
    below dir (names ++ names') = below (below dir names) names' :=
  List.foldl_append

/-- The components of what names lead to from a directory. -/
theorem components_below {names : Place} : ∀ {dir : String}, dir ≠ "" →
    (∀ name ∈ names, IsName name) →
    components (below dir names) = components dir ++ names.map .normal := by
  induction names with
  | nil => exact fun _ _ => (List.append_nil _).symm
  | cons name names ih =>
    intro dir hdir hnames
    obtain ⟨hname, hnames⟩ := List.forall_mem_cons.1 hnames
    have hbelow : below dir (name :: names) = below (join dir name) names := rfl
    rw [hbelow, ih (join_ne_empty hdir name) hnames, components_join hdir hname, List.append_assoc]
    rfl

/-! ### Ruby files -/

/-- A name with the extension of Ruby files. -/
def HasRubyExtension (name : String) : Prop :=
  ∃ stem, stem ≠ "" ∧ name = stem ++ ".rb"

theorem hasRubyExtension_iff {name : String} :
    hasRubyExtension name = true ↔ HasRubyExtension name := by
  rw [hasRubyExtension, HasRubyExtension]
  constructor
  · intro h
    split at h
    · next c cs hreverse =>
      -- read from the end, the name starts with its extension
      refine ⟨String.ofList (c :: cs).reverse, ?_, ?_⟩
      · rw [ne_eq, ← String.toList_eq_nil_iff, String.toList_ofList]
        simp
      · apply String.toList_injective
        rw [String.toList_append, String.toList_ofList, ← List.reverse_reverse name.toList, hreverse]
        simp
    · cases h
  · rintro ⟨stem, hstem, rfl⟩
    rw [ne_eq, ← String.toList_eq_nil_iff, ← List.reverse_eq_nil_iff] at hstem
    obtain ⟨c, cs, hcs⟩ := List.exists_cons_of_ne_nil hstem
    have hreverse : (stem ++ ".rb").toList.reverse = 'b' :: 'r' :: '.' :: c :: cs := by
      rw [String.toList_append, List.reverse_append, hcs]
      rfl
    rw [hreverse]
    rfl

/-- What names lead to from a directory is a Ruby file by its last name. -/
theorem isRuby_below_iff {dir : String} {names : Place} (hdir : dir ≠ "") (hne : names ≠ [])
    (hnames : ∀ name ∈ names, IsName name) :
    isRuby (below dir names) = true ↔ ∃ name ∈ names.getLast?, HasRubyExtension name := by
  rcases List.eq_nil_or_concat' names with rfl | ⟨front, last, rfl⟩
  · exact absurd rfl hne
  · have hlast : (components (below dir (front ++ [last]))).getLast? = some (.normal last) := by
      rw [components_below hdir hnames, List.map_append, ← List.append_assoc]
      simp
    rw [isRuby, fileName?, hlast]
    simp [hasRubyExtension_iff]

end Path

/-! ### The place that a path spells -/

/-- Where a component leads. -/
def Component.step (here : Place) : Component → Place
  | root => []
  | current => here
  | parent => here.dropLast
  | normal name => here ++ [name]

namespace Path

/-- The place that a path spells for a program that runs at the place `here`. -/
def target (here : Place) (path : String) : Place :=
  (components path).foldl Component.step here

theorem target_of_same {p q : String} (h : same p q = true) (here : Place) :
    target here p = target here q := by
  rw [target, target, same_iff.1 h]

theorem foldl_step_map_normal (here names : Place) :
    (names.map .normal).foldl Component.step here = here ++ names := by
  induction names generalizing here with
  | nil => exact (List.append_nil here).symm
  | cons name names ih =>
    rw [List.map_cons, List.foldl_cons, ih]
    exact List.append_assoc here [name] names

theorem target_below {dir : String} {names : Place} (hdir : dir ≠ "")
    (hnames : ∀ name ∈ names, IsName name) (here : Place) :
    target here (below dir names) = target here dir ++ names := by
  rw [target, components_below hdir hnames, List.foldl_append, foldl_step_map_normal]
  rfl

/-- The pieces of a path lead to its place from where the path starts. -/
theorem target_eq_foldl (here : Place) (path : String) :
    target here path = ((parts path).filterMap component?).foldl Component.step (origin here path) := by
  rw [target, components, List.foldl_append, start, origin]
  split
  · rfl
  · split <;> rfl

/-! ### Approaches -/

end Path

/-- A component is a name. -/
def Component.isName : Component → Bool
  | normal _ => true
  | _ => false

namespace Path

/-- The components of a path up to the last one that is no name. -/
def approach (path : String) : List Component :=
  (components path).rdropWhile Component.isName

theorem exists_map_normal {cs : List Component} (h : ∀ c ∈ cs, c.isName = true) :
    ∃ names : Place, cs = names.map .normal := by
  induction cs with
  | nil => exact ⟨[], rfl⟩
  | cons c cs ih =>
    obtain ⟨hc, hcs⟩ := List.forall_mem_cons.1 h
    obtain ⟨names, rfl⟩ := ih hcs
    cases c with
    | normal name => exact ⟨name :: names, rfl⟩
    | root | current | parent => cases hc

/-- After the approach there are names only. -/
theorem exists_components_eq (path : String) :
    ∃ names : Place, components path = approach path ++ names.map .normal := by
  have hnames : ∀ c ∈ (components path).rtakeWhile Component.isName, c.isName = true :=
    fun _ => List.mem_rtakeWhile_imp
  obtain ⟨names, heq⟩ := exists_map_normal hnames
  refine ⟨names, ?_⟩
  rw [← heq, approach, List.rdropWhile_append_rtakeWhile]

/-- Two paths with one approach that lead to one place are one path. -/
theorem same_of_target_eq {p q : String} {here : Place} (happroach : approach p = approach q)
    (h : target here p = target here q) : same p q = true := by
  obtain ⟨names, hp⟩ := exists_components_eq p
  obtain ⟨names', hq⟩ := exists_components_eq q
  rw [target, target, hp, hq, happroach, List.foldl_append, List.foldl_append,
    foldl_step_map_normal, foldl_step_map_normal] at h
  rw [same_iff, hp, hq, happroach, List.append_cancel_left h]

/-- Names below a directory do not change the approach. -/
theorem approach_below {dir : String} {names : Place} (hdir : dir ≠ "")
    (hnames : ∀ name ∈ names, IsName name) : approach (below dir names) = approach dir := by
  rw [approach, components_below hdir hnames, approach]
  induction names using List.reverseRecOn with
  | nil => rw [List.map_nil, List.append_nil]
  | append_singleton names name ih =>
    rw [List.map_append, ← List.append_assoc, List.map_singleton,
      List.rdropWhile_concat_pos _ _ _ rfl]
    exact ih fun name hname => hnames name (List.mem_append_left _ hname)

end Path

end ModelLayout

import ModelLayout.Category

/-!
# Settings and rules

`Settings` are what a settings file says, every key optional and nothing checked.  `Rules` are
what a review works with: every name has been read as a category, repetitions are gone, and
missing keys have their standard values.

## Main definitions

* `Settings`, `Settings.override`, `Settings.layered` — raw settings, and laying one over another.
* `Rules`, `Rules.standard` — the required order, the required section comments and the names
  of further methods that count as `misc`.
* `Settings.validate` — rules from settings, or the first name that is not a category.

## References

The rule configuration of `SPEC_FULL.md`, sections 3 and 7; repetitions are treated in section 13,
and the standard values are listed in section 14.
-/

namespace ModelLayout

/-- Settings as written in a file; `none` for a key that the file does not have. -/
structure Settings where
  /-- Names of categories, in the order in which a model has to declare them. -/
  requiredOrder : Option (List String) := none
  /-- Names of categories, each with the comment that has to stand above its first declaration. -/
  requiredComments : Option (List (String × String)) := none
  /-- Methods whose calls belong to the category `misc`. -/
  miscMethodNames : Option (List String) := none
  deriving DecidableEq, Repr, Inhabited

/-- Why settings are refused: a name that is not the name of a category. -/
inductive SettingsError
  | unknownOrderElement (name : String)
  | unknownCommentElement (name : String)
  deriving DecidableEq, Repr, Inhabited

/-- The text that reports refused settings. -/
def SettingsError.message : SettingsError → String
  | unknownOrderElement name => "Unknown 'required_order' model element: " ++ name
  | unknownCommentElement name => "Unknown 'required_comments' model element: " ++ name

/-- What a review checks. -/
structure Rules where
  /-- The categories whose order matters. -/
  order : List Category
  /-- The comment that has to stand above the first declaration of a category. -/
  comment : Category → Option String
  /-- Names of methods whose calls belong to `misc`, sorted and each once. -/
  misc : List String
  /-- No category is listed twice. -/
  nodup : order.Nodup := by decide

namespace Rules

/-- The section comments that are required unless the settings say otherwise. -/
def standardComment : Category → Option String
  | .association => some "# Relationships"
  | .accessor => some "# Attributes"
  | .callback => some "# Callbacks"
  | .constant => some "# Constants"
  | .enum => some "# Enums"
  | .mixin => some "# Includes"
  | .innerModule => some "# Modules"
  | .scope => some "# Scopes"
  | .validation => some "# Validations"
  | _ => none

/-- The rules that hold without any settings. -/
def standard : Rules where
  order := Category.all
  comment := standardComment
  misc := []

instance : Inhabited Rules := ⟨standard⟩

/-- The place of a category in the required order. -/
def orderIndex? (rules : Rules) (c : Category) : Option Nat :=
  rules.order.idxOf? c

/-- Whether calls of the method `name` belong to `misc`. -/
def isMisc (rules : Rules) (name : String) : Bool :=
  rules.misc.contains name

/-- Whether two sets of rules agree on everything that a review can ask. -/
def agrees (r s : Rules) : Bool :=
  r.order == s.order && Category.all.all (fun c => r.comment c == s.comment c) && r.misc == s.misc

/-- Rules that agree are equal: there are no categories but those that were compared. -/
theorem agrees_iff {r s : Rules} : r.agrees s = true ↔ r = s := by
  constructor
  · intro h
    simp only [agrees, Bool.and_eq_true, beq_iff_eq, List.all_eq_true] at h
    obtain ⟨⟨ho, hc⟩, hm⟩ := h
    cases r; cases s
    simp only [mk.injEq]
    exact ⟨ho, funext fun c => hc c (Category.mem_all c), hm⟩
  · rintro rfl
    simp [agrees]

end Rules

theorem nodup_eraseDups {α : Type} [BEq α] [LawfulBEq α] (l : List α) : l.eraseDups.Nodup := by
  match l with
  | [] => exact List.nodup_nil
  | a :: l =>
    rw [List.eraseDups_cons]
    refine List.nodup_cons.2 ⟨?_, nodup_eraseDups _⟩
    rw [List.mem_eraseDups]
    simp
termination_by l.length
decreasing_by exact Nat.lt_succ_of_le (List.length_filter_le _ _)

/-- The strings of a list, in the order of their bytes and each once. -/
def sortedSet (names : List String) : List String :=
  names.eraseDups.mergeSort (fun a b => decide (a ≤ b))

/-- The entries of a list that occurred before, either in the list or among `seen`. -/
def repeatsAfter (seen : List Category) : List Category → List Category
  | [] => []
  | c :: cs => if c ∈ seen then c :: repeatsAfter seen cs else repeatsAfter (c :: seen) cs

/-- Rules, together with the entries of the required order that were dropped as repetitions. -/
structure Validated where
  rules : Rules
  repeats : List Category
  deriving Inhabited

/-- The warnings about dropped repetitions. -/
def Validated.warnings (v : Validated) : List String :=
  v.repeats.map fun c =>
    "'required_order' lists '" ++ c.name ++ "' more than once, keeping the first"

namespace Settings

/-- Settings in which every key that `upper` has replaces the key of `base`. -/
def override (base upper : Settings) : Settings where
  requiredOrder := upper.requiredOrder <|> base.requiredOrder
  requiredComments := upper.requiredComments <|> base.requiredComments
  miscMethodNames := upper.miscMethodNames <|> base.miscMethodNames

/-- Several settings in one, the later over the earlier. -/
def layered (layers : List Settings) : Settings :=
  layers.foldl override {}

/-- Read the names of an order, up to the first that is not a category. -/
def parseOrder : List String → Except SettingsError (List Category)
  | [] => .ok []
  | name :: names =>
    match Category.parse? name with
    | none => .error (.unknownOrderElement name)
    | some c => (parseOrder names).map (c :: ·)

/-- Read the names of a table of comments, up to the first that is not a category. -/
def parseComments : List (String × String) → Except SettingsError (List (Category × String))
  | [] => .ok []
  | (name, text) :: table =>
    match Category.parse? name with
    | none => .error (.unknownCommentElement name)
    | some c => (parseComments table).map ((c, text) :: ·)

/-- A table in the order of the bytes of its keys. -/
def sortTable (table : List (String × String)) : List (String × String) :=
  table.mergeSort (fun a b => decide (a.1 ≤ b.1))

/-- The text that a table gives to a category; among several the last one counts. -/
def lookupLast (table : List (Category × String)) (c : Category) : Option String :=
  (table.reverse.find? (·.1 == c)).map (·.2)

/-- The categories that the settings list as order, with the repetitions still in it. -/
def fullOrder (s : Settings) : Except SettingsError (List Category) :=
  match s.requiredOrder with
  | none => .ok Rules.standard.order
  | some names => parseOrder names

/-- The comment that the settings require for each category.  The table is read in the order
of its keys; a key that names a category again replaces the earlier one. -/
def commentTable (s : Settings) : Except SettingsError (Category → Option String) :=
  match s.requiredComments with
  | none => .ok Rules.standard.comment
  | some table => (parseComments (sortTable table)).map lookupLast

/-- The `misc` methods of the settings; a name may be written with colons in front. -/
def miscSet (s : Settings) : List String :=
  sortedSet ((s.miscMethodNames.getD []).map Text.dropColons)

/-- Rules from settings.  The order is read before the comments, so an unknown name in the
order is reported first. -/
def validate (s : Settings) : Except SettingsError Validated :=
  match s.fullOrder with
  | .error e => .error e
  | .ok order =>
    match s.commentTable with
    | .error e => .error e
    | .ok comment =>
      .ok {
        rules := { order := order.eraseDups, comment, misc := s.miscSet, nodup := nodup_eraseDups _ }
        repeats := repeatsAfter [] order }

end Settings

end ModelLayout

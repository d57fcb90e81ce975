import ModelLayout.Text.Blank

/-!
# Categories of model declarations

Every declaration that the layout of a model speaks about belongs to one of thirteen
categories.  A category has one name; when a name is read, blanks around it and colons in
front of it are allowed, so that `scope` and ` :scope ` are the same.

* `Category`, `Category.all` — the categories, in their usual order.
* `Category.name`, `Category.parse?` — writing and reading their names.
* `UnknownCategory`, `Category.parse` — reading that tells which text was refused.

## References

The category enumeration of `SPEC_FULL.md`, section 3; the names are those of section 14.
-/

namespace ModelLayout

/-- The kinds of declaration found in a model class. -/
inductive Category
  | innerModule
  | mixin
  | enum
  | constant
  | association
  | validation
  | scope
  | accessor
  | callback
  | misc
  | constructor
  | classMethod
  | instanceMethod
  deriving DecidableEq, Repr, Inhabited

/-- The refusal of a text that names no category; it holds the text as it was given. -/
structure UnknownCategory where
  text : String
  deriving DecidableEq, Repr, Inhabited

namespace Category

/-- All categories, in the order in which a model usually declares them. -/
def all : List Category :=
  [innerModule, mixin, enum, constant, association, validation, scope, accessor, callback, misc,
    constructor, classMethod, instanceMethod]

/-- The name by which settings and messages refer to a category. -/
def name : Category → String
  | innerModule => "module"
  | mixin => "include"
  | enum => "enum"
  | constant => "constant"
  | association => "association"
  | validation => "validation"
  | scope => "scope"
  | accessor => "attribute"
  | callback => "callback"
  | misc => "misc"
  | constructor => "constructor"
  | classMethod => "class_method"
  | instanceMethod => "instance_method"

/-- The category that a text names.  Blanks at both ends and then colons at the front are
dropped; the rest is the exact name. -/
def parse? (s : String) : Option Category :=
  let word := Text.dropColons (Text.trim s)
  all.find? (·.name == word)

/-- The category that a text names, or the refusal of the text. -/
def parse (s : String) : Except UnknownCategory Category :=
  match parse? s with
  | some c => .ok c
  | none => .error ⟨s⟩

theorem mem_all (c : Category) : c ∈ all := by cases c <;> decide

end Category

end ModelLayout

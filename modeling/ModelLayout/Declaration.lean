import ModelLayout.Settings
import ModelLayout.Outline.Basic

/-!
# What a node declares

A node is a declaration of some category by its shape; a call is one by the name of the method
that it calls.

## Main definitions

* `PatternStep`, `PatternStep.found` — patterns that are searched for in a text.
* `NamePattern`, `callRules` — the names of methods that belong to a category.
* `callCategory?` — the category of a call.
* `Node.category?` — the category of a node.
* `Node.isPrivateMarker` — the call after which a model is free to do as it likes.

## References

The node classifier of `SPEC_FULL.md`, section 4.1; the private marker is that of section 13.
-/

namespace ModelLayout

/-- A step of a pattern that is searched for in a text. -/
inductive PatternStep
  /-- The start of the text; no character is taken. -/
  | textStart
  /-- The end of the text; no character is taken. -/
  | textEnd
  /-- One of several words. -/
  | oneOf (words : List String)
  deriving DecidableEq, Repr, Inhabited

namespace PatternStep

/-- Whether the steps can be taken one after the other from some place in a text.  The characters
`cs` are those from there on; `atStart` tells whether they are the whole text. -/
def taken : List PatternStep → (atStart : Bool) → (cs : List Char) → Bool
  | [], _, _ => true
  | textStart :: steps, atStart, cs => atStart && taken steps atStart cs
  | textEnd :: steps, atStart, cs => cs.isEmpty && taken steps atStart cs
  | oneOf words :: steps, atStart, cs =>
    words.any fun w =>
      w.toList.isPrefixOf cs && taken steps (atStart && w.isEmpty) (cs.drop w.toList.length)

/-- Whether the steps can be taken from some place in `cs`, which is the whole text or its end. -/
def found (steps : List PatternStep) : (atStart : Bool) → (cs : List Char) → Bool
  | atStart, [] => taken steps atStart []
  | atStart, c :: cs => taken steps atStart (c :: cs) || found steps false cs

end PatternStep

/-- A set of method names. -/
inductive NamePattern
  /-- All names that start with a text. -/
  | startsWith (head : String)
  /-- Exactly the names listed. -/
  | oneOf (names : List String)
  /-- All names in which a pattern is found. -/
  | containing (steps : List PatternStep)
  deriving DecidableEq, Repr, Inhabited

/-- Whether a name is in the set. -/
def NamePattern.matches : NamePattern → String → Bool
  | startsWith head, name => head.toList.isPrefixOf name.toList
  | oneOf names, name => names.contains name
  | containing steps, name => PatternStep.found steps true name.toList

/-- When a callback can be run: relative to a moment of the life of a record. -/
def callbackTimes : List String :=
  ["after", "before", "around"]

/-- The moments of the life of a record at which a callback can be run. -/
def hooks : List String :=
  ["initialize", "find", "touch", "save", "validation", "create", "update", "destroy", "commit",
    "rollback"]

/-- The methods that register a callback: a time and a moment, and nothing around them. -/
def callbackPattern : List PatternStep :=
  [.textStart, .oneOf callbackTimes, .oneOf ["_"], .oneOf hooks, .textEnd]

/-- The method names that belong to a category whatever the settings. -/
def callRules : List (NamePattern × Category) :=
  [(.startsWith "validate", .validation),
    (.oneOf ["has_one", "has_many", "has_and_belongs_to_many", "belongs_to"], .association),
    (.containing callbackPattern, .callback),
    (.oneOf ["scope", "default_scope"], .scope),
    (.oneOf ["include"], .mixin),
    (.oneOf ["enum"], .enum),
    (.startsWith "attr_", .accessor)]

/-- The category that the first rule for a name gives it.  Names that no rule knows may be among
the `misc` methods. -/
def categoryBy (rules : List (NamePattern × Category)) (isMisc : String → Bool) (name : String) :
    Option Category :=
  match rules.find? (·.1.matches name) with
  | some (_, c) => some c
  | none => if isMisc name then some .misc else none

/-- The category of a call by the name of the method. -/
def callCategory? (isMisc : String → Bool) (name : String) : Option Category :=
  categoryBy callRules isMisc name

namespace Node

/-- The name of the method that makes a new object ready. -/
def constructorName : String := "initialize"

/-- The call that opens the part of a class that is not reviewed. -/
def privateName : String := "private"

/-- The category that a node belongs to, if it declares something. -/
def category? (isMisc : String → Bool) (n : Node) : Option Category :=
  match n.shape with
  | .constant => some .constant
  | .moduleDef => some .innerModule
  | .method => if n.name = some constructorName then some .constructor else some .instanceMethod
  | .singletonMethod => some .classMethod
  | .call => n.name.bind (callCategory? isMisc)
  | _ => none

/-- A call of `private` on its own, without receiver and arguments. -/
def isPrivateMarker (n : Node) : Bool :=
  n.shape == .call && !n.hasReceiver && !n.hasArguments && n.name == some privateName

end Node

end ModelLayout

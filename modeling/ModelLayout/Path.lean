import ModelLayout.Text.Pieces

/-!
# Paths

A path is kept as it was written, for it is shown that way, but two paths are compared by their
components: `m//x.rb` and `m/./x.rb` are the same path, `./x.rb` and `x.rb` are not.

## Main definitions

* `Path.parts` — what stands between the slashes of a path.
* `Component`, `Path.components` — the components of a path.
* `Path.le`, `Path.same` — the order of paths and their equality, both by components.
* `Path.join`, `Path.below` — a path and what comes below it.
* `IsName` — the names that files and directories have.
* `Place`, `Path.absolute` — a place by the names that lead to it from the root, and its path.
* `Path.isRuby` — the path of a Ruby file.
-/

namespace ModelLayout

/-- A place in a file system: the names that lead there from the root. -/
abbrev Place := List String

/-- A name that can stand in a path. -/
structure IsName (name : String) : Prop where
  ne_empty : name ≠ ""
  ne_dot : name ≠ "."
  ne_dots : name ≠ ".."
  no_slash : '/' ∉ name.toList

instance (name : String) : Decidable (IsName name) :=
  decidable_of_iff (name ≠ "" ∧ name ≠ "." ∧ name ≠ ".." ∧ '/' ∉ name.toList)
    ⟨fun ⟨h₁, h₂, h₃, h₄⟩ => ⟨h₁, h₂, h₃, h₄⟩, fun ⟨h₁, h₂, h₃, h₄⟩ => ⟨h₁, h₂, h₃, h₄⟩⟩

/-- A step of a path. -/
inductive Component
  /-- The slash in front of an absolute path. -/
  | root
  /-- The dot in front of a relative path. -/
  | current
  /-- Two dots. -/
  | parent
  | normal (name : String)
  deriving DecidableEq, Repr, Inhabited

namespace Component

/-- The order of the kinds of components. -/
def rank : Component → Nat
  | root => 0
  | current => 1
  | parent => 2
  | normal _ => 3

/-- The order of components: by kind, and names by their bytes. -/
def le : Component → Component → Bool
  | normal a, normal b => decide (a ≤ b)
  | a, b => decide (a.rank ≤ b.rank)

end Component

namespace Path

/-- What stands between the slashes of a path, empty pieces too. -/
def parts (path : String) : List String :=
  (Text.pieces (· == '/') path.toList).map String.ofList

/-- Whether a path starts at the root of the file system. -/
def isAbsolute (path : String) : Bool :=
  path.toList.head? == some '/'

/-- The component that a piece between slashes stands for.  Empty pieces and single dots do not
count. -/
def component? : String → Option Component
  | "" | "." => none
  | ".." => some .parent
  | name => some (.normal name)

/-- What a path starts with: a slash, a dot, or nothing in particular. -/
def start (path : String) : List Component :=
  if isAbsolute path then [.root]
  else if (parts path).head? == some "." then [.current]
  else []

/-- The components of a path. -/
def components (path : String) : List Component :=
  start path ++ (parts path).filterMap component?

/-- Where a path starts for a program that runs at the place `here`. -/
def origin (here : Place) (path : String) : Place :=
  if isAbsolute path then [] else here

/-- The order of lists of components: the first difference decides. -/
def componentsLe : List Component → List Component → Bool
  | [], _ => true
  | _ :: _, [] => false
  | a :: as, b :: bs => if a = b then componentsLe as bs else a.le b

/-- The order of paths. -/
def le (p q : String) : Bool :=
  componentsLe (components p) (components q)

/-- Two spellings of one path. -/
def same (p q : String) : Bool :=
  components p == components q

/-- The path of what is called `name` below the directory `dir`. -/
def join (dir name : String) : String :=
  if dir = "" ∨ dir.toList.getLast? = some '/' then dir ++ name else dir ++ "/" ++ name

/-- The path of what the names lead to from the directory `dir`. -/
def below (dir : String) (names : Place) : String :=
  names.foldl join dir

/-- The path of a place from the root. -/
def absolute (place : Place) : String :=
  below "/" place

/-- The name that a path ends with. -/
def fileName? (path : String) : Option String :=
  match (components path).getLast? with
  | some (.normal name) => some name
  | _ => none

/-- A name with the extension of Ruby files: something, and then `.rb`. -/
def hasRubyExtension (name : String) : Bool :=
  match name.toList.reverse with
  | 'b' :: 'r' :: '.' :: _ :: _ => true
  | _ => false

/-- Whether a path is that of a Ruby file. -/
def isRuby (path : String) : Bool :=
  (fileName? path).any hasRubyExtension

end Path

end ModelLayout

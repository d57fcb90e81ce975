import ModelLayout.Editor.Position
import ModelLayout.Review

/-!
# A session with an editor

The editor tells which documents are opened, changed and closed.  The documents that are held
are reviewed each time their text changes, and the editor is told what was found.  Documents go by
names, and all that matters of two names is whether they are equal.

## Main definitions

* `Document`, `Diagnostic` — what is held, and what is told.
* `Message`, `Notice`, `Reply` — what the editor sends, and what it gets.
* `Documents` — the documents that are held.
* `Session`, `Session.attend` — a session, and the answer to a message.

## References

The language server of `SPEC_FULL.md`, section 17.
-/

namespace ModelLayout
namespace Editor

/-- A document that is held, with the offenses found in it. -/
structure Document where
  content : String
  offenses : List Offense
  deriving DecidableEq, Repr, Inhabited

/-- An offense as it is told to the editor. -/
structure Diagnostic where
  range : Range
  code : String
  message : String
  deriving DecidableEq, Repr, Inhabited

/-- The source that the editor shows with each diagnostic. -/
def diagnosticSource : String := "model-structure"

/-- The name under which the session presents itself. -/
def serverName : String := "model-structure-ls"

/-- The version under which the session presents itself. -/
def serverVersion : String := "0.1.0"

/-- The text that is logged when the session has begun. -/
def welcome : String := serverName ++ " initialized"

/-- What the editor sends.  Documents go by what `Name` holds. -/
inductive Message (Name : Type)
  /-- The editor asks what is offered. -/
  | hello
  /-- The editor is ready. -/
  | ready
  /-- A document with its text. -/
  | opened (name : Name) (text : String)
  /-- New texts of a document; the last one counts. -/
  | changed (name : Name) (texts : List String)
  | closed (name : Name)
  /-- The editor is about to leave. -/
  | goodbye
  deriving DecidableEq, Repr, Inhabited

/-- What the editor is told without having asked. -/
inductive Notice (Name : Type)
  | log (text : String)
  /-- All diagnostics of a document. -/
  | diagnostics (name : Name) (found : List Diagnostic)
  deriving DecidableEq, Repr, Inhabited

/-- The answer to what the editor asked. -/
inductive Reply
  /-- Name and version of the server; documents are sent as a whole. -/
  | offer (name version : String)
  /-- The farewell is acknowledged. -/
  | farewell
  deriving DecidableEq, Repr, Inhabited

/-- The documents that are held, each with its name. -/
abbrev Documents (Name : Type) := List (Name × Document)

namespace Documents

variable {Name : Type} [DecidableEq Name]

/-- The document of the given name. -/
def get? (ds : Documents Name) (name : Name) : Option Document :=
  List.lookup name ds

/-- Hold a document no longer. -/
def erase (name : Name) (ds : Documents Name) : Documents Name :=
  ds.filter (·.1 ≠ name)

/-- Hold a document; one of the same name is replaced. -/
def put (name : Name) (d : Document) (ds : Documents Name) : Documents Name :=
  (name, d) :: ds.erase name

end Documents

/-- The diagnostic of an offense in a text. -/
def diagnostic (text : String) (f : Offense) : Diagnostic where
  range := Editor.range text f.span
  code := f.kind.name
  message := f.message

/-- The diagnostics of a document. -/
def Document.diagnostics (d : Document) : List Diagnostic :=
  d.offenses.map (diagnostic d.content)

/-- A document with the given text, reviewed.  A text that cannot be parsed has no offenses. -/
def review (grammar : Ruby.Grammar) (rules : Rules) (text : String) : Document where
  content := text
  offenses :=
    match offensesIn grammar rules text with
    | .ok offenses => offenses
    | .error _ => []

/-- A session: the documents that are held. -/
structure Session (Name : Type) where
  documents : Documents Name := []
  deriving DecidableEq, Repr, Inhabited

/-- What follows from a message. -/
structure Outcome (Name : Type) where
  reply : Option Reply := none
  notices : List (Notice Name) := []
  session : Session Name
  deriving DecidableEq, Repr, Inhabited

namespace Session

variable {Name : Type} [DecidableEq Name]

/-- What the editor is told about a document that is held. -/
def publish (s : Session Name) (name : Name) : List (Notice Name) :=
  match s.documents.get? name with
  | none => []
  | some d => [.diagnostics name d.diagnostics]

/-- Hold a document with a new text, and tell the editor what is found in it. -/
def update (grammar : Ruby.Grammar) (rules : Rules) (s : Session Name) (name : Name)
    (text : String) : Outcome Name :=
  let s' : Session Name := { documents := s.documents.put name (review grammar rules text) }
  { notices := s'.publish name, session := s' }

/-- The answer to a message. -/
def attend (grammar : Ruby.Grammar) (rules : Rules) (s : Session Name) :
    Message Name → Outcome Name
  | .hello => { reply := some (.offer serverName serverVersion), session := s }
  | .ready => { notices := [.log welcome], session := s }
  | .opened name text => s.update grammar rules name text
  | .changed name texts =>
    match texts.getLast? with
    | none => { session := s }
    | some text => s.update grammar rules name text
  | .closed name =>
    { notices := [.diagnostics name []], session := { documents := s.documents.erase name } }
  | .goodbye => { reply := some .farewell, session := s }

/-- The answers to several messages, each given before the next message is looked at. -/
def run (grammar : Ruby.Grammar) (rules : Rules) (s : Session Name) :
    List (Message Name) → List (Outcome Name)
  | [] => []
  | m :: ms =>
    let outcome := s.attend grammar rules m
    outcome :: run grammar rules outcome.session ms

end Session
end Editor
end ModelLayout

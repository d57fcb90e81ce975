import ModelLayout.Editor.Session
import ModelLayout.Shell.Uri

/-!
# The protocol around a session

A session takes place between the greeting and the farewell of the editor: at any other time
requests are refused, and whatever else is sent is passed over.  Documents are named by spellings
of URIs, and a message about a document without a proper name is passed over too.

## Main definitions

* `Phase`, `Refusal` — how far a session has come, and why a request is refused.
* `Server`, `Server.receive`, `Server.run` — a server, and its answers to messages as they are
  sent.
-/

namespace ModelLayout
namespace Editor

/-- A message by the URI of its document, if the spelling is that of a URI. -/
def Message.resolve? : Message String → Option (Message Uri)
  | .hello => some .hello
  | .ready => some .ready
  | .opened name text => (Uri.parse? name).map (.opened · text)
  | .changed name texts => (Uri.parse? name).map (.changed · texts)
  | .closed name => (Uri.parse? name).map .closed
  | .goodbye => some .goodbye

/-- Why a request is refused. -/
inductive Refusal
  /-- The editor has not sent its greeting. -/
  | tooEarly
  /-- The greeting is given once, and nothing is asked for after the farewell. -/
  | outOfPlace
  deriving DecidableEq, Repr, Inhabited

/-- The number by which an editor knows the reason. -/
def Refusal.code : Refusal → Int
  | tooEarly => -32002
  | outOfPlace => -32600

/-- The reason in words. -/
def Refusal.message : Refusal → String
  | tooEarly => "Server not initialized"
  | outOfPlace => "Invalid request"

/-- How far a session has come. -/
inductive Phase
  /-- The editor has not sent its greeting. -/
  | awaited
  | running
  /-- The editor has sent its farewell. -/
  | ended
  deriving DecidableEq, Repr, Inhabited

/-- A session, and how far it has come. -/
structure Server where
  phase : Phase := .awaited
  session : Session Uri := {}
  deriving Inhabited

/-- What a server answers: what the session does, or why it was not asked. -/
structure Answer where
  reply : Option (Except Refusal Reply) := none
  notices : List (Notice Uri) := []
  server : Server

namespace Server

/-- The answer to a message that is out of place: requests are refused. -/
def refuse (s : Server) (reason : Refusal) : Message Uri → Answer
  | .hello | .goodbye => { reply := some (.error reason), server := s }
  | _ => { server := s }

/-- The answer of the session, which goes on in the given phase. -/
def pass (grammar : Ruby.Grammar) (rules : Rules) (s : Server) (phase : Phase) (m : Message Uri) :
    Answer :=
  let outcome := s.session.attend grammar rules m
  { reply := outcome.reply.map .ok, notices := outcome.notices, server := ⟨phase, outcome.session⟩ }

/-- The answer to a message. -/
def step (grammar : Ruby.Grammar) (rules : Rules) (s : Server) (m : Message Uri) : Answer :=
  match s.phase, m with
  | .awaited, .hello => s.pass grammar rules .running .hello
  | .awaited, m => s.refuse .tooEarly m
  | .running, .hello => s.refuse .outOfPlace .hello
  | .running, .goodbye => s.pass grammar rules .ended .goodbye
  | .running, m => s.pass grammar rules .running m
  | .ended, m => s.refuse .outOfPlace m

/-- The answer to a message as it was sent. -/
def receive (grammar : Ruby.Grammar) (rules : Rules) (s : Server) (m : Message String) : Answer :=
  match m.resolve? with
  | none => { server := s }
  | some m => s.step grammar rules m

/-- The answers to several messages. -/
def run (grammar : Ruby.Grammar) (rules : Rules) (s : Server) : List (Message String) → List Answer
  | [] => []
  | m :: ms =>
    let answer := s.receive grammar rules m
    answer :: run grammar rules answer.server ms

/-- The documents that are held, in the order of their names. -/
def documents (s : Server) : Documents Uri :=
  s.session.documents.mergeSort fun a b => decide (a.1.text ≤ b.1.text)

end Server
end Editor
end ModelLayout

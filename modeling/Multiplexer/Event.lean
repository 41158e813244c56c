import Multiplexer.Interest

/-! What a poll hands to its caller: readiness of a descriptor, or a finished operation on it. -/
namespace Multiplexer

/-- A descriptor, socket or handle of the operating system, by number. The 32 bits of a Unix
descriptor also stand for the sockets and handles of Windows, which are as wide as a pointer there;
so nothing is said about more than 2³² of them. -/
abbrev Descriptor := Int32

/-- Chosen by the caller at registration and handed back with every event. -/
abbrev Token := UInt64

/-- Tells the operations of one descriptor apart; zero is the null marker. -/
abbrev Marker := UInt64

inductive Occurrence where
  | readiness (ready : Interest)
  | completion (marker : Marker) (bytes : UInt32)
  deriving DecidableEq, Repr

structure Event where
  descriptor : Descriptor
  token : Token
  occurrence : Occurrence
  deriving DecidableEq, Repr

namespace Event

def ready (e : Event) : Interest :=
  match e.occurrence with
  | .readiness ready => ready
  | .completion .. => .none

def isCompletion (e : Event) : Bool :=
  match e.occurrence with
  | .readiness _ => false
  | .completion .. => true

end Event

def Occurrence.describe : Occurrence → String
  | .readiness ready => "Readiness(" ++ ready.describe ++ ")"
  | .completion marker bytes =>
    "Completion \x7b marker: CompletionMarker(" ++ toString marker ++ "), bytes: " ++
      toString bytes ++ " \x7d"

def Event.describe (e : Event) : String :=
  "Event \x7b descriptor: " ++ toString e.descriptor ++ ", token: Token(" ++ toString e.token ++
    "), kind: " ++ e.occurrence.describe ++ " \x7d"

end Multiplexer

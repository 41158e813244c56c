import Multiplexer.Errno
import Multiplexer.Event
import Multiplexer.Kind
import Multiplexer.Text.Quoted

/-! Failures and their causes. Every operation reports an `Error`; `message` words it and `sources`
lists the wordings of what caused it, nearest first. -/
namespace Multiplexer

inductive CauseKind where
  | other
  | unsupported
  | permissionDenied
  deriving DecidableEq, Repr

def CauseKind.title : CauseKind → String
  | .other => "Other"
  | .unsupported => "Unsupported"
  | .permissionDenied => "PermissionDenied"

/-- Why a request to the operating system failed: its error number, or a reason of our own. -/
inductive Cause where
  | os (number : Errno)
  | reason (kind : CauseKind) (text : String)
  deriving DecidableEq, Repr

namespace Cause

def text : Cause → String
  | os number => "os error " ++ toString number
  | reason _ text => text

def errno? : Cause → Option Errno
  | os number => some number
  | reason .. => none

end Cause

inductive Error where
  /-- The kind asked for does not exist on this platform. -/
  | configuration (kind : Kind)
  /-- The facility or its wakeup channel could not be acquired. -/
  | resourceExhaustion (kind : Kind) (source : Cause)
  /-- Every candidate failed, the last one with `last`. -/
  | noBackend (attempted : List Kind) (last : Error)
  | alreadyRegistered (descriptor : Descriptor)
  | notRegistered (descriptor : Descriptor)
  | capacityExceeded (descriptor : Descriptor) (capacity : Nat)
  /-- The facility cannot watch this descriptor, or not in this way. -/
  | unsupported (descriptor : Descriptor) (source : Cause)
  /-- A wait or a registration failed otherwise. -/
  | facility (source : Cause)
  | invalidBackendName (given : String)
  deriving DecidableEq, Repr

namespace Error

def message : Error → String
  | configuration kind => kind.name ++ " backend is not supported on this platform"
  | resourceExhaustion kind source =>
    "cannot acquire " ++ kind.name ++ " resources: " ++ source.text
  | noBackend attempted _ =>
    "no usable backend among [" ++ ", ".intercalate (attempted.map Kind.title) ++ "]"
  | alreadyRegistered fd => "descriptor " ++ toString fd ++ " is already registered"
  | notRegistered fd => "descriptor " ++ toString fd ++ " is not registered"
  | capacityExceeded fd capacity =>
    "descriptor " ++ toString fd ++ " exceeds select capacity of " ++ toString capacity
  | unsupported fd source =>
    "descriptor " ++ toString fd ++ " is not supported by this backend: " ++ source.text
  | facility source => "multiplexer facility error: " ++ source.text
  | invalidBackendName given => "unknown backend name: " ++ Text.quoted given

/-- The wordings of the causes, from the nearest on. -/
def sources : Error → List String
  | resourceExhaustion _ source | unsupported _ source | facility source => [source.text]
  | noBackend _ last => last.message :: last.sources
  | _ => []

end Error

/-- Reads a backend name, or reports it unchanged. -/
def Kind.parse (s : String) : Except Error Kind :=
  match Kind.ofName? s with
  | some kind => .ok kind
  | none => .error (.invalidBackendName s)

end Multiplexer

import Multiplexer.Text.Blank

/-! The multiplexing facilities and their names. `Kind.ofName?` reads a name back in any casing of
ASCII letters and with any padding of blanks. -/
namespace Multiplexer

/-- A facility that can serve a poller; `auto` stands for the platform's choice. -/
inductive Kind where
  | auto
  | epoll
  | kqueue
  | select
  | iocp
  | ioUring
  deriving DecidableEq, Repr

namespace Kind

def name : Kind → String
  | auto => "auto"
  | epoll => "epoll"
  | kqueue => "kqueue"
  | select => "select"
  | iocp => "iocp"
  | ioUring => "io_uring"

/-- The name of the kind as it stands in structured descriptions. -/
def title : Kind → String
  | auto => "Auto"
  | epoll => "Epoll"
  | kqueue => "Kqueue"
  | select => "Select"
  | iocp => "Iocp"
  | ioUring => "IoUring"

/-- Completion ports report finished operations; every other facility reports readiness. -/
def isCompletionBased (k : Kind) : Bool := k == iocp

/-- The candidates of the platform, best first. -/
def fallbackChain : List Kind := [ioUring, epoll, select]

def isSupported (k : Kind) : Bool := k == auto || fallbackChain.contains k

def ofWord? : String → Option Kind
  | "auto" => some auto
  | "epoll" => some epoll
  | "kqueue" => some kqueue
  | "select" => some select
  | "iocp" => some iocp
  | "io_uring" => some ioUring
  | "iouring" => some ioUring
  | "uring" => some ioUring
  | _ => none

/-- Reads a name, ignoring blanks around it and the case of ASCII letters. -/
def ofName? (s : String) : Option Kind :=
  ofWord? (String.ofList ((Text.trimBlanks s.toList).map Char.toLower))

end Kind
end Multiplexer

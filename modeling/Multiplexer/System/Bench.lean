import Multiplexer.Session
import Multiplexer.System.Kernel.Respond

/-! A bench: the simulated kernel together with names for the descriptors that the owner of a poller
opens on it. A name keeps its number after it is closed, and then the number may go to another
name. It is for runs of whole sessions. -/
namespace Multiplexer

structure Bench where
  kernel : Kernel
  /-- Names with their descriptors, the latest in front. -/
  opened : List (String × Descriptor)
  closed : List (String × Descriptor)

namespace Bench

def start : Bench := ⟨.initial, [], []⟩

/-- Turns allowed to a loop: more than a pipe holds bytes, and far more than a wait is prolonged. -/
def patience : Nat := 100000

def run {α : Type} (b : Bench) (p : Sys α) : Except Halt α × Bench :=
  let outcome := (p patience).perform Kernel.respond b.kernel
  (outcome.result, { b with kernel := outcome.system })

/-- The kernel shares the queue of completions with the session's ring, and sees what was taken off
it. -/
def share (b : Bench) (s : Session) : Bench :=
  match s.poller? with
  | some (.ring r) => { b with kernel := { b.kernel with room := r.queues.completionRoom } }
  | _ => b

/-- The descriptor of a name; one that was never opened is a number. -/
def descriptor? (b : Bench) (name : String) : Option Descriptor :=
  b.opened.lookup name <|> b.closed.lookup name <|> name.toInt?.map .ofInt

def names (b : Bench) (fd : Descriptor) : List String :=
  (b.opened.filter (·.2 == fd)).map (·.1)

private def bind (b : Bench) (name : String) (fd : Descriptor) : Bench :=
  { b with opened := (name, fd) :: b.opened }

private def bindPair (b : Bench) (first second : String)
    (opened : (Descriptor × Descriptor) × Kernel) : Bench :=
  let ((x, y), kernel) := opened
  ({ b with kernel }.bind first x).bind second y

def openSockets (b : Bench) (first second : String) : Bench :=
  b.bindPair first second b.kernel.openSockets

def openPipe (b : Bench) (reader writer : String) : Bench :=
  b.bindPair reader writer b.kernel.openPipe

def openFile (b : Bench) (name : String) : Bench :=
  let (fd, kernel) := b.kernel.install .regular
  { b with kernel }.bind name fd

def write (b : Bench) (fd : Descriptor) (length : Nat) : Except Errno Nat × Bench :=
  let (result, kernel) := b.kernel.write fd length
  (result, { b with kernel })

def read (b : Bench) (fd : Descriptor) (room : Nat) : Except Errno Nat × Bench :=
  let (result, kernel) := b.kernel.read fd room
  (result, { b with kernel })

def finishWriting (b : Bench) (name : String) : Bench :=
  match b.opened.lookup name with
  | none => b
  | some fd => { b with kernel := b.kernel.finishWriting fd }

def close (b : Bench) (name : String) : Bench :=
  match b.opened.lookup name with
  | none => b
  | some fd =>
    { kernel := b.kernel.close fd
      opened := b.opened.filter (·.1 != name)
      closed := (name, fd) :: b.closed }

/-- Has another thread signal a channel after a span in nanoseconds. -/
def wakeLater (b : Bench) (channel : Channel) (span : Nat) : Bench :=
  match channel with
  | .pipe p => { b with kernel := b.kernel.writeLater p.writer 1 span }
  | .counter c => { b with kernel := b.kernel.writeLater c.descriptor 8 span }
  | .sockets _ | .port _ => b

end Bench
end Multiplexer

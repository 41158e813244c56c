import Multiplexer.System.Kernel.Basic

/-! Bytes in and out of files. Nothing blocks: what cannot be done now is refused. -/
namespace Multiplexer.Kernel

/-- Tells a sender of room, once for each of its messages that has been read to its end, if what is
left then leaves room. -/
def notifyRoom (k : Kernel) (sender : FileId) (inbox : List Piece) (gone : Nat) : Kernel :=
  (List.range gone).foldl
    (fun k i => if Piece.leavesRoom (inbox.drop (i + 1)) then k.notify sender .output else k) k

/-- Reads from a socket. A reset is reported once, after all that was received. -/
def readSocket (k : Kernel) (id peer : FileId) (inbox : List Piece) (finished reset : Bool)
    (room : Nat) : Except Errno Nat × Kernel :=
  if room = 0 then (.ok 0, k)
  else if inbox.isEmpty then
    if reset then (.error .connectionReset, k.setFile id (.socket peer [] finished false))
    else (if (k.file peer).isFinished then .ok 0 else .error .wouldBlock, k)
  else
    let (taken, rest) := Piece.take room inbox
    let k := k.setFile id (.socket peer rest finished reset)
    (.ok taken, k.notifyRoom peer inbox (inbox.length - rest.length))

/-- Reads from a pipe. A full one has room again once a page has been read to its end. -/
def readPipe (k : Kernel) (id writer : FileId) (pages : List Piece) (room : Nat) :
    Except Errno Nat × Kernel :=
  if room = 0 then (.ok 0, k)
  else if pages.isEmpty then (if k.file writer = .closed then .ok 0 else .error .wouldBlock, k)
  else
    let (taken, rest) := Piece.take room pages
    let k := k.setFile id (.pipeReader writer rest)
    (.ok taken,
      if pages.length = Piece.pageCount ∧ rest.length < Piece.pageCount then k.notify writer .output
      else k)

def readFile (k : Kernel) (id : FileId) (room : Nat) : Except Errno Nat × Kernel :=
  match k.file id with
  | .regular => (.ok room, k)
  | .socket peer inbox finished reset => k.readSocket id peer inbox finished reset room
  | .pipeReader writer pages => k.readPipe id writer pages room
  | .counter 0 => (.error .wouldBlock, k)
  | .counter _ => (.ok 8, k.setFile id (.counter 0))
  | .timer deadline expired =>
    if expired then (.ok 8, k.setFile id (.timer deadline false)) else (.error .wouldBlock, k)
  | .facility => (.error .invalidArgument, k)
  | .pipeWriter .. | .closed => (.error .badDescriptor, k)

/-- Writes to a socket as much as can be sent, in messages; its peer hears of each. -/
def writeSocket (k : Kernel) (peer : FileId) (finished : Bool) (length : Nat) :
    Except Errno Nat × Kernel :=
  match k.file peer with
  | .socket back inbox peerFinished reset =>
    if finished then (.error .brokenPipe, k)
    else
      let messages := Piece.split (Piece.charge inbox) length length
      let k := k.setFile peer (.socket back (inbox ++ messages) peerFinished reset)
      (if length = 0 ∨ messages ≠ [] then .ok (Piece.bytes messages) else .error .wouldBlock,
        messages.foldl (fun k _ => k.notify peer .input) k)
  | _ => (.error .brokenPipe, k)

/-- Writes to a pipe as much as there is room for. Its reader hears even of a write that was
refused. -/
def writePipe (k : Kernel) (reader : FileId) (length : Nat) : Except Errno Nat × Kernel :=
  if length = 0 then (.ok 0, k)
  else
    match k.file reader with
    | .pipeReader writer pages =>
      let (written, pages) := Piece.fill length pages
      let k := k.setFile reader (.pipeReader writer pages)
      (if written = 0 then .error .wouldBlock else .ok written, k.notify reader .input)
    | _ => (.error .brokenPipe, k)

/-- A write to a counter adds one. -/
def writeFile (k : Kernel) (id : FileId) (length : Nat) : Except Errno Nat × Kernel :=
  match k.file id with
  | .socket peer _ finished _ => k.writeSocket peer finished length
  | .pipeWriter reader _ => k.writePipe reader length
  | .counter value => (.ok 8, (k.setFile id (.counter (value + 1))).notify id .input)
  | .timer .. | .facility => (.error .invalidArgument, k)
  | .regular | .pipeReader .. | .closed => (.error .badDescriptor, k)

def read (k : Kernel) (fd : Descriptor) (room : Nat) : Except Errno Nat × Kernel :=
  match k.lookup fd with
  | some file =>
    let (result, k) := k.readFile file room
    (result, k.settle)
  | none => (.error .badDescriptor, k)

def write (k : Kernel) (fd : Descriptor) (length : Nat) : Except Errno Nat × Kernel :=
  match k.lookup fd with
  | some file =>
    let (result, k) := k.writeFile file length
    (result, k.settle)
  | none => (.error .badDescriptor, k)

/-- Ends writing to a socket; both ends are notified. -/
def finishWriting (k : Kernel) (fd : Descriptor) : Kernel :=
  match k.lookup fd with
  | none => k
  | some id =>
    match k.file id with
    | .socket peer inbox _ reset =>
      let k := k.setFile id (.socket peer inbox true reset)
      ((k.notify id 0).notify peer 0).settle
    | _ => k

/-! ### Time -/

def setTimer (k : Kernel) (fd : Descriptor) (span : Nat) : Except Errno Unit × Kernel :=
  match k.lookup fd with
  | none => (.error .badDescriptor, k)
  | some id =>
    match k.file id with
    | .timer .. =>
      (.ok (), k.setFile id (.timer (if span = 0 then none else some (k.now + span)) false))
    | _ => (.error .invalidArgument, k)

def writeLater (k : Kernel) (fd : Descriptor) (length span : Nat) : Kernel :=
  match k.lookup fd with
  | none => k
  | some id => { k with writes := k.writes ++ [⟨k.now + span, id, length⟩] }

/-- The next moment at which something happens by itself. -/
def nextDue (k : Kernel) : Option Nat :=
  (k.files.filterMap File.deadline? ++ k.writes.map (·.time)).min?

def expire (k : Kernel) (id : FileId) : Kernel :=
  ((k.setFile id (.timer none true)).notify id .input).settle

def doWrite (k : Kernel) (w : DueWrite) : Kernel := (k.writeFile w.file w.length).2.settle

def passTo (k : Kernel) (time : Nat) : Kernel :=
  let timers := (List.range k.files.length).filter fun id => (k.file id).deadline?.any (· ≤ time)
  let writes := k.writes.filter (·.time ≤ time)
  let k := { k with now := max k.now time, writes := k.writes.filter (time < ·.time) }
  writes.foldl doWrite (timers.foldl expire k)

/-- Turns a wait can take: each lets a timer fire or another thread write. -/
def turns (k : Kernel) : Nat := (k.files.filterMap File.deadline?).length + k.writes.length + 1

/-- Lets time pass until the condition is met or the limit is reached. -/
def waitWithin (met : Kernel → Bool) (limit : Option Nat) : Nat → Kernel → Kernel
  | 0, k => k
  | turns + 1, k =>
    if met k then k
    else
      match k.nextDue.filter fun time => limit.all (time ≤ ·) with
      | some time => waitWithin met limit turns (k.passTo time)
      | none => { k with now := max k.now (limit.getD 0) }

/-- Waits for a condition; a wait without limit that nothing can end is interrupted. -/
def waitFor (k : Kernel) (met : Kernel → Bool) (limit : Option Nat) : Except Errno Unit × Kernel :=
  let k := waitWithin met limit k.turns k
  (if met k || limit.isSome then .ok () else .error .interrupted, k)

end Multiplexer.Kernel

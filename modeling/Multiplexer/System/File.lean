import Multiplexer.PollMask

/-! Open files of the simulated kernel: connected sockets, pipes, counters, timers and regular
files, each with no more than what decides when it is ready. A socket is writable while the memory of
what it sent and its peer has not read stays small; a pipe is writable while it has a page to spare.
The sizes are those of Linux and matter to runs only. -/
namespace Multiplexer

/-- An open file, by the order of opening. -/
abbrev FileId := Nat

/-- Bytes that lie together: a message received by a socket, or a page of a pipe. -/
structure Piece where
  /-- Bytes not read yet. -/
  left : Nat
  /-- The memory a message is charged with, or how far a page is filled. -/
  extent : Nat
  deriving DecidableEq, Repr

namespace Piece

/-- Takes up to `n` bytes off the front; the rest of the last piece touched stays. -/
def take (n : Nat) : List Piece → Nat × List Piece
  | [] => (0, [])
  | p :: rest =>
    if n < p.left then (n, { p with left := p.left - n } :: rest)
    else
      let (taken, rest) := take (n - p.left) rest
      (p.left + taken, rest)

def bytes (pieces : List Piece) : Nat := pieces.foldl (· + ·.left) 0

/-! ### Pages of a pipe -/

def pageSize : Nat := 4096

def pageCount : Nat := 16

/-- New pages for `n` bytes, as many as there is room for. -/
def newPages : Nat → Nat → List Piece
  | 0, _ => []
  | room + 1, n =>
    if n = 0 then []
    else
      let size := min n pageSize
      ⟨size, size⟩ :: newPages room (n - size)

/-- Writes up to `n` bytes to the pages of a pipe. What does not fill pages is added to the last
page if that has the space for all of it. -/
def fill (n : Nat) (pages : List Piece) : Nat × List Piece :=
  let odd := n % pageSize
  let (merged, pages) : Nat × List Piece :=
    match pages.getLast? with
    | some p =>
      if p.extent + odd ≤ pageSize then
        (odd, pages.dropLast ++ [⟨p.left + odd, p.extent + odd⟩])
      else (0, pages)
    | none => (0, pages)
  let added := newPages (pageCount - pages.length) (n - merged)
  (merged + bytes added, pages ++ added)

/-! ### Messages of a socket -/

/-- Memory for what a socket sent; it can send while less than that is charged. -/
def sendBuffer : Nat := 212992

/-- Bytes that a message can hold in its head; further ones go to pages. -/
def headRoom : Nat := 3776

def messageLimit : Nat := headRoom + 8 * pageSize

/-- Memory of a head for `n` bytes: a block of a power of two that also holds a trailer, and a fixed
part. -/
def headCharge (n : Nat) : Nat := max 512 (n + 320).nextPowerOfTwo + 256

def roundToPages (n : Nat) : Nat := (n + (pageSize - 1)) / pageSize * pageSize

def messageCharge (n : Nat) : Nat :=
  let paged := min n (roundToPages (n - headRoom))
  headCharge (n - paged) + roundToPages paged

def charge (messages : List Piece) : Nat := messages.foldl (· + ·.extent) 0

/-- What was sent leaves room for more, so that the sender is writable. -/
def leavesRoom (messages : List Piece) : Bool := 4 * (charge messages + 1) ≤ sendBuffer

/-- The messages that carry `n` bytes, as many as can be sent while `charged` is charged already. -/
def split (charged : Nat) : Nat → Nat → List Piece
  | 0, _ => []
  | turns + 1, n =>
    if n = 0 || sendBuffer ≤ charged then []
    else
      let size := min n messageLimit
      let cost := messageCharge size
      ⟨size, cost⟩ :: split (charged + cost) turns (n - size)

end Piece

inductive File where
  /-- A regular file, opened for reading. -/
  | regular
  /-- One end of a connected pair of stream sockets: the messages received and not read yet, whether
  this end has stopped writing, and whether its peer went without reading all. -/
  | socket (peer : FileId) (inbox : List Piece) (finished reset : Bool)
  | pipeReader (writer : FileId) (pages : List Piece)
  /-- The end for writing, and whether the pipe was full when its reader closed. -/
  | pipeWriter (reader : FileId) (full : Bool)
  | counter (value : Nat)
  /-- A timer fires at its deadline, if it has one, and stays expired until it is read or set. -/
  | timer (deadline : Option Nat) (expired : Bool)
  /-- A ring or an epoll instance. -/
  | facility
  | closed
  deriving DecidableEq, Repr

namespace File

def received : File → List Piece
  | socket _ inbox _ _ => inbox
  | pipeReader _ pages => pages
  | _ => []

/-- Nothing more will be written from this end. -/
def isFinished : File → Bool
  | socket _ _ finished _ => finished
  | closed => true
  | _ => false

def deadline? : File → Option Nat
  | timer deadline _ => deadline
  | _ => none

/-- Whether the file can be watched; a regular file is always ready instead. -/
def isPollable : File → Bool
  | regular => false
  | _ => true

def flag (bits : PollMask) (on : Bool) : PollMask := if on then bits else 0

/-- The conditions of a file, given the file at its other end. -/
def conditions (file other : File) : PollMask :=
  match file with
  | regular => .input ||| .output
  | socket _ inbox finished reset =>
    flag .input (!inbox.isEmpty || other.isFinished) |||
      flag .output (Piece.leavesRoom other.received) ||| flag .peerHangup other.isFinished |||
      flag .hangup (other == closed || finished && other.isFinished) ||| flag .error reset
  | pipeReader _ pages => flag .input (!pages.isEmpty) ||| flag .hangup (other == closed)
  | pipeWriter _ full =>
    flag .output (!full && other.received.length < Piece.pageCount) |||
      flag .error (other == closed)
  | counter value => flag .input (0 < value) ||| .output
  | timer _ expired => flag .input expired
  | facility | closed => 0

def peer? : File → Option FileId
  | socket peer .. => some peer
  | pipeReader writer _ => some writer
  | pipeWriter reader _ => some reader
  | _ => none

end File
end Multiplexer

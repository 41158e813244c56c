import Multiplexer.Dialogue.Call
import Multiplexer.System.File

/-! A simulated kernel: a table of descriptors over open files, the watches of epoll instances, the
polls armed on a ring, and a clock that moves only while the process waits. Every change of a file
is announced to those who watch it. What an announcement leaves to do for the ring is done before
the process goes on (`settle`). A file is closed when neither a descriptor nor a poll refers to
it. Only runs use this kernel; no theorem on pollers rests on how it behaves. -/
namespace Multiplexer

structure WatchKey where
  /-- The epoll instance that watches. -/
  holder : FileId
  file : FileId
  descriptor : Descriptor
  deriving DecidableEq, Repr

structure Watch where
  key : WatchKey
  mask : PollMask
  data : UInt64
  deriving DecidableEq, Repr

structure ArmedPoll where
  file : FileId
  mask : PollMask
  multishot : Bool
  data : UInt64
  /-- Notices since the poll was armed or reported last. -/
  notices : Nat
  /-- The conditions that the first of them came with, if it came with any. -/
  noticed : PollMask
  deriving DecidableEq, Repr

inductive Chore where
  /-- A poll was noticed, and may have something to report. -/
  | report (data : UInt64)
  /-- A poll was withdrawn, and completes. -/
  | withdrawn (poll : ArmedPoll)
  deriving DecidableEq, Repr

structure DueWrite where
  time : Nat
  file : FileId
  length : Nat
  deriving DecidableEq, Repr

structure Kernel where
  files : List File
  /-- The files of the descriptors, by number. -/
  table : List (Option FileId)
  watches : List Watch
  /-- Watches to look at, in the order of their notification. -/
  queue : List WatchKey
  /-- The polls armed on the ring, the latest in front. -/
  polls : List ArmedPoll
  /-- What is left to do before the process goes on. -/
  chores : List Chore
  /-- Places for completions that the process has not filled with unread ones. -/
  room : Nat
  /-- Completions since the ring was entered last. -/
  posted : List Ring.Completion
  /-- Completions that found no room in the ring. -/
  backlog : List Ring.Completion
  writes : List DueWrite
  /-- Nanoseconds on the monotonic clock. -/
  now : Nat
  deriving DecidableEq, Repr

/-- What a watch asks for: errors and hangups come unasked. -/
def Watch.asked (w : Watch) : PollMask := w.mask ||| .error ||| .hangup

namespace ArmedPoll

/-- What a poll asks for: hearing of a peer that stopped writing comes unasked as well. -/
def asked (p : ArmedPoll) : PollMask := p.mask ||| .error ||| .hangup ||| .peerHangup

/-- The poll is told of a notice: one without conditions concerns everybody. A poll that reports
once is deaf after a notice with conditions. -/
def hears (p : ArmedPoll) (conditions : PollMask) : Bool :=
  (conditions == 0 || conditions.meets p.asked) && (p.multishot || p.noticed == 0)

def hear (p : ArmedPoll) (conditions : PollMask) : ArmedPoll :=
  { p with
    notices := p.notices + 1
    noticed := if p.notices = 0 then conditions else p.noticed }

def quiet (p : ArmedPoll) : ArmedPoll := { p with notices := 0, noticed := 0 }

end ArmedPoll

namespace Kernel

/-- A process with its three standard descriptors, one second after the start of the clock. -/
def initial : Kernel where
  files := [.regular, .regular, .regular]
  table := [some 0, some 1, some 2]
  watches := []
  queue := []
  polls := []
  chores := []
  room := 0
  posted := []
  backlog := []
  writes := []
  now := 1000000000

def file (k : Kernel) (id : FileId) : File := k.files.getD id .closed

def setFile (k : Kernel) (id : FileId) (file : File) : Kernel :=
  { k with files := k.files.set id file }

def conditions (k : Kernel) (id : FileId) : PollMask :=
  let file := k.file id
  file.conditions ((file.peer?.map k.file).getD .closed)

def lookup (k : Kernel) (fd : Descriptor) : Option FileId :=
  if fd < 0 then none else (k.table[fd.toInt.toNat]?).join

/-- Opens a file under the lowest free descriptor. -/
def install (k : Kernel) (file : File) : Descriptor × Kernel :=
  let number := k.table.findIdx (·.isNone)
  let entry := some k.files.length
  (.ofNat number,
    { k with
      files := k.files ++ [file]
      table := if number < k.table.length then k.table.set number entry else k.table ++ [entry] })

def installPair (k : Kernel) (first second : FileId → File) : (Descriptor × Descriptor) × Kernel :=
  let id := k.files.length
  let (a, k) := k.install (first (id + 1))
  let (b, k) := k.install (second id)
  ((a, b), k)

def openSockets (k : Kernel) : (Descriptor × Descriptor) × Kernel :=
  k.installPair (.socket · [] false false) (.socket · [] false false)

def openPipe (k : Kernel) : (Descriptor × Descriptor) × Kernel :=
  k.installPair (.pipeReader · []) (.pipeWriter · false)

/-! ### Notification -/

/-- Watches on the file that ask for one of the conditions are queued, unless they are already; a
notice without conditions concerns them all. -/
def notifyWatches (k : Kernel) (id : FileId) (conditions : PollMask) : Kernel :=
  let woken := k.watches.filter fun w =>
    w.key.file == id && (conditions == 0 || conditions.meets w.asked)
  { k with
    queue := woken.foldl
      (fun queue w => if queue.contains w.key then queue else queue ++ [w.key]) k.queue }

/-- Polls on the file hear of the conditions; the first notice of a poll is a chore. -/
def notifyPolls (k : Kernel) (id : FileId) (conditions : PollMask) : Kernel :=
  let hears (p : ArmedPoll) : Bool := p.file == id && p.hears conditions
  { k with
    polls := k.polls.map fun p => if hears p then p.hear conditions else p
    chores := k.chores ++
      (k.polls.filter fun p => hears p && p.notices == 0).map (.report ·.data) }

/-- Announces that conditions have come to hold of a file, or, without conditions, some change. -/
def notify (k : Kernel) (id : FileId) (conditions : PollMask) : Kernel :=
  (k.notifyWatches id conditions).notifyPolls id conditions

/-! ### Closing -/

def isReferred (k : Kernel) (id : FileId) : Bool :=
  k.table.contains (some id) || k.polls.any (·.file == id)

/-- What a file leaves unread when it closes: the socket at the other end is reset, and a full pipe
stays full. -/
def leave (k : Kernel) (id : FileId) (unread : List Piece) : Kernel :=
  match k.file id with
  | .socket peer inbox finished reset =>
    k.setFile id (.socket peer inbox finished (reset || !unread.isEmpty))
  | .pipeWriter reader _ => k.setFile id (.pipeWriter reader (unread.length = Piece.pageCount))
  | _ => k

/-- Closes a file: watches on it vanish, and its other end is notified. -/
def release (k : Kernel) (id : FileId) : Kernel :=
  let file := k.file id
  let stays (key : WatchKey) : Bool := key.file != id && key.holder != id
  let k := { k.setFile id .closed with
    watches := k.watches.filter (stays ·.key)
    queue := k.queue.filter stays }
  match file.peer? with
  | none => k
  | some peer => (k.leave peer file.received).notify peer 0

/-- Closes an open file that nothing refers to any more. -/
def releaseIdle (k : Kernel) (id : FileId) : Kernel :=
  if k.file id == .closed || k.isReferred id then k else k.release id

/-! ### Completions -/

/-- A completion finds room in the ring, and none waits for it. -/
def hasRoom (k : Kernel) : Bool := k.backlog.isEmpty && k.posted.length < k.room

def post (k : Kernel) (c : Ring.Completion) : Kernel :=
  if k.hasRoom then { k with posted := k.posted ++ [c] } else { k with backlog := k.backlog ++ [c] }

/-- What a noticed poll reports: the conditions of its only notice, or else those it finds. -/
def found (k : Kernel) (p : ArmedPoll) : PollMask :=
  (if p.notices = 1 ∧ p.noticed ≠ 0 then p.noticed else k.conditions p.file) &&& p.asked

/-- A multishot poll reports and stays armed while there is room. Otherwise a poll ends with its
report; one that finds nothing stays armed. The files of polls that end are handed back. -/
def report (k : Kernel) (p : ArmedPoll) : Kernel × List FileId :=
  let found := k.found p
  let armed := { k with polls := k.polls.map fun q => if q.data == p.data then q.quiet else q }
  if found = 0 then (armed, [])
  else if p.multishot && k.hasRoom then (armed.post ⟨p.data, found.toInt32, 2⟩, [])
  else ({ k with polls := k.polls.erase p }.post ⟨p.data, found.toInt32, 0⟩, [p.file])

def doChore (k : Kernel) : Chore → Kernel × List FileId
  | .withdrawn p => (k.post ⟨p.data, -Errno.cancelled, 0⟩, [p.file])
  | .report data =>
    match k.polls.find? (·.data == data) with
    | some p => k.report p
    | none => (k, [])

def doAll : List Chore → Kernel → Kernel × List FileId
  | [], k => (k, [])
  | c :: rest, k =>
    let (k, first) := k.doChore c
    let (k, later) := doAll rest k
    (k, first ++ later)

/-- Does the chores, then lets go of the files of the polls that ended, the latest first. -/
def doChores (k : Kernel) : Kernel :=
  let (k, files) := doAll k.chores { k with chores := [] }
  files.reverse.foldl releaseIdle k

def settleWithin : Nat → Kernel → Kernel
  | 0, k => k
  | n + 1, k => if k.chores.isEmpty then k else settleWithin n k.doChores

/-- Does what is left to do, again and again, since closing a file can leave more to do. -/
def settle (k : Kernel) : Kernel := settleWithin (k.files.length + 1) k

def close (k : Kernel) (fd : Descriptor) : Kernel :=
  match k.lookup fd with
  | none => k
  | some id => ({ k with table := k.table.set fd.toInt.toNat none }.releaseIdle id).settle

end Kernel
end Multiplexer

import Multiplexer.System.Kernel.Transfer

/-! The waits: on an epoll instance, on sets of descriptors, and on the ring. -/
namespace Multiplexer.Kernel

/-! ### Epoll instances -/

def watch? (k : Kernel) (key : WatchKey) : Option Watch := k.watches.find? (·.key == key)

/-- What a watch has to report. -/
def seen (k : Kernel) (w : Watch) : PollMask := k.conditions w.key.file &&& w.asked

/-- Queues a watch that has something to report. -/
def look (k : Kernel) (w : Watch) : Kernel :=
  if k.seen w = 0 || k.queue.contains w.key then k else { k with queue := k.queue ++ [w.key] }

/-- Changes the watch on an open file that can be watched. -/
def changeWatch (k : Kernel) (key : WatchKey) : EpollChange → Except Errno Unit × Kernel
  | .add _ mask data =>
    if (k.watch? key).isSome then (.error .alreadyExists, k)
    else
      let w : Watch := ⟨key, mask, data⟩
      (.ok (), { k with watches := k.watches ++ [w] }.look w)
  | .modify _ mask data =>
    if (k.watch? key).isNone then (.error .noEntry, k)
    else
      let w : Watch := ⟨key, mask, data⟩
      let watches := k.watches.map fun (v : Watch) => if v.key = key then w else v
      (.ok (), { k with watches }.look w)
  | .delete _ =>
    if (k.watch? key).isNone then (.error .noEntry, k)
    else
      (.ok (),
        { k with
          watches := k.watches.filter (·.key != key)
          queue := k.queue.filter (· != key) })

/-- Only open files other than regular ones can be watched. -/
def control (k : Kernel) (queue : Descriptor) (change : EpollChange) : Except Errno Unit × Kernel :=
  match k.lookup queue, k.lookup change.descriptor with
  | some holder, some id =>
    if (k.file id).isPollable then k.changeWatch ⟨holder, id, change.descriptor⟩ change
    else (.error .notPermitted, k)
  | _, _ => (.error .badDescriptor, k)

/-- Goes through queued watches while there is room: those with something to report, and those not
looked at. -/
def scan (k : Kernel) : Nat → List Watch → List Watch × List Watch
  | _, [] => ([], [])
  | room, w :: rest =>
    if room = 0 then ([], w :: rest)
    else if k.seen w = 0 then k.scan room rest
    else
      let (ready, unseen) := k.scan (room - 1) rest
      (w :: ready, unseen)

def queued (k : Kernel) (holder : FileId) : List Watch :=
  (k.queue.filter (·.holder == holder)).filterMap k.watch?

/-- Reports watches in the order of the queue. Those reported go to its end, since they may have
more to report; those with nothing to report leave it. -/
def harvest (k : Kernel) (holder : FileId) (room : Nat) : List EpollRecord × Kernel :=
  let (ready, unseen) := k.scan room (k.queued holder)
  (ready.map fun w => ⟨k.seen w, w.data⟩,
    { k with
      queue := k.queue.filter (·.holder != holder) ++ unseen.map (·.key) ++ ready.map (·.key) })

/-- Waits on an instance, for a number of milliseconds unless it is negative. -/
def epollWait (k : Kernel) (queue : Descriptor) (room : Nat) (millis : Int) :
    Except Errno (List EpollRecord) × Kernel :=
  match k.lookup queue with
  | none => (.error .badDescriptor, k)
  | some id =>
    let limit := if millis < 0 then none else some (k.now + millis.toNat * 1000000)
    match k.waitFor (fun k => (k.queued id).any (k.seen · != 0)) limit with
    | (.error e, k) => (.error e, k)
    | (.ok (), k) =>
      let (records, k) := k.harvest id room
      (.ok records, k)

/-! ### Sets of descriptors -/

def meeting (k : Kernel) (bound : Int) (bits : PollMask) (fds : FdSet) : FdSet :=
  fds.filter fun fd =>
    fd.toInt < bound && (k.lookup fd).any fun id => (k.conditions id).meets bits

/-- Errors and hangups count as readable, errors as writable too. -/
def selected (k : Kernel) (bound : Int) (watched : FdSets) : Selected FdSets :=
  let read := k.meeting bound (.input ||| .hangup ||| .error) watched.read
  let write := k.meeting bound (.output ||| .error) watched.write
  let error := k.meeting bound .priority watched.error
  ⟨read.size + write.size + error.size, read, write, error⟩

def allOpen (k : Kernel) (bound : Int) (watched : FdSets) : Bool :=
  [watched.read, watched.write, watched.error].all fun fds =>
    fds.toList.all fun fd => bound ≤ fd.toInt || (k.lookup fd).isSome

def selectWait (k : Kernel) (bound : Int) (watched : FdSets) (timeout : Option (UInt64 × Nat)) :
    Except Errno (Selected FdSets) × Kernel :=
  if !k.allOpen bound watched then (.error .badDescriptor, k)
  else
    let limit := timeout.map fun (seconds, micros) =>
      k.now + seconds.toNat * 1000000000 + micros * 1000
    match k.waitFor (fun k => (k.selected bound watched).count != 0) limit with
    | (.error e, k) => (.error e, k)
    | (.ok (), k) => (.ok (k.selected bound watched), k)

/-! ### The ring -/

/-- The kernel while it takes requests, with the completions of those that are done at once. -/
structure Intake where
  kernel : Kernel
  done : List Ring.Completion

namespace Intake

def finish (i : Intake) (c : Ring.Completion) : Intake := { i with done := i.done ++ [c] }

/-- A poll completes at once if it finds something, and is armed otherwise; a multishot poll is
armed in either case, and noticed if it finds something. A regular file cannot be waited for. -/
def arm (i : Intake) (p : ArmedPoll) : Intake :=
  let k := i.kernel
  let found := k.conditions p.file &&& p.asked
  if !(k.file p.file).isPollable then
    i.finish ⟨p.data, if found = 0 then -Errno.invalidArgument else found.toInt32, 0⟩
  else if found = 0 then { i with kernel := { k with polls := p :: k.polls } }
  else if p.multishot then
    let polls := p.hear found :: k.polls
    { i with kernel := { k with polls, chores := k.chores ++ [.report p.data] } }
  else i.finish ⟨p.data, found.toInt32, 0⟩

/-- Withdraws a poll, unless it is about to report. -/
def withdraw (i : Intake) (target data : UInt64) : Intake :=
  let k := i.kernel
  match k.polls.find? (·.data == target) with
  | none => i.finish ⟨data, -Errno.noEntry, 0⟩
  | some p =>
    if p.notices ≠ 0 then i.finish ⟨data, -Errno.already, 0⟩
    else
      let k := { k with polls := k.polls.erase p, chores := k.chores ++ [.withdrawn p] }
      { i with kernel := k }.finish ⟨data, 0, 0⟩

def take (i : Intake) : Ring.Request → Intake
  | .poll fd mask multishot data =>
    match i.kernel.lookup fd with
    | none => i.finish ⟨data, -Errno.badDescriptor, 0⟩
    | some id => i.arm ⟨id, mask, multishot, data, 0, 0⟩
  | .cancel target data => i.withdraw target data

end Intake

/-- Takes all requests; what is done at once completes first. -/
def takeAll (k : Kernel) (requests : List Ring.Request) : Kernel :=
  let i := requests.foldl Intake.take ⟨k, []⟩
  (i.done.foldl post i.kernel).settle

def handOver (k : Kernel) : List Ring.Completion × Kernel :=
  let all := k.posted ++ k.backlog
  let given := all.take k.room
  (given, { k with posted := [], backlog := all.drop k.room, room := k.room - given.length })

/-- Takes all requests, waits for a completion if there is none, and hands over what there is. -/
def enter (k : Kernel) (wait : Bool) (queues : Ring.Queues) : Ring.Entered × Kernel :=
  let k := { k with room := queues.completionRoom }.takeAll queues.requests
  let (result, k) :=
    if wait && queues.completions.isEmpty then
      k.waitFor (fun k => !k.posted.isEmpty || !k.backlog.isEmpty) none
    else (.ok (), k)
  let (given, k) := k.handOver
  (⟨given, queues.requests.length, result⟩, k)

end Multiplexer.Kernel

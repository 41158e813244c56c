import Multiplexer.Dialogue.Basic

/-! A scripted system, on which nothing real happens. Every kind of request has a list of answers,
used up one by one, and a default for when the list is empty; a blank in the list asks for the
default as well. A completion port keeps its queue of packets from one script to the next. -/
namespace Multiplexer.Script

/-- Requests that draw their answers from one list. -/
inductive Topic where
  | pipe
  | read
  | write
  | flags
  | epollCreate
  | epollControl
  | epollWait
  | kqueueCreate
  | kqueueChange
  | kqueueWait
  | select
  | socketOpen
  | socketBind
  | socketListen
  | socketAddress
  | socketConnect
  | socketAccept
  | socketNonblocking
  | socketNoDelay
  | socketType
  | receive
  | send
  | portCreate
  | portPost
  | portWait
  | handleClose
  | ringSetup
  | ringProbe
  | counterCreate
  | timerCreate
  | timerSet
  | submit
  | submitAndWait
  deriving DecidableEq, Repr

structure RingAnswer where
  posted : List Ring.Completion
  refused : Option Errno
  /-- Requests to take; all of them if absent. -/
  taken : Option Nat
  deriving Repr

def Topic.Answer : Topic → Type
  | pipe => Except Errno (Descriptor × Descriptor)
  | read | write | receive | send => Except Errno Nat
  | flags | epollControl | socketBind | socketListen | socketAddress | socketConnect
  | socketNonblocking | socketNoDelay | socketType | portPost | handleClose | ringSetup
  | timerSet => Except Errno Unit
  | epollCreate | kqueueCreate | socketOpen | socketAccept | counterCreate | timerCreate =>
    Except Errno Descriptor
  | epollWait => Except Errno (List EpollRecord)
  | kqueueChange => Except Errno (List Receipt)
  | kqueueWait => Except Errno (List FilterRecord)
  | select => Except Errno SocketSets
  | portCreate => Except Errno Handle
  | portWait => Except Errno (List Packet)
  | ringProbe => Except Errno (List Nat)
  | submit | submitAndWait => RingAnswer

end Script

abbrev Script := (topic : Script.Topic) → List (Option topic.Answer)

namespace Script

def empty : Script := fun _ => []

def put (s : Script) (topic : Topic) (answers : List (Option topic.Answer)) : Script :=
  fun other => if h : other = topic then h ▸ answers else s other

/-- The scripted system between two requests. -/
structure Stage where
  script : Script
  /-- Packets queued at the completion port. -/
  packets : List Packet
  /-- Sockets opened by default so far. -/
  sockets : Nat
  /-- Nanoseconds on the monotonic clock. -/
  now : Nat

namespace Stage

def initial : Stage := ⟨.empty, [], 0, 1000000000⟩

/-- Enough for every loop: each turn of one uses up an answer or what an answer of the turn before
posted, or else is its first or its last. -/
def patience (s : Stage) : Nat :=
  (s.script .read).length + (s.script .write).length + (s.script .receive).length +
    (s.script .submit).length + (s.script .submitAndWait).length + 3

def draw (s : Stage) (topic : Topic) : Option topic.Answer × Stage :=
  match s.script topic with
  | [] => (none, s)
  | answer :: rest => (answer, { s with script := s.script.put topic rest })

/-- The next answer to a topic, or its default. -/
def drawOr (s : Stage) (topic : Topic) (standard : topic.Answer) : topic.Answer × Stage :=
  let (answer, s) := s.draw topic
  (answer.getD standard, s)

/-- Opens sockets numbered from two hundred on, unless the script names another. -/
def openSocket (s : Stage) : Except Errno Descriptor × Stage :=
  match s.draw .socketOpen with
  | (some answer, s) => (answer, s)
  | (none, s) => (.ok (.ofNat (200 + s.sockets)), { s with sockets := s.sockets + 1 })

def selectedFds (sets : SocketSets) : Selected FdSets :=
  ⟨sets.read.length + sets.write.length + sets.error.length,
    .ofList sets.read, .ofList sets.write, .ofList sets.error⟩

/-- The lists of a wait on sockets, counting only those handed over. -/
def selectedSockets (watched found : SocketSets) : Selected SocketSets :=
  let keep (handed found : List Descriptor) := if handed.isEmpty then [] else found
  let read := keep watched.read found.read
  let write := keep watched.write found.write
  let error := keep watched.error found.error
  ⟨read.length + write.length + error.length, read, write, error⟩

/-- New packets join the queue, then the front of the queue is taken; an empty queue times out. -/
def takePackets (s : Stage) (room : Nat) (answer : Except Errno (List Packet)) :
    Except Errno (List Packet) × Stage :=
  match answer with
  | .error e => (.error e, s)
  | .ok arrived =>
    let queue := s.packets ++ arrived
    (if queue.isEmpty then .error .waitTimeout else .ok (queue.take room),
      { s with packets := queue.drop room })

/-- A packet joins the queue unless it is refused. -/
def postPacket (s : Stage) (packet : Packet) : Except Errno Unit × Stage :=
  match s.drawOr .portPost (.ok ()) with
  | (.ok (), s) => (.ok (), { s with packets := s.packets ++ [packet] })
  | (.error e, s) => (.error e, s)

/-- By default a ring takes every request, and a wait without completions is interrupted. -/
def enterRing (answer : Option RingAnswer) (wait : Bool) (q : Ring.Queues) : Ring.Entered :=
  match answer with
  | none =>
    ⟨[], q.requests.length,
      if wait && q.completions.isEmpty then .error .interrupted else .ok ()⟩
  | some a =>
    match a.refused with
    | some e => ⟨a.posted, 0, .error e⟩
    | none => ⟨a.posted, a.taken.getD q.requests.length, .ok ()⟩

/-- Missing receipts report no error. -/
def fillReceipts (changes : List FilterChange) (receipts : List Receipt) : List Receipt :=
  receipts ++ List.replicate (changes.length - receipts.length) ⟨true, 0⟩

def respond : (call : Call) → Stage → call.Reply × Stage
  | .clock, s => (.ofNanos s.now, { s with now := s.now + 1 })
  | .pipe .., s => s.drawOr .pipe (.ok (101, 102))
  | .read .., s => s.drawOr .read (.error .wouldBlock)
  | .counterRead _, s => s.drawOr .read (.ok 8)
  | .write _ length, s => s.drawOr .write (.ok length)
  | .getFlags _, s => s.drawOr .flags (.ok ())
  | .setFlags .., s => s.drawOr .flags (.ok ())
  | .epollCreate _, s => s.drawOr .epollCreate (.ok 100)
  | .epollControl .., s => s.drawOr .epollControl (.ok ())
  | .epollWait _ room _, s =>
    let (answer, s) := s.drawOr .epollWait (.ok [])
    (answer.map (·.take room), s)
  | .kqueueCreate, s => s.drawOr .kqueueCreate (.ok 100)
  | .kqueueChange _ changes, s =>
    let (answer, s) := s.drawOr .kqueueChange (.ok [])
    (answer.map (fillReceipts changes), s)
  | .kqueueWait _ room _, s =>
    let (answer, s) := s.drawOr .kqueueWait (.ok [])
    (answer.map (·.take room), s)
  | .selectFds .., s =>
    let (answer, s) := s.drawOr .select (.ok ⟨[], [], []⟩)
    (answer.map selectedFds, s)
  | .selectSockets watched _, s =>
    let (answer, s) := s.drawOr .select (.ok ⟨[], [], []⟩)
    (answer.map (selectedSockets watched), s)
  | .socketOpen, s => s.openSocket
  | .socketBind _, s => s.drawOr .socketBind (.ok ())
  | .socketListen .., s => s.drawOr .socketListen (.ok ())
  | .socketAddress _, s => s.drawOr .socketAddress (.ok ())
  | .socketConnect _, s => s.drawOr .socketConnect (.ok ())
  | .socketAccept _, s => s.drawOr .socketAccept (.ok 202)
  | .socketNonblocking .., s => s.drawOr .socketNonblocking (.ok ())
  | .socketNoDelay .., s => s.drawOr .socketNoDelay (.ok ())
  | .socketType _, s => s.drawOr .socketType (.ok ())
  | .socketReceive .., s => s.drawOr .receive (.error .wouldBlock)
  | .socketSend _ length, s => s.drawOr .send (.ok length)
  | .portCreate _, s => s.drawOr .portCreate (.ok 100)
  | .portAssociate .., s =>
    let (answer, s) := s.drawOr .portCreate (.ok 100)
    (answer.map fun _ => (), s)
  | .portPost _ packet, s => s.postPacket packet
  | .portWait _ room _, s =>
    let (answer, s) := s.drawOr .portWait (.ok [])
    s.takePackets room answer
  | .handleClose _, s => s.drawOr .handleClose (.ok ())
  | .ringSetup _, s => s.drawOr .ringSetup (.ok ())
  | .ringProbe, s => s.drawOr .ringProbe (.ok [])
  | .ringSubmit queues, s =>
    let (answer, s) := s.draw .submit
    (enterRing answer false queues, s)
  | .ringWait wait queues, s =>
    let (answer, s) := s.draw .submitAndWait
    (enterRing answer wait queues, s)
  | .counterCreate .., s => s.drawOr .counterCreate (.ok 101)
  | .timerCreate .., s => s.drawOr .timerCreate (.ok 102)
  | .timerSet .., s => s.drawOr .timerSet (.ok ())

end Stage
end Script
end Multiplexer

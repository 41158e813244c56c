import Multiplexer.Config
import Multiplexer.Registry.Basic
import Multiplexer.Wakeup

/-! The kqueue facility. A descriptor owns up to two filters in the kernel, one for reading and one
for writing; records of one descriptor fetched by the same wait become a single event. -/
namespace Multiplexer

/-- The filters that stand for an interest, each turned into a change. -/
def Interest.filters {α : Type} (i : Interest) (change : Filter → α) : List α :=
  (if i.read then [change .read] else []) ++ (if i.write then [change .write] else [])

namespace FilterRecord

def readFilter : Int16 := -1
def writeFilter : Int16 := -2
def errorFlag : UInt16 := 0x4000
def endFlag : UInt16 := 0x8000

/-- What a record reports; at the end of the stream a filter flag is the socket's error. -/
def ready (r : FilterRecord) : Interest :=
  let ended := r.flags &&& endFlag != 0
  { read := r.filter == readFilter
    write := r.filter == writeFilter
    error := r.flags &&& errorFlag != 0 || (ended && r.filterFlags != 0)
    hangup := ended }

end FilterRecord

/-- The events of one wait as they come together from its records. -/
structure Tally where
  /-- Which event the records with these data have gone into. -/
  positions : Std.TreeMap UInt64 Nat
  events : Array (Descriptor × Token × Interest)

namespace Tally

def empty : Tally := ⟨∅, #[]⟩

def clear (t : Tally) : Tally := { t with positions := ∅, events := #[] }

/-- Adds to the event of the same data, or begins one at the end. -/
def add (t : Tally) (data : UInt64) (entry : Registration) (ready : Interest) : Tally :=
  match t.positions[data]? with
  | some i =>
    { t with events := t.events.modify i fun (fd, token, sofar) => (fd, token, sofar ∪ ready) }
  | none =>
    { t with
      positions := t.positions.insert data t.events.size
      events := t.events.push (entry.descriptor, entry.token, ready) }

def dispatched (t : Tally) : Dispatched where
  events := t.events.toList.map fun (fd, token, ready) => ⟨fd, token, .readiness ready⟩
  count := t.events.size

end Tally

structure Kqueue where
  /-- The kernel's filters, by their own descriptor. -/
  queue : Descriptor
  wakeup : Pipe
  batch : Nat
  /-- Kept from poll to poll, and cleared before it is used. -/
  tally : Tally
  registry : Registry

namespace Kqueue

/-- The first receipt that reports an error not among `ignored`. -/
def firstError (ignored : List Errno) (receipts : List Receipt) : Option Errno :=
  (receipts.find? fun r => r.marked && r.errno != 0 && !ignored.contains r.errno).map (·.errno)

/-- Hands the changes to the kernel, if there are any. -/
def submit (queue : Descriptor) (ignored : List Errno) (changes : List FilterChange) :
    Sys (Except Errno Unit) :=
  if changes.isEmpty then pure (.ok ())
  else do
    match ← ask (.kqueueChange queue changes) with
    | .error e => pure (.error e)
    | .ok receipts =>
      pure <| match firstError ignored (receipts.take changes.length) with
        | some e => .error e
        | none => .ok ()

/-- Failing to add a descriptor: closed ones and those without filters cannot be watched. -/
def refusal (fd : Descriptor) (e : Errno) : Error :=
  if e = .badDescriptor ∨ e = .invalidArgument ∨ e = .noDevice then .unsupported fd (.os e)
  else .facility (.os e)

def destroyed (p : Kqueue) : Record := .destroyed .kqueue p.queue p.registry.size

/-- A poller whose wakeup filter is refused is destroyed again. -/
def create (config : Config) : ExceptT Error Sys Kqueue := do
  let exhausted (e : Errno) : Error := .resourceExhaustion .kqueue (.os e)
  let queue ← require exhausted (ask .kqueueCreate)
  require exhausted (ask (.setFlags queue 1))
  let wakeup ← require exhausted Pipe.create
  let opened : Kqueue := ⟨queue, wakeup, config.batchSize, .empty, .empty⟩
  match ← submit queue [] [.add wakeup.reader .read wakeKey] with
  | .error e =>
    note opened.destroyed
    throw (exhausted e)
  | .ok () =>
    note (.kqueueOpened queue config.batchSize)
    pure opened

/-- A peer that closed its end already does not keep a descriptor from being added; a failed
addition takes back the filters it may have left. -/
def add (p : Kqueue) (fd : Descriptor) (interest : Interest) (token : Token) :
    Sys (Except Error Unit × Kqueue) :=
  match p.registry.insert fd interest token with
  | .error e => pure (.error e, p)
  | .ok (key, registry) => do
    match ← submit p.queue [.brokenPipe] (interest.filters (.add fd · key.pack)) with
    | .error e =>
      let _ ← submit p.queue [.noEntry] (interest.filters (.delete fd))
      pure (.error (refusal fd e), { p with registry := registry.discard fd })
    | .ok () =>
      note (.registered .kqueue fd interest)
      pure (.ok (), { p with registry })

/-- Deletes the filters no longer wanted and adds all that are, in one step. -/
def modify (p : Kqueue) (fd : Descriptor) (interest : Interest) :
    Sys (Except Error Unit × Kqueue) :=
  match p.registry.keyOf? fd with
  | none => pure (.error (.notRegistered fd), p)
  | some key => do
    let old := ((p.registry.get? key).map (·.interest)).getD .none
    let changes := (old \ interest).filters (.delete fd) ++ interest.filters (.add fd · key.pack)
    match ← submit p.queue [.noEntry, .brokenPipe] changes with
    | .error e => pure (.error (.facility (.os e)), p)
    | .ok () =>
      pure (.ok (), { p with registry := p.registry.modify key ({ · with interest }) })

def remove (p : Kqueue) (fd : Descriptor) : Sys (Except Error Unit × Kqueue) :=
  match p.registry.remove fd with
  | .error e => pure (.error e, p)
  | .ok (entry, registry) => do
    match ← submit p.queue [.noEntry] (entry.interest.filters (.delete fd)) with
    | .ok () => note (.deregistered .kqueue fd)
    | .error e =>
      if e.isAlreadyGone then note (.alreadyGone .kqueue fd e)
      else note (.deregistrationFailed .kqueue fd entry.token e)
    pure (.ok (), { p with registry })

/-- Goes through the records of one wait; wakeup records empty the pipe, stale ones vanish. -/
def gather (p : Kqueue) : List FilterRecord → Tally → Sys Tally
  | [], tally => pure tally
  | record :: rest, tally =>
    if record.data = wakeKey then do
      p.wakeup.drain
      p.gather rest tally
    else
      match p.registry.get? (.unpack record.data) with
      | none => p.gather rest tally
      | some entry => p.gather rest (tally.add record.data entry record.ready)

def poll (p : Kqueue) (timeout : Timeout) : Sys (Polled × Kqueue) := do
  match ← ask (.kqueueWait p.queue p.batch (timeout.map splitNanos)) with
  | .ok records =>
    let tally ← p.gather records p.tally.clear
    return (.ended tally.dispatched, { p with tally })
  | .error e =>
    return (if e = .interrupted then .idle else .failed (.facility (.os e)), p)

end Kqueue
end Multiplexer

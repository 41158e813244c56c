import Multiplexer.Config
import Multiplexer.Registry.Basic
import Multiplexer.Wakeup

/-! The ring facility: poll requests on a pair of queues. A registration is watched by one poll
under its current key; when a completion consumes the poll, the registration is marked for rearming and
submitted again by the next wait. Requests that could not be pushed are kept until they can. -/
namespace Multiplexer

structure Ring where
  queues : Ring.Queues
  registry : Registry
  waker : Counter
  timer : Counter
  /-- Ask for polls that stay armed; given up for good when the kernel rejects one. -/
  multishot : Bool
  /-- Keys of registrations to submit again, the next one in front. -/
  rearm : List Key
  /-- Data of polls to withdraw, the next one in front. -/
  cancels : List UInt64
  rearmWaker : Bool
  rearmTimer : Bool
  batch : Nat

namespace Ring

def timerKey : UInt64 := 0xfffffffffffffffe

def cancelKey : UInt64 := 0xfffffffffffffffd

/-- Numbers of the operations a ring must know: to add a poll, and to remove one. -/
def neededOperations : List Nat := [6, 7]

/-- Pushes a request; a full queue is submitted once to make room. -/
def push (queues : Queues) (request : Request) : Sys (Except Cause Unit × Queues) :=
  if queues.isFull then do
    let entered ← ask (.ringSubmit queues)
    let queues := queues.after entered
    pure <| match entered.result with
      | .error e => (.error (.os e), queues)
      | .ok () =>
        if queues.isFull then
          (.error (.reason .other "io_uring submission queue is full"), queues)
        else (.ok (), queues.append request)
  else pure (.ok (), queues.append request)

def watch (r : Ring) (fd : Descriptor) (mask : PollMask) (data : UInt64) : Request :=
  .poll fd mask r.multishot data

/-! ### Opening -/

/-- Pushes a poll of a ring being opened, which fails if it cannot. -/
def pushFirst (r : Ring) (request : Request) : ExceptT Error Sys Ring :=
  ExceptT.mk do
    match ← push r.queues request with
    | (.error c, _) => pure (.error (.resourceExhaustion .ioUring c))
    | (.ok (), queues) => pure (.ok { r with queues })

/-- The queue is submitted at once, so that a system that refuses it is found out here. -/
def create (config : Config) : ExceptT Error Sys Ring := do
  let exhausted (e : Errno) : Error := .resourceExhaustion .ioUring (.os e)
  let length := config.queueLength
  require exhausted (ask (.ringSetup length))
  let unknown ← require exhausted (ask .ringProbe)
  if neededOperations.any unknown.contains then
    throw (.resourceExhaustion .ioUring
      (.reason .unsupported "kernel lacks io_uring poll operations"))
  let waker ← require exhausted (ask (.counterCreate true true))
  let timer ← require exhausted (ask (.timerCreate true true))
  let opened : Ring :=
    { queues := .empty length.nextPowerOfTwo
      registry := .empty
      waker := ⟨waker⟩
      timer := ⟨timer⟩
      multishot := config.ring.multishot
      rearm := []
      cancels := []
      rearmWaker := false
      rearmTimer := false
      batch := config.batchSize }
  let watched ← opened.pushFirst (opened.watch waker .input wakeKey)
  let watched ← watched.pushFirst (watched.watch timer .input timerKey)
  let entered ← ask (.ringSubmit watched.queues)
  match entered.result with
  | .error e => throw (exhausted e)
  | .ok () =>
    note (.ringOpened length config.ring.multishot)
    pure { watched with queues := watched.queues.after entered }

/-! ### Registrations -/

/-- A ring reports a bad descriptor only later, so it is looked at here. -/
def add (r : Ring) (fd : Descriptor) (interest : Interest) (token : Token) :
    Sys (Except Error Unit × Ring) := do
  match ← ask (.getFlags fd) with
  | .error e =>
    pure (.error (if r.registry.contains fd then .alreadyRegistered fd
      else .unsupported fd (.os e)), r)
  | .ok () =>
    match r.registry.insert fd interest token with
    | .error e => pure (.error e, r)
    | .ok (key, registry) =>
      match ← push r.queues (r.watch fd interest.pollMask key.pack) with
      | (.error c, queues) =>
        pure (.error (.facility c), { r with queues, registry := registry.discard fd })
      | (.ok (), queues) =>
        note (.pollSubmitted fd interest)
        pure (.ok (), { r with queues, registry })

/-- Voids the old key, and leaves it to the next wait to withdraw the old poll and to submit a new
one. -/
def modify (r : Ring) (fd : Descriptor) (interest : Interest) : Sys (Except Error Unit × Ring) :=
  match r.registry.keyOf? fd, r.registry.rekey fd with
  | some old, .ok (new, registry) => do
    let pending := ((r.registry.get? old).map (·.rearm)).getD false
    note (.resubmissionQueued fd interest)
    pure (.ok (),
      { r with
        registry := registry.modify new ({ · with interest, rearm := true })
        cancels := if pending then r.cancels else old.pack :: r.cancels
        rearm := new :: r.rearm })
  | _, _ => pure (.error (.notRegistered fd), r)

/-- A registration that waits for rearming has no poll to withdraw. -/
def remove (r : Ring) (fd : Descriptor) : Sys (Except Error Unit × Ring) :=
  match r.registry.keyOf? fd, r.registry.remove fd with
  | some key, .ok (entry, registry) => do
    note (.deregistered .ioUring fd)
    pure (.ok (),
      { r with
        registry
        cancels := if entry.rearm then r.cancels else key.pack :: r.cancels })
  | _, _ => pure (.error (.notRegistered fd), r)

/-! ### Resubmission -/

/-- Pushes the withdrawals; those that could not be pushed stay. -/
def pushCancels : List UInt64 → Ring → Sys (Except Cause Unit × Ring)
  | [], r => pure (.ok (), { r with cancels := [] })
  | data :: rest, r => do
    match ← push r.queues (.cancel data cancelKey) with
    | (.error c, queues) => pure (.error c, { r with queues, cancels := data :: rest })
    | (.ok (), queues) => pushCancels rest { r with queues }

def pushWaker (r : Ring) : Sys (Except Cause Unit × Ring) :=
  if r.rearmWaker then do
    match ← push r.queues (r.watch r.waker.descriptor .input wakeKey) with
    | (.error c, queues) => pure (.error c, { r with queues })
    | (.ok (), queues) => pure (.ok (), { r with queues, rearmWaker := false })
  else pure (.ok (), r)

def pushTimer (r : Ring) : Sys (Except Cause Unit × Ring) :=
  if r.rearmTimer then do
    match ← push r.queues (r.watch r.timer.descriptor .input timerKey) with
    | (.error c, queues) => pure (.error c, { r with queues })
    | (.ok (), queues) => pure (.ok (), { r with queues, rearmTimer := false })
  else pure (.ok (), r)

/-- Pushes a poll for every key that opens a registration still to be rearmed; the other keys are
void by now. -/
def pushRearm : List Key → Ring → Sys (Except Cause Unit × Ring)
  | [], r => pure (.ok (), { r with rearm := [] })
  | key :: rest, r =>
    match r.registry.get? key with
    | none => pushRearm rest r
    | some entry =>
      if entry.rearm then do
        match ← push r.queues (r.watch entry.descriptor entry.interest.pollMask key.pack) with
        | (.error c, queues) => pure (.error c, { r with queues, rearm := key :: rest })
        | (.ok (), queues) =>
          pushRearm rest
            { r with queues, registry := r.registry.modify key ({ · with rearm := false }) }
      else pushRearm rest r

/-- Pushes all that is pending: withdrawals, then the internal polls, then the registrations. -/
def resubmit (r : Ring) : Sys (Except Cause Unit × Ring) := do
  match ← pushCancels r.cancels r with
  | (.error c, r) => pure (.error c, r)
  | (.ok (), r) =>
    match ← r.pushWaker with
    | (.error c, r) => pure (.error c, r)
    | (.ok (), r) =>
      match ← r.pushTimer with
      | (.error c, r) => pure (.error c, r)
      | (.ok (), r) => pushRearm r.rearm r

/-! ### Completions -/

/-- What one completion, or a pass over several, came to. -/
structure Drained extends Dispatched where
  /-- The wakeup counter was signalled. -/
  woke : Bool
  deriving DecidableEq, Repr

namespace Drained

def nothing : Drained := ⟨.none, false⟩

def single (event : Event) : Drained := ⟨.cons event .none, false⟩

def append (a b : Drained) : Drained := ⟨a.toDispatched.append b.toDispatched, a.woke || b.woke⟩

end Drained

/-- The registration under `key` is to be submitted again. -/
def markRearm (r : Ring) (key : Key) : Ring :=
  { r with
    registry := r.registry.modify key ({ · with rearm := true })
    rearm := key :: r.rearm }

/-- The kernel rejected a poll for being multishot. -/
def rejects (r : Ring) (c : Completion) : Bool :=
  r.multishot && c.result == -Errno.invalidArgument

/-- A completion of an internal poll that rejects multishot polls ends them. -/
def noteInternal (r : Ring) (c : Completion) : Sys Ring :=
  if r.rejects c then do
    note (.multishotRejected none)
    pure { r with multishot := false }
  else pure r

/-- A completion of the poll of a registration. A rejected or withdrawn poll is submitted again
without an event; a failed one is an event, and stays unarmed until it is modified. -/
def takeEntry (r : Ring) (key : Key) (entry : Registration) (c : Completion) :
    Sys (Drained × Ring) :=
  if r.rejects c then do
    note (.multishotRejected entry.descriptor)
    pure (.nothing, { r with multishot := false }.markRearm key)
  else if c.result = -Errno.cancelled then pure (.nothing, r.markRearm key)
  else if c.result < 0 then do
    note (.pollFailed entry.descriptor (-c.result))
    pure (.single ⟨entry.descriptor, entry.token, .readiness { error := true }⟩, r)
  else
    let ready := PollMask.ringReady c.result.toUInt32
    pure (.single ⟨entry.descriptor, entry.token, .readiness ready⟩,
      if c.more then r else r.markRearm key)

def takeCompletion (r : Ring) (c : Completion) : Sys (Drained × Ring) :=
  if c.data = wakeKey then do
    let r ← r.noteInternal c
    r.waker.drain
    pure (⟨.none, 0 ≤ c.result⟩, { r with rearmWaker := r.rearmWaker || !c.more })
  else if c.data = timerKey then do
    let r ← r.noteInternal c
    r.timer.drain
    pure (.nothing, { r with rearmTimer := r.rearmTimer || !c.more })
  else if c.data = cancelKey then pure (.nothing, r)
  else
    match r.registry.get? (.unpack c.data) with
    | none => do
      note (.staleCompletion c.data)
      pure (.nothing, r)
    | some entry => r.takeEntry (.unpack c.data) entry c

/-- Takes completions off the queue until `limit` events are dispatched or none is left. -/
def drainFrom : List Completion → Nat → Ring → Sys (Drained × Ring)
  | [], _, r => pure (.nothing, { r with queues := { r.queues with completions := [] } })
  | c :: rest, limit, r =>
    if limit = 0 then
      pure (.nothing, { r with queues := { r.queues with completions := c :: rest } })
    else do
      let (first, r) ← r.takeCompletion c
      let (later, r) ← drainFrom rest (limit - first.count) r
      pure (first.append later, r)

def drain (r : Ring) (limit : Nat) : Sys (Drained × Ring) :=
  drainFrom r.queues.completions limit r

/-! ### Waiting -/

/-- Whether a wait was interrupted. A busy ring and a timed out wait say no more than that there may
be completions; any other error is one. -/
def interruption : Except Errno Unit → Except Error Bool
  | .ok () => .ok false
  | .error e =>
    if e = .interrupted then .ok true
    else if e = .busy ∨ e = .timerExpired then .ok false
    else .error (.facility (.os e))

def isOver : Option Instant → Sys Bool
  | none => pure false
  | some deadline => do
    let now ← ask .clock
    pure (deadline.toNanos ≤ Instant.toNanos now)

/-- Waits until an event, a wakeup, an interruption or the deadline. Completions of other kinds only
prolong the wait, after what they left pending has been submitted. -/
def waitWithin (wait : Bool) (deadline : Option Instant) :
    Nat → Dispatched → Ring → Dialogue (Polled × Ring)
  | 0, _, _ => .halt .patience
  | patience + 1, sofar, r =>
    .ask (.ringWait wait r.queues) fun (entered : Entered) => do
      let r := { r with queues := r.queues.after entered }
      match interruption entered.result with
      | .error e => pure (.brokenOff sofar e, r)
      | .ok interrupted =>
        let (drained, r) ← r.drain r.batch patience
        let sofar := sofar.append drained.toDispatched
        if 0 < sofar.count || drained.woke || interrupted || !wait then pure (.ended sofar, r)
        else if ← isOver deadline patience then pure (.ended sofar, r)
        else
          match ← r.resubmit patience with
          | (.error c, r) => pure (.brokenOff sofar (.facility c), r)
          | (.ok (), r) => waitWithin wait deadline patience sofar r

def deadlineOf : Timeout → Sys (Option Instant)
  | none => pure none
  | some t => do
    let now ← ask .clock
    match Instant.add? now t with
    | some deadline => pure (some deadline)
    | none => stop .deadline

/-- Sets the timer for a wait that ends and is not over at once. -/
def armTimer (r : Ring) : Timeout → Sys (Except Errno Unit)
  | none => pure (.ok ())
  | some t =>
    if t.isZero then pure (.ok ())
    else
      let (seconds, nanos) := splitNanos t.atLeastOneNano
      ask (.timerSet r.timer.descriptor seconds nanos)

def disarmTimer (r : Ring) : Timeout → Sys Unit
  | none => pure ()
  | some t => if t.isZero then pure () else do
    let _ ← ask (.timerSet r.timer.descriptor 0 0)

def poll (r : Ring) (timeout : Timeout) : Sys (Polled × Ring) := do
  match ← r.resubmit with
  | (.error c, r) => pure (.failed (.facility c), r)
  | (.ok (), r) =>
    let deadline ← deadlineOf timeout
    match ← r.armTimer timeout with
    | .error e => pure (.failed (.facility (.os e)), r)
    | .ok () =>
      let (polled, r) ← (waitWithin (timeout != some .zero) deadline · .none r)
      r.disarmTimer timeout
      pure (polled, r)

def destroyed (r : Ring) : Record := .destroyed .ioUring none r.registry.size

end Ring
end Multiplexer

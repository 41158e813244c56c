import Multiplexer.Config
import Multiplexer.Registry.Basic
import Multiplexer.Wakeup

/-! Completion ports. A handle joins the port once, under the key of that registration, and can
never leave it: packets of a handle registered again keep arriving under the key of its
association. The table of associations leads from that key to the handle. -/
namespace Multiplexer

structure CompletionPort where
  signal : PortSignal
  batch : Nat
  registry : Registry
  /-- The key of each handle's last successful association. -/
  associations : List (UInt64 × Descriptor)

namespace CompletionPort

def create (config : Config) : ExceptT Error Sys CompletionPort := do
  let port ← require (fun e => .resourceExhaustion .iocp (.os e)) (ask (.portCreate 1))
  note (.portOpened config.batchSize)
  pure ⟨⟨port, false⟩, config.batchSize, .empty, []⟩

def isAssociated (p : CompletionPort) (fd : Descriptor) : Bool :=
  p.associations.any (·.2 == fd)

/-- The table after a handle joined under `key`, which replaces its earlier key, and a key's earlier
handle. -/
def associate (associations : List (UInt64 × Descriptor)) (key : UInt64) (fd : Descriptor) :
    List (UInt64 × Descriptor) :=
  (key, fd) :: associations.filter fun (k, known) => known != fd && k != key

/-- A handle that cannot join is accepted only if it has joined before. -/
def add (p : CompletionPort) (fd : Descriptor) (interest : Interest) (token : Token) :
    Sys (Except Error Unit × CompletionPort) :=
  match p.registry.insert fd interest token with
  | .error e => pure (.error e, p)
  | .ok (key, registry) => do
    match ← ask (.portAssociate fd p.signal.port key.pack) with
    | .ok () =>
      note (.registered .iocp fd interest)
      pure (.ok (),
        { p with registry, associations := associate p.associations key.pack fd })
    | .error e =>
      if e = .invalidParameter ∧ p.isAssociated fd then
        note (.alreadyAssociated fd)
        note (.registered .iocp fd interest)
        pure (.ok (), { p with registry })
      else
        pure (.error (.unsupported fd (.os e)), { p with registry := registry.discard fd })

def modify (p : CompletionPort) (fd : Descriptor) (interest : Interest) :
    Except Error Unit × CompletionPort :=
  match p.registry.keyOf? fd with
  | none => (.error (.notRegistered fd), p)
  | some key => (.ok (), { p with registry := p.registry.modify key ({ · with interest }) })

def remove (p : CompletionPort) (fd : Descriptor) : Sys (Except Error Unit × CompletionPort) :=
  match p.registry.remove fd with
  | .error e => pure (.error e, p)
  | .ok (_, registry) => do
    note (.deregistered .iocp fd)
    pure (.ok (), { p with registry })

/-- Queues a packet under the current key of a registration. -/
def post (p : CompletionPort) (fd : Descriptor) (marker : Marker) (bytes : UInt32) :
    Sys (Except Error Unit) :=
  match p.registry.keyOf? fd with
  | none => pure (.error (.notRegistered fd))
  | some key => do
    match ← ask (.portPost p.signal.port ⟨key.pack, marker, bytes⟩) with
    | .ok () => pure (.ok ())
    | .error e => pure (.error (.facility (.os e)))

/-- The registration a packet's key belongs to, directly or through an association. -/
def resolve? (p : CompletionPort) (key : UInt64) : Option Registration :=
  (p.registry.get? (.unpack key)).or
    ((p.associations.lookup key).bind p.registry.find?)

/-- The events of the packets of one wait. A wakeup packet makes room for the next one; packets that
belong to no registration are dropped. -/
def dispatch (p : CompletionPort) : List Packet → Sys (Dispatched × Bool)
  | [] => pure (.none, p.signal.notified)
  | packet :: rest =>
    if packet.key = wakeKey ∧ packet.marker = 0 then
      { p with signal := { p.signal with notified := false } }.dispatch rest
    else
      match p.resolve? packet.key with
      | none => do
        note (.stalePacket packet.key)
        p.dispatch rest
      | some entry => do
        let (later, notified) ← p.dispatch rest
        pure (later.cons
          ⟨entry.descriptor, entry.token, .completion packet.marker packet.bytes⟩, notified)

/-- Milliseconds of a wait; the largest number waits without end. -/
def millis : Timeout → Nat
  | none => 4294967295
  | some t => (timeoutMillis (some t)).toNat

def poll (p : CompletionPort) (timeout : Timeout) : Sys (Polled × CompletionPort) := do
  match ← ask (.portWait p.signal.port p.batch (millis timeout)) with
  | .error e => pure (if e = .waitTimeout then .idle else .failed (.facility (.os e)), p)
  | .ok packets =>
    let (dispatched, notified) ← p.dispatch packets
    pure (.ended dispatched, { p with signal := { p.signal with notified } })

def destroyed (p : CompletionPort) : Record := .destroyed .iocp none p.registry.size

end CompletionPort
end Multiplexer

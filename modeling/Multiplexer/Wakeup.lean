import Multiplexer.Dialogue.Basic

/-! Wakeup channels. Waking never blocks, and a channel that is signalled already takes no harm:
a full pipe, socket or counter counts as woken. The poller empties its end after a report. -/
namespace Multiplexer

/-- A pipe of bytes, both ends nonblocking; its reader is watched like any descriptor. -/
structure Pipe where
  reader : Descriptor
  writer : Descriptor
  deriving DecidableEq, Repr

namespace Pipe

def drainSize : Nat := 64

def create : Sys (Except Errno Pipe) := do
  match ← ask (.pipe true true) with
  | .ok (reader, writer) => pure (.ok ⟨reader, writer⟩)
  | .error e => pure (.error e)

/-- Reads until a read comes back short or fails; an interrupted one is repeated. -/
def drainWithin (p : Pipe) : Nat → Dialogue Unit
  | 0 => .halt .patience
  | patience + 1 =>
    .ask (.read p.reader drainSize) fun
      | .ok n => if n = drainSize then p.drainWithin patience else .done ()
      | .error e => if e = .interrupted then p.drainWithin patience else .done ()

def drain (p : Pipe) : Sys Unit := p.drainWithin

/-- Writes one byte; an interrupted write is repeated, a full pipe needs none. -/
def wakeWithin (p : Pipe) : Nat → Dialogue (Except Error Unit)
  | 0 => .halt .patience
  | patience + 1 =>
    .ask (.write p.writer 1) fun
      | .ok _ => .done (.ok ())
      | .error e =>
        if e = .wouldBlock then .done (.ok ())
        else if e = .interrupted then p.wakeWithin patience
        else .done (.error (.facility (.os e)))

def wake (p : Pipe) : Sys (Except Error Unit) := p.wakeWithin

end Pipe

/-- A connected pair of loopback sockets, both nonblocking. -/
structure SocketPair where
  reader : Descriptor
  writer : Descriptor
  deriving DecidableEq, Repr

namespace SocketPair

def drainSize : Nat := 64

/-- Connects through a listener of its own, which is not kept. -/
def create : ExceptT Errno Sys SocketPair := do
  let listener ← ExceptT.mk (ask .socketOpen)
  ExceptT.mk (ask (.socketBind listener))
  ExceptT.mk (ask (.socketListen listener 1))
  let writer ← ExceptT.mk (ask .socketOpen)
  ExceptT.mk (ask (.socketAddress listener))
  ExceptT.mk (ask (.socketConnect writer))
  let reader ← ExceptT.mk (ask (.socketAccept listener))
  ExceptT.mk (ask (.socketNonblocking reader true))
  ExceptT.mk (ask (.socketNonblocking writer true))
  ExceptT.mk (ask (.socketNoDelay writer true))
  pure ⟨reader, writer⟩

/-- Receives until a read comes back short or fails. -/
def drainWithin (p : SocketPair) : Nat → Dialogue Unit
  | 0 => .halt .patience
  | patience + 1 =>
    .ask (.socketReceive p.reader drainSize) fun
      | .ok n => if n < drainSize then .done () else p.drainWithin patience
      | .error _ => .done ()

def drain (p : SocketPair) : Sys Unit := p.drainWithin

def wake (p : SocketPair) : Sys (Except Error Unit) := do
  match ← ask (.socketSend p.writer 1) with
  | .ok _ => pure (.ok ())
  | .error e => pure (if e = .wouldBlock then .ok () else .error (.facility (.os e)))

end SocketPair

/-- A counting descriptor, reset by one read. -/
structure Counter where
  descriptor : Descriptor
  deriving DecidableEq, Repr

namespace Counter

def drain (c : Counter) : Sys Unit := do
  let _ ← ask (.counterRead c.descriptor)

/-- Adds one to the counter, in eight bytes; one about to overflow needs no more. -/
def wake (c : Counter) : Sys (Except Error Unit) := do
  match ← ask (.write c.descriptor 8) with
  | .ok _ => pure (.ok ())
  | .error e => pure (if e = .wouldBlock then .ok () else .error (.facility (.os e)))

end Counter

/-- The key of wakeup packets, which no registration has in practice. -/
def wakeKey : UInt64 := 0xffffffffffffffff

/-- A completion port, woken by a packet of its own. -/
structure PortSignal where
  port : Handle
  /-- A wakeup packet is queued and not yet taken out. -/
  notified : Bool
  deriving DecidableEq, Repr

namespace PortSignal

/-- Queues a wakeup packet unless one is queued already. -/
def wake (p : PortSignal) : Sys (Except Error Unit × PortSignal) :=
  if p.notified then pure (.ok (), p)
  else do
    match ← ask (.portPost p.port ⟨wakeKey, 0, 0⟩) with
    | .ok () => pure (.ok (), { p with notified := true })
    | .error e => pure (.error (.facility (.os e)), { p with notified := false })

end PortSignal
end Multiplexer

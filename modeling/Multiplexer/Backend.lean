import Multiplexer.CompletionPort
import Multiplexer.Epoll
import Multiplexer.Kqueue
import Multiplexer.Ring.Basic
import Multiplexer.Select.Bitmap
import Multiplexer.Select.Socket

/-! One poller state for all facilities, and the operations that every facility offers. -/
namespace Multiplexer

inductive Backend where
  | epoll (p : Epoll)
  | kqueue (p : Kqueue)
  | bitmap (p : BitmapSelect)
  | socket (p : SocketSelect)
  | port (p : CompletionPort)
  | ring (p : Ring)

/-- A wakeup channel, which may outlive its poller. -/
inductive Channel where
  | pipe (p : Pipe)
  | sockets (p : SocketPair)
  | counter (c : Counter)
  | port (p : PortSignal)
  deriving DecidableEq, Repr

namespace Channel

/-- Ends the running wait of the poller, or its next one. -/
def wake : Channel → Sys (Except Error Unit × Channel)
  | pipe p => return (← p.wake, pipe p)
  | sockets p => return (← p.wake, sockets p)
  | counter c => return (← c.wake, counter c)
  | port p => do
    let (result, p) ← p.wake
    return (result, port p)

/-- What happens when nobody holds the channel any more: a completion port is closed. -/
def release : Channel → Sys Unit
  | port p => do
    match ← ask (.handleClose p.port) with
    | .ok () => pure ()
    | .error e => note (.closeFailed e)
  | _ => pure ()

end Channel

namespace Backend

def registry : Backend → Registry
  | epoll p => p.registry
  | kqueue p => p.registry
  | bitmap p => p.registry
  | socket p => p.registry
  | port p => p.registry
  | ring p => p.registry

def kind : Backend → Kind
  | epoll _ => .epoll
  | kqueue _ => .kqueue
  | bitmap _ | socket _ => .select
  | port _ => .iocp
  | ring _ => .ioUring

def batch : Backend → Nat
  | epoll p => p.batch
  | kqueue p => p.batch
  | bitmap p => p.batch
  | socket p => p.batch
  | port p => p.batch
  | ring p => p.batch

def channel : Backend → Channel
  | epoll p => .pipe p.wakeup
  | kqueue p => .pipe p.wakeup
  | bitmap p => .pipe p.wakeup
  | socket p => .sockets p.wakeup
  | port p => .port p.signal
  | ring p => .counter p.waker

/-- The backend after its channel was signalled through another holder. -/
def withChannel : Backend → Channel → Backend
  | port p, .port signal => port { p with signal }
  | b, _ => b

def add (b : Backend) (fd : Descriptor) (interest : Interest) (token : Token) :
    Sys (Except Error Unit × Backend) :=
  match b with
  | epoll p => Prod.map id epoll <$> p.add fd interest token
  | kqueue p => Prod.map id kqueue <$> p.add fd interest token
  | bitmap p => Prod.map id bitmap <$> p.add fd interest token
  | socket p => Prod.map id socket <$> p.add fd interest token
  | port p => Prod.map id port <$> p.add fd interest token
  | ring p => Prod.map id ring <$> p.add fd interest token

def modify (b : Backend) (fd : Descriptor) (interest : Interest) :
    Sys (Except Error Unit × Backend) :=
  match b with
  | epoll p => Prod.map id epoll <$> p.modify fd interest
  | kqueue p => Prod.map id kqueue <$> p.modify fd interest
  | bitmap p => pure (Prod.map id bitmap (p.modify fd interest))
  | socket p => pure (Prod.map id socket (p.modify fd interest))
  | port p => pure (Prod.map id port (p.modify fd interest))
  | ring p => Prod.map id ring <$> p.modify fd interest

def remove (b : Backend) (fd : Descriptor) : Sys (Except Error Unit × Backend) :=
  match b with
  | epoll p => Prod.map id epoll <$> p.remove fd
  | kqueue p => Prod.map id kqueue <$> p.remove fd
  | bitmap p => Prod.map id bitmap <$> p.remove fd
  | socket p => Prod.map id socket <$> p.remove fd
  | port p => Prod.map id port <$> p.remove fd
  | ring p => Prod.map id ring <$> p.remove fd

def poll (b : Backend) (timeout : Timeout) : Sys (Polled × Backend) :=
  match b with
  | epoll p => (·, epoll p) <$> p.poll timeout
  | kqueue p => Prod.map id kqueue <$> p.poll timeout
  | bitmap p => Prod.map id bitmap <$> p.poll timeout
  | socket p => Prod.map id socket <$> p.poll timeout
  | port p => Prod.map id port <$> p.poll timeout
  | ring p => Prod.map id ring <$> p.poll timeout

/-- Only a completion port takes posted completions. -/
def post (b : Backend) (fd : Descriptor) (marker : Marker) (bytes : UInt32) :
    Sys (Except Error Unit) :=
  match b with
  | port p => p.post fd marker bytes
  | _ =>
    pure (.error (.unsupported fd
      (.reason .unsupported "completions can only be posted to a completion backend")))

def wakeup (b : Backend) : Sys (Except Error Unit × Backend) := do
  let (result, channel) ← b.channel.wake
  return (result, b.withChannel channel)

def destroyed : Backend → Record
  | epoll p => p.destroyed
  | kqueue p => p.destroyed
  | bitmap p => p.destroyed
  | socket p => p.destroyed
  | port p => p.destroyed
  | ring p => p.destroyed

def describe (b : Backend) : String :=
  "Poller \x7b backend: " ++ b.kind.title ++ ", registered: " ++ toString b.registry.size ++ " \x7d"

end Backend
end Multiplexer

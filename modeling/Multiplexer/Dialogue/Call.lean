import Multiplexer.Duration
import Multiplexer.Error
import Multiplexer.Ring.Queues
import Std.Data.TreeSet

/-! Requests to the operating system, with the type of the reply to each. A request that can be
refused replies with an error number instead of its value. -/
namespace Multiplexer

/-! ### Readiness lists of epoll -/

inductive EpollChange where
  | add (descriptor : Descriptor) (mask : PollMask) (data : UInt64)
  | modify (descriptor : Descriptor) (mask : PollMask) (data : UInt64)
  | delete (descriptor : Descriptor)
  deriving DecidableEq, Repr

def EpollChange.descriptor : EpollChange → Descriptor
  | add fd _ _ | modify fd _ _ | delete fd => fd

structure EpollRecord where
  mask : PollMask
  data : UInt64
  deriving DecidableEq, Repr

/-! ### Filters of kqueue -/

inductive Filter where
  | read
  | write
  deriving DecidableEq, Repr

inductive FilterChange where
  | add (descriptor : Descriptor) (filter : Filter) (data : UInt64)
  | delete (descriptor : Descriptor) (filter : Filter)
  deriving DecidableEq, Repr

structure Receipt where
  /-- The receipt carries an error number, which may still be zero. -/
  marked : Bool
  errno : Errno
  deriving DecidableEq, Repr

structure FilterRecord where
  filter : Int16
  flags : UInt16
  filterFlags : UInt32
  data : UInt64
  deriving DecidableEq, Repr

/-! ### Sets of select -/

abbrev FdSet := Std.TreeSet Descriptor

structure FdSets where
  read : FdSet
  write : FdSet
  error : FdSet

structure SocketSets where
  read : List Descriptor
  write : List Descriptor
  error : List Descriptor
  deriving DecidableEq, Repr

/-- The sets a wait left behind, and how many members they had together. -/
structure Selected (sets : Type) where
  count : Nat
  sets : sets

/-! ### Completion ports -/

abbrev Handle := Int64

structure Packet where
  key : UInt64
  marker : Marker
  bytes : UInt32
  deriving DecidableEq, Repr

inductive Call where
  /-- A reading of the monotonic clock. -/
  | clock
  | pipe (closeOnExec nonblocking : Bool)
  | read (fd : Descriptor) (room : Nat)
  | write (fd : Descriptor) (length : Nat)
  | getFlags (fd : Descriptor)
  | setFlags (fd : Descriptor) (flags : Nat)
  | epollCreate (closeOnExec : Bool)
  | epollControl (queue : Descriptor) (change : EpollChange)
  | epollWait (queue : Descriptor) (room : Nat) (millis : Int)
  | kqueueCreate
  | kqueueChange (queue : Descriptor) (changes : List FilterChange)
  | kqueueWait (queue : Descriptor) (room : Nat) (timeout : Option (UInt64 × Nat))
  | selectFds (bound : Int) (watched : FdSets) (timeout : Option (UInt64 × Nat))
  | selectSockets (watched : SocketSets) (timeout : Option (UInt64 × Nat))
  | socketOpen
  | socketBind (socket : Descriptor)
  | socketListen (socket : Descriptor) (backlog : Nat)
  | socketAddress (socket : Descriptor)
  | socketConnect (socket : Descriptor)
  | socketAccept (listener : Descriptor)
  | socketNonblocking (socket : Descriptor) (on : Bool)
  | socketNoDelay (socket : Descriptor) (on : Bool)
  /-- Which type a socket has, asked only to learn whether it is one. -/
  | socketType (socket : Descriptor)
  | socketReceive (socket : Descriptor) (room : Nat)
  | socketSend (socket : Descriptor) (length : Nat)
  | portCreate (threads : Nat)
  | portAssociate (handle : Descriptor) (port : Handle) (key : UInt64)
  | portPost (port : Handle) (packet : Packet)
  | portWait (port : Handle) (room : Nat) (millis : Nat)
  | handleClose (handle : Handle)
  | ringSetup (length : Nat)
  /-- Which operations the ring does not know, by number. -/
  | ringProbe
  | ringSubmit (queues : Ring.Queues)
  /-- Submits, and waits for a completion if there is none. -/
  | ringWait (wait : Bool) (queues : Ring.Queues)
  | counterCreate (closeOnExec nonblocking : Bool)
  | timerCreate (closeOnExec nonblocking : Bool)
  /-- Resets a counter or a timer. -/
  | counterRead (fd : Descriptor)
  /-- Fires after the span, or never if it is zero. -/
  | timerSet (fd : Descriptor) (seconds : UInt64) (nanos : Nat)

def Call.Reply : Call → Type
  | clock => Instant
  | pipe .. => Except Errno (Descriptor × Descriptor)
  | read .. | write .. | socketReceive .. | socketSend .. | counterRead .. => Except Errno Nat
  | getFlags .. | setFlags .. | epollControl .. | socketBind .. | socketListen ..
  | socketAddress .. | socketConnect .. | socketNonblocking .. | socketNoDelay .. | socketType ..
  | portAssociate .. | portPost .. | handleClose .. | ringSetup .. | timerSet .. =>
    Except Errno Unit
  | epollCreate .. | kqueueCreate | socketOpen | socketAccept .. | counterCreate ..
  | timerCreate .. => Except Errno Descriptor
  | epollWait .. => Except Errno (List EpollRecord)
  | kqueueChange .. => Except Errno (List Receipt)
  | kqueueWait .. => Except Errno (List FilterRecord)
  | selectFds .. => Except Errno (Selected FdSets)
  | selectSockets .. => Except Errno (Selected SocketSets)
  | portCreate .. => Except Errno Handle
  | portWait .. => Except Errno (List Packet)
  | ringProbe => Except Errno (List Nat)
  | ringSubmit .. | ringWait .. => Ring.Entered

end Multiplexer

import Multiplexer.Error

/-! The log: what the library records of its own doings, each record with its level, its message and
its named fields as texts. -/
namespace Multiplexer

inductive Level where
  | trace
  | debug
  | warn
  deriving DecidableEq, Repr

def Level.name : Level → String
  | .trace => "TRACE"
  | .debug => "DEBUG"
  | .warn => "WARN"

inductive Record where
  | created (kind : Kind)
  | fellBack (kind : Kind) (error : Error)
  | epollOpened (queue : Descriptor) (batch : Nat)
  | kqueueOpened (queue : Descriptor) (batch : Nat)
  | selectOpened (waker : Descriptor)
  | portOpened (batch : Nat)
  | ringOpened (queueLength : Nat) (multishot : Bool)
  | registered (kind : Kind) (descriptor : Descriptor) (interest : Interest)
  | deregistered (kind : Kind) (descriptor : Descriptor)
  | alreadyGone (kind : Kind) (descriptor : Descriptor) (error : Errno)
  | deregistrationFailed (kind : Kind) (descriptor : Descriptor) (token : Token) (error : Errno)
  | alreadyAssociated (descriptor : Descriptor)
  | stalePacket (key : UInt64)
  | closeFailed (error : Errno)
  | pollSubmitted (descriptor : Descriptor) (interest : Interest)
  | resubmissionQueued (descriptor : Descriptor) (interest : Interest)
  | staleCompletion (data : UInt64)
  | pollFailed (descriptor : Descriptor) (error : Errno)
  /-- The kernel does not know multishot polls; internal polls have no descriptor to name. -/
  | multishotRejected (descriptor : Option Descriptor)
  /-- A poller is gone; `queue` is the descriptor of its facility where it has one. -/
  | destroyed (kind : Kind) (queue : Option Descriptor) (registered : Nat)
  deriving DecidableEq, Repr

namespace Record

def level : Record → Level
  | deregistrationFailed .. | closeFailed .. | multishotRejected .. => .warn
  | created .. | fellBack .. | epollOpened .. | kqueueOpened .. | selectOpened .. | portOpened ..
  | ringOpened .. | destroyed .. => .debug
  | _ => .trace

def message : Record → String
  | created _ => "poller created"
  | fellBack .. => "backend unavailable, falling back"
  | epollOpened .. => "epoll poller initialized"
  | kqueueOpened .. => "kqueue poller initialized"
  | selectOpened _ => "select poller initialized"
  | portOpened _ => "iocp poller initialized"
  | ringOpened .. => "io_uring poller initialized"
  | registered kind .. => kind.name ++ ": registered"
  | deregistered kind _ => kind.name ++ ": deregistered"
  | alreadyGone kind .. => kind.name ++ ": descriptor already gone"
  | deregistrationFailed kind .. => kind.name ++ ": deregistration failed, metadata released"
  | alreadyAssociated _ => "iocp: handle already associated"
  | stalePacket _ => "iocp: stale completion dropped"
  | closeFailed _ => "iocp: closing the completion port failed"
  | pollSubmitted .. => "io_uring: poll submitted"
  | resubmissionQueued .. => "io_uring: poll resubmission queued"
  | staleCompletion _ => "io_uring: stale completion dropped"
  | pollFailed .. => "io_uring: poll failed"
  | multishotRejected _ =>
    "io_uring: multishot poll rejected, using single-shot registrations"
  | destroyed kind .. => kind.name ++ " poller destroyed"

def fields : Record → List (String × String)
  | created kind => [("backend", kind.name)]
  | fellBack kind error => [("backend", kind.name), ("error", error.message)]
  | epollOpened queue batch => [("epoll_fd", toString queue), ("batch", toString batch)]
  | kqueueOpened queue batch => [("kqueue_fd", toString queue), ("batch", toString batch)]
  | selectOpened waker => [("waker", toString waker)]
  | portOpened batch => [("batch", toString batch)]
  | ringOpened length multishot =>
    [("queue_len", toString length), ("multishot", toString multishot)]
  | registered _ fd interest | pollSubmitted fd interest | resubmissionQueued fd interest =>
    [("descriptor", toString fd), ("interest", interest.describe)]
  | deregistered _ fd | alreadyAssociated fd => [("descriptor", toString fd)]
  | alreadyGone _ fd errno | pollFailed fd errno =>
    [("descriptor", toString fd), ("error", (Cause.os errno).text)]
  | deregistrationFailed _ fd token errno =>
    [("descriptor", toString fd), ("token", toString token), ("error", (Cause.os errno).text)]
  | stalePacket key => [("completion_key", toString key)]
  | closeFailed errno => [("error", (Cause.os errno).text)]
  | staleCompletion data => [("user_data", toString data)]
  | multishotRejected fd => (fd.map fun fd => ("descriptor", toString fd)).toList
  | destroyed kind queue count =>
    (queue.map fun fd => (kind.name ++ "_fd", toString fd)).toList ++
      [("registered", toString count)]

end Record
end Multiplexer

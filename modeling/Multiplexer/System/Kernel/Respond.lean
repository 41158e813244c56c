import Multiplexer.System.Kernel.Waiting

/-! The simulated kernel as a system to hold dialogues with. It has the requests of Linux; the
others are refused. It is there for runs: theorems on pollers are about any replies, or take
something for granted of them, and of these replies it is true (`History.granted_on_bench`). -/
namespace Multiplexer.Kernel

def ringLimit : Nat := 32768

def openOne (k : Kernel) (file : File) : Except Errno Descriptor × Kernel :=
  let (fd, k) := k.install file
  (.ok fd, k)

def check (k : Kernel) (fd : Descriptor) : Except Errno Unit :=
  if (k.lookup fd).isSome then .ok () else .error .badDescriptor

def respond : (call : Call) → Kernel → call.Reply × Kernel
  | .clock, k => (.ofNanos k.now, k)
  | .pipe .., k =>
    let (ends, k) := k.openPipe
    (.ok ends, k)
  | .read fd room, k => k.read fd room
  | .counterRead fd, k => k.read fd 8
  | .write fd length, k => k.write fd length
  | .getFlags fd, k => (k.check fd, k)
  | .setFlags fd _, k => (k.check fd, k)
  | .epollCreate _, k => k.openOne .facility
  | .epollControl queue change, k => k.control queue change
  | .epollWait queue room millis, k => k.epollWait queue room millis
  | .selectFds bound watched timeout, k => k.selectWait bound watched timeout
  | .ringSetup length, k =>
    if length = 0 ∨ ringLimit < length then (.error .invalidArgument, k)
    else (.ok (), (k.install .facility).2)
  | .ringProbe, k => (.ok [], k)
  | .ringSubmit queues, k => k.enter false queues
  | .ringWait wait queues, k => k.enter wait queues
  | .counterCreate .., k => k.openOne (.counter 0)
  | .timerCreate .., k => k.openOne (.timer none false)
  | .timerSet fd seconds nanos, k => k.setTimer fd (seconds.toNat * 1000000000 + nanos)
  | .kqueueCreate, k => (.error .notImplemented, k)
  | .kqueueChange .., k => (.error .notImplemented, k)
  | .kqueueWait .., k => (.error .notImplemented, k)
  | .selectSockets .., k => (.error .notImplemented, k)
  | .socketOpen, k => (.error .notImplemented, k)
  | .socketBind _, k => (.error .notImplemented, k)
  | .socketListen .., k => (.error .notImplemented, k)
  | .socketAddress _, k => (.error .notImplemented, k)
  | .socketConnect _, k => (.error .notImplemented, k)
  | .socketAccept _, k => (.error .notImplemented, k)
  | .socketNonblocking .., k => (.error .notImplemented, k)
  | .socketNoDelay .., k => (.error .notImplemented, k)
  | .socketType _, k => (.error .notImplemented, k)
  | .socketReceive .., k => (.error .notImplemented, k)
  | .socketSend .., k => (.error .notImplemented, k)
  | .portCreate _, k => (.error .notImplemented, k)
  | .portAssociate .., k => (.error .notImplemented, k)
  | .portPost .., k => (.error .notImplemented, k)
  | .portWait .., k => (.error .notImplemented, k)
  | .handleClose _, k => (.error .notImplemented, k)

end Multiplexer.Kernel

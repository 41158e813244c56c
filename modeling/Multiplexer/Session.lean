import Multiplexer.Opening

/-! A session: a poller and the wakers handed out for it. Wakers may outlive the poller; the wakeup
channel is released when the last of them all goes. -/
namespace Multiplexer

/-- The poller, or the channel that its wakers still hold after it went. -/
inductive Holder where
  | poller (backend : Backend)
  | orphan (channel : Channel)

structure Session where
  holder : Holder
  /-- For every waker ever handed out, whether it is still held. -/
  wakers : List Bool

namespace Session

def start (b : Backend) : Session := ⟨.poller b, []⟩

def poller? (s : Session) : Option Backend :=
  match s.holder with
  | .poller b => some b
  | .orphan _ => none

def channel (s : Session) : Channel :=
  match s.holder with
  | .poller b => b.channel
  | .orphan c => c

def withChannel (s : Session) (c : Channel) : Session :=
  match s.holder with
  | .poller b => { s with holder := .poller (b.withChannel c) }
  | .orphan _ => { s with holder := .orphan c }

/-- Hands out a waker; wakers are numbered from zero. -/
def addWaker (s : Session) : Nat × Session :=
  (s.wakers.length, { s with wakers := s.wakers ++ [true] })

def holdsWaker (s : Session) (i : Nat) : Bool := s.wakers[i]?.getD false

def wake (s : Session) : Sys (Except Error Unit × Session) := do
  let (result, channel) ← s.channel.wake
  return (result, s.withChannel channel)

/-- Releases the channel if nobody holds it any more. -/
def settle (s : Session) : Sys Unit :=
  match s.holder with
  | .orphan c => if s.wakers.contains true then pure () else c.release
  | .poller _ => pure ()

/-- Drops a waker; nothing happens if it is not held any more. -/
def dropWaker (s : Session) (i : Nat) : Sys Session :=
  if s.holdsWaker i then do
    let rest := { s with wakers := s.wakers.set i false }
    rest.settle
    return rest
  else pure s

/-- Drops the poller; nothing happens if it is gone. -/
def dropPoller (s : Session) : Sys Session :=
  match s.holder with
  | .orphan _ => pure s
  | .poller b => do
    note b.destroyed
    let rest := { s with holder := .orphan b.channel }
    rest.settle
    return rest

end Session
end Multiplexer

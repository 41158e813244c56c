import Multiplexer.Config
import Multiplexer.Registry.Basic
import Multiplexer.Wakeup

/-! The epoll facility. The kernel keeps a list of watched descriptors; every operation on the
registry goes along with one change of that list, under the registration's current key. -/
namespace Multiplexer

structure Epoll where
  /-- The kernel's list, by its own descriptor. -/
  queue : Descriptor
  wakeup : Pipe
  batch : Nat
  registry : Registry

namespace Epoll

/-- Failing to add a descriptor: some cannot be watched, some are in the kernel's list already. -/
def refusal (fd : Descriptor) (e : Errno) : Error :=
  if e = .notPermitted then .unsupported fd (.os e)
  else if e = .alreadyExists then .alreadyRegistered fd
  else .facility (.os e)

def create (config : Config) : ExceptT Error Sys Epoll := do
  let exhausted (e : Errno) : Error := .resourceExhaustion .epoll (.os e)
  let queue ← require exhausted (ask (.epollCreate true))
  let wakeup ← require exhausted Pipe.create
  require exhausted (ask (.epollControl queue (.add wakeup.reader .input wakeKey)))
  note (.epollOpened queue config.batchSize)
  pure ⟨queue, wakeup, config.batchSize, .empty⟩

def add (p : Epoll) (fd : Descriptor) (interest : Interest) (token : Token) :
    Sys (Except Error Unit × Epoll) :=
  match p.registry.insert fd interest token with
  | .error e => pure (.error e, p)
  | .ok (key, registry) => do
    match ← ask (.epollControl p.queue (.add fd interest.pollMask key.pack)) with
    | .error e => pure (.error (refusal fd e), { p with registry := registry.discard fd })
    | .ok () =>
      note (.registered .epoll fd interest)
      pure (.ok (), { p with registry })

def modify (p : Epoll) (fd : Descriptor) (interest : Interest) :
    Sys (Except Error Unit × Epoll) :=
  match p.registry.keyOf? fd with
  | none => pure (.error (.notRegistered fd), p)
  | some key => do
    match ← ask (.epollControl p.queue (.modify fd interest.pollMask key.pack)) with
    | .error e => pure (.error (.facility (.os e)), p)
    | .ok () =>
      pure (.ok (), { p with registry := p.registry.modify key ({ · with interest }) })

def remove (p : Epoll) (fd : Descriptor) : Sys (Except Error Unit × Epoll) :=
  match p.registry.remove fd with
  | .error e => pure (.error e, p)
  | .ok (entry, registry) => do
    match ← ask (.epollControl p.queue (.delete fd)) with
    | .ok () => note (.deregistered .epoll fd)
    | .error e =>
      if e.isAlreadyGone then note (.alreadyGone .epoll fd e)
      else note (.deregistrationFailed .epoll fd entry.token e)
    pure (.ok (), { p with registry })

/-- The events of the records of one wait; wakeup records empty the pipe, stale ones vanish. -/
def dispatch (p : Epoll) : List EpollRecord → Sys Dispatched
  | [] => pure .none
  | record :: rest =>
    if record.data = wakeKey then do
      p.wakeup.drain
      p.dispatch rest
    else do
      let later ← p.dispatch rest
      pure <| match p.registry.get? (.unpack record.data) with
        | some entry =>
          later.cons ⟨entry.descriptor, entry.token, .readiness record.mask.epollReady⟩
        | none => later

def poll (p : Epoll) (timeout : Timeout) : Sys Polled := do
  match ← ask (.epollWait p.queue p.batch (timeoutMillis timeout)) with
  | .ok records => return .ended (← p.dispatch records)
  | .error e =>
    return if e = .interrupted then .idle else .failed (.facility (.os e))

def destroyed (p : Epoll) : Record := .destroyed .epoll p.queue p.registry.size

end Epoll
end Multiplexer

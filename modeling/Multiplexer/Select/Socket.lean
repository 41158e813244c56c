import Multiplexer.Config
import Multiplexer.Select.Rotation
import Multiplexer.Wakeup

/-! Select over lists of sockets. A list has room for sixty-four, one of them the wakeup socket, so
sixty-three can be registered; the lists are built anew for every wait. -/
namespace Multiplexer

def socketSetCapacity : Nat := 64

namespace SocketSets

def put (sockets : List Descriptor) (socket : Descriptor) : List Descriptor :=
  if sockets.length < socketSetCapacity then sockets ++ [socket] else sockets

def watch (s : SocketSets) (socket : Descriptor) (interest : Interest) : SocketSets where
  read := if interest.read then put s.read socket else s.read
  write := if interest.write then put s.write socket else s.write
  error := if interest.error then put s.error socket else s.error

/-- What a wait left of the lists; an empty list was not handed over and stays empty. -/
def left (handed found : SocketSets) : SocketSets where
  read := if handed.read.isEmpty then [] else found.read
  write := if handed.write.isEmpty then [] else found.write
  error := if handed.error.isEmpty then [] else found.error

def conditions (s : SocketSets) (socket : Descriptor) : Interest :=
  { read := s.read.contains socket
    write := s.write.contains socket
    error := s.error.contains socket }

end SocketSets

structure SocketSelect where
  wakeup : SocketPair
  batch : Nat
  registry : Registry
  /-- Where the next scan starts. -/
  cursor : Nat

namespace SocketSelect

def create (config : Config) : ExceptT Error Sys SocketSelect := do
  let wakeup ← require (fun e => .resourceExhaustion .select (.os e)) SocketPair.create
  note (.selectOpened wakeup.reader)
  pure ⟨wakeup, config.batchSize, .empty, 0⟩

/-- What is no socket would fail every wait, so it is refused here. -/
def add (p : SocketSelect) (fd : Descriptor) (interest : Interest) (token : Token) :
    Sys (Except Error Unit × SocketSelect) :=
  if !p.registry.contains fd && socketSetCapacity ≤ p.registry.size + 1 then
    pure (.error (.capacityExceeded fd socketSetCapacity), p)
  else do
    match ← ask (.socketType fd) with
    | .error e =>
      pure (.error (if p.registry.contains fd then .alreadyRegistered fd
        else .unsupported fd (.os e)), p)
    | .ok () =>
      match p.registry.insert fd interest token with
      | .error e => pure (.error e, p)
      | .ok (_, registry) =>
        note (.registered .select fd interest)
        pure (.ok (), { p with registry })

def modify (p : SocketSelect) (fd : Descriptor) (interest : Interest) :
    Except Error Unit × SocketSelect :=
  match p.registry.keyOf? fd with
  | none => (.error (.notRegistered fd), p)
  | some key => (.ok (), { p with registry := p.registry.modify key ({ · with interest }) })

def remove (p : SocketSelect) (fd : Descriptor) : Sys (Except Error Unit × SocketSelect) :=
  match p.registry.remove fd with
  | .error e => pure (.error e, p)
  | .ok (_, registry) => do
    note (.deregistered .select fd)
    pure (.ok (), { p with registry })

/-- The lists for the next wait: the wakeup socket first, then the registrations in slot order. -/
def watched (p : SocketSelect) : SocketSets :=
  p.registry.entries.foldl (fun s (_, entry) => s.watch entry.descriptor entry.interest)
    ⟨[p.wakeup.reader], [], []⟩

/-- The longest wait in seconds that fits a signed 32-bit number. -/
def maxSeconds : UInt64 := 0x7fffffff

def poll (p : SocketSelect) (timeout : Timeout) : Sys (Polled × SocketSelect) := do
  let watched := p.watched
  match ← ask (.selectSockets watched (timeout.map (splitMicros · maxSeconds))) with
  | .error e => pure (if e = .socketInterrupted then .idle else .failed (.facility (.os e)), p)
  | .ok selected =>
    if selected.count = 0 then pure (.idle, p)
    else
      let found := watched.left selected.sets
      if found.read.contains p.wakeup.reader then p.wakeup.drain
      let (dispatched, cursor) := Select.takeBatch p.batch p.cursor
        (Select.candidates p.registry found.conditions)
      pure (.ended dispatched, { p with cursor })

def destroyed (p : SocketSelect) : Record := .destroyed .select none p.registry.size

end SocketSelect
end Multiplexer

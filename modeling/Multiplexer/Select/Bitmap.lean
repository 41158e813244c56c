import Multiplexer.Config
import Multiplexer.Select.Rotation
import Multiplexer.Wakeup

/-! Select over sets of small descriptors. The three sets handed to every wait are kept up to date
by the operations, together with the largest descriptor in use; the wakeup pipe's reader is always
in the read set. -/
namespace Multiplexer

/-- Descriptors below this number fit into the sets. -/
def fdSetCapacity : Nat := 1024

def fitsFdSet (fd : Descriptor) : Bool := 0 ≤ fd && fd.toInt < fdSetCapacity

namespace FdSets

/-- Puts a descriptor into the sets of its interest, and takes it out of the others. -/
def apply (s : FdSets) (fd : Descriptor) (interest : Interest) : FdSets where
  read := if interest.read then s.read.insert fd else s.read.erase fd
  write := if interest.write then s.write.insert fd else s.write.erase fd
  error := if interest.error then s.error.insert fd else s.error.erase fd

def conditions (s : FdSets) (fd : Descriptor) : Interest :=
  { read := s.read.contains fd, write := s.write.contains fd, error := s.error.contains fd }

end FdSets

structure BitmapSelect where
  wakeup : Pipe
  batch : Nat
  registry : Registry
  watched : FdSets
  /-- The largest descriptor in the sets. -/
  top : Descriptor
  /-- Where the next scan starts. -/
  cursor : Nat

namespace BitmapSelect

def create (config : Config) : ExceptT Error Sys BitmapSelect := do
  let wakeup ← require (fun e => .resourceExhaustion .select (.os e)) Pipe.create
  if fitsFdSet wakeup.reader then
    note (.selectOpened wakeup.reader)
    pure
      { wakeup
        batch := config.batchSize
        registry := .empty
        watched := ⟨Std.TreeSet.empty.insert wakeup.reader, ∅, ∅⟩
        top := wakeup.reader
        cursor := 0 }
  else
    throw (.resourceExhaustion .select
      (.reason .other "wakeup descriptor does not fit into select sets"))

/-- A closed descriptor would fail every wait, so it is refused here. -/
def add (p : BitmapSelect) (fd : Descriptor) (interest : Interest) (token : Token) :
    Sys (Except Error Unit × BitmapSelect) :=
  if !fitsFdSet fd then pure (.error (.capacityExceeded fd fdSetCapacity), p)
  else do
    match ← ask (.getFlags fd) with
    | .error e =>
      pure (.error (if p.registry.contains fd then .alreadyRegistered fd
        else .unsupported fd (.os e)), p)
    | .ok () =>
      match p.registry.insert fd interest token with
      | .error e => pure (.error e, p)
      | .ok (_, registry) =>
        note (.registered .select fd interest)
        pure (.ok (),
          { p with registry, watched := p.watched.apply fd interest, top := max p.top fd })

def modify (p : BitmapSelect) (fd : Descriptor) (interest : Interest) :
    Except Error Unit × BitmapSelect :=
  match p.registry.keyOf? fd with
  | none => (.error (.notRegistered fd), p)
  | some key =>
    (.ok (),
      { p with
        registry := p.registry.modify key ({ · with interest })
        watched := p.watched.apply fd interest })

/-- The largest of the wakeup reader and the registered descriptors. -/
def topOf (wakeup : Pipe) (registry : Registry) : Descriptor :=
  registry.entries.foldl (fun top (_, entry) => max top entry.descriptor) wakeup.reader

def remove (p : BitmapSelect) (fd : Descriptor) : Sys (Except Error Unit × BitmapSelect) :=
  match p.registry.remove fd with
  | .error e => pure (.error e, p)
  | .ok (_, registry) => do
    note (.deregistered .select fd)
    pure (.ok (),
      { p with
        registry
        watched := p.watched.apply fd .none
        top := if fd = p.top then topOf p.wakeup registry else p.top })

def poll (p : BitmapSelect) (timeout : Timeout) : Sys (Polled × BitmapSelect) := do
  let wait := timeout.map (splitMicros · maxSignedSeconds)
  match ← ask (.selectFds (p.top.toInt + 1) p.watched wait) with
  | .error e => pure (if e = .interrupted then .idle else .failed (.facility (.os e)), p)
  | .ok selected =>
    if selected.count = 0 then pure (.idle, p)
    else
      if selected.sets.read.contains p.wakeup.reader then p.wakeup.drain
      let (dispatched, cursor) := Select.takeBatch p.batch p.cursor
        (Select.candidates p.registry selected.sets.conditions)
      pure (.ended dispatched, { p with cursor })

def destroyed (p : BitmapSelect) : Record := .destroyed .select none p.registry.size

end BitmapSelect
end Multiplexer

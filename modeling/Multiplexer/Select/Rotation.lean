import Multiplexer.Dialogue.Basic
import Multiplexer.Registry.Basic

/-! Fair batches for facilities that report all ready descriptors at once. The registrations are
scanned from a cursor on, around the end; a batch cut short leaves the cursor behind its last
event, so the next batch goes on from there. Positions count the registrations in slot order. -/
namespace Multiplexer.Select

structure Candidate where
  position : Nat
  event : Event
  deriving DecidableEq, Repr

/-- The registrations for which `ready` holds a condition, in scan order. -/
def candidates (registry : Registry) (ready : Descriptor → Interest) : List Candidate :=
  registry.entries.zipIdx.filterMap fun ((_, entry), position) =>
    let found := ready entry.descriptor
    if found.isEmpty then none
    else some ⟨position, entry.descriptor, entry.token, .readiness found⟩

/-- The same candidates, from the first at or after the cursor on. -/
def rotate (cursor : Nat) (cs : List Candidate) : List Candidate :=
  cs.dropWhile (·.position < cursor) ++ cs.takeWhile (·.position < cursor)

/-- Dispatches candidates while there is room, and keeps the cursor behind the last one. -/
def takeUpTo : Nat → List Candidate → Nat → Dispatched × Nat
  | 0, _, cursor | _, [], cursor => (.none, cursor)
  | room + 1, c :: rest, _ =>
    let (later, cursor) := takeUpTo room rest (c.position + 1)
    (later.cons c.event, cursor)

def takeBatch (batch cursor : Nat) (cs : List Candidate) : Dispatched × Nat :=
  let (dispatched, behind) := takeUpTo batch (rotate cursor cs) cursor
  (dispatched, if dispatched.count < batch then 0 else behind)

end Multiplexer.Select

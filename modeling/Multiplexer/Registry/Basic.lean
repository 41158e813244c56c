import Multiplexer.Error
import Multiplexer.Registry.Key
import Std.Data.TreeMap

/-! The registry: what is known of each watched descriptor. Registrations live in numbered slots;
a vacated slot is reused, the last vacated first, under its next generation, so that a key of an
earlier registration no longer opens it. An index finds the slot of a descriptor. -/
namespace Multiplexer

structure Registration where
  descriptor : Descriptor
  interest : Interest
  token : Token
  /-- The facility no longer watches the descriptor until the registration is submitted again. -/
  rearm : Bool := false
  deriving DecidableEq, Repr

structure Slot where
  generation : UInt32
  entry : Option Registration
  deriving DecidableEq, Repr

structure Registry where
  slots : Array Slot
  /-- Vacant slots, the one to be reused next in front. -/
  free : List UInt32
  index : Std.TreeMap Descriptor UInt32

namespace Registry

def empty : Registry := ⟨#[], [], ∅⟩

def size (r : Registry) : Nat := r.index.size

def contains (r : Registry) (fd : Descriptor) : Bool := r.index.contains fd

def slot? (r : Registry) (i : UInt32) : Option Slot := r.slots[i.toNat]?

def modifySlot (r : Registry) (i : UInt32) (f : Slot → Slot) : Registry :=
  { r with slots := r.slots.modify i.toNat f }

def keyAt? (r : Registry) (i : UInt32) : Option Key :=
  (r.slot? i).map fun s => ⟨i, s.generation⟩

/-- Fills the vacant slot in front, or a new one. -/
def place (r : Registry) (entry : Registration) : UInt32 × Registry :=
  match r.free with
  | i :: rest => (i, { r.modifySlot i ({ · with entry := some entry }) with free := rest })
  | [] => (r.slots.size.toUInt32, { r with slots := r.slots.push ⟨0, some entry⟩ })

def insert (r : Registry) (fd : Descriptor) (interest : Interest) (token : Token) :
    Except Error (Key × Registry) :=
  if r.contains fd then .error (.alreadyRegistered fd)
  else
    let (i, placed) := r.place { descriptor := fd, interest, token }
    let generation := (placed.slot? i).elim 0 (·.generation)
    .ok (⟨i, generation⟩, { placed with index := placed.index.insert fd i })

def keyOf? (r : Registry) (fd : Descriptor) : Option Key := r.index[fd]?.bind r.keyAt?

/-- Opens a slot; a key of another generation opens nothing. -/
def get? (r : Registry) (key : Key) : Option Registration :=
  (r.slot? key.index).bind fun s => if s.generation = key.generation then s.entry else none

/-- Changes the registration that `key` opens, if it opens one. -/
def modify (r : Registry) (key : Key) (f : Registration → Registration) : Registry :=
  r.modifySlot key.index fun s =>
    if s.generation = key.generation then { s with entry := s.entry.map f } else s

def find? (r : Registry) (fd : Descriptor) : Option Registration := (r.keyOf? fd).bind r.get?

/-- Moves a registration to the next generation of its slot, so that its earlier keys are void. -/
def rekey (r : Registry) (fd : Descriptor) : Except Error (Key × Registry) :=
  match r.index[fd]? with
  | none => .error (.notRegistered fd)
  | some i =>
    let moved := r.modifySlot i fun s => { s with generation := s.generation + 1 }
    match moved.keyAt? i with
    | some key => .ok (key, moved)
    | none => .error (.notRegistered fd)

/-- Takes a registration out and vacates its slot under the next generation. The slot that the index
leads to is vacated whatever it holds; if that is nothing, the descriptor was not registered. -/
def vacate (r : Registry) (fd : Descriptor) : Except Error Registration × Registry :=
  match r.index[fd]? with
  | none => (.error (.notRegistered fd), r)
  | some i =>
    let vacated := r.modifySlot i fun s => ⟨s.generation + 1, none⟩
    let rest := { vacated with free := i :: vacated.free, index := vacated.index.erase fd }
    match (r.slot? i).bind (·.entry) with
    | none => (.error (.notRegistered fd), rest)
    | some entry => (.ok entry, rest)

def remove (r : Registry) (fd : Descriptor) : Except Error (Registration × Registry) :=
  let (outcome, rest) := r.vacate fd
  outcome.map (·, rest)

/-- `remove` for a registration known to be there. -/
def discard (r : Registry) (fd : Descriptor) : Registry :=
  match r.remove fd with
  | .ok (_, rest) => rest
  | .error _ => r

def entries (r : Registry) : List (Key × Registration) :=
  r.slots.toList.zipIdx.filterMap fun (s, i) => s.entry.map fun e => (⟨i.toUInt32, s.generation⟩, e)

end Registry
end Multiplexer

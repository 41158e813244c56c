/-! Interest sets: the conditions a descriptor is watched for and reported with. They form the
Boolean algebra of four flags; `bits` and `ofBits` pack them into a byte and back, and
`ofBits_bits` says that packing loses nothing. -/
namespace Multiplexer

/-- What a registration asks for, and equally what an event reports. -/
structure Interest where
  read : Bool := false
  write : Bool := false
  error : Bool := false
  hangup : Bool := false
  deriving DecidableEq, Repr, Inhabited

namespace Interest

def none : Interest := {}
def all : Interest := ⟨true, true, true, true⟩

def union (a b : Interest) : Interest :=
  ⟨a.read || b.read, a.write || b.write, a.error || b.error, a.hangup || b.hangup⟩

def inter (a b : Interest) : Interest :=
  ⟨a.read && b.read, a.write && b.write, a.error && b.error, a.hangup && b.hangup⟩

def complement (a : Interest) : Interest := ⟨!a.read, !a.write, !a.error, !a.hangup⟩

instance : Union Interest := ⟨union⟩
instance : Inter Interest := ⟨inter⟩
instance : SDiff Interest := ⟨fun a b => a.inter b.complement⟩

def isEmpty (a : Interest) : Bool := a == none

def contains (a b : Interest) : Bool := a ∩ b == b

def intersects (a b : Interest) : Bool := a ∩ b != none

/-- The packed form: read, write, error and hangup from the lowest bit up. -/
def bits (a : Interest) : UInt8 :=
  (if a.read then 1 else 0) ||| (if a.write then 2 else 0) |||
    (if a.error then 4 else 0) ||| (if a.hangup then 8 else 0)

/-- Bits above the fourth name no condition and are dropped. -/
def ofBits (b : UInt8) : Interest :=
  ⟨b &&& 1 != 0, b &&& 2 != 0, b &&& 4 != 0, b &&& 8 != 0⟩

@[simp] theorem ofBits_bits (a : Interest) : ofBits a.bits = a := by
  obtain ⟨r, w, e, h⟩ := a
  cases r <;> cases w <;> cases e <;> cases h <;> rfl

@[simp] theorem sdiff_read (a b : Interest) : (a \ b).read = (a.read && !b.read) := rfl
@[simp] theorem sdiff_write (a b : Interest) : (a \ b).write = (a.write && !b.write) := rfl

/-- The names of the conditions, joined by bars; the empty set has a name of its own. -/
def describe (a : Interest) : String :=
  if a.isEmpty then "NONE"
  else " | ".intercalate
    ([(a.read, "READ"), (a.write, "WRITE"), (a.error, "ERROR"), (a.hangup, "HANGUP")].filterMap
      fun (held, name) => if held then some name else Option.none)

end Interest
end Multiplexer

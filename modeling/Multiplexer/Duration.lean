/-! Time spans and their conversions for waits of the operating system. A wait counted in
milliseconds is rounded up and saturates; a wait counted in seconds and microseconds drops what
is below a microsecond. -/
namespace Multiplexer

structure Duration where
  seconds : UInt64
  nanos : Fin 1000000000
  deriving DecidableEq, Repr

/-- How long to wait: without end if absent, not at all if zero. -/
abbrev Timeout := Option Duration

namespace Duration

def zero : Duration := ⟨0, 0⟩

def ofMillis (n : Nat) : Duration :=
  ⟨.ofNat (n / 1000), ⟨n % 1000 * 1000000, by omega⟩⟩

def isZero (t : Duration) : Bool := t == zero

def toNanos (t : Duration) : Nat := t.seconds.toNat * 1000000000 + t.nanos.val

def atLeastOneNano (t : Duration) : Duration := if t.isZero then ⟨0, 1⟩ else t

end Duration

/-- The longest wait that fits a signed 32-bit number of milliseconds. -/
def maxMillis : Nat := 0x7fffffff

def maxSignedSeconds : UInt64 := 0x7fffffffffffffff

/-- Milliseconds of a wait, `-1` without end. A rest below a millisecond rounds up, so a short wait
still sleeps; whether there is a rest is decided on the low 64 bits of the count. -/
def timeoutMillis : Timeout → Int
  | none => -1
  | some t =>
    let whole := t.toNanos / 1000000
    let rounded := if whole % 0x10000000000000000 * 1000000 < t.toNanos then whole + 1 else whole
    (min rounded maxMillis : Nat)

/-- Whole seconds and microseconds of a wait; seconds beyond `most` saturate the pair. -/
def splitMicros (t : Duration) (most : UInt64) : UInt64 × Nat :=
  if most < t.seconds then (most, 999999) else (t.seconds, t.nanos.val / 1000)

/-- Seconds and nanoseconds of a wait, seconds saturated at the largest signed value. -/
def splitNanos (t : Duration) : UInt64 × Nat := (min t.seconds maxSignedSeconds, t.nanos.val)

/-- A reading of the monotonic clock. -/
structure Instant where
  seconds : Nat
  nanos : Fin 1000000000
  deriving DecidableEq, Repr

namespace Instant

def toNanos (i : Instant) : Nat := i.seconds * 1000000000 + i.nanos.val

def ofNanos (n : Nat) : Instant :=
  ⟨n / 1000000000, ⟨n % 1000000000, Nat.mod_lt _ (by decide)⟩⟩

/-- The reading `t` later, absent when its seconds leave the signed 64-bit range. -/
def add? (i : Instant) (t : Duration) : Option Instant :=
  let later := ofNanos (i.toNanos + t.toNanos)
  if later.seconds ≤ maxSignedSeconds.toNat then some later else none

end Instant
end Multiplexer

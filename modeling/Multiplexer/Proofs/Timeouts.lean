import Multiplexer.Proofs.History.Rehearsal
import Multiplexer.Proofs.Millis
import Multiplexer.Proofs.Waits

/-! How long the waits of a poll last. Every facility counts time in its own unit and up to its own
limit. The wait that the system is asked for has an end exactly if the timeout has one, and ends no
earlier than the timeout says as far as the unit and the limit allow. -/
namespace Multiplexer

structure Wait where
  facility : Facility
  /-- The nanoseconds it lasts at most, absent if it has no end. -/
  span : Option Nat
  deriving DecidableEq, Repr

/-- A wait as the system understands it. A negative number of milliseconds has no end, and neither
has the largest unsigned one. -/
def Call.wait? : Call → Option Wait
  | .epollWait _ _ millis =>
    some ⟨.epoll, if millis < 0 then none else some (millis.toNat * 1000000)⟩
  | .kqueueWait _ _ span =>
    some ⟨.kqueue, span.map fun (seconds, nanos) => seconds.toNat * 1000000000 + nanos⟩
  | .selectFds _ _ span =>
    some ⟨.bitmap, span.map fun (seconds, micros) => seconds.toNat * 1000000000 + micros * 1000⟩
  | .selectSockets _ span =>
    some ⟨.socket, span.map fun (seconds, micros) => seconds.toNat * 1000000000 + micros * 1000⟩
  | .portWait _ _ millis =>
    some ⟨.port, if millis = 0xffffffff then none else some (millis * 1000000)⟩
  | _ => none

def Step.wait? : Step → Option Wait
  | .asked call _ => call.wait?
  | .noted _ => none

/-- The numbers of a wait are in the range of their types. -/
def Call.fits : Call → Bool
  | .epollWait _ _ millis => -1 ≤ millis && millis ≤ maxMillis
  | .kqueueWait _ _ span =>
    span.all fun (seconds, nanos) => seconds ≤ maxSignedSeconds && nanos < 1000000000
  | .selectFds _ _ span =>
    span.all fun (seconds, micros) => seconds ≤ maxSignedSeconds && micros < 1000000
  | .selectSockets _ span =>
    span.all fun (seconds, micros) => seconds ≤ SocketSelect.maxSeconds && micros < 1000000
  | .portWait _ _ millis => millis ≤ 0xffffffff
  | _ => true

/-- What a facility makes of a timeout, in nanoseconds. -/
structure Gauge where
  /-- What is left over beyond multiples of the grain may be dropped. -/
  grain : Nat
  /-- The longest timeout that is not cut short. -/
  longest : Nat
  /-- No longer timeout is cut below this. -/
  cap : Nat
  deriving DecidableEq, Repr

/-- Milliseconds are signed 32-bit numbers, also where the system takes unsigned ones. Seconds are
signed numbers of 64 bits, or of 32 bits for sockets; a kqueue saturates the seconds only, and the
selects take whole microseconds. A ring has no such wait. -/
def Facility.gauge? : Facility → Option Gauge
  | epoll | port => some ⟨1, maxMillis * 1000000, maxMillis * 1000000⟩
  | kqueue => some
      ⟨1, maxSignedSeconds.toNat * 1000000000 + 999999999, maxSignedSeconds.toNat * 1000000000⟩
  | bitmap => some
      ⟨1000, maxSignedSeconds.toNat * 1000000000 + 999999999,
        maxSignedSeconds.toNat * 1000000000 + 999999000⟩
  | socket => some
      ⟨1000, SocketSelect.maxSeconds.toNat * 1000000000 + 999999999,
        SocketSelect.maxSeconds.toNat * 1000000000 + 999999000⟩
  | ring => none

/-- The wait does what the timeout asks for. -/
structure Gauge.Honours (g : Gauge) (timeout : Timeout) (span : Option Nat) : Prop where
  endless : span = none ↔ timeout = none
  immediate : timeout = some .zero → span = some 0
  lasting : ∀ t, timeout = some t → g.grain ≤ t.toNanos → span ≠ some 0
  enough : ∀ t, timeout = some t → t.toNanos ≤ g.longest →
    ∃ d, span = some d ∧ t.toNanos / g.grain * g.grain ≤ d
  capped : ∀ t, timeout = some t → g.longest < t.toNanos → ∃ d, span = some d ∧ g.cap ≤ d

namespace Gauge.Honours

variable {g : Gauge}

theorem of_endless : g.Honours none none :=
  ⟨iff_of_true rfl rfl, nofun, nofun, nofun, nofun⟩

/-- The four bounds on the wait for a timeout that ends. -/
theorem of_span {t : Duration} {d : Nat} (immediate : t = .zero → d = 0)
    (lasting : g.grain ≤ t.toNanos → 0 < d)
    (enough : t.toNanos ≤ g.longest → t.toNanos / g.grain * g.grain ≤ d)
    (capped : g.longest < t.toNanos → g.cap ≤ d) : g.Honours (some t) (some d) where
  endless := ⟨nofun, nofun⟩
  immediate := fun zero => congrArg some (immediate (Option.some.inj zero))
  lasting := by
    rintro _ ⟨⟩ long none
    exact absurd (Option.some.inj none) (lasting long).ne'
  enough := by
    rintro _ ⟨⟩ short
    exact ⟨d, rfl, enough short⟩
  capped := by
    rintro _ ⟨⟩ long
    exact ⟨d, rfl, capped long⟩

end Gauge.Honours

/-! ### The conversions -/

/-- Seconds and microseconds make up the whole microseconds of the span, or are the largest pair. -/
theorem splitMicros_span (t : Duration) (most : UInt64) :
    (splitMicros t most).1.toNat * 1000000000 + (splitMicros t most).2 * 1000 =
      min (t.toNanos / 1000 * 1000) (most.toNat * 1000000000 + 999999000) := by
  have fraction := t.nanos.isLt
  unfold splitMicros Duration.toNanos
  split
  · rename_i long
    have long := UInt64.lt_iff_toNat_lt.mp long
    dsimp only
    omega
  · rename_i short
    have short := UInt64.le_iff_toNat_le.mp (UInt64.not_lt.mp short)
    dsimp only
    omega

theorem splitNanos_seconds (t : Duration) :
    (splitNanos t).1.toNat = min t.seconds.toNat maxSignedSeconds.toNat := by
  unfold splitNanos
  rw [UInt64.toNat_min]

/-! ### One gauge after the other -/

theorem millis_honours (t : Duration) :
    ∃ millis : Nat, timeoutMillis (some t) = millis ∧ millis ≤ maxMillis ∧
      Gauge.Honours ⟨1, maxMillis * 1000000, maxMillis * 1000000⟩ (some t)
        (some (millis * 1000000)) := by
  refine ⟨_, timeoutMillis_some t, Nat.min_le_right _ _, .of_span ?_ ?_ ?_ ?_⟩
  · rintro rfl
    rfl
  all_goals
    unfold maxMillis
    dsimp only
    omega

theorem micros_honours (t : Duration) (most : UInt64) :
    Gauge.Honours
      ⟨1000, most.toNat * 1000000000 + 999999999, most.toNat * 1000000000 + 999999000⟩ (some t)
      (some ((splitMicros t most).1.toNat * 1000000000 + (splitMicros t most).2 * 1000)) := by
  rw [splitMicros_span]
  refine .of_span ?_ ?_ ?_ ?_
  · rintro rfl
    exact Nat.zero_min _
  all_goals
    dsimp only
    omega

/-- Seconds saturate alone, and the fraction stays. -/
theorem nanos_honours (t : Duration) :
    Gauge.Honours
      ⟨1, maxSignedSeconds.toNat * 1000000000 + 999999999, maxSignedSeconds.toNat * 1000000000⟩
      (some t) (some ((splitNanos t).1.toNat * 1000000000 + (splitNanos t).2)) := by
  have fraction := t.nanos.isLt
  rw [splitNanos_seconds]
  refine .of_span ?_ ?_ ?_ ?_
  · rintro rfl
    rfl
  all_goals
    have some_seconds : 0 < maxSignedSeconds.toNat := by decide
    unfold splitNanos Duration.toNanos
    dsimp only
    omega

/-! ### The waits of the facilities -/

/-- The call is a wait of the facility that does what the timeout asks for. -/
structure Call.Awaits (call : Call) (f : Facility) (timeout : Timeout) : Prop where
  fits : call.fits = true
  honours : ∃ g span, f.gauge? = some g ∧ call.wait? = some ⟨f, span⟩ ∧ g.Honours timeout span

/-- The transcript starts with such a wait, and there is no other in it. -/
def Transcript.Awaits (t : Transcript) (f : Facility) (timeout : Timeout) : Prop :=
  ∃ call reply rest, t = .asked call reply :: rest ∧ call.Awaits f timeout ∧
    ∀ s ∈ rest, s.wait? = none

theorem Transcript.Reads.waitless {t : Transcript} (reads : t.Reads) : ∀ s ∈ t, s.wait? = none :=
  reads.all (fun _ _ _ => rfl) fun _ _ _ => rfl

variable {timeout : Timeout}

theorem epollWait_waits (queue : Descriptor) (room : Nat) :
    (Call.epollWait queue room (timeoutMillis timeout)).Awaits .epoll timeout := by
  cases timeout with
  | none => exact ⟨rfl, _, none, rfl, rfl, .of_endless⟩
  | some t =>
      obtain ⟨millis, same, most, honours⟩ := millis_honours t
      rw [same]
      refine ⟨?_, _, some (millis * 1000000), rfl, ?_, honours⟩
      · unfold Call.fits
        simp only [Bool.and_eq_true, decide_eq_true_eq]
        omega
      · rw [Call.wait?, if_neg (Int.natCast_nonneg millis).not_gt, Int.toNat_natCast]

theorem portWait_waits (port : Handle) (room : Nat) :
    (Call.portWait port room (CompletionPort.millis timeout)).Awaits .port timeout := by
  cases timeout with
  | none => exact ⟨rfl, _, none, rfl, rfl, .of_endless⟩
  | some t =>
      obtain ⟨millis, same, most, honours⟩ := millis_honours t
      rw [CompletionPort.millis, same, Int.toNat_natCast]
      have finite : millis < 0xffffffff := most.trans_lt (by decide)
      refine ⟨decide_eq_true finite.le, _, some (millis * 1000000), rfl, ?_, honours⟩
      rw [Call.wait?, if_neg finite.ne]

theorem kqueueWait_waits (queue : Descriptor) (room : Nat) :
    (Call.kqueueWait queue room (timeout.map splitNanos)).Awaits .kqueue timeout := by
  cases timeout with
  | none => exact ⟨rfl, _, none, rfl, rfl, .of_endless⟩
  | some t =>
      refine ⟨?_, _, _, rfl, rfl, nanos_honours t⟩
      have seconds : (splitNanos t).1 ≤ maxSignedSeconds := by
        rw [UInt64.le_iff_toNat_le, splitNanos_seconds]
        exact Nat.min_le_right _ _
      exact Bool.and_eq_true_iff.mpr ⟨decide_eq_true seconds, decide_eq_true t.nanos.isLt⟩

/-- Whole microseconds are fewer than a million, and the seconds are limited. -/
theorem splitMicros_fits (t : Duration) (most : UInt64) :
    (decide ((splitMicros t most).1 ≤ most) &&
      decide ((splitMicros t most).2 < 1000000)) = true := by
  have fraction := t.nanos.isLt
  rw [Bool.and_eq_true, decide_eq_true_eq, decide_eq_true_eq]
  unfold splitMicros
  split
  · exact ⟨UInt64.le_refl most, show 999999 < 1000000 by decide⟩
  · rename_i short
    exact ⟨UInt64.not_lt.mp short, Nat.div_lt_of_lt_mul fraction⟩

theorem selectFds_waits (p : BitmapSelect) : (p.wait timeout).Awaits .bitmap timeout := by
  cases timeout with
  | none => exact ⟨rfl, _, none, rfl, rfl, .of_endless⟩
  | some t => exact ⟨splitMicros_fits t _, _, _, rfl, rfl, micros_honours t maxSignedSeconds⟩

theorem selectSockets_waits (p : SocketSelect) : (p.wait timeout).Awaits .socket timeout := by
  cases timeout with
  | none => exact ⟨rfl, _, none, rfl, rfl, .of_endless⟩
  | some t => exact ⟨splitMicros_fits t _, _, _, rfl, rfl, micros_honours t SocketSelect.maxSeconds⟩

variable {t : Transcript} {answer : Answer}

theorem Epoll.Served.awaits {p p' : Epoll} (served : p.Served (.poll timeout) t answer p') :
    t.Awaits .epoll timeout := by
  cases served with
  | unanswered => exact ⟨_, _, [], rfl, epollWait_waits _ _, List.forall_mem_nil _⟩
  | answered reads => exact ⟨_, _, _, rfl, epollWait_waits _ _, reads.waitless⟩

theorem Kqueue.Answered.awaits {p : Kqueue} {polled : Polled}
    (answered : p.Answered timeout t polled) : t.Awaits .kqueue timeout := by
  cases answered with
  | refused => exact ⟨_, _, [], rfl, kqueueWait_waits _ _, List.forall_mem_nil _⟩
  | reported reads => exact ⟨_, _, _, rfl, kqueueWait_waits _ _, reads.waitless⟩

theorem BitmapSelect.Served.awaits {p p' : BitmapSelect}
    (served : p.Served (.poll timeout) t answer p') : t.Awaits .bitmap timeout := by
  cases served with
  | unanswered => exact ⟨_, _, [], rfl, selectFds_waits p, List.forall_mem_nil _⟩
  | unready => exact ⟨_, _, [], rfl, selectFds_waits p, List.forall_mem_nil _⟩
  | answered _ reads => exact ⟨_, _, _, rfl, selectFds_waits p, reads.waitless⟩

theorem SocketSelect.Served.awaits {p p' : SocketSelect}
    (served : p.Served (.poll timeout) t answer p') : t.Awaits .socket timeout := by
  cases served with
  | unanswered => exact ⟨_, _, [], rfl, selectSockets_waits p, List.forall_mem_nil _⟩
  | unready => exact ⟨_, _, [], rfl, selectSockets_waits p, List.forall_mem_nil _⟩
  | answered _ reads => exact ⟨_, _, _, rfl, selectSockets_waits p, reads.waitless⟩

theorem CompletionPort.Served.awaits {p p' : CompletionPort}
    (served : p.Served (.poll timeout) t answer p') : t.Awaits .port timeout := by
  cases served with
  | unanswered => exact ⟨_, _, [], rfl, portWait_waits _ _, List.forall_mem_nil _⟩
  | answered =>
      refine ⟨_, _, _, rfl, portWait_waits _ _, fun s hs => ?_⟩
      obtain ⟨_, -, rfl⟩ := List.mem_map.mp hs
      rfl

/-- Unless it is of a ring, a poll starts with its wait and asks for no other. -/
theorem Exchange.awaits (x : Exchange) (op : x.operation = .poll timeout) :
    x.before.facility = .ring ∨ x.transcript.Awaits x.before.facility timeout := by
  cases before : x.before with
  | epoll p =>
      obtain ⟨_, -, served⟩ := x.epoll_served before
      rw [op] at served
      exact .inr served.awaits
  | kqueue p =>
      obtain ⟨_, -, answered⟩ := x.kqueue_polled before op
      exact .inr answered.awaits
  | bitmap p =>
      obtain ⟨_, -, served⟩ := x.bitmap_served before
      rw [op] at served
      exact .inr served.awaits
  | socket p =>
      obtain ⟨_, -, served⟩ := x.socket_served before
      rw [op] at served
      exact .inr served.awaits
  | port p =>
      obtain ⟨_, -, served⟩ := x.port_served before
      rw [op] at served
      exact .inr served.awaits
  | ring p => exact .inl rfl

/-- A poll asks for one wait, before anything else. It has an end exactly if the timeout has one, it
does not block if the timeout is zero, and it lasts as long as the timeout says, up to the grain of
the facility and to its cap. -/
theorem Exchange.timeout_honoured (x : Exchange) (op : x.operation = .poll timeout)
    (ringless : x.before.facility ≠ .ring) :
    x.transcript.Awaits x.before.facility timeout :=
  (x.awaits op).resolve_left ringless

def tenMicros : Duration := ⟨0, ⟨10000, by decide⟩⟩

def briefPoll : Option History := do
  let h ← History.rehearseOpening Epoll.create .epoll .epoll {} .initial
  h.rehearse [(.poll (some tenMicros), .initial)]

theorem brief_poll_waits :
    ∃ x : Exchange, x.operation = .poll (some tenMicros) ∧ x.before.facility = .epoll ∧
      x.transcript.filterMap Step.wait? = [⟨.epoll, some 1000000⟩] ∧
      x.transcript.Awaits .epoll (some tenMicros) := by
  have computed : ∃ h ∈ briefPoll, ∃ x ∈ h.exchanges,
      x.operation = .poll (some tenMicros) ∧ x.before.facility = .epoll ∧
        x.transcript.filterMap Step.wait? = [⟨.epoll, some 1000000⟩] := by
    decide +kernel
  obtain ⟨h, -, x, -, op, epoll, waits⟩ := computed
  have honoured := x.timeout_honoured op (by rw [epoll]; decide)
  rw [epoll] at honoured
  exact ⟨x, op, epoll, waits, honoured⟩

/-- The longest wait with an end that the system has. -/
def Facility.widest? : Facility → Option Nat
  | epoll => some (0x7fffffff * 1000000)
  | kqueue => some (maxSignedSeconds.toNat * 1000000000 + 999999999)
  | bitmap => some (maxSignedSeconds.toNat * 1000000000 + 999999000)
  | socket => some (0x7fffffff * 1000000000 + 999999000)
  | port => some (0xfffffffe * 1000000)
  | ring => none

/-- The wait blocks unless the timeout is zero, and is as long as the timeout or else the longest. -/
def Wait.lasts (w : Wait) (t : Duration) : Bool :=
  w.span.all fun d => (d != 0 || t.isZero) && (t.toNanos ≤ d || w.facility.widest? == some d)

def halfMicro : Duration := ⟨0, ⟨500, by decide⟩⟩

/-- Half a microsecond of a select, some more than the cap of a port, and the seconds just beyond
the cap of a kqueue. -/
def cutShort : List (Duration × Option History) :=
  let polled (t : Duration) (h : History) := h.rehearse [(.poll (some t), .initial)]
  let seconds (n : UInt64) : Duration := { Duration.zero with seconds := n }
  [(halfMicro,
      History.rehearseOpening BitmapSelect.create .bitmap .bitmap {} .initial >>= polled halfMicro),
    (seconds 2147484,
      History.rehearseOpening CompletionPort.create .port .port {} .initial >>=
        polled (seconds 2147484)),
    (seconds 0x8000000000000000,
      History.rehearseOpening Kqueue.create .kqueue .kqueue {} .initial >>=
        polled (seconds 0x8000000000000000))]

/-- The first does not block at all, and the others end early though the system can wait longer. -/
theorem timeouts_cut_short :
    (∀ rehearsal ∈ cutShort, ∃ h ∈ rehearsal.2, ∃ x ∈ h.exchanges.getLast?,
      x.operation = .poll (some rehearsal.1) ∧
        (x.transcript.filterMap Step.wait?).map (·.lasts rehearsal.1) = [false]) ∧
    cutShort.map (fun rehearsal => rehearsal.2.map fun h =>
      h.exchanges.flatMap fun x => x.transcript.filterMap Step.wait?) =
      [some [⟨.bitmap, some 0⟩], some [⟨.port, some (0x7fffffff * 1000000)⟩],
        some [⟨.kqueue, some (maxSignedSeconds.toNat * 1000000000)⟩]] := by
  decide +kernel

end Multiplexer

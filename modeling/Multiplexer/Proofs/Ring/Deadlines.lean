import Multiplexer.Proofs.History.Rings
import Multiplexer.Proofs.Ring.Endings
import Multiplexer.Proofs.Timeouts

/-! The two ways in which a poll of a ring counts its timeout: as the value of a timer, whose seconds
saturate, and as a deadline on the clock, which may lie beyond what the clock can show. Then the poll
stops for good, with nothing but the look at the clock done; otherwise it gets to its wait. -/
namespace Multiplexer
open Dialogue

/-- A dialogue whose beginning is known goes on from there. -/
theorem Dialogue.Follows.resume {α β : Type} {p : Dialogue α} {f : α → Dialogue β}
    {t u : Transcript} {a : α} {o : Except Halt β} (begun : Follows p t (.ok a))
    (whole : Follows (p.bind f) (t ++ u) o) : Follows (f a) u o := by
  generalize same : (Except.ok a : Except Halt α) = first at begun
  induction begun with
  | done b =>
      cases same
      exact whole
  | ask reply _ ih =>
      cases whole with
      | ask _ rest => exact ih rest same
  | note _ ih =>
      cases whole with
      | note rest => exact ih rest same
  | halt => cases same

namespace Instant

/-- The first nanosecond that the clock cannot show. -/
def horizon : Nat := (maxSignedSeconds.toNat + 1) * 1000000000

theorem add?_isSome_iff {now : Instant} {t : Duration} :
    (now.add? t).isSome ↔ now.toNanos + t.toNanos < horizon := by
  have shown : (ofNanos (now.toNanos + t.toNanos)).seconds ≤ maxSignedSeconds.toNat ↔
      now.toNanos + t.toNanos < horizon :=
    Nat.lt_succ_iff.symm.trans (Nat.div_lt_iff_lt_mul (by decide))
  rw [← shown]
  unfold add?
  dsimp only
  split
  · rename_i early
    exact iff_of_true rfl early
  · rename_i late
    exact iff_of_false Bool.false_ne_true late

end Instant

namespace Duration

/-- These seconds and nanoseconds set a timer for the span: they are in range and not zero, which
would stop the timer, and they are not less than the span unless the seconds are the most there are. -/
structure Armed (t : Duration) (seconds : UInt64) (nanos : Nat) : Prop where
  seconds_le : seconds ≤ maxSignedSeconds
  nanos_lt : nanos < 1000000000
  running : seconds ≠ 0 ∨ nanos ≠ 0
  lasting : t.toNanos ≤ seconds.toNat * 1000000000 + nanos ∨ seconds = maxSignedSeconds

theorem isZero_iff {t : Duration} : t.isZero = true ↔ t = .zero := beq_iff_eq

theorem atLeastOneNano_ne_zero (t : Duration) : t.atLeastOneNano ≠ .zero := by
  unfold atLeastOneNano
  split
  · decide
  · rename_i long
    exact fun zero => long (isZero_iff.mpr zero)

theorem toNanos_le_atLeastOneNano (t : Duration) : t.toNanos ≤ t.atLeastOneNano.toNanos := by
  unfold atLeastOneNano
  split
  · rename_i zero
    rw [isZero_iff.mp zero]
    decide
  · exact Nat.le_refl _

/-- Splitting keeps a span, or saturates its seconds. -/
theorem armed_splitNanos {t : Duration} (long : t ≠ .zero) :
    t.Armed (splitNanos t).1 (splitNanos t).2 := by
  have seconds := splitNanos_seconds t
  rcases Nat.le_total t.seconds.toNat maxSignedSeconds.toNat with short | capped
  · have same : (splitNanos t).1 = t.seconds :=
      UInt64.toNat_inj.mp (seconds.trans (Nat.min_eq_left short))
    rw [same]
    refine ⟨UInt64.le_iff_toNat_le.mpr short, t.nanos.isLt, ?_, .inl (Nat.le_refl _)⟩
    by_contra none
    obtain ⟨noSeconds, noNanos⟩ := not_or.mp none
    refine long ?_
    rw [show t = ⟨t.seconds, t.nanos⟩ from rfl, not_not.mp noSeconds]
    exact congrArg (Duration.mk 0) (Fin.ext (not_not.mp noNanos))
  · have same : (splitNanos t).1 = maxSignedSeconds :=
      UInt64.toNat_inj.mp (seconds.trans (Nat.min_eq_right capped))
    rw [same]
    exact ⟨UInt64.le_refl _, t.nanos.isLt, .inl (by decide), .inr rfl⟩

/-- Whatever the span, a timer is set for it. -/
theorem armed_atLeastOneNano (t : Duration) :
    t.Armed (splitNanos t.atLeastOneNano).1 (splitNanos t.atLeastOneNano).2 := by
  have armed := armed_splitNanos t.atLeastOneNano_ne_zero
  exact { armed with lasting := armed.lasting.imp_left t.toNanos_le_atLeastOneNano.trans }

end Duration

def Step.timer? : Step → Option (Except Errno Unit)
  | .asked (.timerSet ..) result => some result
  | _ => none

namespace Transcript

def timer? (t : Transcript) : Option (Except Errno Unit) := (t.filterMap Step.timer?).head?

/-- For a wait that ends and is not over at once, the last thing done was to set the timer. -/
def Times (v : Transcript) (timer : Descriptor) (timeout : Timeout) : Prop :=
  ∀ t, timeout = some t → t ≠ .zero → ∃ before seconds nanos,
    v = before ++ [.asked (.timerSet timer seconds nanos) (.ok ())] ∧ t.Armed seconds nanos

theorem Times.after {v : Transcript} {timer : Descriptor} {timeout : Timeout}
    (times : v.Times timer timeout) (t : Transcript) : Transcript.Times (t ++ v) timer timeout := by
  intro span same long
  obtain ⟨before, seconds, nanos, rfl, armed⟩ := times span same long
  exact ⟨t ++ before, seconds, nanos, (List.append_assoc ..).symm, armed⟩

end Transcript

namespace Ring

variable {n : Nat}

/-- The ring is waited for, and the timer has been set before. -/
def Reaches (r : Ring) (timeout : Timeout) (u : Transcript) : Prop :=
  ∃ (v : Transcript) (entered : Entered) (w : Transcript),
    u = v ++ .asked (.ringWait (timeout != some .zero) r.queues) entered :: w ∧
    v.Unwaited ∧ v.Times r.timer.descriptor timeout

/-! ### What comes before the wait -/

/-- The limit of a wait is before the horizon, unless it stops the poll. -/
theorem deadlineOf_within (timeout : Timeout) :
    Meets (deadlineOf timeout n) fun u o => u.filterMap Step.timer? = [] ∧ u.Unwaited ∧ match o with
      | .ok _ => ∀ v, ∀ d ∈ Transcript.due (u ++ v) timeout, d < Instant.horizon
      | .error why => why = .deadline ∧ ∃ now, u = [.asked .clock now] ∧
          ¬ ∀ d ∈ u.due timeout, d < Instant.horizon := by
  intro u o follows
  cases deadlineOf_limited timeout follows with
  | endless => exact ⟨rfl, Transcript.unwaited_nil, nofun⟩
  | limited later =>
      refine ⟨rfl, List.forall_mem_singleton.mpr rfl, fun v d same => ?_⟩
      cases same
      exact Instant.add?_isSome_iff.mp (Option.isSome_of_mem later)
  | @beyond span now later =>
      refine ⟨rfl, List.forall_mem_singleton.mpr rfl, rfl, now, rfl, fun within => ?_⟩
      have shown := Instant.add?_isSome_iff.mpr (within _ rfl)
      rw [later] at shown
      cases shown

/-- What setting the timer comes to. -/
theorem armTimer_times (r : Ring) (timeout : Timeout) :
    Yields (r.armTimer timeout n) fun v result => v.Unwaited ∧ match result with
      | .ok () => v.Times r.timer.descriptor timeout
      | .error e => v.timer? = some (.error e) := by
  intro v result follows
  cases armTimer_arms r timeout follows with
  | idle zero =>
      refine ⟨Transcript.unwaited_nil, fun span same long => ?_⟩
      exact absurd (Duration.isZero_iff.mp (zero span same)) long
  | @set span _ same _ =>
      refine ⟨List.forall_mem_singleton.mpr rfl, ?_⟩
      cases result with
      | error e => rfl
      | ok =>
          intro _ same' _
          cases same.symm.trans same'
          exact ⟨[], _, _, rfl, span.armed_atLeastOneNano⟩

/-! ### The wait -/

theorem Waiting.patience {wait : Bool} {r : Ring} {t : Transcript} {why : Halt}
    (h : Waiting wait r t (.error why)) : why = .patience := by
  generalize same : (Except.error why : Except Halt (Polled × Ring)) = o at h
  induction h with
  | impatient => exact Except.error.inj same
  | refused => cases same
  | ended => cases same
  | stuck => cases same
  | again _ _ _ ih => exact ih same

/-- A wait asks for the ring first, and no deadline stops it. -/
theorem waitWithin_starts (wait : Bool) (deadline : Option Instant) (r : Ring) :
    Meets (waitWithin wait deadline (n + 1) .none r) fun w o => o ≠ .error .deadline ∧
      ∃ entered rest, w = .asked (.ringWait wait r.queues) entered :: rest := by
  intro w o follows
  constructor
  · rintro rfl
    cases (waitWithin_waiting _ _ _ _ follows).patience
  · cases follows with
    | ask entered _ => exact ⟨entered, _, rfl⟩

/-! ### Whole polls -/

/-- How a poll goes on once what was pending has been submitted: the deadline cannot be shown, the timer
cannot be set, or the ring is waited for. -/
inductive Onward (timeout : Timeout) (r : Ring) (u : Transcript) :
    Except Halt (Polled × Ring) → Prop
  | beyond {now} : u = [.asked .clock now] → (¬ ∀ d ∈ u.due timeout, d < Instant.horizon) →
      Onward timeout r u (.error .deadline)
  | unarmed {e o} : u.timer? = some (.error e) → Onward timeout r u o
  | waits {o} : (∀ d ∈ u.due timeout, d < Instant.horizon) → r.Reaches timeout u →
      o ≠ .error .deadline → Onward timeout r u o

variable {r r₁ : Ring} {timeout : Timeout} {t u : Transcript} {o : Except Halt (Polled × Ring)}

theorem poll_onward (submitted : Follows (r.resubmit (n + 1)) t (.ok (.ok (), r₁)))
    (polled : Follows (r.poll timeout (n + 1)) (t ++ u) o) : Onward timeout r₁ u o := by
  -- What follows the resubmission is gone through from the front: deadline, timer, wait.
  refine (show Meets _ (Onward timeout r₁) from ?_) (submitted.resume polled)
  refine meets_bind.mpr ((deadlineOf_within timeout).mono fun a limit reads => ?_)
  obtain ⟨untimed, unwaited, limits⟩ := reads
  cases limit with
  | error why =>
      obtain ⟨rfl, now, same, beyond⟩ := limits
      exact .beyond same beyond
  | ok deadline =>
      refine (armTimer_returns r₁ timeout).meets_bind
        ((armTimer_times r₁ timeout).mono fun b armed sets => ?_)
      obtain ⟨unwaited', times⟩ := sets
      cases armed with
      | error e =>
          refine meets_done.mpr (.unarmed (e := e) ?_)
          rw [List.append_nil, Transcript.timer?, List.filterMap_append, untimed, List.nil_append]
          exact times
      | ok =>
          refine meets_bind.mpr ((waitWithin_starts _ deadline r₁).mono fun c result waits => ?_)
          obtain ⟨shown, entered, rest, rfl⟩ := waits
          have reaches : ∀ w, r₁.Reaches timeout
              (a ++ (b ++ (.asked (.ringWait (timeout != some .zero) r₁.queues) entered :: w))) := by
            intro w
            exact ⟨a ++ b, entered, w, (List.append_assoc ..).symm, unwaited.append unwaited',
              times.after a⟩
          cases result with
          | error why => exact .waits (limits _) (reaches rest) shown
          | ok result =>
              refine (disarmTimer_returns result.2 timeout).meets_bind fun d _ _ => ?_
              exact meets_done.mpr (.waits (limits _) (reaches _) nofun)

/-- Once what was pending has been submitted, and unless the timer cannot be set, a poll gets to its
wait exactly if the clock can show the deadline, and by then the timer has been set; otherwise it
stops for good, having done nothing but look at the clock. -/
theorem poll_reaches_wait_iff (submitted : Follows (r.resubmit (n + 1)) t (.ok (.ok (), r₁)))
    (polled : Follows (r.poll timeout (n + 1)) (t ++ u) o)
    (set : ∀ e, u.timer? ≠ some (.error e)) :
    (r₁.Reaches timeout u ↔ ∀ d ∈ u.due timeout, d < Instant.horizon) ∧
    (o = .error .deadline ↔ ¬ r₁.Reaches timeout u) ∧
    (¬ r₁.Reaches timeout u → ∃ now, u = [.asked .clock now]) := by
  cases poll_onward submitted polled with
  | unarmed refused => exact absurd refused (set _)
  | waits within reaches ends =>
      exact ⟨iff_of_true reaches within, iff_of_false ends (not_not.mpr reaches),
        fun never => absurd reaches never⟩
  | beyond same beyond =>
      have never : ¬ r₁.Reaches timeout u := by
        rintro ⟨v, entered, w, split, -⟩
        rw [same] at split
        obtain ⟨-, first, -⟩ := Transcript.unwaited_nil.split_only rfl split
        cases first
      exact ⟨iff_of_false never beyond, iff_of_true rfl never, fun _ => ⟨_, same⟩⟩

/-! ### Polls on the scripted system -/

/-- A ring with a poll to withdraw and another one to push. -/
def modified : Option History := do
  let h ← History.rehearseOpening Ring.create .ring .ring {} .initial
  h.rehearse [(.add 5 { read := true } 1, .initial), (.modify 5 { write := true }, .initial)]

def resubmission (r : Ring) : Outcome Script.Stage (Except Cause Unit × Ring) :=
  (r.resubmit 4).perform Script.Stage.respond .initial

/-- The ring that is left once they have all been pushed without a call. -/
def pushed? (r : Ring) : Option Ring :=
  match r.resubmission.transcript, r.resubmission.result with
  | [], .ok (.ok (), left) => some left
  | _, _ => none

theorem follows_resubmit {r left : Ring} (h : r.pushed? = some left) :
    Follows (r.resubmit 4) [] (.ok (.ok (), left)) := by
  have follows := follows_perform Script.Stage.respond (r.resubmit 4) .initial
  unfold pushed? at h
  split at h
  · rename_i quiet pushed
    cases h
    rw [← quiet, ← pushed]
    exact follows
  · cases h

def rehearsal (r : Ring) (timeout : Timeout) : Outcome Script.Stage (Polled × Ring) :=
  (r.poll timeout 4).perform Script.Stage.respond .initial

theorem modified_ring_reaches_wait :
    ∃ (h : History) (r left : Ring) (u : Transcript) (o : Except Halt (Polled × Ring)),
      h.finish = .ring r ∧ Follows (r.resubmit 4) [] (.ok (.ok (), left)) ∧
      Follows (r.poll (some tenMicros) 4) u o ∧ u.timer? = some (.ok ()) ∧
      u.due (some tenMicros) = some 1000010000 ∧ left.Reaches (some tenMicros) u ∧
      o ≠ .error .deadline := by
  have computed : ∃ h ∈ modified, ∃ r ∈ h.finish.ring?, r.pushed?.isSome = true ∧
      (r.rehearsal (some tenMicros)).transcript.timer? = some (.ok ()) ∧
      (r.rehearsal (some tenMicros)).transcript.due (some tenMicros) = some 1000010000 := by
    decide +kernel
  obtain ⟨h, -, r, ring, pushed, set, due⟩ := computed
  obtain ⟨left, pushed⟩ := Option.isSome_iff_exists.mp pushed
  have polled := follows_perform Script.Stage.respond (r.poll (some tenMicros) 4) .initial
  have set' : ∀ e, (r.rehearsal (some tenMicros)).transcript.timer? ≠ some (.error e) := by
    rw [set]
    exact nofun
  have within : ∀ d ∈ (r.rehearsal (some tenMicros)).transcript.due (some tenMicros),
      d < Instant.horizon := by
    rw [due]
    decide
  obtain ⟨reaches, stops, -⟩ := poll_reaches_wait_iff (follows_resubmit pushed) polled set'
  exact ⟨h, r, left, _, _, Backend.eq_ring_of_ring? ring, follows_resubmit pushed, polled, set, due,
    reaches.mpr within, fun late => stops.mp late (reaches.mpr within)⟩

def longest : Duration := { Duration.zero with seconds := 0xffffffffffffffff }

/-- A timer could be set for that, but the poll gets neither there nor to its wait. -/
theorem longest_timeout_stops :
    ∃ (h : History) (r left : Ring) (u : Transcript),
      h.finish = .ring r ∧ Follows (r.resubmit 4) [] (.ok (.ok (), left)) ∧
      Follows (r.poll (some longest) 4) u (.error .deadline) ∧ u.timer? = none ∧
      ¬ left.Reaches (some longest) u := by
  have computed : ∃ h ∈ modified, ∃ r ∈ h.finish.ring?, r.pushed?.isSome = true ∧
      (r.rehearsal (some longest)).transcript.timer? = none ∧
      (r.rehearsal (some longest)).transcript.all (!·.waits) = true ∧
      (r.rehearsal (some longest)).result.map (fun _ => ()) = .error .deadline := by
    decide +kernel
  obtain ⟨h, -, r, ring, pushed, unset, unwaited, stopped⟩ := computed
  obtain ⟨left, pushed⟩ := Option.isSome_iff_exists.mp pushed
  have polled := follows_perform Script.Stage.respond (r.poll (some longest) 4) .initial
  have stops : (r.rehearsal (some longest)).result = .error .deadline := by
    cases result : (r.rehearsal (some longest)).result with
    | error why =>
        rw [result] at stopped
        exact congrArg Except.error (Except.error.inj stopped)
    | ok =>
        rw [result] at stopped
        cases stopped
  change Follows _ _ (r.rehearsal (some longest)).result at polled
  rw [stops] at polled
  refine ⟨h, r, left, _, Backend.eq_ring_of_ring? ring, follows_resubmit pushed, polled, unset, ?_⟩
  rintro ⟨v, entered, w, split, -⟩
  have waits := List.all_eq_true.mp unwaited _ (split ▸ List.mem_append_right v List.mem_cons_self)
  cases waits

end Ring
end Multiplexer

import Multiplexer.Proofs.Ring.Ledger
import Multiplexer.Proofs.Ring.Rounds

/-! What ends a wait that has no event to tell: a wakeup taken off the queue, an interruption, or the
deadline. Completions of any other kind only lead to another round. -/
namespace Multiplexer
open Dialogue

def Step.interrupted : Step → Bool
  | .asked (.ringWait ..) ⟨_, _, .error e⟩ => e == .interrupted
  | _ => false

def Step.clock? : Step → Option Instant
  | .asked .clock now => some now
  | _ => none

namespace Transcript

def clocks (t : Transcript) : List Instant := t.filterMap Step.clock?

/-- When a wait that started with the first reading is over, in nanoseconds. -/
def due (t : Transcript) (timeout : Timeout) : Option Nat := do
  let span ← timeout
  let start ← t.clocks.head?
  return start.toNanos + span.toNanos

theorem due_append {t u : Transcript} {timeout : Timeout} (timeless : t.clocks = []) :
    (t ++ u).due timeout = u.due timeout := by
  rw [due, clocks, List.filterMap_append, ← clocks, timeless]
  rfl

end Transcript

namespace Instant

theorem toNanos_ofNanos (n : Nat) : (ofNanos n).toNanos = n := Nat.div_add_mod' n 1000000000

theorem toNanos_of_add? {now later : Instant} {span : Duration} (h : now.add? span = some later) :
    later.toNanos = now.toNanos + span.toNanos := by
  unfold add? at h
  dsimp only at h
  split at h
  · cases h
    exact toNanos_ofNanos _
  · cases h

end Instant

namespace Ring

def Completion.Wakes (c : Completion) : Prop := c.data = wakeKey ∧ 0 ≤ c.result

/-- The reasons to end a wait without an event. -/
inductive Roused (due : Option Nat) (t : Transcript) (consumed : List Completion) : Prop
  | woken {c} : c ∈ consumed → c.Wakes → Roused due t consumed
  | interrupted {s} : s ∈ t → s.interrupted = true → Roused due t consumed
  | late {limit now} : due = some limit → now ∈ t.clocks → limit ≤ Instant.toNanos now →
      Roused due t consumed

theorem Roused.mono {due : Option Nat} {t u : Transcript} {consumed more : List Completion}
    (h : Roused due t consumed) (said : ∀ s ∈ t, s ∈ u) (taken : ∀ c ∈ consumed, c ∈ more) :
    Roused due u more := by
  cases h with
  | woken mem wakes => exact .woken (taken _ mem) wakes
  | interrupted mem interrupted => exact .interrupted (said _ mem) interrupted
  | late limited read passed =>
      obtain ⟨s, mem, clock⟩ := List.mem_filterMap.mp read
      exact .late limited (List.mem_filterMap.mpr ⟨s, said s mem, clock⟩) passed

variable {n : Nat}

/-! ### One pass over the queue -/

theorem takeEntry_quiet (r : Ring) (key : Key) (e : Registration) (c : Completion) :
    Yields (r.takeEntry key e c n) fun _ result => result.1.woke = false := by
  unfold takeEntry
  split
  · simp only [Sys.yields_bind, Sys.yields_note, Sys.yields_pure]
    rfl
  split
  · exact Sys.yields_pure.mpr rfl
  split
  · simp only [Sys.yields_bind, Sys.yields_note, Sys.yields_pure]
    rfl
  · exact Sys.yields_pure.mpr rfl

theorem takeCompletion_woke (r : Ring) (c : Completion) :
    Yields (r.takeCompletion c n) fun _ result => result.1.woke = true → c.Wakes := by
  unfold takeCompletion
  split_ifs with wakes
  · simp only [Sys.yields_bind, Sys.yields_pure]
    exact fun _ _ _ _ _ _ signalled => ⟨wakes, of_decide_eq_true signalled⟩
  · simp only [Sys.yields_bind, Sys.yields_pure]
    exact fun _ _ _ _ _ _ woke => absurd woke Bool.false_ne_true
  · exact Sys.yields_pure.mpr fun woke => absurd woke Bool.false_ne_true
  · rcases r.registry.get? (.unpack c.data) with _ | e
    · simp only [Sys.yields_bind, Sys.yields_note, Sys.yields_pure]
      exact fun woke => absurd woke Bool.false_ne_true
    · refine (takeEntry_quiet r _ e c).mono fun _ _ quiet woke => ?_
      exact absurd (quiet.symm.trans woke) Bool.false_ne_true

/-- A pass reports a wakeup only if it took one off the queue. -/
theorem drainFrom_woke (completions : List Completion) (limit : Nat) (r : Ring) :
    Yields (drainFrom completions limit r n) fun _ result =>
      ∃ taken, completions = taken ++ result.2.queues.completions ∧
        (result.1.woke = true → ∃ c ∈ taken, c.Wakes) := by
  induction completions generalizing limit r with
  | nil => exact Sys.yields_pure.mpr ⟨[], rfl, fun woke => absurd woke Bool.false_ne_true⟩
  | cons c rest ih =>
      unfold drainFrom
      split_ifs
      · exact Sys.yields_pure.mpr ⟨[], rfl, fun woke => absurd woke Bool.false_ne_true⟩
      · simp only [Sys.yields_bind, Sys.yields_pure]
        refine (takeCompletion_woke r c).mono fun _ first woke => ?_
        refine (ih _ _).mono fun _ later passed => ?_
        obtain ⟨taken, same, woke'⟩ := passed
        refine ⟨c :: taken, congrArg (c :: ·) same, fun either => ?_⟩
        rcases Bool.or_eq_true_iff.mp either with now | then'
        · exact ⟨c, List.mem_cons_self, woke now⟩
        · obtain ⟨d, mem, wakes⟩ := woke' then'
          exact ⟨d, List.mem_cons_of_mem c mem, wakes⟩

/-- What a pass takes off the queue, with the wakeup among it that it reports. -/
theorem drain_balanced (r : Ring) (limit : Nat) :
    Yields (r.drain limit n) fun t result => ∃ pushed consumed,
      Balanced r.queues t pushed consumed result.2.queues ∧
        (result.1.woke = true → ∃ c ∈ consumed, c.Wakes) := by
  intro t result follows
  obtain ⟨log, drains, -⟩ := drain_drains r limit follows
  obtain ⟨taken, same, woke⟩ := drainFrom_woke r.queues.completions limit r follows
  obtain ⟨pushed, balanced⟩ := drains.pass.moves.balanced
  have consumed : taken = log.map (·.1) := by
    have kept := balanced.completions
    rw [drains.pass.silent.posted, List.append_nil, same] at kept
    exact List.append_cancel_right kept
  exact ⟨pushed, log.map (·.1), balanced, consumed ▸ woke⟩

/-! ### Rounds -/

/-- If the wait ended without an event, something roused it. -/
def Explained (due : Option Nat) (q : Queues) (t : Transcript) (result : Polled × Ring) : Prop :=
  ∃ pushed consumed, Balanced q t pushed consumed result.2.queues ∧
    (result.1.result = .ok 0 → Roused due t consumed)

section
variable {due : Option Nat} {q q' : Queues} {t u : Transcript} {pushed : List Request}
  {consumed : List Completion} {polled : Polled} {r' : Ring}

theorem Balanced.explained (balanced : Balanced q t pushed consumed r'.queues)
    (roused : polled.result = .ok 0 → Roused due t consumed) : Explained due q t (polled, r') :=
  ⟨pushed, consumed, balanced, roused⟩

/-- What comes before does not count. -/
theorem Explained.after {result : Polled × Ring} (before : Balanced q t pushed consumed q')
    (h : Explained due q' u result) : Explained due q (t ++ u) result := by
  obtain ⟨more, further, balanced, roused⟩ := h
  refine ⟨_, _, before.trans balanced, fun idle => (roused idle).mono ?_ ?_⟩
  · exact fun _ => List.mem_append_right t
  · exact fun _ => List.mem_append_right consumed

end

theorem interrupted_of_interruption {wait : Bool} {q : Queues} {entered : Entered}
    (h : interruption entered.result = .ok true) :
    Step.interrupted (.asked (.ringWait wait q) entered) = true := by
  obtain ⟨_, _, e | ⟨⟩⟩ := entered
  · unfold interruption at h
    dsimp only at h
    split_ifs at h with same
    · subst same
      rfl
    · cases h
  · cases h

theorem isOver_late (deadline : Option Instant) :
    Yields (isOver deadline n) fun t late => t.Silent ∧ (late = true →
      Roused (deadline.map Instant.toNanos) t []) := by
  cases deadline with
  | none => exact Sys.yields_pure.mpr ⟨Transcript.silent_nil, nofun⟩
  | some limit =>
      simp only [isOver, Sys.yields_bind, Sys.yields_ask, Sys.yields_pure]
      intro now
      refine ⟨Transcript.silent_singleton rfl, fun late => ?_⟩
      exact .late rfl (List.mem_singleton_self now) (of_decide_eq_true late)

/-- A pass that ends a wait without an event took a wakeup, or the wait was interrupted. -/
theorem woke_or_interrupted {dispatched : Dispatched} {woke interrupted : Bool}
    (ends : (decide (0 < dispatched.count) || woke || interrupted || !true) = true)
    (idle : (Polled.ended dispatched).result = .ok 0) : woke = true ∨ interrupted = true := by
  have none : dispatched.count = 0 := Except.ok.inj idle
  simpa only [none, Nat.lt_irrefl, decide_false, Bool.not_true, Bool.false_or, Bool.or_false,
    Bool.or_eq_true] using ends

/-- A wait that blocks does not end without an event unless it is roused. -/
theorem waitWithin_explained (deadline : Option Instant) (patience : Nat) (sofar : Dispatched)
    (r : Ring) : Yields (waitWithin true deadline patience sofar r)
      (Explained (deadline.map Instant.toNanos) r.queues) := by
  induction patience generalizing sofar r with
  | zero => exact yields_halt.mpr trivial
  | succ patience ih =>
      refine yields_ask.mpr fun entered : Entered => ?_
      have enters : Balanced r.queues [.asked (.ringWait true r.queues) entered] [] []
          (r.queues.after entered) := .enter rfl
      cases answer : interruption entered.result with
      | error e => exact yields_done.mpr (enters.explained nofun)
      | ok interrupted =>
          refine yields_bind.mpr ((drain_balanced _ _).mono₂ fun t drained r₁ taken => ?_)
          obtain ⟨pushed, consumed, balanced, woke⟩ := taken
          have round := enters.trans balanced
          dsimp only
          split
          · rename_i ends
            refine yields_done.mpr ?_
            rw [List.append_nil]
            refine round.explained fun idle => ?_
            rcases woke_or_interrupted ends idle with signalled | rfl
            · obtain ⟨c, mem, wakes⟩ := woke signalled
              exact .woken mem wakes
            · exact .interrupted List.mem_cons_self (interrupted_of_interruption answer)
          · refine yields_bind.mpr ((isOver_late deadline).mono fun u late looked => ?_)
            obtain ⟨silent, passed⟩ := looked
            split
            · rename_i ended
              refine yields_done.mpr ?_
              rw [List.append_nil]
              refine Explained.after round ?_
              exact (Balanced.aside silent).explained fun _ => passed ended
            · refine yields_bind.mpr ((resubmit_stage r₁).mono₂ fun v result r₂ stage => ?_)
              obtain ⟨more, balanced'⟩ := stage.moves.balanced
              have stepped := (round.then_aside silent).trans balanced'
              cases result with
              | error c =>
                  refine yields_done.mpr ?_
                  have whole := @Balanced.explained (deadline.map Instant.toNanos) _ _ _ _
                    (.brokenOff (sofar.append drained.toDispatched) (.facility c)) r₂ stepped nofun
                  simp only [List.append_assoc, List.cons_append, List.nil_append] at whole
                  rw [List.append_nil]
                  exact whole
              | ok =>
                  refine (ih _ r₂).mono fun w _ rest => ?_
                  have whole := Explained.after stepped rest
                  simp only [List.append_assoc, List.cons_append, List.nil_append] at whole
                  exact whole

/-! ### Whole polls -/

theorem Attempts.timeless {t : Transcript} {result : Except Cause Unit} {q : Queues}
    (h : Attempts t result q) : t.clocks = [] := by
  refine List.filterMap_eq_nil_iff.mpr fun s hs => ?_
  obtain ⟨_, submitted⟩ := h.submitted hs
  unfold Step.submitted? at submitted
  split at submitted
  · rfl
  · cases submitted

/-- The deadline is as far from the first reading of the clock as the timeout says. -/
theorem deadlineOf_due (timeout : Timeout) :
    Yields (deadlineOf timeout n) fun t deadline => t.Silent ∧
      ∀ u, Transcript.due (t ++ u) timeout = deadline.map Instant.toNanos := by
  intro t deadline follows
  cases deadlineOf_limited timeout follows with
  | endless => exact ⟨Transcript.silent_nil, fun _ => rfl⟩
  | limited later =>
      refine ⟨Transcript.silent_singleton rfl, fun u => ?_⟩
      rw [Option.map_some, Instant.toNanos_of_add? later]
      rfl

theorem armTimer_silent (r : Ring) (timeout : Timeout) :
    Yields (r.armTimer timeout n) fun t _ => t.Silent := by
  intro t result follows
  cases armTimer_arms r timeout follows with
  | idle => exact Transcript.silent_nil
  | set => exact Transcript.silent_singleton rfl

/-- A poll that blocks does not end without an event unless it is roused. -/
theorem poll_explained (r : Ring) {timeout : Timeout} (blocking : timeout ≠ some .zero) :
    Yields (r.poll timeout n) fun t result => Explained (t.due timeout) r.queues t result := by
  refine Sys.yields_bind.mpr ((resubmit_stage r).mono₂ fun t result r₁ stage => ?_)
  obtain ⟨_, pushed⟩ := stage.moves.balanced
  cases result with
  | error c =>
      refine Sys.yields_pure.mpr ?_
      rw [List.append_nil]
      exact pushed.explained nofun
  | ok =>
      refine Sys.yields_bind.mpr ((deadlineOf_due timeout).mono fun u deadline limited => ?_)
      obtain ⟨silent, due⟩ := limited
      refine Sys.yields_bind.mpr ((armTimer_silent r₁ timeout).mono fun v armed silent' => ?_)
      have limit : ∀ w, Transcript.due (t ++ (u ++ w)) timeout = deadline.map Instant.toNanos :=
        fun w => (Transcript.due_append stage.attempts.timeless).trans (due w)
      have before := (pushed.then_aside silent).then_aside silent'
      simp only [List.append_assoc] at before
      cases armed with
      | error e =>
          refine Sys.yields_pure.mpr ?_
          rw [List.append_nil]
          exact before.explained nofun
      | ok =>
          have waits : (timeout != some .zero) = true := bne_iff_ne.mpr blocking
          rw [waits]
          refine Sys.yields_bind.mpr ?_
          refine (waitWithin_explained deadline n .none r₁).mono₂ fun w polled r₂ h => ?_
          refine Sys.yields_bind.mpr ((disarmTimer_silent r₂ timeout).mono fun x _ silent'' => ?_)
          refine Sys.yields_pure.mpr ?_
          obtain ⟨_, _, balanced, roused⟩ := Explained.after before h
          have whole := balanced.then_aside silent''
          have same : t ++ (u ++ (v ++ (w ++ (x ++ [])))) = t ++ (u ++ v) ++ w ++ x := by
            simp only [List.append_assoc, List.append_nil]
          rw [limit, same]
          exact whole.explained fun idle =>
            (roused idle).mono (fun _ => List.mem_append_left x) fun _ => id

end Ring
end Multiplexer

import Multiplexer.Proofs.History.Returning
import Multiplexer.Proofs.Ring.Moves

/-! The rounds of a poll. What is pending is submitted first; then every round waits once and takes
completions, until there is something to tell. `Polling` says all the ways in which a poll can go,
those in which it never ends among them. -/
namespace Multiplexer

def Step.waits : Step → Bool
  | .asked (.ringWait ..) _ => true
  | _ => false

theorem Step.eq_wait {s : Step} {q : Ring.Queues} {entered : Ring.Entered} (waits : s.waits = true)
    (front : s.entered? = some (q, entered)) : ∃ wait, s = .asked (.ringWait wait q) entered := by
  unfold Step.waits at waits
  split at waits
  · cases front
    exact ⟨_, rfl⟩
  · cases waits

def Step.unset? : Step → Option Errno
  | .asked (.timerSet ..) (.error e) => some e
  | _ => none

theorem Step.waits_of_submitted {s : Step} {result : Except Cause Unit}
    (h : s.submitted? = some result) : s.waits = false := by
  unfold Step.submitted? at h
  split at h
  · rfl
  · cases h

theorem Step.unset_of_submitted {s : Step} {result : Except Cause Unit}
    (h : s.submitted? = some result) : s.unset? = none := by
  unfold Step.submitted? at h
  split at h
  · rfl
  · cases h

def Transcript.Unwaited (t : Transcript) : Prop := ∀ s ∈ t, s.waits = false

namespace Transcript

variable {t u past rest : Transcript} {s : Step}

theorem unwaited_nil : Unwaited [] := fun _ h => nomatch h

theorem Unwaited.append (ht : t.Unwaited) (hu : u.Unwaited) : Unwaited (t ++ u) :=
  List.forall_mem_append.mpr ⟨ht, hu⟩

theorem Silent.unwaited (silent : t.Silent) : t.Unwaited := by
  intro s hs
  have aside := silent s hs
  unfold Step.waits
  split
  · cases aside
  · rfl

theorem Silent.not_submitted (silent : t.Silent) (hs : s ∈ t) : s.submitted? = none := by
  have aside := silent s hs
  unfold Step.submitted?
  split
  · cases aside
  · rfl

/-- A wait comes after what did not wait. -/
theorem Unwaited.split (ht : t.Unwaited) (waits : s.waits = true)
    (split : t ++ u = past ++ s :: rest) :
    ∃ later, past = t ++ later ∧ u = later ++ s :: rest := by
  rcases List.append_eq_append_iff.mp split with ⟨later, same, tail⟩ | ⟨more, same, tail⟩
  · exact ⟨later, same, tail⟩
  · cases more with
    | nil =>
        rw [List.append_nil] at same
        exact ⟨[], by rw [same, List.append_nil], tail.symm⟩
    | cons s' more =>
        obtain ⟨rfl, -⟩ := List.cons.inj tail
        rw [ht s (same ▸ List.mem_append_right _ List.mem_cons_self)] at waits
        cases waits

/-- The first step after what did not wait comes before every wait, unless it is one. -/
theorem Unwaited.mem_of_split {wait : Step} (hpast : past.Unwaited) (waits : wait.waits = true)
    (other : s ≠ wait) (split : t ++ wait :: u = past ++ s :: rest) : s ∈ t := by
  obtain ⟨later, rfl, tail⟩ := hpast.split waits split.symm
  cases later with
  | nil => exact absurd (List.cons.inj tail).1 other
  | cons first later =>
      obtain ⟨rfl, -⟩ := List.cons.inj tail
      exact List.mem_append_right _ List.mem_cons_self

/-- The first of two waits, or one after what did not wait in between. -/
theorem Unwaited.split_cons {first : Step} (ht : t.Unwaited) (waits : s.waits = true)
    (split : first :: t ++ u = past ++ s :: rest) :
    (past = [] ∧ first = s ∧ t ++ u = rest) ∨
      ∃ later, past = first :: t ++ later ∧ u = later ++ s :: rest := by
  cases past with
  | nil =>
      obtain ⟨same, tail⟩ := List.cons.inj split
      exact .inl ⟨rfl, same, tail⟩
  | cons s' past =>
      obtain ⟨rfl, tail⟩ := List.cons.inj split
      obtain ⟨later, rfl, same⟩ := ht.split waits tail
      exact .inr ⟨later, rfl, same⟩

theorem Unwaited.split_only {first : Step} (ht : t.Unwaited) (waits : s.waits = true)
    (split : first :: t = past ++ s :: rest) : past = [] ∧ first = s ∧ t = rest := by
  rw [← List.append_nil (first :: t)] at split
  rcases ht.split_cons waits split with ⟨front, same, tail⟩ | ⟨_, -, none⟩
  · exact ⟨front, same, by rw [← tail, List.append_nil]⟩
  · exact absurd none.symm (List.append_ne_nil_of_right_ne_nil _ (List.cons_ne_nil _ _))

/-- A wait comes before what does not wait any more. -/
theorem Unwaited.split_back (hu : u.Unwaited) (waits : s.waits = true)
    (split : t ++ u = past ++ s :: rest) :
    ∃ before, rest = before ++ u ∧ t = past ++ s :: before := by
  rcases List.append_eq_append_iff.mp split with ⟨later, same, tail⟩ | ⟨more, same, tail⟩
  · rw [hu s (tail ▸ List.mem_append_right _ List.mem_cons_self)] at waits
    cases waits
  · cases more with
    | nil =>
        rw [hu s (List.nil_append u ▸ tail ▸ List.mem_cons_self)] at waits
        cases waits
    | cons s' before =>
        obtain ⟨rfl, rfl⟩ := List.cons.inj tail
        exact ⟨before, rfl, same⟩

end Transcript

namespace Ring
open Dialogue

variable {n : Nat}

/-! ### Taking completions -/

inductive Pass : Ring → Transcript → Log → Ring → Prop
  | rest {r} : Pass r [] [] r
  | take {r c rest t events r' u log r''} : r.queues.completions = c :: rest →
      Taken r c t events r' → Pass (r'.facing rest) u log r'' →
      Pass r (t ++ u) ((c, events) :: log) r''

theorem Pass.moves {r r' : Ring} {t : Transcript} {log : Log} (h : Pass r t log r') :
    Moves r t log r' := by
  induction h with
  | rest => exact .rest
  | take front taken _ ih => exact (Moves.single (.take front taken)).trans ih

theorem Pass.silent {r r' : Ring} {t : Transcript} {log : Log} (h : Pass r t log r') :
    t.Silent := by
  induction h with
  | rest => exact Transcript.silent_nil
  | take _ taken _ ih => exact taken.silent.append ih

/-- Completions are taken until none is left or as many events have been dispatched as may be. -/
structure Drains (r : Ring) (limit : Nat) (t : Transcript) (log : Log) (r' : Ring) : Prop where
  pass : Pass r t log r'
  thorough : r'.queues.completions = [] ∨ limit ≤ log.events.length

/-- The completions given are taken, whatever the queue itself holds, and what is dispatched is
counted as it is. -/
theorem drainFrom_drains (completions : List Completion) (limit : Nat) (r : Ring) :
    Yields (drainFrom completions limit r n) fun t result =>
      ∃ log, Drains (r.facing completions) limit t log result.2 ∧
        result.1.toDispatched = .of log.events := by
  induction completions generalizing limit r with
  | nil =>
      simp only [drainFrom, Sys.yields_pure]
      exact ⟨[], ⟨.rest, .inl rfl⟩, rfl⟩
  | cons c rest ih =>
      unfold drainFrom
      split_ifs with none
      · simp only [Sys.yields_pure]
        exact ⟨[], ⟨.rest, .inr (Nat.le_of_eq none)⟩, rfl⟩
      · simp only [Sys.yields_bind, Sys.yields_pure]
        refine (takeCompletion_taken r c).mono fun t first took => ?_
        refine (ih _ _).mono fun u later drained => ?_
        obtain ⟨counted, taken⟩ := took
        obtain ⟨log, ⟨pass, thorough⟩, same⟩ := drained
        rw [List.append_nil]
        refine ⟨(c, first.1.events) :: log, ⟨?_, thorough.imp_right fun enough => ?_⟩, ?_⟩
        · exact @Pass.take _ _ rest _ _ (first.2.facing (c :: rest)) _ _ _ rfl (taken.facing _) pass
        · have count : first.1.count = first.1.events.length := congrArg Dispatched.count counted
          change limit ≤ (first.1.events ++ log.events).length
          rw [List.length_append]
          omega
        · rw [Drained.append, counted, same]
          exact Dispatched.of_append _ _

theorem drain_drains (r : Ring) (limit : Nat) :
    Yields (r.drain limit n) fun t result =>
      ∃ log, Drains r limit t log result.2 ∧ result.1.toDispatched = .of log.events :=
  drainFrom_drains r.queues.completions limit r

/-- No more events are dispatched than may be. -/
theorem drainFrom_length_le (completions : List Completion) (limit : Nat) (r : Ring) :
    Yields (drainFrom completions limit r n) fun _ result =>
      result.1.events.length ≤ limit := by
  induction completions generalizing limit r with
  | nil =>
      simp only [drainFrom, Sys.yields_pure]
      exact Nat.zero_le limit
  | cons c rest ih =>
      unfold drainFrom
      split_ifs with none
      · simp only [Sys.yields_pure]
        exact Nat.zero_le limit
      · simp only [Sys.yields_bind, Sys.yields_pure]
        refine (takeCompletion_taken r c).mono fun _ first took => ?_
        refine (ih _ _).mono fun _ later bounded => ?_
        obtain ⟨counted, taken⟩ := took
        have single := taken.length_le
        have count : first.1.count = first.1.events.length := congrArg Dispatched.count counted
        change (first.1.events ++ later.1.events).length ≤ limit
        rw [List.length_append]
        omega

/-! ### Only the waits can keep a poll from ending -/

theorem takeCompletion_returns (r : Ring) (c : Completion) : Returns (r.takeCompletion c n) := by
  have noted : Returns (r.noteInternal c n) := by
    unfold noteInternal
    split
    · exact Sys.returns_bind Sys.returns_note fun _ => Sys.returns_pure
    · exact Sys.returns_pure
  have drained : ∀ counter : Counter, Returns (counter.drain n) := fun _ =>
    Sys.returns_bind Sys.returns_ask fun _ => Sys.returns_pure
  unfold takeCompletion
  split_ifs
  · exact Sys.returns_bind noted fun _ => Sys.returns_bind (drained _) fun _ => Sys.returns_pure
  · exact Sys.returns_bind noted fun _ => Sys.returns_bind (drained _) fun _ => Sys.returns_pure
  · exact Sys.returns_pure
  · rcases r.registry.get? (.unpack c.data) with _ | e
    · exact Sys.returns_bind Sys.returns_note fun _ => Sys.returns_pure
    · unfold takeEntry
      split_ifs
      · exact Sys.returns_bind Sys.returns_note fun _ => Sys.returns_pure
      · exact Sys.returns_pure
      · exact Sys.returns_bind Sys.returns_note fun _ => Sys.returns_pure
      · exact Sys.returns_pure
      · exact Sys.returns_pure

theorem drain_returns (r : Ring) (limit : Nat) : Returns (r.drain limit n) := by
  have every : ∀ completions limit r, Returns (drainFrom completions limit r n) := by
    intro completions
    induction completions with
    | nil => exact fun _ _ => Sys.returns_pure
    | cons c rest ih =>
        intro limit r
        unfold drainFrom
        split
        · exact Sys.returns_pure
        · exact Sys.returns_bind (takeCompletion_returns r c) fun _ =>
            Sys.returns_bind (ih _ _) fun _ => Sys.returns_pure
  exact every _ _ _

theorem pushCancels_returns (cancels : List UInt64) (r : Ring) :
    Returns (pushCancels cancels r n) := by
  induction cancels generalizing r with
  | nil => exact Sys.returns_pure
  | cons data rest ih =>
      refine Sys.returns_bind push_returns ?_
      rintro ⟨c | ⟨⟩, queues⟩
      · exact Sys.returns_pure
      · exact ih _

theorem pushWaker_returns (r : Ring) : Returns (r.pushWaker n) := by
  unfold pushWaker
  split
  · refine Sys.returns_bind push_returns ?_
    rintro ⟨c | ⟨⟩, queues⟩ <;> exact Sys.returns_pure
  · exact Sys.returns_pure

theorem pushTimer_returns (r : Ring) : Returns (r.pushTimer n) := by
  unfold pushTimer
  split
  · refine Sys.returns_bind push_returns ?_
    rintro ⟨c | ⟨⟩, queues⟩ <;> exact Sys.returns_pure
  · exact Sys.returns_pure

theorem pushRearm_returns (keys : List Key) (r : Ring) : Returns (pushRearm keys r n) := by
  induction keys generalizing r with
  | nil => exact Sys.returns_pure
  | cons key rest ih =>
      unfold pushRearm
      rcases r.registry.get? key with _ | e
      · exact ih r
      · dsimp only
        split
        · refine Sys.returns_bind push_returns ?_
          rintro ⟨c | ⟨⟩, queues⟩
          · exact Sys.returns_pure
          · exact ih _
        · exact ih r

theorem resubmit_returns (r : Ring) : Returns (r.resubmit n) := by
  refine Sys.returns_bind (pushCancels_returns _ _) ?_
  rintro ⟨c | ⟨⟩, r₁⟩
  · exact Sys.returns_pure
  refine Sys.returns_bind (pushWaker_returns r₁) ?_
  rintro ⟨c | ⟨⟩, r₂⟩
  · exact Sys.returns_pure
  refine Sys.returns_bind (pushTimer_returns r₂) ?_
  rintro ⟨c | ⟨⟩, r₃⟩
  · exact Sys.returns_pure
  · exact pushRearm_returns _ _

/-! ### Rounds -/

theorem Attempts.submitted {t : Transcript} {result : Except Cause Unit} {q : Queues}
    (h : Attempts t result q) {s : Step} (hs : s ∈ t) : ∃ result, s.submitted? = some result := by
  cases h with
  | through made => exact ⟨_, made s hs⟩
  | stopped made last =>
      rcases List.mem_append.mp hs with hs | hs
      · exact ⟨_, made s hs⟩
      · rw [List.mem_singleton.mp hs]
        exact ⟨_, last⟩

theorem Attempts.unwaited {t : Transcript} {result : Except Cause Unit} {q : Queues}
    (h : Attempts t result q) : t.Unwaited := by
  intro s hs
  obtain ⟨_, submitted⟩ := h.submitted hs
  exact Step.waits_of_submitted submitted

theorem isOver_returns (deadline : Option Instant) : Returns (isOver deadline n) := by
  cases deadline with
  | none => exact Sys.returns_pure
  | some _ => exact Sys.returns_bind Sys.returns_ask fun _ => Sys.returns_pure

theorem isOver_silent (deadline : Option Instant) :
    Yields (isOver deadline n) fun t _ => t.Silent := by
  cases deadline with
  | none =>
      simp only [isOver, Sys.yields_pure]
      exact Transcript.silent_nil
  | some _ =>
      simp only [isOver, Sys.yields_bind, Sys.yields_ask, Sys.yields_pure]
      exact fun _ => Transcript.silent_singleton rfl

/-- A round without an interruption that had nothing to tell. -/
inductive Vain (wait : Bool) (r : Ring) : Transcript → Ring → Prop
  | round {entered : Entered} {t u : Transcript} {log r'} : interruption entered.result = .ok false →
      Drains { r with queues := r.queues.after entered } r.batch t log r' → log.events = [] →
      u.Silent → Vain wait r (.asked (.ringWait wait r.queues) entered :: (t ++ u)) r'

/-- The rounds of a wait: the last one, if it comes to that, was refused, has an outcome to tell or
could not submit what it left pending. -/
inductive Waiting (wait : Bool) : Ring → Transcript → Except Halt (Polled × Ring) → Prop
  | impatient {r} : Waiting wait r [] (.error .patience)
  | refused {r} {entered : Entered} {e} : interruption entered.result = .error e →
      Waiting wait r [.asked (.ringWait wait r.queues) entered]
        (.ok (.failed e, { r with queues := r.queues.after entered }))
  | ended {r} {entered : Entered} {t u : Transcript} {interrupted log r'} :
      interruption entered.result = .ok interrupted →
      Drains { r with queues := r.queues.after entered } r.batch t log r' → u.Silent →
      Waiting wait r (.asked (.ringWait wait r.queues) entered :: (t ++ u))
        (.ok (.ready log.events, r'))
  | stuck {r t r' u c r''} : Vain wait r t r' → Stage Settled r' u (.error c, r'') →
      Waiting wait r (t ++ u) (.ok (.failed (.facility c), r''))
  | again {r t r' u r'' v o} : Vain wait r t r' → Stage Settled r' u (.ok (), r'') →
      Waiting wait r'' v o → Waiting wait r (t ++ u ++ v) o

section

variable {wait : Bool} {r r' : Ring} {t past rest : Transcript} {o : Except Halt (Polled × Ring)}
  {q : Queues} {entered : Entered}

theorem Vain.dispatches (h : Vain wait r t r') (settled : r.Settled) : Dispatches r t [] r' := by
  cases h with
  | round _ drains nothing silent =>
      refine ⟨_, ((Moves.single (.wait settled)).trans drains.pass.moves).trans (.aside silent), ?_⟩
      rw [List.nil_append, List.append_nil, nothing]

/-- A round waits once. -/
theorem Vain.split (h : Vain wait r t r') : ∃ entered u,
    t = .asked (.ringWait wait r.queues) entered :: u ∧ Transcript.Unwaited u := by
  cases h with
  | round _ drains _ silent =>
      exact ⟨_, _, rfl, drains.pass.silent.unwaited.append silent.unwaited⟩

theorem Waiting.dispatches (h : Waiting wait r t o) (settled : r.Settled) {polled : Polled}
    (same : o = .ok (polled, r')) : Dispatches r t polled.events r' := by
  induction h with
  | impatient => cases same
  | refused =>
      cases same
      exact .quiet (.single (.wait settled))
  | ended _ drains silent =>
      cases same
      refine ⟨_, (Moves.single (.wait settled)).trans (drains.pass.moves.trans (.aside silent)), ?_⟩
      rw [List.nil_append, List.append_nil]
      rfl
  | stuck vain stage =>
      cases same
      exact (vain.dispatches settled).trans (.quiet stage.moves)
  | again vain stage _ ih =>
      exact ((vain.dispatches settled).trans (.quiet stage.moves)).trans
        (ih (stage.left rfl) same)

/-- At every wait nothing is left to push, and what follows is a wait from there. -/
theorem Waiting.at_wait (h : Waiting wait r t o) (settled : r.Settled) {waited : Bool}
    (split : t = past ++ .asked (.ringWait waited q) entered :: rest) :
    ∃ log r', Moves r past log r' ∧ r'.Settled ∧ r'.queues = q ∧
      Waiting wait r' (.asked (.ringWait waited q) entered :: rest) o := by
  induction h generalizing past with
  | impatient => exact absurd split.symm (List.append_ne_nil_of_right_ne_nil _ (List.cons_ne_nil _ _))
  | refused answer =>
      obtain ⟨rfl, same, rfl⟩ := Transcript.unwaited_nil.split_only rfl split
      cases same
      exact ⟨[], _, .rest, settled, rfl, .refused answer⟩
  | @ended r entered t u _ _ r' answer drains silent =>
      have quiet := drains.pass.silent.unwaited.append silent.unwaited
      obtain ⟨rfl, same, rfl⟩ := quiet.split_only rfl split
      cases same
      exact ⟨[], _, .rest, settled, rfl, .ended answer drains silent⟩
  | @stuck r t r' u c r'' vain stage =>
      obtain ⟨entered, u', rfl, quiet⟩ := vain.split
      obtain ⟨rfl, same, rfl⟩ := (quiet.append stage.attempts.unwaited).split_only rfl split
      cases same
      exact ⟨[], _, .rest, settled, rfl, .stuck vain stage⟩
  | @again r t r' u r'' v o vain stage later ih =>
      obtain ⟨entered, u', rfl, quiet⟩ := vain.split
      rcases (quiet.append stage.attempts.unwaited).split_cons rfl split with ⟨rfl, same, rfl⟩ | ⟨past', rfl, more⟩
      · cases same
        exact ⟨[], _, .rest, settled, rfl, .again vain stage later⟩
      · obtain ⟨log, r₀, moves, settled', front, rest⟩ := ih (stage.left rfl) more
        obtain ⟨log', moves', -⟩ := (vain.dispatches settled).trans (.quiet stage.moves)
        exact ⟨_, r₀, moves'.trans moves, settled', front, rest⟩

end

/-- A round after which the wait goes on dispatched nothing and was not interrupted. -/
theorem nothing_of_goes_on {events : List Event} {woke interrupted wait : Bool}
    (goesOn : ¬ (decide (0 < (Dispatched.of events).count) || woke || interrupted || !wait) = true) :
    events = [] ∧ interrupted = false := by
  simp only [Bool.or_eq_true, not_or, decide_eq_true_eq, Nat.not_lt, Nat.le_zero] at goesOn
  obtain ⟨⟨⟨nothing, -⟩, calm⟩, -⟩ := goesOn
  exact ⟨List.length_eq_zero_iff.mp nothing, Bool.eq_false_iff.mpr calm⟩

theorem waitWithin_waiting (wait : Bool) (deadline : Option Instant) (patience : Nat) (r : Ring) :
    Meets (waitWithin wait deadline patience .none r) (Waiting wait r) := by
  induction patience generalizing r with
  | zero => exact meets_halt.mpr .impatient
  | succ patience ih =>
      refine meets_ask.mpr fun entered : Entered => ?_
      cases answer : interruption entered.result with
      | error e => exact meets_done.mpr (.refused answer)
      | ok interrupted =>
          refine (drain_returns _ _).meets_bind ((drain_drains _ _).mono₂ fun t drained r₁ taken => ?_)
          obtain ⟨log, drains, same⟩ := taken
          dsimp only
          rw [same, Dispatched.none_append]
          split
          · exact meets_done.mpr (.ended answer drains Transcript.silent_nil)
          · rename_i goesOn
            obtain ⟨nothing, rfl⟩ := nothing_of_goes_on goesOn
            refine (isOver_returns _).meets_bind ((isOver_silent _).mono fun u late silent => ?_)
            split
            · refine meets_done.mpr ?_
              rw [List.append_nil]
              exact .ended answer drains silent
            · have vain : Vain wait r _ r₁ := .round answer drains nothing silent
              rw [nothing]
              refine (resubmit_returns _).meets_bind
                ((resubmit_stage r₁).mono₂ fun v result r₂ stage => ?_)
              cases result with
              | error c =>
                  refine meets_done.mpr ?_
                  rw [List.append_nil, ← List.append_assoc]
                  exact .stuck vain stage
              | ok =>
                  refine (ih r₂).mono fun w o waiting => ?_
                  have whole := Waiting.again vain stage waiting
                  simp only [List.cons_append, List.append_assoc] at whole
                  exact whole

/-- Only the last round dispatches, from one pass over the queue. -/
theorem waitWithin_within (wait : Bool) (deadline : Option Instant) (patience : Nat) (r : Ring) :
    Yields (waitWithin wait deadline patience .none r) fun _ result => result.1.Within r.batch := by
  induction patience generalizing r with
  | zero => exact yields_halt.mpr trivial
  | succ patience ih =>
      refine yields_ask.mpr fun entered : Entered => ?_
      cases interruption entered.result with
      | error e => exact yields_done.mpr .failed
      | ok interrupted =>
          refine yields_bind.mpr fun t drained follows => ?_
          have bounded : drained.1.events.length ≤ r.batch := drainFrom_length_le _ _ _ follows
          obtain ⟨log, drains, same⟩ := drain_drains _ _ follows
          have batch : drained.2.batch = r.batch := drains.pass.moves.batch_eq
          rw [congrArg Dispatched.events same] at bounded
          dsimp only
          rw [same, Dispatched.none_append]
          split
          · exact yields_done.mpr (.ready bounded)
          · rename_i goesOn
            refine yields_bind.mpr fun _ late _ => ?_
            dsimp only
            split
            · exact yields_done.mpr (.ready bounded)
            · rw [(nothing_of_goes_on goesOn).1]
              refine yields_bind.mpr fun _ resubmitted follows => ?_
              have stage := resubmit_stage _ follows
              obtain ⟨c | ⟨⟩, r'⟩ := resubmitted
              · exact yields_done.mpr .failed
              · refine (ih r').mono fun _ _ within => ?_
                rwa [stage.moves.batch_eq, batch] at within

/-! ### Whole polls -/

/-- A wait ends no later than the clock can show, and the timer is set for it. -/
structure Timed (t : Transcript) : Prop where
  silent : t.Silent
  set : ∀ s ∈ t, s.unset? = none

theorem Timed.append {t u : Transcript} (ht : Timed t) (hu : Timed u) : Timed (t ++ u) :=
  ⟨ht.silent.append hu.silent, List.forall_mem_append.mpr ⟨ht.set, hu.set⟩⟩

theorem Timed.nil : Timed [] := ⟨Transcript.silent_nil, fun _ h => nomatch h⟩

theorem Timed.single {s : Step} (silent : s.entered? = none) (set : s.unset? = none) : Timed [s] :=
  ⟨Transcript.silent_singleton silent, List.forall_mem_singleton.mpr set⟩

/-- The deadline of a wait: there is none without a timeout, and the sum of the clock and the timeout
may be more than the clock can show. -/
inductive Limited : Timeout → Transcript → Except Halt (Option Instant) → Prop
  | endless : Limited none [] (.ok none)
  | limited {span now deadline} : Instant.add? now span = some deadline →
      Limited (some span) [.asked .clock now] (.ok (some deadline))
  | beyond {span now} : Instant.add? now span = none →
      Limited (some span) [.asked .clock now] (.error .deadline)

theorem deadlineOf_limited (timeout : Timeout) :
    Meets (deadlineOf timeout n) (Limited timeout) := by
  cases timeout with
  | none => exact meets_done.mpr .endless
  | some span =>
      have answered : Returns (ask .clock n) := Sys.returns_ask
      refine answered.meets_bind (Sys.yields_ask.mpr fun now => ?_)
      dsimp only
      cases later : Instant.add? now span with
      | none => exact meets_halt.mpr (.beyond later)
      | some deadline => exact meets_done.mpr (.limited later)

theorem deadlineOf_timed (timeout : Timeout) :
    Meets (deadlineOf timeout n) fun t o => Timed t ∧ ∀ why, o = .error why → why = .deadline := by
  intro t o follows
  cases deadlineOf_limited timeout follows with
  | endless => exact ⟨.nil, nofun⟩
  | limited => exact ⟨.single rfl rfl, nofun⟩
  | beyond => exact ⟨.single rfl rfl, fun _ same => (Except.error.inj same).symm⟩

/-- Setting the timer: nothing to do for a wait without end and for one that is over at once. -/
inductive Arms (r : Ring) (timeout : Timeout) : Transcript → Except Errno Unit → Prop
  | idle : (∀ span, timeout = some span → span.isZero = true) → Arms r timeout [] (.ok ())
  | set {span result} : timeout = some span → span.isZero = false →
      Arms r timeout [.asked (.timerSet r.timer.descriptor (splitNanos span.atLeastOneNano).1
        (splitNanos span.atLeastOneNano).2) result] result

theorem armTimer_arms (r : Ring) (timeout : Timeout) :
    Yields (r.armTimer timeout n) (Arms r timeout) := by
  unfold armTimer
  split
  · exact Sys.yields_pure.mpr (.idle nofun)
  · rename_i span
    split
    · rename_i zero
      refine Sys.yields_pure.mpr (.idle ?_)
      rintro _ ⟨⟩
      exact zero
    · rename_i long
      exact Sys.yields_ask.mpr fun reply => .set rfl (Bool.eq_false_iff.mpr long)

theorem armTimer_returns (r : Ring) (timeout : Timeout) : Returns (r.armTimer timeout n) := by
  unfold armTimer
  split
  · exact Sys.returns_pure
  · split
    · exact Sys.returns_pure
    · exact Sys.returns_ask

theorem armTimer_timed (r : Ring) (timeout : Timeout) :
    Yields (r.armTimer timeout n) fun t result =>
      (result = .ok () ∧ Timed t) ∨ ∃ e s, result = .error e ∧ t = [s] ∧ s.entered? = none ∧
        s.unset? = some e := by
  intro t result follows
  cases armTimer_arms r timeout follows with
  | idle => exact .inl ⟨rfl, .nil⟩
  | @set _ result _ _ =>
      cases result with
      | error e => exact .inr ⟨e, _, rfl, rfl, rfl, rfl⟩
      | ok => exact .inl ⟨rfl, .single rfl rfl⟩

theorem disarmTimer_returns (r : Ring) (timeout : Timeout) :
    Returns (r.disarmTimer timeout n) := by
  unfold disarmTimer
  split
  · exact Sys.returns_pure
  · split
    · exact Sys.returns_pure
    · exact Sys.returns_bind Sys.returns_ask fun _ => Sys.returns_pure

theorem disarmTimer_silent (r : Ring) (timeout : Timeout) :
    Yields (r.disarmTimer timeout n) fun t _ => t.Silent := by
  unfold disarmTimer
  split
  · exact Sys.yields_pure.mpr Transcript.silent_nil
  · split
    · exact Sys.yields_pure.mpr Transcript.silent_nil
    · simp only [Sys.yields_bind, Sys.yields_ask, Sys.yields_pure]
      exact fun _ => Transcript.silent_singleton rfl

/-- A poll: what is pending is submitted, the timer set, the ring waited for and the timer
stopped, and any of these but the last can end it. -/
inductive Polling (timeout : Timeout) (r : Ring) :
    Transcript → Except Halt (Polled × Ring) → Prop
  | unpushed {t c r'} : Stage Settled r t (.error c, r') →
      Polling timeout r t (.ok (.failed (.facility c), r'))
  | endless {t r' u} : Stage Settled r t (.ok (), r') → Timed u →
      Polling timeout r (t ++ u) (.error .deadline)
  | unarmed {t r' u s e} : Stage Settled r t (.ok (), r') → Timed u → Step.entered? s = none →
      s.unset? = some e →
      Polling timeout r (t ++ u ++ [s]) (.ok (.failed (.facility (.os e)), r'))
  | halted {t r' u v why} : Stage Settled r t (.ok (), r') → Timed u →
      Waiting (timeout != some .zero) r' v (.error why) →
      Polling timeout r (t ++ u ++ v) (.error why)
  | waited {t r' u v result w} : Stage Settled r t (.ok (), r') → Timed u →
      Waiting (timeout != some .zero) r' v (.ok result) → Transcript.Silent w →
      Polling timeout r (t ++ u ++ v ++ w) (.ok result)

theorem poll_polling (r : Ring) (timeout : Timeout) :
    Meets (r.poll timeout n) (Polling timeout r) := by
  refine (resubmit_returns r).meets_bind ((resubmit_stage r).mono₂ fun t result r₁ stage => ?_)
  cases result with
  | error c =>
      refine meets_done.mpr ?_
      rw [List.append_nil]
      exact .unpushed stage
  | ok =>
      refine meets_bind.mpr ((deadlineOf_timed timeout).mono fun u o timed => ?_)
      obtain ⟨timed, late⟩ := timed
      cases o with
      | error why =>
          cases late why rfl
          exact .endless stage timed
      | ok deadline =>
          refine (armTimer_returns r₁ timeout).meets_bind
            ((armTimer_timed r₁ timeout).mono fun v armed set => ?_)
          obtain ⟨rfl, timed'⟩ | ⟨e, s, rfl, rfl, silent, unset⟩ := set
          · refine meets_bind.mpr ((waitWithin_waiting _ deadline n r₁).mono fun w o waiting => ?_)
            cases o with
            | error why =>
                have whole := Polling.halted stage (timed.append timed') waiting
                simp only [List.append_assoc] at whole
                exact whole
            | ok result =>
                refine (disarmTimer_returns result.2 timeout).meets_bind
                  ((disarmTimer_silent result.2 timeout).mono fun x _ silent => ?_)
                refine meets_done.mpr ?_
                have whole := Polling.waited stage (timed.append timed') waiting silent
                simp only [List.append_assoc] at whole
                rw [List.append_nil]
                exact whole
          · refine meets_done.mpr ?_
            rw [List.append_nil, ← List.append_assoc]
            exact .unarmed stage timed silent unset

section

variable {r : Ring} {timeout : Timeout} {t past rest : Transcript}
  {o : Except Halt (Polled × Ring)} {q : Queues} {entered : Entered}

/-- A poll dispatches exactly what its moves dispatch. -/
theorem poll_moves (r : Ring) (timeout : Timeout) :
    Yields (r.poll timeout n) fun t result => Dispatches r t result.1.events result.2 := by
  intro t result follows
  cases poll_polling r timeout follows with
  | unpushed stage => exact .quiet stage.moves
  | unarmed stage timed silent =>
      exact .quiet ((stage.moves.trans (.aside timed.silent)).trans
        (.aside (Transcript.silent_singleton silent)))
  | waited stage timed waiting silent =>
      have before := Dispatches.quiet (stage.moves.trans (.aside timed.silent))
      have whole := (before.trans (waiting.dispatches (stage.left rfl) rfl)).trans (.aside silent)
      rw [List.nil_append, List.append_nil] at whole
      exact whole

theorem poll_within (r : Ring) (timeout : Timeout) :
    Yields (r.poll timeout n) fun _ result => result.1.Within r.batch := by
  refine yields_bind.mpr fun _ resubmitted follows => ?_
  have stage := resubmit_stage _ follows
  obtain ⟨c | ⟨⟩, r'⟩ := resubmitted
  · exact yields_done.mpr .failed
  · refine yields_bind.mpr fun _ deadline _ => yields_bind.mpr fun _ armed _ => ?_
    cases armed with
    | error e => exact yields_done.mpr .failed
    | ok =>
        refine yields_bind.mpr ((waitWithin_within _ deadline n r').mono fun _ _ within => ?_)
        refine yields_bind.mpr fun _ _ _ => yields_done.mpr ?_
        rwa [stage.moves.batch_eq] at within

/-- Whenever the ring is waited for, all that was pending has been pushed. -/
theorem Polling.at_wait (h : Polling timeout r t o) {wait : Bool}
    (split : t = past ++ .asked (.ringWait wait q) entered :: rest) :
    ∃ log r' rest' after, Moves r past log r' ∧ r'.Settled ∧ r'.queues = q ∧
      rest = rest' ++ after ∧ after.Silent ∧
      Waiting (timeout != some .zero) r' (.asked (.ringWait wait q) entered :: rest') o := by
  have waited : ¬ t.Unwaited := by
    intro quiet
    have waits := quiet _ (split ▸ List.mem_append_right _ List.mem_cons_self)
    cases waits
  cases h with
  | unpushed stage => exact absurd stage.attempts.unwaited waited
  | endless stage timed =>
      exact absurd (stage.attempts.unwaited.append timed.silent.unwaited) waited
  | unarmed stage timed silent =>
      have last := Transcript.silent_singleton silent
      exact absurd ((stage.attempts.unwaited.append timed.silent.unwaited).append last.unwaited)
        waited
  | halted stage timed waiting =>
      have quiet := stage.attempts.unwaited.append timed.silent.unwaited
      obtain ⟨later, rfl, same⟩ := quiet.split rfl split
      obtain ⟨log, r₂, moves, settled, front, rounds⟩ := waiting.at_wait (stage.left rfl) same
      exact ⟨_, r₂, rest, [], (stage.moves.trans (.aside timed.silent)).trans moves, settled, front,
        (List.append_nil rest).symm, Transcript.silent_nil, rounds⟩
  | waited stage timed waiting silent =>
      have quiet := stage.attempts.unwaited.append timed.silent.unwaited
      obtain ⟨before, rfl, front⟩ := silent.unwaited.split_back rfl split
      obtain ⟨later, rfl, same⟩ := quiet.split rfl front
      obtain ⟨log, r₂, moves, settled, front, rounds⟩ := waiting.at_wait (stage.left rfl) same
      exact ⟨_, r₂, before, _, (stage.moves.trans (.aside timed.silent)).trans moves, settled, front,
        rfl, silent, rounds⟩

end

end Ring
end Multiplexer

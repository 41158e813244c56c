import Mathlib.Tactic.SplitIfs
import Multiplexer.Proofs.Dialogue
import Multiplexer.Ring.Basic

/-! What a ring does by itself during a poll, cut into moves: entering the ring, pushing one request,
taking one completion. Every poll is a sequence of moves, so what each move keeps every poll keeps. -/
namespace Multiplexer

/-- The queues handed over by a step that enters the ring, and what the system did with them. -/
def Step.entered? : Step → Option (Ring.Queues × Ring.Entered)
  | .asked (.ringSubmit queues) entered => some (queues, entered)
  | .asked (.ringWait _ queues) entered => some (queues, entered)
  | _ => none

/-- What came of a submission that was to make room. -/
def Step.submitted? : Step → Option (Except Cause Unit)
  | .asked (.ringSubmit queues) (entered : Ring.Entered) => some <|
    match entered.result with
    | .error e => .error (.os e)
    | .ok () =>
      if (queues.after entered).isFull then
        .error (.reason .other "io_uring submission queue is full")
      else .ok ()
  | _ => none

/-- The ring is not entered. -/
def Transcript.Silent (t : Transcript) : Prop := ∀ s ∈ t, s.entered? = none

theorem Transcript.silent_nil : Transcript.Silent [] := fun _ h => nomatch h

theorem Transcript.silent_cons {s : Step} {t : Transcript} (hs : s.entered? = none)
    (ht : t.Silent) : Transcript.Silent (s :: t) := by
  intro u hu
  rcases List.mem_cons.mp hu with rfl | hu
  · exact hs
  · exact ht u hu

theorem Transcript.silent_singleton {s : Step} (hs : s.entered? = none) : Transcript.Silent [s] :=
  silent_cons hs silent_nil

theorem Transcript.Silent.append {t u : Transcript} (ht : t.Silent) (hu : u.Silent) :
    Transcript.Silent (t ++ u) := by
  intro s hs
  rcases List.mem_append.mp hs with hs | hs
  · exact ht s hs
  · exact hu s hs

namespace Ring
open Dialogue

/-! ### Pushing -/

inductive Pushed (q : Queues) (request : Request) :
    Transcript → Except Cause Unit × Queues → Prop
  | room : q.isFull = false → Pushed q request [] (.ok (), q.append request)
  | flushed {entered : Entered} : q.isFull = true → entered.result = .ok () →
      (q.after entered).isFull = false →
      Pushed q request [.asked (.ringSubmit q) entered] (.ok (), (q.after entered).append request)
  | refused {entered : Entered} {e : Errno} : q.isFull = true → entered.result = .error e →
      Pushed q request [.asked (.ringSubmit q) entered] (.error (.os e), q.after entered)
  | crowded {entered : Entered} : q.isFull = true → entered.result = .ok () →
      (q.after entered).isFull = true →
      Pushed q request [.asked (.ringSubmit q) entered]
        (.error (.reason .other "io_uring submission queue is full"), q.after entered)

variable {n : Nat}

theorem push_pushed (q : Queues) (request : Request) :
    Yields (push q request n) (Pushed q request) := by
  unfold push
  cases full : q.isFull with
  | false =>
      simp only [Bool.false_eq_true, if_false, Sys.yields_pure]
      exact .room full
  | true =>
      simp only [if_true, Sys.yields_bind, Sys.yields_ask, Sys.yields_pure]
      intro entered
      cases outcome : Entered.result entered with
      | error e => exact .refused full outcome
      | ok =>
          dsimp only
          split
          · rename_i still
            exact .crowded full outcome still
          · rename_i room
            exact .flushed full outcome (Bool.eq_false_iff.mpr room)

/-! ### Moves -/

/-- Data that no registration answers to. -/
def Reserved (data : UInt64) : Prop := data = wakeKey ∨ data = timerKey ∨ data = cancelKey

structure Settled (r : Ring) : Prop where
  cancels : r.cancels = []
  waker : r.rearmWaker = false
  timer : r.rearmTimer = false
  rearm : r.rearm = []

def facing (r : Ring) (completions : List Completion) : Ring :=
  { r with queues := { r.queues with completions } }

/-- What taking one completion comes to: what is recorded and asked meanwhile, what is dispatched
and the ring afterwards. -/
inductive Taken (r : Ring) (c : Completion) : Transcript → List Event → Ring → Prop
  | wakeup {t} : c.data = wakeKey → t.Silent →
      Taken r c t []
        { r with multishot := r.multishot && !r.rejects c, rearmWaker := r.rearmWaker || !c.more }
  | timer {t} : c.data = timerKey → t.Silent →
      Taken r c t []
        { r with multishot := r.multishot && !r.rejects c, rearmTimer := r.rearmTimer || !c.more }
  | withdrawal : c.data = cancelKey → Taken r c [] [] r
  | stale : ¬ Reserved c.data → r.registry.get? (.unpack c.data) = none →
      Taken r c [.noted (.staleCompletion c.data)] [] r
  | rejected {e} : ¬ Reserved c.data → r.registry.get? (.unpack c.data) = some e →
      r.rejects c = true →
      Taken r c [.noted (.multishotRejected e.descriptor)] []
        ({ r with multishot := false }.markRearm (.unpack c.data))
  | cancelled {e} : ¬ Reserved c.data → r.registry.get? (.unpack c.data) = some e →
      r.rejects c = false → c.result = -Errno.cancelled →
      Taken r c [] [] (r.markRearm (.unpack c.data))
  | failed {e} : ¬ Reserved c.data → r.registry.get? (.unpack c.data) = some e →
      r.rejects c = false → c.result ≠ -Errno.cancelled → c.result < 0 →
      Taken r c [.noted (.pollFailed e.descriptor (-c.result))]
        [⟨e.descriptor, e.token, .readiness { error := true }⟩] r
  | ready {e} : ¬ Reserved c.data → r.registry.get? (.unpack c.data) = some e → ¬ c.result < 0 →
      Taken r c [] [⟨e.descriptor, e.token, .readiness (PollMask.ringReady c.result.toUInt32)⟩]
        (if c.more then r else r.markRearm (.unpack c.data))

theorem Taken.queues_eq {r r' : Ring} {c : Completion} {t : Transcript} {events : List Event}
    (h : Taken r c t events r') :
    r'.queues = r.queues := by
  cases h with
  | ready =>
      split <;> rfl
  | _ => rfl

theorem Taken.silent {r r' : Ring} {c : Completion} {t : Transcript} {events : List Event}
    (h : Taken r c t events r') :
    t.Silent := by
  cases h with
  | wakeup _ silent => exact silent
  | timer _ silent => exact silent
  | withdrawal => exact Transcript.silent_nil
  | stale => exact Transcript.silent_singleton rfl
  | rejected => exact Transcript.silent_singleton rfl
  | cancelled => exact Transcript.silent_nil
  | failed => exact Transcript.silent_singleton rfl
  | ready => exact Transcript.silent_nil

theorem Taken.length_le {r r' : Ring} {c : Completion} {t : Transcript} {events : List Event}
    (h : Taken r c t events r') :
    events.length ≤ 1 := by
  cases h with
  | failed => exact Nat.le_refl 1
  | ready => exact Nat.le_refl 1
  | _ => exact Nat.zero_le 1

/-- The completions taken, each with what it dispatched. -/
abbrev Log := List (Completion × List Event)

def Log.events (log : Log) : List Event := log.flatMap (·.2)

theorem Log.events_append (log more : Log) : Log.events (log ++ more) = log.events ++ more.events :=
  List.flatMap_append

inductive Move : Ring → Transcript → Log → Ring → Prop
  | aside {r t} : t.Silent → Move r t [] r
  | submit {r} {entered : Entered} : r.queues.isFull = true →
      Move r [.asked (.ringSubmit r.queues) entered] []
        { r with queues := r.queues.after entered }
  | wait {r} {wait : Bool} {entered : Entered} : r.Settled →
      Move r [.asked (.ringWait wait r.queues) entered] []
        { r with queues := r.queues.after entered }
  | cancel {r data rest} : r.cancels = data :: rest →
      Move r [] []
        { r with queues := r.queues.append (.cancel data cancelKey), cancels := rest }
  | waker {r} : r.rearmWaker = true →
      Move r [] []
        { r with
          queues := r.queues.append (r.watch r.waker.descriptor .input wakeKey)
          rearmWaker := false }
  | timer {r} : r.rearmTimer = true →
      Move r [] []
        { r with
          queues := r.queues.append (r.watch r.timer.descriptor .input timerKey)
          rearmTimer := false }
  | skip {r key rest} : r.rearm = key :: rest →
      (∀ e, r.registry.get? key = some e → e.rearm = false) →
      Move r [] [] { r with rearm := rest }
  | rearm {r key rest e} : r.rearm = key :: rest → r.registry.get? key = some e →
      e.rearm = true →
      Move r [] []
        { r with
          queues := r.queues.append (r.watch e.descriptor e.interest.pollMask key.pack)
          rearm := rest
          registry := r.registry.modify key ({ · with rearm := false }) }
  | take {r c rest t events r'} : r.queues.completions = c :: rest → Taken r c t events r' →
      Move r t [(c, events)] (r'.facing rest)

inductive Moves (r : Ring) : Transcript → Log → Ring → Prop
  | rest : Moves r [] [] r
  | step {t log r' u more r''} : Moves r t log r' → Move r' u more r'' →
      Moves r (t ++ u) (log ++ more) r''

namespace Moves

variable {r r' r'' : Ring} {t u : Transcript} {log more : Log}

theorem single (h : Move r t log r') : Moves r t log r' := by
  simpa only [List.nil_append] using Moves.rest.step h

theorem trans (h : Moves r t log r') (h' : Moves r' u more r'') :
    Moves r (t ++ u) (log ++ more) r'' := by
  induction h' with
  | rest => simpa only [List.append_nil] using h
  | step _ move ih => simpa only [List.append_assoc] using ih.step move

theorem aside (h : t.Silent) : Moves r t [] r := single (.aside h)

theorem batch_eq (h : Moves r t log r') : r'.batch = r.batch := by
  induction h with
  | rest => rfl
  | step _ move ih =>
      refine Eq.trans ?_ ih
      cases move with
      | take _ taken =>
          cases taken with
          | ready => split <;> rfl
          | _ => rfl
      | _ => rfl

end Moves

def Dispatches (r : Ring) (t : Transcript) (events : List Event) (r' : Ring) : Prop :=
  ∃ log, Moves r t log r' ∧ events = log.events

namespace Dispatches

variable {r r' r'' : Ring} {t u : Transcript} {events more : List Event}

theorem quiet (h : Moves r t [] r') : Dispatches r t [] r' := ⟨_, h, rfl⟩

theorem trans (h : Dispatches r t events r') (h' : Dispatches r' u more r'') :
    Dispatches r (t ++ u) (events ++ more) r'' := by
  obtain ⟨log, moves, rfl⟩ := h
  obtain ⟨log', moves', rfl⟩ := h'
  exact ⟨_, moves.trans moves', (Log.events_append _ _).symm⟩

theorem aside (h : t.Silent) : Dispatches r t [] r := quiet (.aside h)

end Dispatches

/-- Pushing is a move, after entering the ring when the queue is full; `next` is the ring after the
push has succeeded. -/
theorem Pushed.moves {r : Ring} {request : Request} {t : Transcript}
    {result : Except Cause Unit} {queues : Queues}
    (h : Pushed r.queues request t (result, queues)) (next : Queues → Ring)
    (move : ∀ q, Move { r with queues := q } [] [] (next (q.append request))) :
    (result = .ok () ∧ Moves r t [] (next queues)) ∨
      ((∃ c, result = .error c) ∧ Moves r t [] { r with queues }) := by
  cases h with
  | room => exact .inl ⟨rfl, .single (move _)⟩
  | flushed full =>
      exact .inl ⟨rfl, (Moves.single (.submit full)).trans (.single (move _))⟩
  | refused full => exact .inr ⟨⟨_, rfl⟩, .single (.submit full)⟩
  | crowded full => exact .inr ⟨⟨_, rfl⟩, .single (.submit full)⟩

/-! ### Polls are made of moves -/

theorem noteInternal_yields (r : Ring) (c : Completion) :
    Yields (r.noteInternal c n) fun t r' =>
      t.Silent ∧ r' = { r with multishot := r.multishot && !r.rejects c } := by
  unfold noteInternal
  cases h : r.rejects c with
  | true =>
      simp only [if_true, Sys.yields_bind, Sys.yields_note, Sys.yields_pure, Bool.not_true,
        Bool.and_false, and_true]
      exact Transcript.silent_singleton rfl
  | false =>
      simp only [Bool.false_eq_true, if_false, Sys.yields_pure, Bool.not_false, Bool.and_true,
        and_true]
      exact Transcript.silent_nil

theorem drainCounter_silent (c : Counter) : Yields (c.drain n) fun t _ => t.Silent := by
  unfold Counter.drain
  simp only [Sys.yields_bind, Sys.yields_ask, Sys.yields_pure]
  exact fun _ => Transcript.silent_singleton rfl

theorem takeEntry_taken (r : Ring) {c : Completion} {e : Registration}
    (plain : ¬ Reserved c.data) (opened : r.registry.get? (.unpack c.data) = some e) :
    Yields (r.takeEntry (.unpack c.data) e c n) fun t result =>
      result.1.toDispatched = .of result.1.events ∧ Taken r c t result.1.events result.2 := by
  unfold takeEntry
  cases rejected : r.rejects c with
  | true =>
      simp only [if_true, Sys.yields_bind, Sys.yields_note, Sys.yields_pure]
      exact ⟨rfl, .rejected plain opened rejected⟩
  | false =>
      simp only [Bool.false_eq_true, if_false]
      by_cases cancelled : c.result = -Errno.cancelled
      · simp only [if_pos cancelled, Sys.yields_pure]
        exact ⟨rfl, .cancelled plain opened rejected cancelled⟩
      · by_cases failed : c.result < 0
        · simp only [if_neg cancelled, if_pos failed, Sys.yields_bind, Sys.yields_note,
            Sys.yields_pure]
          exact ⟨rfl, .failed plain opened rejected cancelled failed⟩
        · simp only [if_neg cancelled, if_neg failed, Sys.yields_pure]
          exact ⟨rfl, .ready plain opened failed⟩

/-- What is dispatched for a completion is counted as it is. -/
theorem takeCompletion_taken (r : Ring) (c : Completion) :
    Yields (r.takeCompletion c n) fun t result =>
      result.1.toDispatched = .of result.1.events ∧ Taken r c t result.1.events result.2 := by
  unfold takeCompletion
  split_ifs with wakes timed withdraws
  · simp only [Sys.yields_bind, Sys.yields_pure]
    refine (noteInternal_yields r c).mono fun t r' noted => ?_
    obtain ⟨silent, rfl⟩ := noted
    refine (drainCounter_silent _).mono fun u _ drained => ?_
    exact ⟨rfl, .wakeup wakes (silent.append (drained.append Transcript.silent_nil))⟩
  · simp only [Sys.yields_bind, Sys.yields_pure]
    refine (noteInternal_yields r c).mono fun t r' noted => ?_
    obtain ⟨silent, rfl⟩ := noted
    refine (drainCounter_silent _).mono fun u _ drained => ?_
    exact ⟨rfl, .timer timed (silent.append (drained.append Transcript.silent_nil))⟩
  · simp only [Sys.yields_pure]
    exact ⟨rfl, .withdrawal withdraws⟩
  · have plain : ¬ Reserved c.data := by
      rintro (h | h | h)
      · exact wakes h
      · exact timed h
      · exact withdraws h
    cases opened : r.registry.get? (.unpack c.data) with
    | none =>
        simp only [Sys.yields_bind, Sys.yields_note, Sys.yields_pure]
        exact ⟨rfl, .stale plain opened⟩
    | some e => exact takeEntry_taken r plain opened

theorem Taken.facing {r r' : Ring} {c : Completion} {t : Transcript} {events : List Event}
    (h : Taken r c t events r') (completions : List Completion) :
    Taken (r.facing completions) c t events (r'.facing completions) := by
  cases h with
  | wakeup wakes silent => exact .wakeup wakes silent
  | timer timed silent => exact .timer timed silent
  | withdrawal withdraws => exact .withdrawal withdraws
  | stale plain opened => exact .stale plain opened
  | rejected plain opened rejected => exact .rejected plain opened rejected
  | cancelled plain opened rejected cancelled =>
      exact .cancelled plain opened rejected cancelled
  | failed plain opened rejected cancelled failed =>
      exact .failed plain opened rejected cancelled failed
  | ready plain opened failed =>
      have same : (if c.more then r else r.markRearm (.unpack c.data)).facing completions =
          if c.more then r.facing completions
          else (r.facing completions).markRearm (.unpack c.data) := by
        split <;> rfl
      rw [same]
      exact .ready plain opened failed

/-! ### Resubmission -/

/-- A run of submissions: all of them made room, but for the last one if that stopped it. -/
inductive Attempts : Transcript → Except Cause Unit → Queues → Prop
  | through {t q} : (∀ s ∈ t, s.submitted? = some (.ok ())) → Attempts t (.ok ()) q
  | stopped {t q entered c} : (∀ s ∈ t, s.submitted? = some (.ok ())) →
      Step.submitted? (.asked (.ringSubmit q) entered) = some (.error c) →
      Attempts (t ++ [.asked (.ringSubmit q) entered]) (.error c) (q.after entered)

theorem Attempts.none {q : Queues} : Attempts [] (.ok ()) q := .through fun _ h => nomatch h

theorem Attempts.made {t : Transcript} {q : Queues} (h : Attempts t (.ok ()) q) :
    ∀ s ∈ t, s.submitted? = some (.ok ()) := by
  cases h with
  | through made => exact made

theorem Attempts.after {t u : Transcript} {q q' : Queues} {result : Except Cause Unit}
    (h : Attempts u result q') (before : Attempts t (.ok ()) q) : Attempts (t ++ u) result q' := by
  cases h with
  | through made => exact .through (List.forall_mem_append.mpr ⟨before.made, made⟩)
  | stopped made last =>
      rw [← List.append_assoc]
      exact .stopped (List.forall_mem_append.mpr ⟨before.made, made⟩) last

theorem Pushed.attempts {q q' : Queues} {request : Request} {t : Transcript}
    {result : Except Cause Unit} (h : Pushed q request t (result, q')) : Attempts t result q' := by
  cases h with
  | room => exact .none
  | flushed _ accepted room =>
      refine .through (List.forall_mem_singleton.mpr ?_)
      simp only [Step.submitted?, accepted, room, Bool.false_eq_true, if_false]
  | refused _ refused =>
      refine Attempts.stopped (t := []) (fun _ h => nomatch h) ?_
      simp only [Step.submitted?, refused]
  | crowded _ accepted still =>
      refine Attempts.stopped (t := []) (fun _ h => nomatch h) ?_
      simp only [Step.submitted?, accepted, still, if_true]

/-- What a stage of the resubmission comes to: moves without events and submissions only; if the
stage went through, nothing of its kind is left to push. -/
structure Stage (left : Ring → Prop) (r : Ring) (t : Transcript)
    (result : Except Cause Unit × Ring) : Prop where
  moves : Moves r t [] result.2
  left : result.1 = .ok () → left result.2
  attempts : Attempts t result.1 result.2.queues

theorem Stage.idle {left : Ring → Prop} {r : Ring} (none : left r) : Stage left r [] (.ok (), r) :=
  ⟨.rest, fun _ => none, .none⟩

theorem Stage.after {r r' : Ring} {t u : Transcript} {left : Ring → Prop} {q : Queues}
    {result : Except Cause Unit × Ring} (moves : Moves r t [] r')
    (attempts : Attempts t (.ok ()) q) (h : Stage left r' u result) : Stage left r (t ++ u) result :=
  ⟨moves.trans h.moves, h.left, h.attempts.after attempts⟩

theorem Stage.failed {r r' : Ring} {t : Transcript} {left : Ring → Prop} {c : Cause}
    (moves : Moves r t [] r') (attempts : Attempts t (.error c) r'.queues) :
    Stage left r t (.error c, r') := ⟨moves, nofun, attempts⟩

theorem pushCancels_stage (cancels : List UInt64) (r : Ring) :
    Yields (pushCancels cancels r n) (Stage (·.cancels = []) { r with cancels }) := by
  induction cancels generalizing r with
  | nil =>
      simp only [pushCancels, Sys.yields_pure]
      exact .idle rfl
  | cons data rest ih =>
      simp only [pushCancels, Sys.yields_bind]
      refine (push_pushed _ _).mono₂ fun t result queues pushed => ?_
      rcases pushed.moves (r := { r with cancels := data :: rest })
        (fun q => { r with queues := q, cancels := rest }) (fun _ => .cancel rfl) with
        ⟨rfl, moves⟩ | ⟨⟨c, rfl⟩, moves⟩
      · exact (ih _).mono fun u _ stage => .after moves pushed.attempts stage
      · simp only [Sys.yields_pure, List.append_nil]
        exact .failed moves pushed.attempts

theorem pushWaker_stage (r : Ring) :
    Yields (r.pushWaker n)
      (Stage (fun r' => r'.rearmWaker = false ∧ r'.cancels = r.cancels) r) := by
  unfold pushWaker
  by_cases flagged : r.rearmWaker = true
  · rw [if_pos flagged]
    simp only [Sys.yields_bind]
    refine (push_pushed _ _).mono₂ fun t result queues pushed => ?_
    rcases pushed.moves (fun q => { r with queues := q, rearmWaker := false })
      (fun _ => .waker flagged) with ⟨rfl, moves⟩ | ⟨⟨c, rfl⟩, moves⟩
    · simp only [Sys.yields_pure, List.append_nil]
      exact ⟨moves, fun _ => ⟨rfl, rfl⟩, pushed.attempts⟩
    · simp only [Sys.yields_pure, List.append_nil]
      exact .failed moves pushed.attempts
  · rw [if_neg flagged]
    simp only [Sys.yields_pure]
    exact .idle ⟨Bool.eq_false_iff.mpr flagged, rfl⟩

theorem pushTimer_stage (r : Ring) :
    Yields (r.pushTimer n) (Stage (fun r' => r'.rearmTimer = false ∧ r'.cancels = r.cancels ∧
      r'.rearmWaker = r.rearmWaker) r) := by
  unfold pushTimer
  by_cases flagged : r.rearmTimer = true
  · rw [if_pos flagged]
    simp only [Sys.yields_bind]
    refine (push_pushed _ _).mono₂ fun t result queues pushed => ?_
    rcases pushed.moves (fun q => { r with queues := q, rearmTimer := false })
      (fun _ => .timer flagged) with ⟨rfl, moves⟩ | ⟨⟨c, rfl⟩, moves⟩
    · simp only [Sys.yields_pure, List.append_nil]
      exact ⟨moves, fun _ => ⟨rfl, rfl, rfl⟩, pushed.attempts⟩
    · simp only [Sys.yields_pure, List.append_nil]
      exact .failed moves pushed.attempts
  · rw [if_neg flagged]
    simp only [Sys.yields_pure]
    exact .idle ⟨Bool.eq_false_iff.mpr flagged, rfl, rfl⟩

theorem pushRearm_stage (keys : List Key) (r : Ring) :
    Yields (pushRearm keys r n) (Stage (fun r' => r'.rearm = [] ∧ r'.cancels = r.cancels ∧
      r'.rearmWaker = r.rearmWaker ∧ r'.rearmTimer = r.rearmTimer) { r with rearm := keys }) := by
  induction keys generalizing r with
  | nil =>
      simp only [pushRearm, Sys.yields_pure]
      exact .idle ⟨rfl, rfl, rfl, rfl⟩
  | cons key rest ih =>
      unfold pushRearm
      have skipped : (∀ e, r.registry.get? key = some e → e.rearm = false) →
          Yields (pushRearm rest r n) (Stage (fun r' => r'.rearm = [] ∧ r'.cancels = r.cancels ∧
            r'.rearmWaker = r.rearmWaker ∧ r'.rearmTimer = r.rearmTimer)
            { r with rearm := key :: rest }) := by
        intro idle
        refine (ih r).mono fun t result stage => ?_
        have skip : Move { r with rearm := key :: rest } [] [] { r with rearm := rest } :=
          .skip rfl idle
        exact .after (.single skip) (Attempts.none (q := r.queues)) stage
      cases opened : r.registry.get? key with
      | none => exact skipped fun e h => by rw [opened] at h; cases h
      | some e =>
          cases flagged : e.rearm with
          | false =>
              simp only [flagged, Bool.false_eq_true, if_false]
              exact skipped fun e' h => by
                rw [opened] at h
                cases h
                exact flagged
          | true =>
              simp only [flagged, if_true, Sys.yields_bind]
              refine (push_pushed _ _).mono₂ fun t result queues pushed => ?_
              rcases pushed.moves (r := { r with rearm := key :: rest })
                (fun q => { r with
                  queues := q
                  rearm := rest
                  registry := r.registry.modify key ({ · with rearm := false }) })
                (fun _ => .rearm rfl opened flagged) with ⟨rfl, moves⟩ | ⟨⟨c, rfl⟩, moves⟩
              · exact (ih _).mono fun u _ stage => .after moves pushed.attempts stage
              · simp only [Sys.yields_pure, List.append_nil]
                exact .failed moves pushed.attempts

theorem resubmit_stage (r : Ring) : Yields (r.resubmit n) (Stage Settled r) := by
  unfold resubmit
  simp only [Sys.yields_bind]
  refine (pushCancels_stage r.cancels r).mono₂ fun t₁ result₁ r₁ stage₁ => ?_
  cases result₁ with
  | error c =>
      simp only [Sys.yields_pure, List.append_nil]
      exact .failed stage₁.moves stage₁.attempts
  | ok =>
      simp only [Sys.yields_bind]
      refine (pushWaker_stage r₁).mono₂ fun t₂ result₂ r₂ stage₂ => ?_
      refine Yields.mono ?_ fun u _ => Stage.after stage₁.moves stage₁.attempts
      cases result₂ with
      | error c =>
          simp only [Sys.yields_pure, List.append_nil]
          exact .failed stage₂.moves stage₂.attempts
      | ok =>
          simp only [Sys.yields_bind]
          refine (pushTimer_stage r₂).mono₂ fun t₃ result₃ r₃ stage₃ => ?_
          refine Yields.mono ?_ fun u _ => Stage.after stage₂.moves stage₂.attempts
          cases result₃ with
          | error c =>
              simp only [Sys.yields_pure, List.append_nil]
              exact .failed stage₃.moves stage₃.attempts
          | ok =>
              refine (pushRearm_stage r₃.rearm r₃).mono fun t₄ result₄ stage₄ => ?_
              refine .after stage₃.moves stage₃.attempts ⟨stage₄.moves, fun ok => ?_, stage₄.attempts⟩
              obtain ⟨noRearm, sameCancels₄, sameWaker₄, sameTimer₄⟩ := stage₄.left ok
              obtain ⟨noTimer, sameCancels₃, sameWaker₃⟩ := stage₃.left rfl
              obtain ⟨noWaker, sameCancels₂⟩ := stage₂.left rfl
              have noCancels := stage₁.left rfl
              exact ⟨by rw [sameCancels₄, sameCancels₃, sameCancels₂, noCancels],
                by rw [sameWaker₄, sameWaker₃, noWaker], by rw [sameTimer₄, noTimer], noRearm⟩

end Ring
end Multiplexer

import Mathlib.Data.Finset.Card
import Mathlib.Data.Fintype.Basic
import Multiplexer.Proofs.Port.Calls

/-! Wakes that race with each other and with a poll. A wake raises the flag first, then posts its
packet, and lowers the flag again if the port refuses it; a poll waits for packets and deals with
them one by one. Any number of wakers and one poller take these steps in any order, whatever the
port replies. Run alone, they are what `PortSignal.wake` and `CompletionPort.poll` do: `wake_steps` and
`poll_steps` find the steps of a call, `wake_of_steps` and `poll_of_steps` the call of such steps. -/
namespace Multiplexer.Waking
open Dialogue

inductive Waker where
  | idle
  /-- It has raised the flag and is about to post. -/
  | posting
  /-- Its packet was refused, and the flag is still up. -/
  | refused (error : Errno)
  deriving DecidableEq, Repr

inductive Poller where
  | idle
  | waiting
  /-- These packets are taken out and not yet dealt with. -/
  | handling (packets : List Packet)
  deriving DecidableEq, Repr

structure State (ι : Type) where
  signal : PortSignal
  queue : List Packet
  wakers : ι → Waker
  poller : Poller

inductive Action (ι : Type) where
  /-- The flag is raised; it was up before or not. -/
  | swap (i : ι) (up : Bool)
  | post (i : ι) (reply : Except Errno Unit)
  | lower (i : ι)
  /-- A packet of something else joins the queue. -/
  | arrive (packet : Packet)
  | call
  /-- The wait ends with these packets, none if it fails. -/
  | take (packets : List Packet)
  | handle (packet : Packet)
  | finish
  deriving DecidableEq

def State.opened {ι : Type} (port : Handle) : State ι := ⟨⟨port, false⟩, [], fun _ => .idle, .idle⟩

variable {ι : Type} [DecidableEq ι]

/-- One step of a waker, of the poller or of what else uses the port. -/
inductive Step (s : State ι) : Action ι → State ι → Prop
  | joined {i} : s.wakers i = .idle → s.signal.notified = true → Step s (.swap i true) s
  | raised {i} : s.wakers i = .idle → s.signal.notified = false →
      Step s (.swap i false)
        { s with signal.notified := true, wakers := Function.update s.wakers i .posting }
  | posted {i} : s.wakers i = .posting →
      Step s (.post i (.ok ()))
        { s with queue := s.queue ++ [.wakeup], wakers := Function.update s.wakers i .idle }
  | refused {i e} : s.wakers i = .posting →
      Step s (.post i (.error e)) { s with wakers := Function.update s.wakers i (.refused e) }
  | lowered {i e} : s.wakers i = .refused e →
      Step s (.lower i)
        { s with signal.notified := false, wakers := Function.update s.wakers i .idle }
  | arrived {packet} : packet.wakes = false →
      Step s (.arrive packet) { s with queue := s.queue ++ [packet] }
  | called : s.poller = .idle → Step s .call { s with poller := .waiting }
  | taken {packets rest} : s.poller = .waiting → s.queue = packets ++ rest →
      Step s (.take packets) { s with queue := rest, poller := .handling packets }
  | handled {packet rest} : s.poller = .handling (packet :: rest) →
      Step s (.handle packet) { s with signal := s.signal.after [packet], poller := .handling rest }
  | finished : s.poller = .handling [] → Step s .finish { s with poller := .idle }

theorem Step.to {s t u : State ι} {a : Action ι} (step : Step s a t) (same : t = u) : Step s a u :=
  same ▸ step

inductive Run (s : State ι) : List (Action ι) → State ι → Prop
  | start : Run s [] s
  | step {as a t u} : Run s as t → Step t a u → Run s (as ++ [a]) u

namespace Run

variable {s t u : State ι} {a : Action ι} {as bs : List (Action ι)}

theorem nil_iff : Run s [] t ↔ t = s := by
  constructor
  · intro h
    generalize none : ([] : List (Action ι)) = as at h
    cases h with
    | start => rfl
    | step => exact absurd none.symm (List.append_ne_nil_of_right_ne_nil _ (List.cons_ne_nil _ _))
  · rintro rfl
    exact .start

theorem snoc_iff : Run s (as ++ [a]) u ↔ ∃ t, Run s as t ∧ Step t a u := by
  constructor
  · intro h
    generalize whole : as ++ [a] = bs at h
    cases h with
    | start => exact absurd whole (List.append_ne_nil_of_right_ne_nil _ (List.cons_ne_nil _ _))
    | step h last =>
        obtain ⟨rfl, same⟩ := List.append_inj' whole rfl
        cases same
        exact ⟨_, h, last⟩
  · rintro ⟨t, h, last⟩
    exact .step h last

theorem append_iff : Run s (as ++ bs) u ↔ ∃ t, Run s as t ∧ Run t bs u := by
  induction bs using List.reverseRecOn generalizing u with
  | nil => simp only [List.append_nil, nil_iff, exists_eq_right']
  | append_singleton bs b ih =>
      rw [← List.append_assoc]
      simp only [snoc_iff, ih]
      constructor
      · rintro ⟨m, ⟨t, first, second⟩, last⟩
        exact ⟨t, first, m, second, last⟩
      · rintro ⟨t, first, m, second, last⟩
        exact ⟨m, ⟨t, first, second⟩, last⟩

theorem one_iff : Run s [a] t ↔ Step s a t := by
  rw [← List.nil_append [a], snoc_iff]
  simp only [nil_iff, exists_eq_left]

theorem cons_iff : Run s (a :: as) u ↔ ∃ t, Step s a t ∧ Run t as u := by
  rw [← List.singleton_append, append_iff]
  simp only [one_iff]

theorem one (first : Step s a t) : Run s [a] t := one_iff.mpr first

theorem cons (first : Step s a t) (h : Run t as u) : Run s (a :: as) u :=
  cons_iff.mpr ⟨t, first, h⟩

end Run

/-! ### The calls as they run alone -/

/-- All the steps of one wake of the waker, with its result. -/
inductive Wakes (i : ι) : List (Action ι) → Except Error Unit → Prop
  | joined : Wakes i [.swap i true] (.ok ())
  | posted : Wakes i [.swap i false, .post i (.ok ())] (.ok ())
  | refused {e} : Wakes i [.swap i false, .post i (.error e), .lower i]
      (.error (.facility (.os e)))

/-- The waker went through a whole wake, and it succeeded. -/
def Woken (i : ι) (w : List (Action ι)) : Prop := ∃ as, Wakes i as (.ok ()) ∧ as.Sublist w

/-- A wake that nothing interrupts takes the steps of a waker, and what the port accepts joins the
queue. -/
theorem wake_steps (s : State ι) {i : ι} (idle : s.wakers i = .idle) {n : Nat} :
    Yields (s.signal.wake n) fun t r => ∃ as, Wakes i as r.1 ∧
      Run s as { s with signal := r.2, queue := s.queue ++ t.accepted } := by
  have back : ∀ w, Function.update (Function.update s.wakers i w) i .idle = s.wakers := by
    intro w
    rw [Function.update_idem, ← idle, Function.update_eq_self]
  unfold PortSignal.wake
  cases flag : s.signal.notified with
  | true =>
      simp only [if_true, Sys.yields_pure, Transcript.accepted, List.filterMap_nil, List.append_nil]
      exact ⟨_, .joined, .one (.joined idle flag)⟩
  | false =>
      simp only [Bool.false_eq_true, if_false, Sys.yields_bind, Sys.yields_ask]
      rintro (e | ⟨⟩)
      · simp only [Sys.yields_pure, Transcript.accepted, List.append_nil, List.filterMap_cons,
          List.filterMap_nil]
        refine ⟨_, .refused, .cons (.raised idle flag)
          (.cons (.refused (Function.update_self ..)) (.one ?_))⟩
        refine Step.to (.lowered (Function.update_self ..)) ?_
        rw [Function.update_idem, back]
      · simp only [Sys.yields_pure]
        refine ⟨_, .posted, .cons (.raised idle flag) (.one ?_)⟩
        refine Step.to (.posted (Function.update_self ..)) ?_
        rw [back]
        rfl

/-- Conversely, whatever a waker does by itself is a wake that can go like that. -/
theorem wake_of_steps {s u : State ι} {i : ι} {as : List (Action ι)} {result : Except Error Unit}
    (wakes : Wakes i as result) (run : Run s as u) (n : Nat) :
    ∃ t, Follows (s.signal.wake n) t (.ok (result, u.signal)) ∧
      u.queue = s.queue ++ t.accepted := by
  unfold PortSignal.wake
  cases wakes with
  | joined =>
      cases Run.one_iff.mp run with
      | joined _ up =>
          rw [if_pos up]
          exact ⟨[], .done _, (List.append_nil _).symm⟩
  | posted =>
      obtain ⟨m, first, rest⟩ := Run.cons_iff.mp run
      cases first with
      | raised _ down =>
          cases Run.one_iff.mp rest with
          | posted =>
              rw [if_neg (ne_true_of_eq_false down)]
              exact ⟨[.asked (.portPost s.signal.port .wakeup) (.ok ())], .ask _ (.done _), rfl⟩
  | @refused e =>
      obtain ⟨m, first, rest⟩ := Run.cons_iff.mp run
      obtain ⟨m', second, last⟩ := Run.cons_iff.mp rest
      cases first with
      | raised _ down =>
          cases second with
          | refused =>
              cases Run.one_iff.mp last with
              | lowered =>
                  rw [if_neg (ne_true_of_eq_false down)]
                  exact ⟨[.asked (.portPost s.signal.port .wakeup) (.error e)], .ask _ (.done _),
                    (List.append_nil _).symm⟩

theorem handle_steps {s u : State ι} {packets : List Packet}
    (taken : s.poller = .handling packets) :
    Run s (packets.map .handle) u ↔
      u = { s with signal := s.signal.after packets, poller := .handling [] } := by
  induction packets generalizing s with
  | nil =>
      rw [PortSignal.after_nil, ← taken]
      exact Run.nil_iff
  | cons packet rest ih =>
      rw [PortSignal.after_cons, List.map_cons, Run.cons_iff]
      constructor
      · rintro ⟨m, first, run⟩
        cases first with
        | handled handling =>
            cases taken.symm.trans handling
            exact (ih rfl).mp run
      · rintro rfl
        exact ⟨_, .handled taken, (ih rfl).mpr rfl⟩

/-- A poll that nothing interrupts takes the steps of the poller, and what its wait hands over
leaves the queue. -/
theorem poll_steps (p : CompletionPort) {s : State ι} (same : s.signal = p.signal)
    (idle : s.poller = .idle) {timeout : Timeout} {n : Nat} :
    Yields (p.poll timeout n) fun t r => ∀ rest, s.queue = t.received ++ rest →
      Run s (.call :: .take t.received :: (t.received.map .handle ++ [.finish]))
        { s with signal := r.2.signal, queue := rest } := by
  have steps : ∀ {packets rest}, s.queue = packets ++ rest →
      Run s (.call :: .take packets :: (packets.map .handle ++ [.finish]))
        { s with signal := p.signal.after packets, queue := rest } := by
    intro packets rest split
    refine .cons (.called idle) (.cons (.taken rfl split) (.step ((handle_steps rfl).mpr rfl) ?_))
    refine Step.to (.finished rfl) ?_
    rw [same, ← idle]
  refine p.poll_outcome.mono₂ fun t polled p' outcome rest split => ?_
  cases outcome with
  | unanswered =>
      have none := @steps [] rest split
      rw [PortSignal.after_nil] at none
      exact none
  | answered =>
      rw [CompletionPort.received_answer] at split ⊢
      exact steps split

/-- Conversely, whatever the poller does by itself is a poll that can go like that. -/
theorem poll_of_steps (p : CompletionPort) {s u : State ι} (same : s.signal = p.signal)
    {packets : List Packet}
    (run : Run s (.call :: .take packets :: (packets.map .handle ++ [.finish])) u)
    (timeout : Timeout) (n : Nat) :
    s.queue = packets ++ u.queue ∧ ∃ t, t.received = packets ∧
      Follows (p.poll timeout n) t
        (.ok (.ready (p.events packets), { p with signal := u.signal })) := by
  obtain ⟨m, first, rest⟩ := Run.cons_iff.mp run
  obtain ⟨m', second, rest⟩ := Run.cons_iff.mp rest
  obtain ⟨m'', handled, last⟩ := Run.snoc_iff.mp rest
  cases first with
  | called =>
      cases second with
      | taken _ split =>
          obtain rfl := (handle_steps rfl).mp handled
          cases last with
          | finished =>
              have goes := p.poll_follows (n := n) timeout packets
              rw [← same] at goes
              exact ⟨split, _, CompletionPort.received_answer, goes⟩

/-! ### Wakes coalesce -/

section Counting

variable {ι : Type} [Fintype ι]

/-- The wakers that have raised the flag and have neither had their packet accepted nor lowered the
flag again. -/
def busy (wakers : ι → Waker) : Finset ι := {i | wakers i ≠ .idle}

def Poller.held : Poller → List Packet
  | handling packets => packets
  | _ => []

namespace State

def Quiet (s : State ι) : Prop := (∀ i, s.wakers i = .idle) ∧ s.poller = .idle

/-- How many wakes are between raising the flag and the end of their post, or lowering it again. -/
def pending (s : State ι) : Nat := (busy s.wakers).card

def queued (s : State ι) : Nat := s.queue.countP Packet.wakes

/-- How many wakeups are taken out and not yet dealt with. -/
def held (s : State ι) : Nat := s.poller.held.countP Packet.wakes

/-- The flag is up for exactly one wakeup, which is still to be posted, queued or taken out. -/
def Balanced (s : State ι) : Prop :=
  s.pending + s.queued + s.held = if s.signal.notified then 1 else 0

end State

variable {wakers : ι → Waker} {i : ι} {w : Waker} {s : State ι}

theorem mem_busy : i ∈ busy wakers ↔ wakers i ≠ .idle := by rw [busy, Finset.mem_filter_univ]

theorem mem_busy_of_eq (stands : wakers i = w) (active : w ≠ .idle) : i ∈ busy wakers :=
  mem_busy.mpr (stands.trans_ne active)

theorem busy_eq_empty (idle : ∀ i, wakers i = .idle) : busy wakers = ∅ :=
  Finset.eq_empty_of_forall_notMem fun i mem => mem_busy.mp mem (idle i)

section

variable [DecidableEq ι]

theorem busy_update (active : w ≠ .idle) :
    busy (Function.update wakers i w) = insert i (busy wakers) := by
  ext j
  rw [Finset.mem_insert, mem_busy, mem_busy]
  by_cases same : j = i
  · rw [same, Function.update_self]
    exact ⟨fun _ => .inl rfl, fun _ => active⟩
  · rw [Function.update_of_ne same, or_iff_right same]

theorem busy_update_idle :
    busy (Function.update wakers i .idle) = (busy wakers).erase i := by
  ext j
  rw [Finset.mem_erase, mem_busy, mem_busy]
  by_cases same : j = i
  · rw [same, Function.update_self]
    exact ⟨fun idle => absurd rfl idle, fun both => absurd rfl both.1⟩
  · rw [Function.update_of_ne same, and_iff_right same]

theorem card_busy_start (idle : wakers i = .idle) (active : w ≠ .idle) :
    (busy (Function.update wakers i w)).card = (busy wakers).card + 1 := by
  rw [busy_update active]
  exact Finset.card_insert_of_notMem fun mem => mem_busy.mp mem idle

theorem card_busy_go_on (already : i ∈ busy wakers) (active : w ≠ .idle) :
    (busy (Function.update wakers i w)).card = (busy wakers).card := by
  rw [busy_update active, Finset.insert_eq_of_mem already]

theorem card_busy_end (already : i ∈ busy wakers) :
    (busy (Function.update wakers i .idle)).card = (busy wakers).card - 1 := by
  rw [busy_update_idle]
  exact Finset.card_erase_of_mem already

end

theorem countP_append_silent {queue : List Packet} {packet : Packet}
    (silent : packet.wakes = false) :
    (queue ++ [packet]).countP Packet.wakes = queue.countP Packet.wakes := by
  rw [List.countP_append, List.countP_singleton, silent, if_neg Bool.false_ne_true, Nat.add_zero]

theorem balanced_opened {port : Handle} : (State.opened port : State ι).Balanced := by
  have none : busy (State.opened port : State ι).wakers = ∅ := busy_eq_empty fun _ => rfl
  rw [State.Balanced, State.pending, none]
  rfl

namespace State.Balanced

theorem queued_le (balanced : s.Balanced) : s.queued ≤ 1 := by
  unfold Balanced at balanced
  split at balanced <;> omega

/-- While a wake is pending the flag is up, and its packet is the only one. -/
theorem of_busy (balanced : s.Balanced) (active : i ∈ busy s.wakers) :
    s.pending = 1 ∧ s.queued = 0 ∧ s.held = 0 ∧ s.signal.notified = true := by
  have some : 0 < s.pending := Finset.card_pos.mpr ⟨i, active⟩
  unfold Balanced at balanced
  split at balanced
  · rename_i up
    exact ⟨by omega, by omega, by omega, up⟩
  · omega

theorem of_quiet (balanced : s.Balanced) (quiet : s.Quiet) :
    s.queued = if s.signal.notified then 1 else 0 := by
  have pending : s.pending = 0 := by
    rw [State.pending, busy_eq_empty quiet.1, Finset.card_empty]
  have held : s.held = 0 := by
    rw [State.held, quiet.2]
    rfl
  rw [← balanced, pending, held, Nat.zero_add, Nat.add_zero]

theorem notified_iff (balanced : s.Balanced) (quiet : s.Quiet) :
    s.signal.notified = true ↔ ∃ packet ∈ s.queue, packet.wakes = true := by
  rw [← List.countP_pos_iff]
  change _ ↔ 0 < s.queued
  rw [balanced.of_quiet quiet]
  split
  · rename_i up
    exact ⟨fun _ => Nat.one_pos, fun _ => up⟩
  · rename_i down
    exact ⟨fun up => absurd up down, fun some => absurd some (Nat.lt_irrefl 0)⟩

end State.Balanced

/-- Whichever step is taken, the flag stays up for exactly one wakeup. -/
theorem Step.balanced [DecidableEq ι] {t : State ι} {a : Action ι} (step : Step s a t)
    (balanced : s.Balanced) : t.Balanced := by
  cases step with
  | joined => exact balanced
  | @raised i idle down =>
      have more : (busy (Function.update s.wakers i .posting)).card = s.pending + 1 :=
        card_busy_start idle nofun
      rw [State.Balanced, down, if_neg Bool.false_ne_true] at balanced
      change (busy (Function.update s.wakers i .posting)).card + s.queued + s.held = 1
      omega
  | @posted i posting =>
      have active := mem_busy_of_eq posting nofun
      obtain ⟨one, none, unheld, up⟩ := balanced.of_busy active
      have fewer : (busy (Function.update s.wakers i .idle)).card = s.pending - 1 :=
        card_busy_end active
      have longer : (s.queue ++ [Packet.wakeup]).countP Packet.wakes = s.queued + 1 :=
        List.countP_append
      rw [State.Balanced, up, if_pos rfl]
      change (busy (Function.update s.wakers i .idle)).card +
        (s.queue ++ [Packet.wakeup]).countP Packet.wakes + s.held = 1
      omega
  | @refused i e posting =>
      have same : (busy (Function.update s.wakers i (.refused e))).card = s.pending :=
        card_busy_go_on (mem_busy_of_eq posting nofun) nofun
      rw [State.Balanced, State.pending, same]
      exact balanced
  | @lowered i e refused =>
      have active := mem_busy_of_eq refused nofun
      obtain ⟨one, none, unheld, -⟩ := balanced.of_busy active
      have fewer : (busy (Function.update s.wakers i .idle)).card = s.pending - 1 :=
        card_busy_end active
      change (busy (Function.update s.wakers i .idle)).card + s.queued + s.held = 0
      omega
  | arrived silent =>
      rw [State.Balanced, State.queued, countP_append_silent silent]
      exact balanced
  | called idle =>
      rw [State.Balanced, State.held, idle] at balanced
      exact balanced
  | @taken packets rest waiting split =>
      rw [State.Balanced, State.held, State.queued, waiting, split, List.countP_append] at balanced
      rw [State.Balanced, ← balanced]
      change s.pending + rest.countP Packet.wakes + packets.countP Packet.wakes =
        s.pending + (packets.countP Packet.wakes + rest.countP Packet.wakes) + 0
      omega
  | @handled packet rest handling =>
      rw [State.Balanced, State.held, handling, Poller.held, List.countP_cons] at balanced
      change s.pending + s.queued + rest.countP Packet.wakes =
        if (s.signal.after [packet]).notified then 1 else 0
      cases wakes : packet.wakes with
      | true =>
          rw [PortSignal.after_of_wakes wakes, if_neg Bool.false_ne_true]
          rw [wakes, if_pos rfl] at balanced
          split at balanced <;> omega
      | false =>
          rw [PortSignal.after_of_silent wakes, ← balanced, wakes, if_neg Bool.false_ne_true]
          rfl
  | finished handling =>
      rw [State.Balanced, State.held, handling] at balanced
      exact balanced

variable [DecidableEq ι] {t : State ι} {a : Action ι} {as w : List (Action ι)} {port : Handle}

theorem Run.balanced (run : Run s as t) (balanced : s.Balanced) : t.Balanced := by
  induction run with
  | start => exact balanced
  | step _ last ih => exact last.balanced ih

/-- Wakes coalesce, however they interleave with each other and with polls and whatever is refused:
the flag is up exactly while one wakeup is to be posted, queued or taken out, so there is never a
second one in the queue, and between calls the flag tells whether there is one. The steps are those
of the calls themselves (`wake_steps`, `poll_steps`), here in any order. -/
theorem wakes_coalesce (run : Run (.opened port) as s) :
    (s.pending + s.queued + s.held = if s.signal.notified then 1 else 0) ∧ s.queued ≤ 1 ∧
    (s.Quiet → (s.signal.notified = true ↔ ∃ packet ∈ s.queue, packet.wakes = true)) := by
  have balanced : s.Balanced := run.balanced balanced_opened
  exact ⟨balanced, balanced.queued_le, balanced.notified_iff⟩

/-- One waker finds the flag up while another is about to post; both succeed, with one packet. -/
theorem joined_wake_coalesces : ∃ (as : List (Action (Fin 2))) (s : State (Fin 2)),
    Run (.opened 100) as s ∧ Woken 0 as ∧ Woken 1 as ∧ s.Quiet ∧ s.queue = [.wakeup] ∧
    (s.pending + s.queued + s.held = if s.signal.notified then 1 else 0) ∧ s.queued ≤ 1 ∧
    (s.signal.notified = true ↔ ∃ packet ∈ s.queue, packet.wakes = true) := by
  have reached : ∃ s : State (Fin 2),
      Run (.opened 100) [.swap 0 false, .swap 1 true, .post 0 (.ok ())] s ∧
      s.Quiet ∧ s.queue = [.wakeup] :=
    ⟨_, .cons (.raised rfl rfl) (.cons (.joined rfl rfl) (.one (.posted rfl))),
      ⟨by decide, rfl⟩, rfl⟩
  obtain ⟨s, run, quiet, queue⟩ := reached
  obtain ⟨balanced, few, tells⟩ := wakes_coalesce run
  refine ⟨_, s, run, ⟨_, .posted, ?_⟩, ⟨_, .joined, ?_⟩, quiet, queue, balanced, few, tells quiet⟩
  · decide
  · decide

end Counting

/-! ### What becomes of wakes that were answered -/

section Answered

variable {ι : Type} {i : ι} {w : List (Action ι)} {a : Action ι} {s t : State ι}

/-- The flag was lowered for a refused packet, and no wakeup was accepted after that. -/
def Retracted (w : List (Action ι)) : Prop :=
  ∃ front i back, w = front ++ .lower i :: back ∧ ∀ j, .post j (.ok ()) ∉ back

theorem Woken.swapped (woken : Woken i w) : ∃ found, .swap i found ∈ w := by
  obtain ⟨as, wakes, within⟩ := woken
  cases wakes with
  | joined => exact ⟨_, within.mem List.mem_cons_self⟩
  | posted => exact ⟨_, within.mem List.mem_cons_self⟩

theorem not_retracted_nil : ¬ Retracted ([] : List (Action ι)) := by
  rintro ⟨front, i, back, split, -⟩
  exact absurd split.symm (List.append_ne_nil_of_right_ne_nil _ (List.cons_ne_nil _ _))

theorem retracted_snoc :
    Retracted (w ++ [a]) ↔ (∃ i, a = .lower i) ∨ Retracted w ∧ ∀ j, a ≠ .post j (.ok ()) := by
  constructor
  · rintro ⟨front, i, back, split, refused⟩
    rcases cut_of_snoc split with ⟨rfl, rfl, rfl⟩ | ⟨back, rfl, rfl⟩
    · exact .inl ⟨i, rfl⟩
    · refine .inr ⟨⟨front, i, back, rfl, fun j mem => ?_⟩, fun j same => ?_⟩
      · exact refused j (List.mem_append_left _ mem)
      · exact refused j (same ▸ List.mem_append_right _ (List.mem_singleton_self _))
  · rintro (⟨i, rfl⟩ | ⟨⟨front, i, back, rfl, refused⟩, other⟩)
    · exact ⟨w, i, [], rfl, fun _ => List.not_mem_nil⟩
    · refine ⟨front, i, back ++ [a], by rw [List.append_assoc, List.cons_append], fun j mem => ?_⟩
      rcases List.mem_append.mp mem with mem | mem
      · exact refused j mem
      · exact other j (List.mem_singleton.mp mem).symm

theorem Retracted.of_snoc (retracted : Retracted (w ++ [a])) (other : ∀ i, a ≠ .lower i) :
    Retracted w := by
  rcases retracted_snoc.mp retracted with ⟨i, same⟩ | ⟨before, -⟩
  · exact absurd same (other i)
  · exact before

/-- What the steps taken while nobody polls tell of the flag and the queue. -/
structure Settled (w : List (Action ι)) (s : State ι) : Prop where
  up : (∃ i found, .swap i found ∈ w) → ¬ Retracted w → s.signal.notified = true
  unqueued : Retracted w → s.queued = 0

variable [DecidableEq ι]

theorem Step.rested (step : Step s a t) (other : a ≠ .finish) (rests : t.poller = .idle) :
    s.poller = .idle := by
  cases step with
  | called | taken | handled => cases rests
  | finished => exact absurd rfl other
  | _ => exact rests

variable [Fintype ι]

theorem Step.settled (step : Step s a t) (balanced : s.Balanced) (settled : Settled w s)
    (rests : t.poller = .idle) (other : a ≠ .finish) : Settled (w ++ [a]) t := by
  -- A step that neither swaps, lowers nor has a packet accepted tells nothing new.
  have aside : (∀ i found, a ≠ .swap i found) → (∀ i, a ≠ .lower i) →
      (∀ j, a ≠ .post j (.ok ())) → t.signal = s.signal → t.queued = s.queued →
      Settled (w ++ [a]) t := by
    intro unswapped unlowered unposted signal queued
    refine ⟨fun ⟨i, found, mem⟩ kept => ?_, fun retracted => ?_⟩
    · rw [signal]
      refine settled.up ⟨i, found, ?_⟩ fun before =>
        kept (retracted_snoc.mpr (.inr ⟨before, unposted⟩))
      rcases List.mem_append.mp mem with mem | mem
      · exact mem
      · exact absurd (List.mem_singleton.mp mem).symm (unswapped i found)
    · rw [queued]
      exact settled.unqueued (retracted.of_snoc unlowered)
  cases step with
  | joined _ up =>
      exact ⟨fun _ _ => up, fun retracted => settled.unqueued (retracted.of_snoc fun _ => nofun)⟩
  | raised =>
      exact ⟨fun _ _ => rfl, fun retracted => settled.unqueued (retracted.of_snoc fun _ => nofun)⟩
  | @posted i posting =>
      obtain ⟨-, -, -, up⟩ := balanced.of_busy (mem_busy_of_eq posting nofun)
      refine ⟨fun _ _ => up, fun retracted => ?_⟩
      rcases retracted_snoc.mp retracted with ⟨_, same⟩ | ⟨_, refused⟩
      · cases same
      · exact absurd rfl (refused i)
  | refused => exact aside (fun _ _ => nofun) (fun _ => nofun) (fun _ => nofun) rfl rfl
  | @lowered i _ refused =>
      obtain ⟨-, none, -, -⟩ := balanced.of_busy (mem_busy_of_eq refused nofun)
      exact ⟨fun _ kept => absurd (retracted_snoc.mpr (.inl ⟨i, rfl⟩)) kept, fun _ => none⟩
  | arrived silent =>
      exact aside (fun _ _ => nofun) (fun _ => nofun) (fun _ => nofun) rfl
        (countP_append_silent silent)
  | called => cases rests
  | taken => cases rests
  | handled => cases rests
  | finished => exact absurd rfl other

theorem Run.settled (run : Run s w t) (balanced : s.Balanced) (since : .finish ∉ w)
    (rests : t.poller = .idle) : Settled w t := by
  induction run with
  | start =>
      refine ⟨?_, fun retracted => absurd retracted not_retracted_nil⟩
      rintro ⟨i, found, mem⟩
      cases mem
  | @step as a t u before last ih =>
      have other : a ≠ .finish := by
        rintro rfl
        exact since (List.mem_append_right _ (List.mem_singleton_self _))
      have earlier : .finish ∉ as := fun mem => since (List.mem_append_left _ mem)
      have settled := ih earlier (last.rested other rests)
      exact last.settled (before.balanced balanced) settled rests other

/-- A wake that was answered with success after the last poll had returned has a wakeup in the queue
for the next poll, unless a wake whose packet was refused has lowered the flag since and no wakeup
was accepted after that. The steps are those of the calls themselves (`wake_steps`, `poll_steps`); where
calls do not overlap, the exception does not arise. -/
theorem woken_queued_iff {port : Handle} {before : List (Action ι)}
    (run : Run (.opened port) (before ++ w) s) (quiet : s.Quiet) (since : .finish ∉ w)
    (woken : Woken i w) :
    ((∃ packet ∈ s.queue, packet.wakes = true) ↔ ¬ Retracted w) ∧
    (¬ Retracted w → ∀ room, 0 < room → s.queue.take room ≠ [] ∧
      ∃ t, Run s [.call, .take (s.queue.take room)] t) := by
  obtain ⟨m, first, second⟩ := Run.append_iff.mp run
  have settled : Settled w s := second.settled (first.balanced balanced_opened) since quiet.2
  have balanced : s.Balanced := run.balanced balanced_opened
  have queued : (∃ packet ∈ s.queue, packet.wakes = true) ↔ ¬ Retracted w := by
    constructor
    · intro there retracted
      have some : 0 < s.queued := List.countP_pos_iff.mpr there
      exact absurd (settled.unqueued retracted) some.ne'
    · intro kept
      exact (balanced.notified_iff quiet).mp (settled.up ⟨i, woken.swapped⟩ kept)
  refine ⟨queued, fun kept room enough => ⟨fun none => ?_, ?_⟩⟩
  · obtain ⟨packet, mem, -⟩ := queued.mpr kept
    rcases List.take_eq_nil_iff.mp none with zero | empty
    · omega
    · rw [empty] at mem
      cases mem
  · exact ⟨_, .cons (.called quiet.2)
      (.one (.taken rfl (List.take_append_drop room s.queue).symm))⟩

/-- A waker joins another one whose packet is then refused; it wakes again, and that packet is
accepted. -/
theorem repeated_wake_queued : ∃ (before w : List (Action (Fin 2))) (s : State (Fin 2)),
    Run (.opened 100) (before ++ w) s ∧ s.Quiet ∧ .finish ∉ w ∧ Woken 1 w ∧ .lower 0 ∈ w ∧
    ¬ Retracted w ∧ ((∃ packet ∈ s.queue, packet.wakes = true) ↔ ¬ Retracted w) ∧
    (¬ Retracted w → ∀ room, 0 < room → s.queue.take room ≠ [] ∧
      ∃ t, Run s [.call, .take (s.queue.take room)] t) := by
  have reached : ∃ s : State (Fin 2),
      Run (.opened 100) ([.call, .take [], .finish] ++ [.swap 0 false, .swap 1 true,
        .post 0 (.error .wouldBlock), .lower 0, .swap 1 false, .post 1 (.ok ())]) s ∧ s.Quiet :=
    ⟨_, .cons (.called rfl) (.cons (.taken rfl rfl) (.cons (.finished rfl)
      (.cons (.raised rfl rfl) (.cons (.joined rfl rfl) (.cons (.refused rfl)
        (.cons (.lowered rfl) (.cons (.raised rfl rfl) (.one (.posted rfl))))))))),
      by decide, rfl⟩
  obtain ⟨s, run, quiet⟩ := reached
  have woken : Woken (1 : Fin 2) [.swap 0 false, .swap 1 true, .post 0 (.error .wouldBlock),
      .lower 0, .swap 1 false, .post 1 (.ok ())] := ⟨_, .joined, by decide⟩
  have kept : ¬ Retracted ([.swap 0 false, .swap 1 true, .post 0 (.error .wouldBlock), .lower 0,
      .swap 1 false] ++ [.post (1 : Fin 2) (.ok ())]) := by
    intro retracted
    rcases retracted_snoc.mp retracted with ⟨_, same⟩ | ⟨_, refused⟩
    · cases same
    · exact refused 1 rfl
  obtain ⟨queued, next⟩ := woken_queued_iff run quiet (by decide) woken
  exact ⟨_, _, s, run, quiet, by decide, woken, by decide, kept, queued, next⟩

/-- Without that second wake there is no packet, although the waker was answered with success. -/
theorem joined_wakeup_lost :
    ¬ ∀ (before w : List (Action (Fin 2))) (s : State (Fin 2)) (i : Fin 2),
      Run (.opened 100) (before ++ w) s → s.Quiet → .finish ∉ w → Woken i w →
      ∃ packet ∈ s.queue, packet.wakes = true := by
  intro kept
  have reached : ∃ s : State (Fin 2),
      Run (.opened 100) ([.call, .take [], .finish] ++ [.swap 0 false, .swap 1 true,
        .post 0 (.error .wouldBlock), .lower 0]) s ∧ s.Quiet ∧ s.queue = [] :=
    ⟨_, .cons (.called rfl) (.cons (.taken rfl rfl) (.cons (.finished rfl)
      (.cons (.raised rfl rfl) (.cons (.joined rfl rfl) (.cons (.refused rfl)
        (.one (.lowered rfl))))))), ⟨by decide, rfl⟩, rfl⟩
  obtain ⟨s, run, quiet, empty⟩ := reached
  obtain ⟨packet, mem, -⟩ := kept _ _ s 1 run quiet (by decide) ⟨_, .joined, by decide⟩
  rw [empty] at mem
  cases mem

end Answered

end Multiplexer.Waking

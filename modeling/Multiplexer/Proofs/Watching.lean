import Multiplexer.Proofs.History.Basic

/-! Steps that tell the system what to watch for a poller: changes of what it keeps, and waits that
bring along what to wait for. Emptying a wakeup channel and signalling one are no such steps. -/
namespace Multiplexer
open Dialogue Sys

def Step.rewatches : Step → Bool
  | .asked (.epollControl ..) _ => true
  | .asked (.kqueueChange ..) _ => true
  | .asked (.selectFds ..) _ => true
  | .asked (.selectSockets ..) _ => true
  | _ => false

/-- Nothing is said about what to watch. -/
def Transcript.Still (t : Transcript) : Prop := ∀ s ∈ t, s.rewatches = false

def Step.reads : Step → Bool
  | .asked (.read ..) _ => true
  | .asked (.socketReceive ..) _ => true
  | _ => false

/-- Nothing is done but to empty a wakeup channel. -/
def Transcript.Reads (t : Transcript) : Prop := ∀ s ∈ t, s.reads = true

namespace Transcript

variable {t u : Transcript} {s : Step}

theorem still_nil : Still [] := fun _ h => nomatch h

theorem still_cons (hs : s.rewatches = false) (ht : t.Still) : Still (s :: t) :=
  List.forall_mem_cons.mpr ⟨hs, ht⟩

theorem still_singleton (hs : s.rewatches = false) : Still [s] := still_cons hs still_nil

theorem Still.append (ht : t.Still) (hu : u.Still) : Still (t ++ u) :=
  List.forall_mem_append.mpr ⟨ht, hu⟩

theorem reads_nil : Reads [] := fun _ h => nomatch h

theorem reads_cons (hs : s.reads = true) (ht : t.Reads) : Reads (s :: t) :=
  List.forall_mem_cons.mpr ⟨hs, ht⟩

theorem Reads.append (ht : t.Reads) (hu : u.Reads) : Reads (t ++ u) :=
  List.forall_mem_append.mpr ⟨ht, hu⟩

/-- What holds of every step that empties a channel holds of them all. -/
theorem Reads.all {P : Step → Prop} (reads : t.Reads)
    (read : ∀ fd room reply, P (.asked (.read fd room) reply))
    (receive : ∀ fd room reply, P (.asked (.socketReceive fd room) reply)) : ∀ s ∈ t, P s := by
  intro s hs
  have taken := reads s hs
  unfold Step.reads at taken
  split at taken
  · exact read _ _ _
  · exact receive _ _ _
  · cases taken

theorem Reads.still (reads : t.Reads) : t.Still :=
  reads.all (fun _ _ _ => rfl) fun _ _ _ => rfl

/-- One after the other, two dialogues that can fail say nothing about what to watch. -/
theorem still_bind {ε α β : Type} {n : Nat} {p : ExceptT ε Sys α} {f : α → ExceptT ε Sys β}
    (hp : Gives p n fun t _ => t.Still) (hf : ∀ a, Gives (f a) n fun t _ => t.Still) :
    Gives (p >>= f) n fun t _ => t.Still :=
  gives_bind.mpr (hp.mono fun _ a still => (hf a).mono fun _ _ => still.append)

theorem still_mk {ε α : Type} {n : Nat} {p : Sys (Except ε α)} (h : Yields (p n) fun t _ => t.Still) :
    Gives (ExceptT.mk p) n fun t _ => t.Still := h.mono fun _ _ still _ _ => still

end Transcript

open Transcript

variable {n : Nat}

/-- A drain only reads, and it ends unless it runs out of patience. -/
theorem Pipe.drain_ends (p : Pipe) : Meets (p.drain n) fun t o =>
    t.Reads ∧ (o = .ok () ∨ o = .error .patience ∧ n ≤ t.length) := by
  unfold drain
  induction n with
  | zero => exact meets_halt.mpr ⟨reads_nil, .inr ⟨rfl, Nat.le_refl 0⟩⟩
  | succ n ih =>
      have again : ∀ reply : Except Errno Nat, Meets (p.drainWithin n) fun t o =>
          Reads (.asked (.read p.reader drainSize) reply :: t) ∧
            (o = .ok () ∨ o = .error .patience ∧ n + 1 ≤ t.length + 1) := by
        refine fun reply => ih.mono fun t o ended => ⟨reads_cons rfl ended.1, ?_⟩
        exact ended.2.imp_right (And.imp_right Nat.succ_le_succ)
      refine meets_ask.mpr ?_
      rintro (e | length)
      · dsimp only
        split
        · exact again _
        · exact meets_done.mpr ⟨reads_cons rfl reads_nil, .inl rfl⟩
      · dsimp only
        split
        · exact again _
        · exact meets_done.mpr ⟨reads_cons rfl reads_nil, .inl rfl⟩

theorem Pipe.drain_reads (p : Pipe) : Yields (p.drain n) fun t _ => t.Reads :=
  fun _ _ follows => (p.drain_ends follows).1

theorem SocketPair.drain_only_reads (p : SocketPair) : Meets (p.drain n) fun t _ => t.Reads := by
  unfold drain
  induction n with
  | zero => exact meets_halt.mpr reads_nil
  | succ n ih =>
      refine meets_ask.mpr ?_
      rintro (e | length)
      · exact meets_done.mpr (reads_cons rfl reads_nil)
      · dsimp only
        split
        · exact meets_done.mpr (reads_cons rfl reads_nil)
        · exact ih.mono fun t _ reads => reads_cons rfl reads

theorem SocketPair.drain_reads (p : SocketPair) : Yields (p.drain n) fun t _ => t.Reads :=
  fun _ _ follows => p.drain_only_reads follows

theorem Pipe.drain_still (p : Pipe) : Meets (p.drain n) fun t _ => t.Still :=
  p.drain_ends.mono fun _ _ ended => ended.1.still

theorem SocketPair.drain_still (p : SocketPair) : Meets (p.drain n) fun t _ => t.Still :=
  p.drain_only_reads.mono fun _ _ => Reads.still

/-- Two dialogues one after the other, also if the first is stopped. -/
theorem still_then {α β : Type} {p : Dialogue α} {f : α → Dialogue β}
    (hp : Meets p fun t _ => t.Still) (hf : ∀ a, Meets (f a) fun t _ => t.Still) :
    Meets (p.bind f) fun t _ => t.Still := by
  refine meets_bind.mpr (hp.mono fun t o still => ?_)
  cases o with
  | error why => exact still
  | ok a => exact (hf a).mono fun _ _ => still.append

/-- Connecting the pair. -/
theorem SocketPair.create_still : Gives SocketPair.create n fun t _ => t.Still := by
  unfold create
  refine still_bind (still_mk (Sys.yields_ask.mpr fun _ => still_singleton rfl)) fun listener => ?_
  refine still_bind (still_mk (Sys.yields_ask.mpr fun _ => still_singleton rfl)) fun _ => ?_
  refine still_bind (still_mk (Sys.yields_ask.mpr fun _ => still_singleton rfl)) fun _ => ?_
  refine still_bind (still_mk (Sys.yields_ask.mpr fun _ => still_singleton rfl)) fun writer => ?_
  refine still_bind (still_mk (Sys.yields_ask.mpr fun _ => still_singleton rfl)) fun _ => ?_
  refine still_bind (still_mk (Sys.yields_ask.mpr fun _ => still_singleton rfl)) fun _ => ?_
  refine still_bind (still_mk (Sys.yields_ask.mpr fun _ => still_singleton rfl)) fun reader => ?_
  refine still_bind (still_mk (Sys.yields_ask.mpr fun _ => still_singleton rfl)) fun _ => ?_
  refine still_bind (still_mk (Sys.yields_ask.mpr fun _ => still_singleton rfl)) fun _ => ?_
  refine still_bind (still_mk (Sys.yields_ask.mpr fun _ => still_singleton rfl)) fun _ => ?_
  exact gives_pure.mpr still_nil

theorem Pipe.wake_still (p : Pipe) : Yields (p.wake n) fun t _ => t.Still := by
  unfold wake
  induction n with
  | zero => exact yields_halt.mpr trivial
  | succ n ih =>
      refine yields_ask.mpr ?_
      rintro (e | length)
      · dsimp only
        split
        · exact yields_done.mpr (still_singleton rfl)
        · split
          · exact ih.mono fun t _ still => still_cons rfl still
          · exact yields_done.mpr (still_singleton rfl)
      · exact yields_done.mpr (still_singleton rfl)

/-- Signalling a channel says nothing about what to watch. -/
theorem Channel.wake_still (c : Channel) : Yields (c.wake n) fun t _ => t.Still := by
  cases c with
  | pipe p =>
      simp only [wake, Sys.yields_bind, Sys.yields_pure, List.append_nil]
      exact p.wake_still
  | sockets p =>
      simp only [wake, SocketPair.wake, Sys.yields_bind, Sys.yields_ask, Sys.yields_pure]
      rintro (e | length)
      all_goals
        simp only [Sys.yields_pure]
        exact still_singleton rfl
  | counter c =>
      simp only [wake, Counter.wake, Sys.yields_bind, Sys.yields_ask, Sys.yields_pure]
      rintro (e | length)
      all_goals
        simp only [Sys.yields_pure]
        exact still_singleton rfl
  | port p =>
      simp only [wake, PortSignal.wake, Sys.yields_bind]
      split
      · simp only [Sys.yields_pure]
        exact still_nil
      · simp only [Sys.yields_bind, Sys.yields_ask, Sys.yields_pure]
        rintro (e | ⟨⟩)
        all_goals
          simp only [Sys.yields_pure]
          exact still_singleton rfl

theorem Backend.wakeup_still (b : Backend) : Yields (b.wakeup n) fun t result =>
    t.Still ∧ ∃ channel, result.2 = b.withChannel channel := by
  simp only [wakeup, Sys.yields_bind, Sys.yields_pure, List.append_nil]
  exact b.channel.wake_still.mono fun t result still => ⟨still, result.2, rfl⟩

end Multiplexer

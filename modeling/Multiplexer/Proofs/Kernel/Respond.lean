import Multiplexer.Proofs.Kernel.Waiting

/-! Whatever the simulated kernel is asked, its answer leaves the accounts with the ring in order. -/
namespace Multiplexer.Kernel
open Multiplexer.Ring

variable {k k' : Kernel}

/-- The accounts are in order after what was said. -/
def InOrder (t : Transcript) (k : Kernel) : Prop := k.Owes t.taken t.posted []

variable {t : Transcript}

/-- No ring has polls armed or completions to come. -/
structure Idle (k : Kernel) : Prop where
  polls : k.polls = []
  chores : k.chores = []
  posted : k.posted = []
  backlog : k.backlog = []

theorem initial_idle : initial.Idle := ⟨rfl, rfl, rfl, rfl⟩

theorem Idle.inOrder (idle : k.Idle) : InOrder [] k := by
  have unread : k.unread = [] := by rw [unread, idle.posted, idle.backlog, List.append_nil]
  have owing : k.owing = [] := by rw [owing, idle.polls, idle.chores]; rfl
  refine ⟨fun data _ => ?_, ?_, ?_⟩
  · rw [unread, owing]
    exact Nat.le_refl 0
  · rw [unread]
    exact .nil
  · rw [idle.polls]
    exact List.forall_mem_nil _

theorem InOrder.keep (h : InOrder t k) (keeps : Keeps k k') : InOrder t k' := keeps h

theorem InOrder.aside {s : Step} (h : InOrder t k) (silent : s.entered? = none) :
    InOrder (t ++ [s]) k := by
  have quiet := Transcript.silent_singleton silent
  rw [InOrder, Transcript.taken_append, Transcript.posted_append, quiet.taken, quiet.posted,
    List.append_nil, List.append_nil]
  exact h

theorem InOrder.enter {s : Step} {queues : Queues} {wait : Bool} (h : InOrder t k)
    (entered : s.entered? = some (queues, (k.enter wait queues).1))
    (apart : queues.Apart) : InOrder (t ++ [s]) (k.enter wait queues).2 := by
  have all : Transcript.taken [s] = queues.requests :=
    (Transcript.taken_singleton entered).trans List.take_length
  rw [InOrder, Transcript.taken_append, Transcript.posted_append, all,
    Transcript.posted_singleton entered]
  exact Owes.enter h apart wait

/-- What was handed over last is accounted for by what has been pushed. -/
theorem InOrder.accounted {s : Step} {queues : Queues} {entered : Entered}
    (h : InOrder (t ++ [s]) k) (hs : s.entered? = some (queues, entered)) :
    Accounted (t.taken ++ queues.requests) (t.posted ++ entered.posted) := by
  have accounted := Owes.accounted h
  rw [Transcript.taken_append, Transcript.posted_append, Transcript.taken_singleton hs,
    Transcript.posted_singleton hs] at accounted
  have pushed : Accounted (t.taken ++ queues.requests.take entered.taken ++
      queues.requests.drop entered.taken) (t.posted ++ entered.posted) := accounted.before.push
  rw [List.append_assoc, List.take_append_drop] at pushed
  exact pushed

/-- Every answer leaves the accounts in order. -/
theorem InOrder.respond (h : InOrder t k) (call : Call)
    (apart : ∀ entry ∈ Step.entered? (.asked call (respond call k).1), entry.1.Apart) :
    InOrder (t ++ [.asked call (respond call k).1]) (respond call k).2 := by
  cases call with
  | ringSubmit queues => exact h.enter rfl (apart _ rfl)
  | ringWait wait queues => exact h.enter rfl (apart _ rfl)
  | pipe => exact (h.keep (installPair_keeps k (.pipeReader · []) (.pipeWriter · false))).aside rfl
  | read fd room => exact (h.keep (read_keeps k fd room)).aside rfl
  | counterRead fd => exact (h.keep (read_keeps k fd 8)).aside rfl
  | write fd length => exact (h.keep (write_keeps k fd length)).aside rfl
  | epollCreate => exact (h.keep (install_keeps k _)).aside rfl
  | epollControl queue change => exact (h.keep (control_keeps k queue change)).aside rfl
  | epollWait queue room millis =>
      exact (h.keep (epollWait_keeps k queue room millis)).aside rfl
  | selectFds bound watched timeout =>
      exact (h.keep (selectWait_keeps k bound watched timeout)).aside rfl
  | ringSetup length =>
      refine (h.keep ?_).aside rfl
      dsimp only [Kernel.respond]
      split
      · exact .refl k
      · exact install_keeps k _
  | counterCreate => exact (h.keep (install_keeps k _)).aside rfl
  | timerCreate => exact (h.keep (install_keeps k _)).aside rfl
  | timerSet fd => exact (h.keep (setTimer_keeps k fd _)).aside rfl
  | _ => exact h.aside rfl

end Multiplexer.Kernel

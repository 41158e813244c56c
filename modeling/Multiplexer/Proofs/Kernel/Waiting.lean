import Multiplexer.Proofs.Kernel.Transfer
import Multiplexer.Proofs.Ring.Withdrawals

/-! The waits keep the accounts with the ring in order. Entering the ring adds to them: the polls among
the requests are charged when they are taken, one by one, and what is posted meanwhile is what they
or earlier ones owe. -/
namespace Multiplexer.Kernel
open Multiplexer.Ring

variable {k : Kernel} {pushed : List Request} {handed : List Completion} {making : List UInt64}
  {request : Request} {c : Completion} {p : ArmedPoll}

/-! ### Waits -/

theorem look_keeps (k : Kernel) (w : Watch) : Keeps k (k.look w) := by
  unfold look
  split
  · exact .refl k
  · exact .aside rfl rfl rfl rfl

theorem control_keeps (k : Kernel) (queue : Descriptor) (change : EpollChange) :
    Keeps k (k.control queue change).2 := by
  unfold control
  split
  · split
    · unfold changeWatch
      split
      · split
        · exact .refl k
        · exact (look_keeps _ _).after rfl rfl rfl rfl
      · split
        · exact .refl k
        · exact (look_keeps _ _).after rfl rfl rfl rfl
      · split
        · exact .refl k
        · exact .aside rfl rfl rfl rfl
    · exact .refl k
  · exact .refl k

theorem epollWait_keeps (k : Kernel) (queue : Descriptor) (room : Nat) (millis : Int) :
    Keeps k (k.epollWait queue room millis).2 := by
  unfold epollWait
  split
  · exact .refl k
  · dsimp only
    split
    · rename_i waited
      exact waitFor_keeps_of waited
    · rename_i waited
      exact (waitFor_keeps_of waited).trans (.aside rfl rfl rfl rfl)

theorem selectWait_keeps (k : Kernel) (bound : Int) (watched : FdSets)
    (timeout : Option (UInt64 × Nat)) : Keeps k (k.selectWait bound watched timeout).2 := by
  unfold selectWait
  split
  · exact .refl k
  · dsimp only
    split
    · rename_i waited
      exact waitFor_keeps_of waited
    · rename_i waited
      exact waitFor_keeps_of waited

/-! ### Entering the ring -/

structure Intake.Owes (pushed : List Request) (handed : List Completion) (i : Intake) : Prop where
  kernel : i.kernel.Owes pushed handed (i.done.map (·.data))
  last : ∀ c ∈ i.done, c.more = false

/-- A poll is taken, and its last completion is to be made. -/
theorem Owes.charge {data : UInt64} (h : Owes pushed handed making k)
    (polls : request.polls data = true) :
    Owes (pushed ++ [request]) handed (data :: making) k where
  few := by
    intro other plain
    have few := h.few other plain
    rw [List.filter_append, List.length_append]
    by_cases same : data = other
    · subst same
      simp only [List.count_append, List.count_cons_self, List.filter_cons, polls, if_true,
        List.filter_nil, List.length_singleton] at few ⊢
      omega
    · simp only [List.count_append, List.count_cons_of_ne same] at few ⊢
      omega
  accounted := h.accounted.push
  mild := h.mild

/-- Completions of withdrawals are not accounted for. -/
theorem Owes.free (h : Owes pushed handed making k) : Owes pushed handed (cancelKey :: making) k where
  few := by
    intro data plain
    have few := h.few data plain
    simp only [List.count_append, List.count_cons_of_ne plain.symm] at few ⊢
    exact few
  accounted := h.accounted
  mild := h.mild

/-- A poll is armed that has noticed nothing, or something mild. -/
theorem Owes.arm (h : Owes pushed handed (p.data :: making) k) (mild : p.noticed.Mild) :
    Owes pushed handed making { k with polls := p :: k.polls } where
  few := by
    intro data plain
    have few := h.few data plain
    simp only [owing, unread, List.map_cons, List.cons_append, List.count_cons,
      List.count_append] at few ⊢
    omega
  accounted := h.accounted
  mild := List.forall_mem_cons.mpr ⟨mild, h.mild⟩

namespace Intake

variable {i : Intake}

theorem Owes.finish (kernel : i.kernel.Owes pushed handed (c.data :: i.done.map (·.data)))
    (done : ∀ c ∈ i.done, c.more = false) (last : c.more = false) :
    Owes pushed handed (i.finish c) where
  kernel := by
    refine kernel.perm ?_
    rw [Intake.finish, List.map_append]
    exact (List.perm_append_singleton _ _).symm
  last := List.forall_mem_append.mpr ⟨done, List.forall_mem_singleton.mpr last⟩

theorem Owes.arm (kernel : i.kernel.Owes pushed handed (p.data :: i.done.map (·.data)))
    (done : ∀ c ∈ i.done, c.more = false) (fresh : p.noticed = 0) (quiet : p.notices = 0) :
    Owes pushed handed (i.arm p) := by
  unfold Intake.arm
  dsimp only
  split
  · exact .finish kernel done (is_last _ _)
  · split
    · exact ⟨kernel.arm (fresh ▸ PollMask.mild_zero), done⟩
    · split
      · refine ⟨(Kernel.Owes.arm (p := p.hear _) kernel ?_).later rfl, done⟩
        rw [ArmedPoll.hear, if_pos quiet]
        exact (File.mild_conditions _ _).and
      · exact .finish kernel done (is_last _ _)

theorem Owes.withdraw (h : Owes pushed handed i) (target : UInt64) :
    Owes pushed handed (i.withdraw target cancelKey) := by
  unfold Intake.withdraw
  dsimp only
  split
  · exact .finish h.kernel.free h.last (is_last _ _)
  · rename_i p found
    split
    · exact .finish h.kernel.free h.last (is_last _ _)
    · have armed : p ∈ i.kernel.polls := List.mem_of_find?_eq_some found
      exact .finish (h.kernel.disarm armed).schedule.free h.last (is_last _ _)

theorem Owes.take (h : Owes pushed handed i) (apart : request.Apart) :
    Owes (pushed ++ [request]) handed (i.take request) := by
  cases request with
  | poll fd mask multishot data =>
      have charged : i.kernel.Owes (pushed ++ [.poll fd mask multishot data]) handed
          (data :: i.done.map (·.data)) :=
        h.kernel.charge (beq_self_eq_true data)
      unfold Intake.take
      dsimp only
      split
      · exact .finish charged h.last (is_last _ _)
      · exact .arm charged h.last rfl rfl
  | cancel target data =>
      cases apart
      exact Owes.withdraw ⟨h.kernel.push, h.last⟩ target

theorem Owes.takes {requests : List Request} (h : Owes pushed handed i)
    (apart : ∀ request ∈ requests, request.Apart) :
    Owes (pushed ++ requests) handed (requests.foldl Intake.take i) := by
  induction requests generalizing pushed i with
  | nil =>
      rw [List.append_nil]
      exact h
  | cons request requests ih =>
      obtain ⟨first, rest⟩ := List.forall_mem_cons.mp apart
      have taken := ih (h.take first) rest
      rw [List.append_assoc] at taken
      exact taken

end Intake

theorem Owes.posts {cs : List Completion} (h : Owes pushed handed (cs.map (·.data)) k)
    (last : ∀ c ∈ cs, c.more = false) : Owes pushed handed [] (cs.foldl post k) := by
  induction cs generalizing k with
  | nil => exact h
  | cons c cs ih =>
      obtain ⟨first, rest⟩ := List.forall_mem_cons.mp last
      exact ih (h.post_last first) rest

theorem Owes.takeAll {requests : List Request} (h : Owes pushed handed [] k)
    (apart : ∀ request ∈ requests, request.Apart) :
    Owes (pushed ++ requests) handed [] (k.takeAll requests) := by
  have started : Intake.Owes pushed handed ⟨k, []⟩ := ⟨h, List.forall_mem_nil _⟩
  have taken := started.takes apart
  exact settle_keeps _ (taken.kernel.posts taken.last)

theorem Owes.handOver (h : Owes pushed handed [] k) :
    Owes pushed (handed ++ k.handOver.1) [] k.handOver.2 := by
  have cut : handed ++ k.handOver.1 ++ k.handOver.2.unread = handed ++ k.unread := by
    rw [List.append_assoc]
    exact congrArg _ (List.take_append_drop ..)
  refine ⟨?_, ?_, h.mild⟩
  · rw [cut]
    exact h.few
  · rw [cut]
    exact h.accounted

theorem Owes.enter {queues : Queues} (h : Owes pushed handed [] k) (apart : queues.Apart)
    (wait : Bool) :
    Owes (pushed ++ queues.requests) (handed ++ (k.enter wait queues).1.posted) []
      (k.enter wait queues).2 := by
  have taken : Owes (pushed ++ queues.requests) handed []
      ({ k with room := queues.completionRoom }.takeAll queues.requests) :=
    Owes.takeAll (room_keeps k _ h) apart
  unfold Kernel.enter
  dsimp only
  split
  · exact (waitFor_keeps _ _ _ taken).handOver
  · exact taken.handOver

end Multiplexer.Kernel

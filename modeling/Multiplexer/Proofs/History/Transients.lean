import Multiplexer.Proofs.History.Batches
import Multiplexer.Proofs.Ring.Failures

/-! Transient refusals over whole histories. A ring takes completions whenever a wait is refused like
that, at least one if there are any; it does not when a submission is. -/
namespace Multiplexer
open Sys

open Multiplexer.Ring

theorem History.batch_eq (h : History) {r : Ring} (ring : h.finish = .ring r) :
    r.batch = h.config.batchSize := by
  have kept := h.batch_kept
  rwa [ring] at kept

/-- However a ring got there and whatever a poll is answered, the poll weathers transient refusals of
its waits, and of its waits only. -/
theorem History.weathers_refusals (h : History) {r : Ring} (ring : h.finish = .ring r)
    {timeout : Timeout} {n : Nat} {t : Transcript} {o : Except Halt (Polled × Ring)}
    (follows : Dialogue.Follows (r.poll timeout n) t o) : 0 < r.batch ∧ r.Weathers t o := by
  rw [h.batch_eq ring]
  exact ⟨h.config.batchSize_pos, (poll_polling r timeout follows).weathers⟩

/-- A registration is modified on a ring with room for one request only. -/
def crowdedRing : Option History := do
  let h ← History.rehearseOpening Ring.create .ring .ring { ring := { queueLength := 1 } } .initial
  h.rehearse [(.add 5 { read := true } 1, .initial), (.modify 5 { write := true }, .initial)]

/-- What the next poll comes to that does not wait, when the system is entered like this. -/
def enteredLike (topic : Script.Topic) (answers : List (Option topic.Answer)) (r : Ring) :
    Dialogue.Outcome Script.Stage (Polled × Ring) :=
  (r.poll (some .zero) 9).perform Script.Stage.respond
    { Script.Stage.initial with script := Script.empty.put topic answers }

/-- What was posted when the wait was found busy is dispatched by the same call. -/
theorem busy_wait_drained :
    ∃ (h : History) (r : Ring) (t : Transcript) (polled : Polled) (r' : Ring),
      h.finish = .ring r ∧ Dialogue.Follows (r.poll (some .zero) 9) t (.ok (polled, r')) ∧
      (∃ s ∈ t[3]?, s.waits = true ∧
        s.entered?.map (·.2.result) = some (.error Errno.busy)) ∧
      polled.events = [⟨5, 1, .readiness { write := true }⟩] ∧
      0 < r.batch ∧ r.Weathers t (.ok (polled, r')) := by
  have computed : ∃ h ∈ crowdedRing, ∃ r ∈ h.finish.ring?,
      let outcome :=
        enteredLike .submitAndWait [some ⟨[⟨0x100000000, 4, 0⟩], some .busy, none⟩] r
      (∃ s ∈ outcome.transcript[3]?, s.waits = true ∧
        s.entered?.map (·.2.result) = some (.error Errno.busy)) ∧
      ∃ result ∈ outcome.result.toOption,
        result.1.events = [⟨5, 1, .readiness { write := true }⟩] := by
    decide +kernel
  obtain ⟨h, -, r, ring, waited, ⟨polled, r'⟩, returned, told⟩ := computed
  have finish := Backend.eq_ring_of_ring? ring
  cases result : (enteredLike .submitAndWait
    [some ⟨[⟨0x100000000, 4, 0⟩], some .busy, none⟩] r).result with
  | error why =>
      rw [result] at returned
      cases returned
  | ok value =>
      rw [result] at returned
      cases returned
      have follows : Dialogue.Follows (r.poll (some .zero) 9) _ _ :=
        result ▸ Dialogue.follows_perform _ _ _
      obtain ⟨positive, weathers⟩ := h.weathers_refusals finish follows
      exact ⟨h, r, _, polled, r', finish, follows, waited, told, positive, weathers⟩

/-- A submission refused with a transient error ends the poll with that error, and what was posted
stays in the queue. -/
theorem refused_submission_surfaces :
    ∃ h ∈ crowdedRing, ∃ r ∈ h.finish.ring?,
      ∀ e ∈ [Errno.interrupted, .busy, .timerExpired],
        ∃ result ∈ (enteredLike .submit [some ⟨[⟨0, 1, 0⟩], some e, none⟩] r).result.toOption,
          result.1.events = [] ∧ result.1.result = .error (.facility (.os e)) ∧
            result.2.queues.completions = [⟨0, 1, 0⟩] := by
  -- one by one, since there are too many error numbers to go through them all
  simp only [List.forall_mem_cons, List.not_mem_nil, false_implies, implies_true, and_true]
  decide +kernel

end Multiplexer

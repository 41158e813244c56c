import Multiplexer.Proofs.Ring.Ledger

/-! Withdrawals have data of their own, under which a ring pushes nothing else. So a completion under
other data is that of a poll, whatever has been withdrawn. -/
namespace Multiplexer

/-- A withdrawal carries the data of withdrawals. -/
def Ring.Request.Apart : Request → Prop
  | .poll .. => True
  | .cancel _ data => data = cancelKey

def Ring.Queues.Apart (q : Queues) : Prop := ∀ request ∈ q.requests, request.Apart

/-- Whenever a ring is entered, the requests that are handed over are apart. -/
def Transcript.Apart (t : Transcript) : Prop := ∀ s ∈ t, ∀ entry ∈ s.entered?, entry.1.Apart

namespace Transcript

variable {t u : Transcript}

theorem apart_append : (t ++ u).Apart ↔ t.Apart ∧ u.Apart := List.forall_mem_append

theorem Silent.apart (silent : t.Silent) : t.Apart := by
  intro s said entry entered
  rw [silent s said] at entered
  cases entered

end Transcript

namespace Ring

variable {q q' q'' : Queues} {t u : Transcript} {request : Request} {r r' : Ring} {log : Log}

/-- What is handed over meanwhile is apart if the queue was, and then the queue still is. -/
def KeepsApart (q : Queues) (t : Transcript) (q' : Queues) : Prop := q.Apart → t.Apart ∧ q'.Apart

namespace KeepsApart

theorem aside (silent : t.Silent) : KeepsApart q t q := fun apart => ⟨silent.apart, apart⟩

theorem enter {s : Step} {entered : Entered} (hs : s.entered? = some (q, entered)) :
    KeepsApart q [s] (q.after entered) := by
  intro apart
  constructor
  · intro step said entry taken
    rw [List.mem_singleton.mp said, hs] at taken
    cases taken
    exact apart
  · exact fun request mem => apart request (List.mem_of_mem_drop mem)

theorem append (apart : request.Apart) : KeepsApart q [] (q.append request) := by
  intro before
  refine ⟨Transcript.silent_nil.apart, ?_⟩
  exact List.forall_mem_append.mpr ⟨before, List.forall_mem_singleton.mpr apart⟩

theorem trans (h : KeepsApart q t q') (h' : KeepsApart q' u q'') : KeepsApart q (t ++ u) q'' := by
  intro apart
  obtain ⟨first, between⟩ := h apart
  obtain ⟨second, after⟩ := h' between
  exact ⟨Transcript.apart_append.mpr ⟨first, second⟩, after⟩

end KeepsApart

theorem Pushed.keepsApart {result : Except Cause Unit} (pushed : Pushed q request t (result, q'))
    (apart : request.Apart) : KeepsApart q t q' := by
  cases pushed with
  | room => exact .append apart
  | flushed => exact (KeepsApart.enter rfl).trans (.append apart)
  | refused => exact .enter rfl
  | crowded => exact .enter rfl

theorem Move.keepsApart (move : Move r t log r') : KeepsApart r.queues t r'.queues := by
  cases move with
  | aside silent => exact .aside silent
  | submit => exact .enter rfl
  | wait => exact .enter rfl
  | cancel => exact .append rfl
  | waker => exact .append trivial
  | timer => exact .append trivial
  | skip => exact .aside Transcript.silent_nil
  | rearm => exact .append trivial
  | take front taken =>
      intro apart
      refine ⟨taken.silent.apart, ?_⟩
      rw [← taken.queues_eq] at apart
      exact apart

theorem Moves.keepsApart (moves : Moves r t log r') : KeepsApart r.queues t r'.queues := by
  induction moves with
  | rest => exact .aside Transcript.silent_nil
  | step _ move ih => exact ih.trans move.keepsApart

theorem Served.keepsApart {op : Operation} {answer : Answer} (served : r.Served op t answer r') :
    KeepsApart r.queues t r'.queues := by
  cases served with
  | @add fd interest _ _ _ _ added =>
      have look : ∀ reply, Transcript.Silent [.asked (.getFlags fd) reply] :=
        fun _ => Transcript.silent_singleton rfl
      cases added with
      | closed => exact .aside (look _)
      | duplicate => exact .aside (look _)
      | unpushed _ pushed =>
          exact (KeepsApart.aside (look _)).trans (pushed.keepsApart trivial)
      | added _ pushed =>
          have noted : Transcript.Silent [.noted (.pollSubmitted fd interest)] :=
            Transcript.silent_singleton rfl
          exact ((KeepsApart.aside (look _)).trans (pushed.keepsApart trivial)).trans (.aside noted)
  | modify modified =>
      cases modified with
      | unknown => exact .aside Transcript.silent_nil
      | rekeyed => exact .aside (Transcript.silent_singleton rfl)
  | remove removed =>
      cases removed with
      | unknown => exact .aside Transcript.silent_nil
      | removed => exact .aside (Transcript.silent_singleton rfl)
  | poll moves => exact moves.keepsApart
  | post silent => exact .aside silent
  | wakeup silent => exact .aside silent

end Ring
end Multiplexer

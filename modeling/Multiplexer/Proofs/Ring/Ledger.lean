import Multiplexer.Proofs.History.Basic
import Multiplexer.Proofs.Ring.Operations

/-! The ledger of a ring: which requests were pushed and which completions were taken, read off the
transcript and the queues at both ends. Requests leave their queue only into the system, in order,
and completions leave theirs only by being taken. -/
namespace Multiplexer

namespace Transcript

def taken (t : Transcript) : List Ring.Request :=
  t.flatMap fun s => s.entered?.elim [] fun (q, entered) => q.requests.take entered.taken

def posted (t : Transcript) : List Ring.Completion :=
  t.flatMap fun s => s.entered?.elim [] fun (_, entered) => entered.posted

theorem taken_append (t u : Transcript) : taken (t ++ u) = t.taken ++ u.taken := List.flatMap_append

theorem posted_append (t u : Transcript) : posted (t ++ u) = t.posted ++ u.posted :=
  List.flatMap_append

variable {s : Step} {q : Ring.Queues} {entered : Ring.Entered}

theorem taken_singleton (hs : s.entered? = some (q, entered)) :
    taken [s] = q.requests.take entered.taken := by
  rw [taken, List.flatMap_singleton, hs, Option.elim_some]

theorem posted_singleton (hs : s.entered? = some (q, entered)) : posted [s] = entered.posted := by
  rw [posted, List.flatMap_singleton, hs, Option.elim_some]

/-- Cuts what is said next at its first and its last step. -/
theorem append_between (t u : Transcript) (s s' : Step) :
    t ++ (s :: u ++ [s']) = t ++ [s] ++ u ++ [s'] := by
  simp only [List.append_assoc, List.cons_append, List.nil_append]

theorem Silent.taken {t : Transcript} (h : t.Silent) : t.taken = [] := by
  refine List.flatMap_eq_nil_iff.mpr fun s hs => ?_
  rw [h s hs, Option.elim_none]

theorem Silent.posted {t : Transcript} (h : t.Silent) : t.posted = [] := by
  refine List.flatMap_eq_nil_iff.mpr fun s hs => ?_
  rw [h s hs, Option.elim_none]

end Transcript

namespace Ring

/-- What the queues gained and lost besides what the system did with them. -/
structure Balanced (q : Queues) (t : Transcript) (pushed : List Request)
    (consumed : List Completion) (q' : Queues) : Prop where
  requests : q.requests ++ pushed = t.taken ++ q'.requests
  completions : q.completions ++ t.posted = consumed ++ q'.completions

namespace Balanced

variable {q q' q'' : Queues} {t u : Transcript} {pushed more : List Request}
  {consumed further : List Completion}

theorem trans (h : Balanced q t pushed consumed q') (h' : Balanced q' u more further q'') :
    Balanced q (t ++ u) (pushed ++ more) (consumed ++ further) q'' where
  requests := by
    rw [Transcript.taken_append, List.append_assoc, ← h'.requests, ← List.append_assoc,
      ← List.append_assoc, h.requests]
  completions := by
    rw [Transcript.posted_append, List.append_assoc, ← h'.completions, ← List.append_assoc,
      ← List.append_assoc, h.completions]

theorem aside (h : t.Silent) : Balanced q t [] [] q :=
  ⟨by rw [h.taken, List.append_nil, List.nil_append],
    by rw [h.posted, List.append_nil, List.nil_append]⟩

/-- Before the ring is entered for the first time. -/
theorem opened {capacity : Nat} (h : t.Silent) :
    Balanced (.empty 0) t [] [] (.empty capacity) :=
  ⟨by rw [h.taken]; rfl, by rw [h.posted]; rfl⟩

theorem enter {s : Step} {entered : Entered} (hs : s.entered? = some (q, entered)) :
    Balanced q [s] [] [] (q.after entered) where
  requests := by
    rw [Transcript.taken_singleton hs, List.append_nil]
    exact (List.take_append_drop ..).symm
  completions := by
    rw [Transcript.posted_singleton hs]
    rfl

theorem append (q : Queues) (request : Request) : Balanced q [] [request] [] (q.append request) :=
  ⟨rfl, List.append_nil _⟩

theorem then_aside (h : Balanced q t pushed consumed q') (silent : u.Silent) :
    Balanced q (t ++ u) pushed consumed q' := by
  have both := h.trans (.aside silent)
  rw [List.append_nil, List.append_nil] at both
  exact both

theorem then_enter (h : Balanced q t pushed consumed q') {s : Step} {entered : Entered}
    (hs : s.entered? = some (q', entered)) :
    Balanced q (t ++ [s]) pushed consumed (q'.after entered) := by
  have both := h.trans (.enter hs)
  rw [List.append_nil, List.append_nil] at both
  exact both

theorem then_push (h : Balanced q t pushed consumed q') (request : Request) :
    Balanced q t (pushed ++ [request]) consumed (q'.append request) := by
  have both := h.trans (.append q' request)
  rw [List.append_nil, List.append_nil] at both
  exact both

theorem then_take (h : Balanced q t pushed consumed q') {c : Completion} {rest : List Completion}
    (front : q'.completions = c :: rest) :
    Balanced q t pushed (consumed ++ [c]) { q' with completions := rest } where
  requests := h.requests
  completions := by
    rw [h.completions, front, List.append_assoc, List.singleton_append]

/-- The queues at both ends determine what was pushed. -/
theorem pushed_eq (h : Balanced q t pushed consumed q') :
    (t.taken ++ q'.requests).drop q.requests.length = pushed := by
  rw [← h.requests, List.drop_left]

theorem consumed_eq (h : Balanced q t pushed consumed q') :
    (q.completions ++ t.posted).take
      ((q.completions ++ t.posted).length - q'.completions.length) = consumed := by
  rw [h.completions, List.length_append, Nat.add_sub_cancel, List.take_left]

end Balanced

variable {q q' : Queues} {request : Request} {t : Transcript} {r r' : Ring} {log : Log}

theorem Pushed.balanced (h : Pushed q request t (.ok (), q')) : Balanced q t [request] [] q' := by
  cases h with
  | room => exact .append q request
  | flushed => exact (Balanced.enter rfl).trans (.append _ request)

theorem Pushed.balanced_error {c : Cause} (h : Pushed q request t (.error c, q')) :
    Balanced q t [] [] q' := by
  cases h with
  | refused => exact .enter rfl
  | crowded => exact .enter rfl

theorem Move.balanced (h : Move r t log r') :
    ∃ pushed, Balanced r.queues t pushed (log.map (·.1)) r'.queues := by
  cases h with
  | aside silent => exact ⟨[], .aside silent⟩
  | submit => exact ⟨[], .enter rfl⟩
  | wait => exact ⟨[], .enter rfl⟩
  | cancel => exact ⟨_, .append r.queues _⟩
  | waker => exact ⟨_, .append r.queues _⟩
  | timer => exact ⟨_, .append r.queues _⟩
  | skip => exact ⟨[], .aside Transcript.silent_nil⟩
  | rearm => exact ⟨_, .append r.queues _⟩
  | take front taken =>
      refine ⟨[], ?_, ?_⟩
      · rw [List.append_nil, taken.silent.taken]
        exact (congrArg Queues.requests taken.queues_eq).symm
      · rw [front, taken.silent.posted, List.append_nil]
        rfl

theorem Moves.balanced (h : Moves r t log r') :
    ∃ pushed, Balanced r.queues t pushed (log.map (·.1)) r'.queues := by
  induction h with
  | rest => exact ⟨[], .aside Transcript.silent_nil⟩
  | step _ move ih =>
      obtain ⟨pushed, before⟩ := ih
      obtain ⟨more, after⟩ := move.balanced
      rw [List.map_append]
      exact ⟨_, before.trans after⟩

section

variable {fd : Descriptor} {interest : Interest} {token : Token}
  {result : Except Error Unit × Ring}

/-- An addition pushes its request or none. -/
theorem Added.balanced (h : Added r fd interest token t result) :
    ∃ pushed, Balanced r.queues t pushed [] result.2.queues := by
  have look : ∀ reply, Transcript.Silent [.asked (.getFlags fd) reply] :=
    fun _ => Transcript.silent_singleton rfl
  cases h with
  | closed => exact ⟨[], .aside (look _)⟩
  | duplicate => exact ⟨[], .aside (look _)⟩
  | unpushed _ pushed => exact ⟨_, (Balanced.aside (look _)).trans pushed.balanced_error⟩
  | added _ pushed =>
      have noted : Transcript.Silent [.noted (.pollSubmitted fd interest)] :=
        Transcript.silent_singleton rfl
      exact ⟨_, ((Balanced.aside (look _)).trans pushed.balanced).trans (.aside noted)⟩

theorem Modified.balanced (h : Modified r fd interest t result) :
    Balanced r.queues t [] [] result.2.queues := by
  cases h with
  | unknown => exact .aside Transcript.silent_nil
  | rekeyed => exact .aside (Transcript.silent_singleton rfl)

theorem Removed.balanced (h : Removed r fd t result) :
    Balanced r.queues t [] [] result.2.queues := by
  cases h with
  | unknown => exact .aside Transcript.silent_nil
  | removed => exact .aside (Transcript.silent_singleton rfl)

end

inductive Served (r : Ring) : Operation → Transcript → Answer → Ring → Prop
  | add {fd interest token t result r'} : Added r fd interest token t (result, r') →
      Served r (.add fd interest token) t (.returned result) r'
  | modify {fd interest t result r'} : Modified r fd interest t (result, r') →
      Served r (.modify fd interest) t (.returned result) r'
  | remove {fd t result r'} : Removed r fd t (result, r') →
      Served r (.remove fd) t (.returned result) r'
  | poll {timeout t log polled r'} : Moves r t log r' → Polled.events polled = log.events →
      Served r (.poll timeout) t (.polled polled) r'
  | post {fd marker bytes t result} : Transcript.Silent t →
      Served r (.post fd marker bytes) t (.returned result) r
  | wakeup {t result} : Transcript.Silent t → Served r .wakeup t (.returned result) r

/-- A call leaves the registry confined if what it adds may be added. -/
theorem Served.confined {r r' : Ring} {op : Operation} {u : Transcript} {answer : Answer}
    {allowed : Descriptor → Prop} {room : Nat} (served : r.Served op u answer r')
    (wf : r.registry.WellFormed) (confined : Registry.Confined allowed room r.registry)
    (inserted : ∀ {fd interest token e k placed}, op = .add fd interest token →
      .asked (.getFlags fd) (.ok ()) ∈ u → e.descriptor = fd →
      Registry.Inserted r.registry e k placed → Registry.Confined allowed room placed) :
    Registry.Confined allowed room r'.registry := by
  cases served with
  | add added =>
      cases added with
      | closed => exact confined
      | duplicate => exact confined
      | unpushed hins =>
          have ins := wf.insert_inserted hins
          exact (inserted rfl List.mem_cons_self rfl ins).removed (ins.discard wf)
      | added hins => exact inserted rfl List.mem_cons_self rfl (wf.insert_inserted hins)
  | modify modified =>
      cases modified with
      | unknown => exact confined
      | rekeyed _ _ rek => exact (confined.rekeyed rek).modify _ _
  | remove removed =>
      cases removed with
      | unknown => exact confined
      | removed _ _ rem => exact confined.removed rem
  | poll moves => exact confined.reflagged moves.reflagged
  | post => exact confined
  | wakeup => exact confined

/-- Only open descriptors are registered. -/
theorem Served.narrow {r r' : Ring} {op : Operation} {u : Transcript} {answer : Answer}
    (served : r.Served op u answer r') (wf : r.registry.WellFormed) (narrow : r.registry.Narrow)
    (descriptors : ∀ {fd}, .asked (.getFlags fd) (.ok ()) ∈ u → 0 ≤ fd) : r'.registry.Narrow :=
  served.confined wf narrow fun _ opened own ins => narrow.inserted ins (own ▸ descriptors opened)

open Dialogue

variable {n : Nat}

theorem serve_served (r : Ring) (wf : r.registry.WellFormed) (op : Operation) :
    Yields ((Backend.ring r).serve op n) fun t result =>
      ∃ r', result.2 = .ring r' ∧ Served r op t result.1 r' := by
  cases op with
  | add =>
      simp only [Backend.serve, Backend.add, Sys.yields_map]
      exact (add_added r).mono₂ fun _ _ r' added => ⟨r', rfl, .add added⟩
  | modify =>
      simp only [Backend.serve, Backend.modify, Sys.yields_map]
      exact (modify_modified r wf).mono₂ fun _ _ r' modified => ⟨r', rfl, .modify modified⟩
  | remove =>
      simp only [Backend.serve, Backend.remove, Sys.yields_map]
      exact (remove_removed r wf).mono₂ fun _ _ r' removed => ⟨r', rfl, .remove removed⟩
  | poll timeout =>
      simp only [Backend.serve, Backend.poll, Sys.yields_map]
      refine (poll_moves r timeout).mono₂ fun _ _ r' dispatched => ?_
      obtain ⟨_, moves, same⟩ := dispatched
      exact ⟨r', rfl, .poll moves same⟩
  | post =>
      simp only [Backend.serve, Backend.post, Sys.yields_map, Sys.yields_pure]
      exact ⟨r, rfl, .post Transcript.silent_nil⟩
  | wakeup =>
      simp only [Backend.serve, Backend.wakeup, Backend.channel, Channel.wake, Counter.wake,
        Sys.yields_map, Sys.yields_bind, Sys.yields_ask]
      rintro (e | written)
      all_goals
        simp only [Sys.yields_pure]
        exact ⟨r, rfl, .wakeup (Transcript.silent_singleton rfl)⟩

end Ring

end Multiplexer

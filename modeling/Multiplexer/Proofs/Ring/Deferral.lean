import Multiplexer.Proofs.Registry.Keyed
import Multiplexer.Proofs.Ring.Pending

/-! What resubmitting comes to, and what every call adds to the requests that are pending or takes off
them. A registration that waits for rearming is found again by its key, which is on the list of keys
for as long as it waits. -/
namespace Multiplexer.Ring

variable {r r' : Ring} {t : Transcript} {log : Log} {completion : Completion} {events : List Event}

/-! ### Keys of registrations that wait -/

/-- A change after which only listed keys and those from before lead to registrations that wait. -/
theorem Recalls.of_found (h : r.Recalls) (longer : ∀ k ∈ r.rearm, k ∈ r'.rearm)
    (found : ∀ k e, r'.registry.get? k = some e → e.rearm = true →
      k ∈ r'.rearm ∨ r.registry.get? k = some e) : r'.Recalls := by
  intro k e opened flagged
  rcases found k e opened flagged with listed | before
  · exact listed
  · exact longer k (h k e before flagged)

theorem Recalls.markRearm (h : r.Recalls) (k : Key) : (r.markRearm k).Recalls := by
  refine h.of_found (fun _ => List.mem_cons_of_mem k) ?_
  intro i e opened _
  change (r.registry.modify k _).get? i = some e at opened
  rw [Registry.get?_modify] at opened
  by_cases same : i = k
  · exact .inl (same ▸ List.mem_cons_self)
  · rw [if_neg same] at opened
    exact .inr opened

theorem Taken.recalls (taken : Taken r completion t events r') (h : r.Recalls) : r'.Recalls := by
  cases taken with
  | wakeup => exact h
  | timer => exact h
  | withdrawal => exact h
  | stale => exact h
  | rejected => exact h.markRearm _
  | cancelled => exact h.markRearm _
  | failed => exact h
  | ready =>
      split
      · exact h
      · exact h.markRearm _

theorem Move.recalls (move : Move r t log r') (h : r.Recalls) : r'.Recalls := by
  cases move with
  | aside => exact h
  | submit => exact h
  | wait => exact h
  | cancel => exact h
  | waker => exact h
  | timer => exact h
  | @skip key rest front idle =>
      intro k e opened flagged
      have listed := h k e opened flagged
      rw [front] at listed
      rcases List.mem_cons.mp listed with rfl | later
      · rw [idle e opened] at flagged
        cases flagged
      · exact later
  | @rearm key rest e front opened =>
      intro k e' opened' flagged
      rw [Registry.get?_modify] at opened'
      by_cases same : k = key
      · rw [if_pos same, same, opened] at opened'
        cases opened'
        cases flagged
      · rw [if_neg same] at opened'
        have listed := h k e' opened' flagged
        rw [front] at listed
        exact (List.mem_cons.mp listed).resolve_left same
  | take _ taken => exact taken.recalls h

theorem Moves.recalls (moves : Moves r t log r') (h : r.Recalls) : r'.Recalls := by
  induction moves with
  | rest => exact h
  | step _ move ih => exact move.recalls ih

/-! ### Resubmission -/

def pushedBetween (q : Queues) (t : Transcript) (q' : Queues) : List Request :=
  (t.taken ++ q'.requests).drop q.requests.length

/-- What resubmitting comes to. Either all that was pending has been pushed, each request once, and
nothing is left to push; or what has been pushed and what is still pending are together what was
pending, each request once, and no registration that waits is forgotten. -/
inductive Resubmits (r : Ring) (t : Transcript) : Except Cause Unit × Ring → Prop
  | finished {r' : Ring} : (pushedBetween r.queues t r'.queues).Perm r.pending → r'.Settled →
      (∀ entry ∈ r'.registry.entries, entry.2.rearm = false) → Resubmits r t (.ok (), r')
  | stopped {c : Cause} {r' : Ring} :
      (pushedBetween r.queues t r'.queues ++ r'.pending).Perm r.pending →
      (∀ entry ∈ r'.registry.entries, entry.2.rearm = true → entry.1 ∈ r'.rearm) →
      Resubmits r t (.error c, r')

theorem resubmit_resubmits {n : Nat} (wf : r.registry.WellFormed) (recalls : r.Recalls) :
    Dialogue.Yields (r.resubmit n) (Resubmits r) := by
  refine (resubmit_stage r).mono₂ fun t result r' stage => ?_
  obtain ⟨pushed, balanced, same⟩ := stage.moves.pushes wf rfl
  have wf' : r'.registry.WellFormed := stage.moves.reflagged.wellFormed wf
  have recalls' : r'.Recalls := stage.moves.recalls recalls
  have between : pushedBetween r.queues t r'.queues = pushed := balanced.pushed_eq
  cases result with
  | ok =>
      have settled : r'.Settled := stage.left rfl
      refine .finished ?_ settled fun entry mem => ?_
      · rw [settled.pending_eq_nil recalls' wf', List.append_nil] at same
        exact between ▸ same
      · have none := List.filter_eq_nil_iff.mp (settled.waiting_eq_nil recalls' wf')
        exact Bool.eq_false_iff.mpr (none entry mem)
  | error c =>
      refine .stopped (between ▸ same) fun entry mem flagged => ?_
      exact recalls' entry.1 entry.2 (wf'.mem_entries.mp mem) flagged

/-! ### Calls -/

/-- The withdrawal of a poll that is pushed, which that of a registration that waits is not. -/
def withdrawal (k : Key) (e : Registration) : List Request :=
  if e.rearm then [] else [.cancel k.pack cancelKey]

/-- What a call makes the ring push, now or later, and which polls it need not push any more. -/
inductive Incurs (r : Ring) : Operation → Transcript → List Completion → Answer →
    List Request → List Request → Ring → Prop
  | refused {op t e r'} : Incurs r op t [] (.returned (.error e)) [] [] r'
  | added {fd interest token t k e r'} : r'.registry.keyed? fd = some (k, e) →
      Incurs r (.add fd interest token) t [] (.returned (.ok ())) [r'.entryPoll (k, e)] [] r'
  | modified {fd interest t k e k' e' r'} : r.registry.keyed? fd = some (k, e) →
      r'.registry.keyed? fd = some (k', e') →
      Incurs r (.modify fd interest) t [] (.returned (.ok ()))
        (withdrawal k e ++ [r'.entryPoll (k', e')]) ((Registry.waitingAt k e).map r.entryPoll) r'
  | removed {fd t k e r'} : r.registry.keyed? fd = some (k, e) →
      Incurs r (.remove fd) t [] (.returned (.ok ()))
        (withdrawal k e) ((Registry.waitingAt k e).map r.entryPoll) r'
  | polled {timeout t completions polled revived r'} : Course r t completions revived r' →
      Incurs r (.poll timeout) t completions (.polled polled) revived [] r'
  | posted {fd marker bytes t result} :
      Incurs r (.post fd marker bytes) t [] (.returned result) [] [] r
  | woken {t result} : Incurs r .wakeup t [] (.returned result) [] [] r

/-- A registration loses its key: what it had pending is pending no more, or its poll is to be
withdrawn. -/
theorem pending_perm_voided {registry : Registry} {k : Key} {e : Registration}
    {others : List (Key × Registration)} (new : List (Key × Registration))
    (before : r.registry.waiting.Perm (Registry.waitingAt k e ++ others))
    (after : registry.waiting.Perm (new ++ others)) :
    ((Registry.waitingAt k e).map r.entryPoll ++ ({ r with
        registry
        cancels := if e.rearm then r.cancels else k.pack :: r.cancels } : Ring).pending).Perm
      (r.pending ++ (withdrawal k e ++ new.map r.entryPoll)) := by
  have withdrawn : ({ r with
      registry
      cancels := if e.rearm then r.cancels else k.pack :: r.cancels } : Ring).pending =
      withdrawal k e ++ ({ r with registry } : Ring).pending := by
    unfold withdrawal
    split <;> rfl
  have moved := pending_perm_waiting _ _ before after
  rw [withdrawn]
  rw [List.perm_iff_count] at moved ⊢
  intro q
  specialize moved q
  simp only [List.count_append] at moved ⊢
  omega

theorem Added.incurs {fd : Descriptor} {interest : Interest} {token : Token}
    {result : Except Error Unit} (added : Added r fd interest token t (result, r'))
    (wf : r.registry.WellFormed) :
    ∃ pushed incurred, Balanced r.queues t pushed [] r'.queues ∧
      Incurs r (.add fd interest token) t [] (.returned result) incurred [] r' ∧
      (pushed ++ r'.pending).Perm (r.pending ++ incurred) := by
  have look : ∀ reply, Transcript.Silent [.asked (.getFlags fd) reply] :=
    fun _ => Transcript.silent_singleton rfl
  have unchanged : ([] ++ r.pending).Perm (r.pending ++ []) :=
    List.Perm.of_eq (List.append_nil _).symm
  cases added with
  | closed => exact ⟨[], [], .aside (look _), .refused, unchanged⟩
  | duplicate => exact ⟨[], [], .aside (look _), .refused, unchanged⟩
  | unpushed hins pushed =>
      have ins := wf.insert_inserted hins
      have placed := ins.waiting_perm wf
      have discarded := (ins.discard wf).waiting_perm (ins.wellFormed wf)
      exact ⟨[], [], (Balanced.aside (look _)).trans pushed.balanced_error, .refused,
        pending_perm_waiting [] [] (.refl _) (discarded.symm.trans placed)⟩
  | added hins pushed =>
      have ins := wf.insert_inserted hins
      have noted : Transcript.Silent [.noted (.pollSubmitted fd interest)] :=
        Transcript.silent_singleton rfl
      have same := pending_perm_waiting [] [] (.refl _) (ins.waiting_perm wf)
      rw [List.map_nil, List.nil_append, List.append_nil] at same
      refine ⟨_, _, ((Balanced.aside (look _)).trans pushed.balanced).trans (.aside noted),
        .added ((ins.wellFormed wf).keyed?_of_get? ins.get?_self), ?_⟩
      exact List.perm_append_comm.trans (same.append_right _)

theorem Served.incurs {op : Operation} {answer : Answer} (served : r.Served op t answer r')
    (wf : r.registry.WellFormed) :
    ∃ completions pushed incurred superseded, Balanced r.queues t pushed completions r'.queues ∧
      Incurs r op t completions answer incurred superseded r' ∧
      Alike (pushed ++ superseded ++ r'.pending) (r.pending ++ incurred) := by
  have unchanged : Alike ([] ++ [] ++ r.pending) (r.pending ++ []) :=
    .of_perm (List.Perm.of_eq (List.append_nil _).symm)
  cases served with
  | add added =>
      obtain ⟨pushed, incurred, balanced, incurs, same⟩ := added.incurs wf
      refine ⟨[], pushed, incurred, [], balanced, incurs, ?_⟩
      rw [List.append_nil]
      exact .of_perm same
  | modify modified =>
      cases modified with
      | unknown => exact ⟨[], [], [], [], .aside Transcript.silent_nil, .refused, unchanged⟩
      | @rekeyed k k' e moved _ own rek =>
          subst own
          have wf' : moved.WellFormed := rek.wellFormed wf
          have opened : moved.get? k' = some e := by rw [rek.get?, if_pos rfl]
          obtain ⟨others, before, after⟩ := rek.waiting_modify wf
            (f := fun e => { e with interest := _, rearm := true }) fun _ => rfl
          exact ⟨[], [], _, _, .aside (Transcript.silent_singleton rfl),
            .modified (wf.keyed?_of_get? rek.opened) (wf'.keyed?_modify_self opened _),
            .of_perm (pending_perm_voided _ before after)⟩
  | remove removed =>
      cases removed with
      | unknown => exact ⟨[], [], [], [], .aside Transcript.silent_nil, .refused, unchanged⟩
      | @removed k e rest _ own rem =>
          subst own
          have voided := pending_perm_voided [] (rem.waiting_perm wf) (.refl _)
          rw [List.map_nil, List.append_nil] at voided
          exact ⟨[], [], _, _, .aside (Transcript.silent_singleton rfl),
            .removed (wf.keyed?_of_get? rem.opened), .of_perm voided⟩
  | poll moves =>
      obtain ⟨revived, course⟩ := moves.course
      obtain ⟨pushed, balanced, same⟩ := course.accounts wf
      refine ⟨_, pushed, revived, [], balanced, .polled course, ?_⟩
      rw [List.append_nil]
      exact same
  | post silent => exact ⟨[], [], [], [], .aside silent, .posted, unchanged⟩
  | wakeup silent => exact ⟨[], [], [], [], .aside silent, .woken, unchanged⟩

theorem Added.recalls {fd : Descriptor} {interest : Interest} {token : Token}
    {result : Except Error Unit} (added : Added r fd interest token t (result, r'))
    (wf : r.registry.WellFormed) (h : r.Recalls) : r'.Recalls := by
  cases added with
  | closed => exact h
  | duplicate => exact h
  | unpushed hins =>
      have ins := wf.insert_inserted hins
      refine h.of_found (fun _ => id) fun k e opened _ => .inr ?_
      dsimp only at opened
      rw [(ins.discard wf).get?, ins.get?] at opened
      split at opened
      · cases opened
      · exact opened
  | added hins =>
      have ins := wf.insert_inserted hins
      refine h.of_found (fun _ => id) fun k e opened flagged => .inr ?_
      dsimp only at opened
      rw [ins.get?] at opened
      split at opened
      · cases opened
        cases flagged
      · exact opened

theorem Modified.recalls {fd : Descriptor} {interest : Interest} {result : Except Error Unit}
    (modified : Modified r fd interest t (result, r')) (h : r.Recalls) : r'.Recalls := by
  cases modified with
  | unknown => exact h
  | @rekeyed _ k' _ _ _ _ rek =>
      refine h.of_found (fun _ => List.mem_cons_of_mem k') fun k e opened _ => ?_
      by_cases same : k = k'
      · exact .inl (same ▸ List.mem_cons_self)
      · dsimp only at opened
        rw [Registry.get?_modify, if_neg same, rek.get?, if_neg same] at opened
        split at opened
        · cases opened
        · exact .inr opened

theorem Removed.recalls {fd : Descriptor} {result : Except Error Unit}
    (removed : Removed r fd t (result, r')) (h : r.Recalls) : r'.Recalls := by
  cases removed with
  | unknown => exact h
  | removed _ _ rem =>
      refine h.of_found (fun _ => id) fun k e opened _ => .inr ?_
      dsimp only at opened
      rw [rem.get?] at opened
      split at opened
      · cases opened
      · exact opened

theorem Served.recalls {op : Operation} {answer : Answer} (served : r.Served op t answer r')
    (wf : r.registry.WellFormed) (h : r.Recalls) : r'.Recalls := by
  cases served with
  | add added => exact added.recalls wf h
  | modify modified => exact modified.recalls h
  | remove removed => exact removed.recalls h
  | poll moves => exact moves.recalls h
  | post => exact h
  | wakeup => exact h

end Multiplexer.Ring

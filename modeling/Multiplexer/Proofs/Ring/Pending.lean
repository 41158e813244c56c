import Multiplexer.Proofs.Registry.Waiting
import Multiplexer.Proofs.Ring.Internal

/-! Requests put off. Withdrawals, internal polls and polls of registrations are not pushed when they
come up but by the next poll, and they stay pending for as long as the queue has no room. What is
pushed and what is still pending are, together, always what was pending and what has come up since. -/
namespace Multiplexer.Ring

/-! ### What is pending -/

def entryPoll (r : Ring) (entry : Key × Registration) : Request :=
  r.watch entry.2.descriptor entry.2.interest.pollMask entry.1.pack

def internalPoll (r : Ring) (i : Internal) : Request := r.watch (i.descriptor r) .input i.key

def internals (r : Ring) : List Request :=
  (if r.rearmWaker then [r.internalPoll .waker] else []) ++
    if r.rearmTimer then [r.internalPoll .timer] else []

/-- The requests still to be pushed: a withdrawal for every element of the list of them, the internal
polls that are flagged and a poll for every registration that is. -/
def pending (r : Ring) : List Request :=
  r.cancels.map (.cancel · cancelKey) ++ r.internals ++ r.registry.waiting.map r.entryPoll

/-- A registration is marked for rearming only while its key is on the list of keys. -/
def Recalls (r : Ring) : Prop :=
  ∀ k e, r.registry.get? k = some e → e.rearm = true → k ∈ r.rearm

/-- The request, with no regard to whether a poll stays armed. -/
def Request.plain : Request → Request
  | poll fd mask _ data => poll fd mask false data
  | cancel target data => cancel target data

/-- The same requests, each as often, whether or not their polls stay armed. -/
def Alike (a b : List Request) : Prop := (a.map Request.plain).Perm (b.map Request.plain)

/-- The internal poll, if the completion ended it and it was not to be pushed already. -/
def revivedInternal (r : Ring) (i : Internal) (c : Completion) : List Request :=
  if i.pending r || c.more then [] else [r.internalPoll i]

/-- The completion makes the ring watch the registration anew. -/
def renews (r : Ring) (c : Completion) : Bool :=
  r.rejects c || c.result == -Errno.cancelled || (0 ≤ c.result && !c.more)

/-- The poll that comes up for pushing when the completion is taken. One that is pending already does
not come up again. -/
def revived (r : Ring) (c : Completion) : List Request :=
  if c.data = wakeKey then r.revivedInternal .waker c
  else if c.data = timerKey then r.revivedInternal .timer c
  else if c.data = cancelKey then []
  else match r.registry.get? (.unpack c.data) with
    | none => []
    | some e => if r.renews c && !e.rearm then [r.entryPoll (.unpack c.data, e)] else []

variable {r r' r'' : Ring} {t u : Transcript} {log more : Log} {a b c d : List Request}
  {completion : Completion} {events : List Event}

theorem Alike.of_perm (h : a.Perm b) : Alike a b := h.map _

theorem Alike.refl : Alike a a := List.Perm.refl _

theorem Alike.trans (h : Alike a b) (h' : Alike b c) : Alike a c := List.Perm.trans h h'

theorem Alike.append (h : Alike a b) (h' : Alike c d) : Alike (a ++ c) (b ++ d) := by
  unfold Alike
  rw [List.map_append, List.map_append]
  exact List.Perm.append h h'

/-- Accounts of two stretches make accounts of both. -/
theorem Alike.step {pushed pushed' gone gone' came came' before between after : List Request}
    (h : Alike (pushed ++ gone ++ between) (before ++ came))
    (h' : Alike (pushed' ++ gone' ++ after) (between ++ came')) :
    Alike (pushed ++ pushed' ++ (gone ++ gone') ++ after) (before ++ (came ++ came')) := by
  unfold Alike at h h' ⊢
  rw [List.perm_iff_count] at h h' ⊢
  intro q
  specialize h q
  specialize h' q
  simp only [List.map_append, List.count_append] at h h' ⊢
  omega

/-- The kind of polls that are asked for does not matter to what is pending. -/
theorem alike_pending_multishot (multishot : Bool) :
    Alike ({ r with multishot } : Ring).pending r.pending := by
  refine List.Perm.of_eq ?_
  unfold pending internals
  simp only [List.map_append, List.map_map, apply_ite]
  rfl

theorem Settled.waiting_eq_nil (settled : r.Settled) (recalls : r.Recalls)
    (wf : r.registry.WellFormed) : r.registry.waiting = [] := by
  refine List.filter_eq_nil_iff.mpr ?_
  rintro ⟨k, e⟩ mem flagged
  have listed := recalls k e (wf.mem_entries.mp mem) flagged
  rw [settled.rearm] at listed
  cases listed

/-- Nothing is pending on a settled ring. -/
theorem Settled.pending_eq_nil (settled : r.Settled) (recalls : r.Recalls)
    (wf : r.registry.WellFormed) : r.pending = [] := by
  unfold pending internals
  rw [settled.cancels, settled.waker, settled.timer, settled.waiting_eq_nil recalls wf]
  rfl

/-- Registrations that wait no more, and others that do now. -/
theorem pending_perm_waiting {registry : Registry} {others : List (Key × Registration)}
    (gone new : List (Key × Registration)) (before : r.registry.waiting.Perm (gone ++ others))
    (after : registry.waiting.Perm (new ++ others)) :
    (gone.map r.entryPoll ++ ({ r with registry } : Ring).pending).Perm
      (r.pending ++ new.map r.entryPoll) := by
  have taken := before.map r.entryPoll
  have given := after.map r.entryPoll
  rw [List.map_append, List.perm_iff_count] at taken given
  have pending : ({ r with registry } : Ring).pending = r.cancels.map (.cancel · cancelKey) ++
    r.internals ++ registry.waiting.map r.entryPoll := rfl
  rw [pending, Ring.pending, List.perm_iff_count]
  intro q
  specialize taken q
  specialize given q
  simp only [List.count_append] at taken given ⊢
  omega

theorem internals_flags (r : Ring) (waker timer : Bool) :
    ({ r with rearmWaker := waker, rearmTimer := timer } : Ring).internals =
      (if waker then [r.internalPoll .waker] else []) ++
        if timer then [r.internalPoll .timer] else [] := rfl

/-- Internal polls that are flagged no more, and others that are now. -/
theorem pending_perm_internals {waker timer : Bool} (gone : List Request) {new : List Request}
    (h : (gone ++ ({ r with rearmWaker := waker, rearmTimer := timer } : Ring).internals).Perm
      (r.internals ++ new)) :
    (gone ++ ({ r with rearmWaker := waker, rearmTimer := timer } : Ring).pending).Perm
      (r.pending ++ new) := by
  rw [List.perm_iff_count] at h ⊢
  have pending : ({ r with rearmWaker := waker, rearmTimer := timer } : Ring).pending =
    r.cancels.map (.cancel · cancelKey) ++
      ({ r with rearmWaker := waker, rearmTimer := timer } : Ring).internals ++
      r.registry.waiting.map r.entryPoll := rfl
  rw [pending, Ring.pending]
  intro q
  specialize h q
  simp only [List.count_append] at h ⊢
  omega

/-! ### Moves without completions -/

/-- What a move takes off what is pending it pushes. -/
theorem Move.pushes (h : Move r t [] r') (wf : r.registry.WellFormed) :
    ∃ pushed, Balanced r.queues t pushed [] r'.queues ∧ (pushed ++ r'.pending).Perm r.pending := by
  cases h with
  | aside silent => exact ⟨[], .aside silent, .refl _⟩
  | submit => exact ⟨[], .enter rfl, .refl _⟩
  | wait => exact ⟨[], .enter rfl, .refl _⟩
  | cancel front =>
      refine ⟨_, .append r.queues _, List.Perm.of_eq ?_⟩
      unfold pending
      rw [front]
      rfl
  | waker flagged =>
      refine ⟨[r.internalPoll .waker], .append r.queues _, ?_⟩
      have recalled : ([r.internalPoll .waker] ++ ({ r with rearmWaker := false } : Ring).internals).Perm
          (r.internals ++ []) := by
        rw [internals_flags, internals, if_pos flagged, List.append_nil]
        exact .refl _
      exact (pending_perm_internals _ recalled).trans (List.Perm.of_eq (List.append_nil _))
  | timer flagged =>
      refine ⟨[r.internalPoll .timer], .append r.queues _, ?_⟩
      have recalled : ([r.internalPoll .timer] ++ ({ r with rearmTimer := false } : Ring).internals).Perm
          (r.internals ++ []) := by
        rw [internals_flags, internals, if_pos flagged, List.append_nil]
        refine List.perm_append_comm.trans (List.Perm.of_eq ?_)
        rw [List.append_assoc]
        rfl
      exact (pending_perm_internals _ recalled).trans (List.Perm.of_eq (List.append_nil _))
  | skip => exact ⟨[], .aside Transcript.silent_nil, .refl _⟩
  | @rearm k rest e front opened flagged =>
      refine ⟨_, .append r.queues _, ?_⟩
      obtain ⟨others, before, after⟩ :=
        wf.waiting_modify opened (f := ({ · with rearm := false })) fun _ => rfl
      have moved := pending_perm_waiting _ _ before after
      rw [Registry.waitingAt, if_pos flagged] at moved
      exact moved.trans (List.Perm.of_eq (List.append_nil _))

theorem Moves.pushes (h : Moves r t log r') (wf : r.registry.WellFormed) (none : log = []) :
    ∃ pushed, Balanced r.queues t pushed [] r'.queues ∧ (pushed ++ r'.pending).Perm r.pending := by
  induction h with
  | rest => exact ⟨[], .aside Transcript.silent_nil, .refl _⟩
  | step before move ih =>
      obtain ⟨rfl, rfl⟩ := List.append_eq_nil_iff.mp none
      obtain ⟨pushed, balanced, same⟩ := ih rfl
      obtain ⟨later, balanced', same'⟩ := move.pushes (before.reflagged.wellFormed wf)
      refine ⟨_, balanced.trans balanced', ?_⟩
      rw [List.append_assoc]
      exact (same'.append_left pushed).trans same

/-! ### Completions -/

/-- A completion that ends an internal poll flags it. -/
theorem internals_waker (r : Ring) (c : Completion) :
    ({ r with rearmWaker := r.rearmWaker || !c.more } : Ring).internals.Perm
      (r.internals ++ r.revivedInternal .waker c) := by
  rw [internals_flags, internals, revivedInternal, Internal.pending]
  cases r.rearmWaker with
  | true => exact List.Perm.of_eq (List.append_nil _).symm
  | false =>
      cases c.more with
      | true => exact List.Perm.of_eq (List.append_nil _).symm
      | false => exact List.perm_append_comm

theorem internals_timer (r : Ring) (c : Completion) :
    ({ r with rearmTimer := r.rearmTimer || !c.more } : Ring).internals.Perm
      (r.internals ++ r.revivedInternal .timer c) := by
  rw [internals_flags, internals, revivedInternal, Internal.pending, List.append_assoc]
  refine List.Perm.append_left _ (List.Perm.of_eq ?_)
  cases r.rearmTimer with
  | true => rfl
  | false => cases c.more <;> rfl

theorem revived_of_opened {e : Registration} (plain : ¬ Reserved completion.data)
    (opened : r.registry.get? (.unpack completion.data) = some e) :
    r.revived completion =
      if r.renews completion && !e.rearm then [r.entryPoll (.unpack completion.data, e)] else [] := by
  simp only [Reserved, not_or] at plain
  unfold revived
  rw [if_neg plain.1, if_neg plain.2.1, if_neg plain.2.2, opened]

theorem revived_of_stale (plain : ¬ Reserved completion.data)
    (absent : r.registry.get? (.unpack completion.data) = none) : r.revived completion = [] := by
  simp only [Reserved, not_or] at plain
  unfold revived
  rw [if_neg plain.1, if_neg plain.2.1, if_neg plain.2.2, absent]

theorem renews_of_rejects (h : r.rejects completion = true) : r.renews completion = true := by
  rw [renews, h]
  rfl

theorem renews_of_cancelled (h : completion.result = -Errno.cancelled) :
    r.renews completion = true := by
  rw [renews, beq_iff_eq.mpr h, Bool.or_true]
  rfl

theorem renews_of_failed (accepted : r.rejects completion = false)
    (kept : completion.result ≠ -Errno.cancelled) (failed : completion.result < 0) :
    r.renews completion = false := by
  rw [renews, accepted, beq_false_of_ne kept, decide_eq_false (Int32.not_le.mpr failed)]
  rfl

theorem renews_of_ready (ready : ¬ completion.result < 0) :
    r.renews completion = !completion.more := by
  have nonnegative : ∀ e : Errno, -e < 0 → completion.result ≠ -e := by
    rintro e negative same
    exact ready (same ▸ negative)
  rw [renews, rejects, beq_false_of_ne (nonnegative .invalidArgument (by decide)),
    beq_false_of_ne (nonnegative .cancelled (by decide)),
    decide_eq_true (Int32.not_lt.mp ready), Bool.and_false, Bool.false_or, Bool.false_or,
    Bool.true_and]

/-- A registration that is marked comes up for pushing, unless it was marked before. -/
theorem pending_markRearm (wf : r.registry.WellFormed) {k : Key} {e : Registration}
    (opened : r.registry.get? k = some e) :
    (r.markRearm k).pending.Perm (r.pending ++ if !e.rearm then [r.entryPoll (k, e)] else []) := by
  obtain ⟨others, before, after⟩ :=
    wf.waiting_modify opened (f := ({ · with rearm := true })) fun _ => rfl
  have moved := pending_perm_waiting _ _ before after
  cases flagged : e.rearm with
  | false =>
      rw [Registry.waitingAt, flagged] at moved
      exact moved
  | true =>
      rw [Registry.waitingAt, if_pos flagged] at moved
      have same := (List.perm_append_left_iff [r.entryPoll (k, e)]).mp
        (moved.trans List.perm_append_comm)
      exact same.trans (List.Perm.of_eq (List.append_nil _).symm)

theorem Taken.pending_alike (h : Taken r completion t events r') (wf : r.registry.WellFormed) :
    Alike r'.pending (r.pending ++ r.revived completion) := by
  cases h with
  | wakeup wakes =>
      refine (alike_pending_multishot (r := { r with
        rearmWaker := r.rearmWaker || !completion.more }) _).trans (.of_perm ?_)
      have revived : r.revived completion = r.revivedInternal .waker completion := if_pos wakes
      rw [revived]
      exact pending_perm_internals [] (r.internals_waker completion)
  | timer timed =>
      refine (alike_pending_multishot (r := { r with
        rearmTimer := r.rearmTimer || !completion.more }) _).trans (.of_perm ?_)
      have revived : r.revived completion = r.revivedInternal .timer completion := by
        unfold revived
        rw [timed]
        rfl
      rw [revived]
      exact pending_perm_internals [] (r.internals_timer completion)
  | withdrawal withdraws =>
      have none : r.revived completion = [] := by
        unfold revived
        rw [withdraws]
        rfl
      rw [none, List.append_nil]
      exact .refl
  | stale plain absent =>
      rw [revived_of_stale plain absent, List.append_nil]
      exact .refl
  | rejected plain opened rejected =>
      rw [revived_of_opened plain opened, renews_of_rejects rejected, Bool.true_and]
      exact (alike_pending_multishot (r := r.markRearm _) false).trans
        (.of_perm (pending_markRearm wf opened))
  | cancelled plain opened _ cancelled =>
      rw [revived_of_opened plain opened, renews_of_cancelled cancelled, Bool.true_and]
      exact .of_perm (pending_markRearm wf opened)
  | failed plain opened accepted kept failed =>
      rw [revived_of_opened plain opened, renews_of_failed accepted kept failed, Bool.false_and]
      exact .of_perm (List.Perm.of_eq (List.append_nil _).symm)
  | ready plain opened ready =>
      rw [revived_of_opened plain opened, renews_of_ready ready]
      cases completion.more with
      | true => exact .of_perm (List.Perm.of_eq (List.append_nil _).symm)
      | false => exact .of_perm (pending_markRearm wf opened)

/-! ### Courses of moves -/

/-- Moves, with the completions taken and the requests that came up by them. -/
inductive Course (r : Ring) : Transcript → List Completion → List Request → Ring → Prop
  | rest : Course r [] [] [] r
  | move {t u completions revived r' r''} : Course r t completions revived r' → Move r' u [] r'' →
      Course r (t ++ u) completions revived r''
  | take {t u c rest completions revived events r' r''} : Course r t completions revived r' →
      r'.queues.completions = c :: rest → Taken r' c u events r'' →
      Course r (t ++ u) (completions ++ [c]) (revived ++ r'.revived c) (r''.facing rest)

theorem Move.quiet_or_take (h : Move r t log r') : log = [] ∨
    ∃ c rest events r₁, r.queues.completions = c :: rest ∧ Taken r c t events r₁ ∧
      log = [(c, events)] ∧ r' = r₁.facing rest := by
  cases h with
  | take front taken => exact .inr ⟨_, _, _, _, front, taken, rfl, rfl⟩
  | _ => exact .inl rfl

theorem Moves.course (h : Moves r t log r') : ∃ revived, Course r t (log.map (·.1)) revived r' := by
  induction h with
  | rest => exact ⟨[], .rest⟩
  | step _ move ih =>
      obtain ⟨revived, course⟩ := ih
      obtain rfl | ⟨c, rest, events, r₁, front, taken, rfl, rfl⟩ := move.quiet_or_take
      · rw [List.append_nil]
        exact ⟨revived, course.move move⟩
      · rw [List.map_append]
        exact ⟨_, course.take front taken⟩

theorem Course.reflagged {completions : List Completion} {revived : List Request}
    (h : Course r t completions revived r') : r.registry.Reflagged r'.registry := by
  induction h with
  | rest => exact .refl
  | move _ move ih => exact ih.trans move.reflagged
  | take _ _ taken ih => exact ih.trans taken.reflagged

/-- Along the way, what has been pushed and what is pending are what was pending and what has come
up. -/
theorem Course.accounts {completions : List Completion} {revived : List Request}
    (h : Course r t completions revived r') (wf : r.registry.WellFormed) :
    ∃ pushed, Balanced r.queues t pushed completions r'.queues ∧
      Alike (pushed ++ r'.pending) (r.pending ++ revived) := by
  induction h with
  | rest =>
      refine ⟨[], .aside Transcript.silent_nil, ?_⟩
      rw [List.append_nil]
      exact .refl
  | @move _ _ _ revived r' r'' course move ih =>
      obtain ⟨pushed, balanced, same⟩ := ih
      obtain ⟨later, balanced', same'⟩ := move.pushes (course.reflagged.wellFormed wf)
      have whole := balanced.trans balanced'
      rw [List.append_nil] at whole
      refine ⟨_, whole, ?_⟩
      rw [List.append_assoc]
      exact (Alike.append .refl (.of_perm same')).trans same
  | @take _ _ c rest _ revived _ r' r'' course front taken ih =>
      obtain ⟨pushed, balanced, same⟩ := ih
      have taken' := taken.pending_alike (course.reflagged.wellFormed wf)
      refine ⟨pushed, ?_, ?_⟩
      · have queues : (r''.facing rest).queues = { r'.queues with completions := rest } := by
          rw [facing, taken.queues_eq]
        rw [queues]
        exact (balanced.then_take front).then_aside taken.silent
      · refine (Alike.append .refl taken').trans ?_
        rw [← List.append_assoc, ← List.append_assoc]
        exact same.append .refl

end Multiplexer.Ring

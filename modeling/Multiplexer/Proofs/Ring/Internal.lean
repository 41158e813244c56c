import Multiplexer.Proofs.Ring.Books

/-! The internal polls of a ring, by which its waits can be ended: the one on the waker and the one
on the timer. Each is live exactly once, or its flag is up and it is not live; every move keeps this,
as long as the system completes internal polls only while they owe a completion. -/
namespace Multiplexer
namespace Ring

inductive Internal where
  | waker
  | timer
  deriving DecidableEq, Repr

namespace Internal

def key : Internal → UInt64
  | waker => wakeKey
  | timer => timerKey

def descriptor (r : Ring) : Internal → Descriptor
  | waker => r.waker.descriptor
  | timer => r.timer.descriptor

def pending (r : Ring) : Internal → Bool
  | waker => r.rearmWaker
  | timer => r.rearmTimer

theorem reserved (i : Internal) : Reserved i.key := by
  cases i with
  | waker => exact .inl rfl
  | timer => exact .inr (.inl rfl)

theorem eq_of_key {i j : Internal} (h : i.key = j.key) : i = j := by
  cases i <;> cases j <;> first | rfl | exact absurd h (by decide)

end Internal

theorem Settled.not_pending {r : Ring} (settled : r.Settled) (i : Internal) :
    i.pending r = false := by
  cases i with
  | waker => exact settled.waker
  | timer => exact settled.timer

/-- The poll is live exactly once, or it is to be pushed again and not live at all. -/
def Watches (r : Ring) (b : Books) (i : Internal) : Prop :=
  if i.pending r then b.live i.key = []
  else ∃ multishot, b.live i.key = [.poll (i.descriptor r) .input multishot i.key]

/-- Each completion of an internal poll, in turn, finds one pushed that still owes its last. -/
def Due (pushed : List Request) : List Completion → List Completion → Prop
  | _, [] => True
  | past, c :: rest =>
    (c.data = wakeKey ∨ c.data = timerKey →
      past.countP (·.ends c.data) < (pushed.filter (·.polls c.data)).length) ∧
    Due pushed (past ++ [c]) rest

namespace Due

variable {pushed more : List Request} {past cs ds : List Completion}

theorem append (h : Due pushed past cs) (h' : Due pushed (past ++ cs) ds) :
    Due pushed past (cs ++ ds) := by
  induction cs generalizing past with
  | nil =>
      rw [List.append_nil] at h'
      exact h'
  | cons c cs ih =>
      refine ⟨h.1, ih h.2 ?_⟩
      rw [List.append_assoc]
      exact h'

theorem push (h : Due pushed past cs) : Due (pushed ++ more) past cs := by
  induction cs generalizing past with
  | nil => trivial
  | cons c cs ih =>
      refine ⟨fun internal => ?_, ih h.2⟩
      rw [List.filter_append, List.length_append]
      exact Nat.lt_add_right _ (h.1 internal)

end Due

instance Due.decide (pushed : List Request) : (past cs : List Completion) →
    Decidable (Due pushed past cs)
  | _, [] => .isTrue trivial
  | past, c :: rest =>
    have := Due.decide pushed (past ++ [c]) rest
    inferInstanceAs (Decidable (_ ∧ _))

end Ring

/-- What is taken for granted of the system at one step after others: it completes an internal poll
only while one owes a completion, and finds no negative descriptor open. -/
def Step.Orderly (past : Transcript) (s : Step) : Prop :=
  (∀ entry ∈ s.entered?, Ring.Due (past.taken ++ entry.1.requests) past.posted entry.2.posted) ∧
    ∀ fd ∈ s.opened?, 0 ≤ fd

-- by the option, since there are too many descriptors to go through them all
instance {past : Transcript} {s : Step} : Decidable (s.Orderly past) :=
  have : Decidable (∀ fd ∈ s.opened?, 0 ≤ fd) := Option.decidableForallMem _
  inferInstanceAs (Decidable (_ ∧ _))

/-- It is taken for granted at every step. -/
def Transcript.Orderly (t : Transcript) : Prop :=
  ∀ i, (within : i < t.length) → t[i].Orderly (t.take i)

instance {t : Transcript} : Decidable t.Orderly :=
  inferInstanceAs (Decidable (∀ i, (within : i < t.length) → t[i].Orderly (t.take i)))

namespace Transcript

variable {t u : Transcript}

theorem Orderly.before (h : Orderly (t ++ u)) : t.Orderly := by
  intro i within
  have step := h i (List.length_append ▸ Nat.lt_add_right _ within)
  rw [List.getElem_append_left within, List.take_append_of_le_length within.le] at step
  exact step

theorem Orderly.last {s : Step} (h : Orderly (t ++ [s])) : s.Orderly t := by
  have step := h t.length (by rw [List.length_append]; exact Nat.lt_succ_self _)
  rw [List.take_left, List.getElem_append_right (Nat.le_refl _)] at step
  simpa only [Nat.sub_self, List.getElem_cons_zero] using step

/-- One more step keeps to it. -/
theorem Orderly.snoc {s : Step} (h : t.Orderly) (step : s.Orderly t) : Orderly (t ++ [s]) := by
  intro i within
  rcases Nat.lt_or_ge i t.length with earlier | late
  · rw [List.getElem_append_left earlier, List.take_append_of_le_length earlier.le]
    exact h i earlier
  · have last : i = t.length := by
      rw [List.length_append, List.length_singleton] at within
      omega
    subst last
    rw [List.take_left, List.getElem_append_right (Nat.le_refl _)]
    simpa only [Nat.sub_self, List.getElem_cons_zero] using step

theorem Orderly.opened {fd : Descriptor} (h : t.Orderly)
    (mem : .asked (.getFlags fd) (.ok ()) ∈ t) : 0 ≤ fd := by
  obtain ⟨i, within, same⟩ := List.mem_iff_getElem.mp mem
  have step := h i within
  rw [same] at step
  exact step.2 fd rfl

/-- All that was pushed and taken on a ring, when this was said and its queues are these. -/
def books (t : Transcript) (q : Ring.Queues) : Ring.Books :=
  ⟨t.taken ++ q.requests, t.posted.take (t.posted.length - q.completions.length)⟩

theorem books_eq {q : Ring.Queues} {b : Ring.Books}
    (linked : Ring.Balanced (.empty 0) t b.pushed b.consumed q) : t.books q = b := by
  obtain ⟨pushed, consumed⟩ := b
  rw [books, ← linked.requests]
  exact congrArg (Ring.Books.mk pushed) linked.consumed_eq

end Transcript

namespace Ring

/-! ### One poll -/

section

variable {r r' : Ring} {b : Books} {i : Internal} {request : Request} {c : Completion}

theorem Watches.push_other (h : r.Watches b i) (other : request.polls i.key = false) :
    r.Watches (b.push request) i := by
  unfold Watches
  rw [Books.live_push other]
  exact h

/-- A pending poll is live once it is pushed. -/
theorem Watches.push_self (h : r.Watches b i) (flagged : i.pending r = true)
    (counted : b.finals i.key ≤ (b.polls i.key).length) (cleared : i.pending r' = false)
    (same : i.descriptor r' = i.descriptor r) :
    r'.Watches (b.push (r.watch (i.descriptor r) .input i.key)) i := by
  unfold Watches at h ⊢
  rw [if_pos flagged] at h
  rw [if_neg (Bool.eq_false_iff.mp cleared), same]
  exact ⟨r.multishot, Books.live_push_self (beq_self_eq_true i.key) h counted⟩

/-- The last completion of a live poll makes it pending. -/
theorem Watches.consume (h : r.Watches b i)
    (due : c.data = i.key → b.finals i.key < (b.polls i.key).length)
    (flag : i.pending r' = (i.pending r || c.ends i.key))
    (same : i.descriptor r' = i.descriptor r) : r'.Watches (b.consume c) i := by
  unfold Watches at h ⊢
  rw [flag, same]
  cases last : c.ends i.key with
  | false =>
      rw [Books.live_consume last, Bool.or_false]
      exact h
  | true =>
      have own : c.data = i.key := by
        simp only [Completion.ends, Bool.and_eq_true, beq_iff_eq] at last
        exact last.1
      have busy := Books.live_ne_nil (due own)
      rw [Books.live_consume_final last, Bool.or_true, if_pos rfl]
      split at h
      · exact absurd h busy
      · obtain ⟨multishot, one⟩ := h
        rw [one, List.tail_cons]

/-- Taking a completion raises the flag of the poll that it ends, and no other. -/
theorem Taken.flag {t : Transcript} {events : List Event} (taken : Taken r c t events r')
    (i : Internal) :
    i.pending r' = (i.pending r || c.ends i.key) ∧ i.descriptor r' = i.descriptor r := by
  have others : c.data ≠ i.key → i.pending r = (i.pending r || c.ends i.key) := by
    intro other
    rw [Completion.ends, beq_false_of_ne other, Bool.false_and, Bool.or_false]
  have plain : ¬ Reserved c.data → c.data ≠ i.key := fun plain same => plain (same ▸ i.reserved)
  cases taken with
  | wakeup wakes =>
      cases i with
      | waker =>
          rw [Completion.ends, wakes]
          exact ⟨rfl, rfl⟩
      | timer => exact ⟨others (wakes ▸ by decide), rfl⟩
  | timer timed =>
      cases i with
      | waker => exact ⟨others (timed ▸ by decide), rfl⟩
      | timer =>
          rw [Completion.ends, timed]
          exact ⟨rfl, rfl⟩
  | withdrawal withdraws =>
      refine ⟨others ?_, rfl⟩
      rw [withdraws]
      cases i <;> decide
  | stale unreserved => exact ⟨others (plain unreserved), rfl⟩
  | rejected unreserved => exact ⟨others (plain unreserved), rfl⟩
  | cancelled unreserved => exact ⟨others (plain unreserved), rfl⟩
  | failed unreserved => exact ⟨others (plain unreserved), rfl⟩
  | ready unreserved =>
      rw [← others (plain unreserved)]
      split <;> exact ⟨rfl, rfl⟩

end

/-! ### Both polls, move by move -/

structure Watchful (t : Transcript) (b : Books) (r : Ring) : Prop where
  linked : Balanced (.empty 0) t b.pushed b.consumed r.queues
  due : Due b.pushed b.consumed r.queues.completions
  counted : ∀ i : Internal, b.finals i.key ≤ (b.polls i.key).length
  watches : ∀ i, r.Watches b i

variable {t u : Transcript} {b : Books} {r r' : Ring} {log : Log} {request : Request}
  {c : Completion} {rest : List Completion}

namespace Watchful

theorem aside (h : Watchful t b r) (silent : u.Silent) : Watchful (t ++ u) b r :=
  ⟨h.linked.then_aside silent, h.due, h.counted, h.watches⟩

/-- Registrations and what they leave to push do not matter. -/
theorem registered (h : Watchful t b r) {registry : Registry} {rearm : List Key}
    {cancels : List UInt64} : Watchful t b { r with registry, rearm, cancels } :=
  ⟨h.linked, h.due, h.counted, h.watches⟩

/-- Entering the ring only adds completions, and those are due. -/
theorem enter (h : Watchful t b r) {s : Step} {entered : Entered}
    (hs : s.entered? = some (r.queues, entered)) (orderly : Transcript.Orderly (t ++ [s])) :
    Watchful (t ++ [s]) b { r with queues := r.queues.after entered } where
  linked := h.linked.then_enter hs
  due := by
    have due := orderly.last.1 _ hs
    rw [← h.linked.requests] at due
    have posted : t.posted = b.consumed ++ r.queues.completions := h.linked.completions
    rw [posted] at due
    exact h.due.append due
  counted := h.counted
  watches := h.watches

theorem push (h : Watchful t b r) (queues : r'.queues = r.queues.append request)
    (watches : ∀ i, r'.Watches (b.push request) i) : Watchful t (b.push request) r' where
  linked := by
    rw [queues]
    exact h.linked.then_push request
  due := by
    rw [queues]
    exact h.due.push
  counted := by
    intro i
    refine (h.counted i).trans ?_
    simp only [Books.polls, Books.push, List.filter_append, List.length_append]
    exact Nat.le_add_right _ _
  watches := watches

/-- A request that is no internal poll changes nothing for these. -/
theorem push_other (h : Watchful t b r) (queues : r'.queues = r.queues.append request)
    (other : ∀ i : Internal, request.polls i.key = false)
    (flag : ∀ i : Internal, i.pending r' = i.pending r)
    (same : ∀ i : Internal, i.descriptor r' = i.descriptor r) : Watchful t (b.push request) r' := by
  refine h.push queues fun i => ?_
  have kept := (h.watches i).push_other (other i)
  unfold Watches at kept ⊢
  rw [flag, same]
  exact kept

/-- A pending poll is pushed, and its flag lowered. -/
theorem push_internal (h : Watchful t b r) (i : Internal) (flagged : i.pending r = true)
    (queues : r'.queues = r.queues.append (r.watch (i.descriptor r) .input i.key))
    (cleared : i.pending r' = false) (flag : ∀ j, j ≠ i → j.pending r' = j.pending r)
    (same : ∀ j : Internal, j.descriptor r' = j.descriptor r) :
    Watchful t (b.push (r.watch (i.descriptor r) .input i.key)) r' := by
  refine h.push queues fun j => ?_
  by_cases own : j = i
  · subst own
    exact (h.watches j).push_self flagged (h.counted j) cleared (same j)
  · have other : (r.watch (i.descriptor r) .input i.key).polls j.key = false :=
      beq_false_of_ne fun key => own (Internal.eq_of_key key).symm
    have kept := (h.watches j).push_other other
    unfold Watches at kept ⊢
    rw [flag j own, same]
    exact kept

theorem consume (h : Watchful t b r) (front : r.queues.completions = c :: rest) {r₁ : Ring}
    {events : List Event} (taken : Taken r c u events r₁) :
    Watchful (t ++ u) (b.consume c) (r₁.facing rest) where
  linked := by
    change Balanced _ _ _ _ { r₁.queues with completions := rest }
    rw [taken.queues_eq]
    exact (h.linked.then_take front).then_aside taken.silent
  due := by
    have due := h.due
    rw [front] at due
    exact due.2
  counted := by
    intro i
    change (b.consume c).finals i.key ≤ (b.polls i.key).length
    rw [Books.finals_consume]
    have due := h.due
    rw [front] at due
    cases last : c.ends i.key with
    | false => exact h.counted i
    | true =>
        simp only [Completion.ends, Bool.and_eq_true, beq_iff_eq] at last
        have owes := due.1 (by rw [last.1]; cases i <;> decide)
        rw [last.1] at owes
        exact owes
  watches := by
    intro i
    have due := h.due
    rw [front] at due
    obtain ⟨flag, same⟩ := taken.flag i
    refine (h.watches i).consume (fun own => ?_) flag same
    have owes := due.1 (by rw [own]; cases i <;> decide)
    rw [own] at owes
    exact owes

end Watchful

theorem watch_polls_internal (r : Ring) (fd : Descriptor) (mask : PollMask) {k : Key}
    {e : Registration} {registry : Registry} (narrow : registry.Narrow) (opened : registry.get? k = some e)
    (i : Internal) : (r.watch fd mask k.pack).polls i.key = false :=
  beq_false_of_ne fun same => not_reserved narrow opened (same ▸ i.reserved)

theorem Move.watchful (move : Move r u log r') (h : Watchful t b r) (narrow : r.registry.Narrow)
    (orderly : Transcript.Orderly (t ++ u)) : ∃ b', Watchful (t ++ u) b' r' := by
  cases move with
  | aside silent => exact ⟨b, h.aside silent⟩
  | submit => exact ⟨b, h.enter rfl orderly⟩
  | wait => exact ⟨b, h.enter rfl orderly⟩
  | cancel =>
      rw [List.append_nil]
      exact ⟨_, h.push_other rfl (fun _ => rfl) (fun _ => rfl) fun _ => rfl⟩
  | waker flagged =>
      rw [List.append_nil]
      refine ⟨_, h.push_internal .waker flagged rfl rfl (fun j other => ?_) fun _ => rfl⟩
      cases j with
      | waker => exact absurd rfl other
      | timer => rfl
  | timer flagged =>
      rw [List.append_nil]
      refine ⟨_, h.push_internal .timer flagged rfl rfl (fun j other => ?_) fun _ => rfl⟩
      cases j with
      | waker => rfl
      | timer => exact absurd rfl other
  | skip =>
      rw [List.append_nil]
      exact ⟨b, h.registered⟩
  | rearm _ opened =>
      rw [List.append_nil]
      exact ⟨_, h.push_other rfl (watch_polls_internal r _ _ narrow opened) (fun _ => rfl) fun _ => rfl⟩
  | take front taken => exact ⟨_, h.consume front taken⟩

theorem Moves.watchful (moves : Moves r u log r') (h : Watchful t b r)
    (narrow : r.registry.Narrow) (orderly : Transcript.Orderly (t ++ u)) :
    ∃ b', Watchful (t ++ u) b' r' := by
  induction moves with
  | rest =>
      rw [List.append_nil]
      exact ⟨b, h⟩
  | step moves move ih =>
      rw [← List.append_assoc] at orderly ⊢
      obtain ⟨b₁, h₁⟩ := ih orderly.before
      exact move.watchful h₁ (narrow.reflagged moves.reflagged) orderly

theorem Moves.descriptor_eq (moves : Moves r u log r') {i : Internal} :
    i.descriptor r' = i.descriptor r := by
  induction moves with
  | rest => rfl
  | step _ move ih =>
      refine Eq.trans ?_ ih
      cases move with
      | take _ taken => exact (taken.flag i).2
      | _ => rfl

/-! ### Calls -/

/-- Pushing enters the ring at most once, and fails without a push. -/
theorem Pushed.watchful {result : Except Cause Unit} {queues : Queues}
    (pushed : Pushed r.queues request u (result, queues)) (h : Watchful t b r)
    (orderly : Transcript.Orderly (t ++ u)) :
    ∃ q, Watchful (t ++ u) b { r with queues := q } ∧
      (result = .ok () → queues = q.append request) ∧ ∀ c, result = .error c → queues = q := by
  cases pushed with
  | room =>
      rw [List.append_nil]
      exact ⟨r.queues, h, fun _ => rfl, nofun⟩
  | flushed => exact ⟨_, h.enter rfl orderly, fun _ => rfl, nofun⟩
  | refused => exact ⟨_, h.enter rfl orderly, nofun, fun _ _ => rfl⟩
  | crowded => exact ⟨_, h.enter rfl orderly, nofun, fun _ _ => rfl⟩

theorem Added.watchful {fd : Descriptor} {interest : Interest} {token : Token}
    {result : Except Error Unit} (added : Added r fd interest token u (result, r'))
    (wf : r.registry.WellFormed) (narrow : r.registry.Narrow) (h : Watchful t b r)
    (orderly : Transcript.Orderly (t ++ u)) : ∃ b', Watchful (t ++ u) b' r' := by
  have look : ∀ {reply}, Transcript.Silent [.asked (.getFlags fd) reply] :=
    Transcript.silent_singleton rfl
  cases added with
  | closed => exact ⟨b, h.aside look⟩
  | duplicate => exact ⟨b, h.aside look⟩
  | unpushed _ pushed =>
      rw [← List.singleton_append, ← List.append_assoc] at orderly ⊢
      obtain ⟨q, kept, -, same⟩ := pushed.watchful (h.aside look) orderly
      rw [same _ rfl]
      exact ⟨b, kept.registered⟩
  | @added k placed t' queues hins pushed =>
      have opens : 0 ≤ fd := orderly.opened
        (List.mem_append_right _ (List.mem_append_left _ List.mem_cons_self))
      have ins := wf.insert_inserted hins
      rw [Transcript.append_between] at orderly ⊢
      obtain ⟨q, kept, same, -⟩ := pushed.watchful (h.aside look) orderly.before
      have other := watch_polls_internal r fd interest.pollMask (narrow.inserted ins opens)
        ins.get?_self
      exact ⟨_, Watchful.aside (r := { r with queues, registry := placed })
        (kept.push_other (same rfl) other (fun _ => rfl) fun _ => rfl)
        (Transcript.silent_singleton rfl)⟩

theorem Served.watchful {op : Operation} {answer : Answer} (served : r.Served op u answer r')
    (wf : r.registry.WellFormed) (narrow : r.registry.Narrow) (h : Watchful t b r)
    (orderly : Transcript.Orderly (t ++ u)) : ∃ b', Watchful (t ++ u) b' r' := by
  have noted : ∀ {record}, Transcript.Silent [.noted record] := Transcript.silent_singleton rfl
  cases served with
  | add added => exact added.watchful wf narrow h orderly
  | modify modified =>
      cases modified with
      | unknown => exact ⟨b, h.aside Transcript.silent_nil⟩
      | rekeyed => exact ⟨b, (h.aside noted).registered⟩
  | remove removed =>
      cases removed with
      | unknown => exact ⟨b, h.aside Transcript.silent_nil⟩
      | removed => exact ⟨b, (h.aside noted).registered⟩
  | poll moves => exact moves.watchful h narrow orderly
  | post silent => exact ⟨b, h.aside silent⟩
  | wakeup silent => exact ⟨b, h.aside silent⟩

end Ring
end Multiplexer

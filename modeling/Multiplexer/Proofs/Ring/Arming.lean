import Multiplexer.Proofs.Ring.Books

/-! The polls of a ring, told apart by their data. Data are unissued until a registration gets them;
while it has them they are armed, pending or failed; then they are ended for good. Every move and
every call takes data from one phase to the next, as long as the system completes only polls that
owe a completion. -/
namespace Multiplexer.Ring

/-- Where data stand. `failed` tells which events were dispatched for a failed poll, since when
nothing was taken under its data. -/
inductive Phase (b : Books) (registry : Registry) (rearm : List Key) (cancels : List UInt64)
    (failed : UInt64 → Event → Prop) (data : UInt64) : Prop
  | unissued : registry.get? (.unpack data) = none → b.polls data = [] →
      Phase b registry rearm cancels failed data
  | pending {e : Registration} : registry.get? (.unpack data) = some e → e.rearm = true →
      b.live data = [] → .unpack data ∈ rearm → Phase b registry rearm cancels failed data
  | armed {e : Registration} {multishot : Bool} : registry.get? (.unpack data) = some e →
      e.rearm = false → b.live data = [.poll e.descriptor e.interest.pollMask multishot data] →
      Phase b registry rearm cancels failed data
  | failed {e : Registration} : registry.get? (.unpack data) = some e → e.rearm = false →
      b.live data = [] → failed data ⟨e.descriptor, e.token, .readiness { error := true }⟩ →
      Phase b registry rearm cancels failed data
  | ended : registry.get? (.unpack data) = none →
      (Key.unpack data).generation.toNat < (registry.generation (Key.unpack data).index).toNat →
      (b.live data ≠ [] → data ∈ cancels ∨ b.Withdrawn data) →
      Phase b registry rearm cancels failed data

structure Armed (t : Transcript) (b : Books) (r : Ring) (failed : UInt64 → Event → Prop) :
    Prop where
  linked : Balanced (.empty 0) t b.pushed b.consumed r.queues
  owed : Owed b.pushed b.consumed r.queues.completions
  counted : ∀ {data}, ¬ Reserved data → b.finals data ≤ (b.polls data).length
  phase : ∀ {data}, ¬ Reserved data → Phase b r.registry r.rearm r.cancels failed data

section

variable {b b' : Books} {registry registry' : Registry} {rearm rearm' : List Key}
  {cancels cancels' : List UInt64} {failed failed' : UInt64 → Event → Prop} {data : UInt64}

/-- A phase stays while nothing that it speaks of changes. -/
theorem Phase.frame (h : Phase b registry rearm cancels failed data)
    (found : registry'.get? (.unpack data) = registry.get? (.unpack data))
    (later : (registry.generation (Key.unpack data).index).toNat ≤
      (registry'.generation (Key.unpack data).index).toNat)
    (polls : b'.polls data = b.polls data) (live : b'.live data = b.live data)
    (kept : ∀ {e}, registry.get? (.unpack data) = some e → e.rearm = true →
      .unpack data ∈ rearm → .unpack data ∈ rearm')
    (withdrawn : data ∈ cancels ∨ b.Withdrawn data → data ∈ cancels' ∨ b'.Withdrawn data)
    (still : ∀ {event}, failed data event → failed' data event) :
    Phase b' registry' rearm' cancels' failed' data := by
  cases h with
  | unissued absent none => exact .unissued (found.trans absent) (polls.trans none)
  | pending opened flagged idle listed =>
      exact .pending (found.trans opened) flagged (live.trans idle) (kept opened flagged listed)
  | armed opened clear one => exact .armed (found.trans opened) clear (live.trans one)
  | failed opened clear idle reported =>
      exact .failed (found.trans opened) clear (live.trans idle) (still reported)
  | ended absent past pulled =>
      refine .ended (found.trans absent) (Nat.lt_of_lt_of_le past later) fun owes => ?_
      exact withdrawn (pulled (live ▸ owes))

theorem Phase.idle_of_flagged (h : Phase b registry rearm cancels failed data) {e : Registration}
    (opened : registry.get? (.unpack data) = some e) (flagged : e.rearm = true) :
    b.live data = [] ∧ .unpack data ∈ rearm := by
  cases h with
  | unissued absent => cases absent.symm.trans opened
  | pending opened' flagged' idle listed => exact ⟨idle, listed⟩
  | armed opened' clear =>
      cases opened.symm.trans opened'
      cases flagged.symm.trans clear
  | failed opened' clear =>
      cases opened.symm.trans opened'
      cases flagged.symm.trans clear
  | ended absent => cases absent.symm.trans opened

/-- Where a completion is owed, data are armed or ended. -/
theorem Phase.of_owing (h : Phase b registry rearm cancels failed data)
    (owes : b.finals data < (b.polls data).length) :
    (∃ e multishot, registry.get? (.unpack data) = some e ∧ e.rearm = false ∧
      b.live data = [.poll e.descriptor e.interest.pollMask multishot data]) ∨
    (registry.get? (.unpack data) = none ∧
      (Key.unpack data).generation.toNat < (registry.generation (Key.unpack data).index).toNat ∧
      (data ∈ cancels ∨ b.Withdrawn data)) := by
  have busy := Books.live_ne_nil owes
  cases h with
  | unissued absent none =>
      rw [none] at owes
      exact absurd owes (Nat.not_lt_zero _)
  | pending opened flagged idle listed => exact absurd idle busy
  | armed opened clear one => exact .inl ⟨_, _, opened, clear, one⟩
  | failed opened clear idle reported => exact absurd idle busy
  | ended absent past pulled => exact .inr ⟨absent, past, pulled busy⟩

end

/-- The failures known after a log: those known before whose data were not met again, and those of
the log itself. -/
def Failing (failed : UInt64 → Event → Prop) (log : Log) (data : UInt64) (event : Event) : Prop :=
  (failed data event ∧ ∀ entry ∈ log, entry.1.data ≠ data) ∨
    ∃ before c events after, log = before ++ (c, events) :: after ∧ c.data = data ∧ c.result < 0 ∧
      event ∈ events ∧ ∀ entry ∈ after, entry.1.data ≠ data

theorem Failing.append {failed : UInt64 → Event → Prop} {log more : Log} {data : UInt64}
    {event : Event} (h : Failing (Failing failed log) more data event) :
    Failing failed (log ++ more) data event := by
  rcases h with ⟨⟨known, quiet⟩ | ⟨before, c, events, after, rfl, same, neg, mem, quiet⟩, unmet⟩ |
    ⟨before, c, events, after, rfl, same, neg, mem, quiet⟩
  · refine .inl ⟨known, fun entry hentry => ?_⟩
    rcases List.mem_append.mp hentry with hentry | hentry
    · exact quiet entry hentry
    · exact unmet entry hentry
  · refine .inr ⟨before, c, events, after ++ more, ?_, same, neg, mem, fun entry hentry => ?_⟩
    · rw [List.append_assoc, List.cons_append]
    · rcases List.mem_append.mp hentry with hentry | hentry
      · exact quiet entry hentry
      · exact unmet entry hentry
  · exact .inr ⟨log ++ before, c, events, after, by rw [List.append_assoc], same, neg, mem, quiet⟩

namespace Armed

variable {t u : Transcript} {b : Books} {r : Ring} {failed failed' : UInt64 → Event → Prop}
  {c : Completion} {rest : List Completion}

theorem mono (h : Armed t b r failed)
    (imp : ∀ {data event}, failed data event → failed' data event) : Armed t b r failed' where
  linked := h.linked
  owed := h.owed
  counted := h.counted
  phase := fun plain => (h.phase plain).frame rfl (Nat.le_refl _) rfl rfl (fun _ _ listed => listed)
    id imp

theorem aside (h : Armed t b r failed) (silent : u.Silent) : Armed (t ++ u) b r failed where
  linked := h.linked.then_aside silent
  owed := h.owed
  counted := h.counted
  phase := h.phase

/-- Entering the ring only adds completions, and those are owed. -/
theorem enter (h : Armed t b r failed) {s : Step} {entered : Entered}
    (hs : s.entered? = some (r.queues, entered)) (lawful : Transcript.Lawful (t ++ [s])) :
    Armed (t ++ [s]) b { r with queues := r.queues.after entered } failed where
  linked := h.linked.then_enter hs
  owed := by
    have owed := lawful.owed rfl hs
    rw [← h.linked.requests] at owed
    have posted : t.posted = b.consumed ++ r.queues.completions := h.linked.completions
    rw [posted] at owed
    exact h.owed.append owed
  counted := h.counted
  phase := h.phase

/-- Pushing keeps the books as long as every phase is accounted for. -/
theorem push (h : Armed t b r failed) (request : Request) {r' : Ring}
    (queues : r'.queues = r.queues.append request)
    (phase : ∀ {data}, ¬ Reserved data →
      Phase (b.push request) r'.registry r'.rearm r'.cancels failed data) :
    Armed t (b.push request) r' failed where
  linked := by
    rw [queues]
    exact h.linked.then_push request
  owed := by
    rw [queues]
    exact h.owed.push
  counted := by
    intro data plain
    refine (h.counted plain).trans ?_
    simp only [Books.polls, Books.push, List.filter_append, List.length_append]
    exact Nat.le_add_right _ _
  phase := phase

/-- A completion that is taken has been owed. -/
theorem owes (h : Armed t b r failed) (front : r.queues.completions = c :: rest)
    (plain : ¬ Reserved c.data) :
    b.finals c.data < (b.polls c.data).length ∧ (c.result < 0 → c.more = false) := by
  have owed := h.owed
  rw [front] at owed
  exact owed.1 plain

theorem consume (h : Armed t b r failed) (front : r.queues.completions = c :: rest) {r' : Ring}
    (queues : r'.queues = { r.queues with completions := rest }) (silent : u.Silent)
    (phase : ∀ {data}, ¬ Reserved data →
      Phase (b.consume c) r'.registry r'.rearm r'.cancels failed' data) :
    Armed (t ++ u) (b.consume c) r' failed' where
  linked := by
    rw [queues]
    exact (h.linked.then_take front).then_aside silent
  owed := by
    have owed := h.owed
    rw [front] at owed
    rw [queues]
    exact owed.2
  counted := by
    intro data plain
    change (b.consume c).finals data ≤ (b.polls data).length
    rw [Books.finals_consume]
    cases last : c.ends data with
    | false => exact h.counted plain
    | true =>
        have same : c.data = data := by
          simp only [Completion.ends, Bool.and_eq_true, beq_iff_eq] at last
          exact last.1
        subst same
        exact (h.owes front plain).1
  phase := phase

end Armed

/-! ### Completions -/

section

variable {b : Books} {r r' : Ring} {registry : Registry} {rearm : List Key} {cancels : List UInt64}
  {failed : UInt64 → Event → Prop} {c : Completion} {t : Transcript} {events : List Event}
  {data : UInt64}

theorem Completion.ends_self (last : c.more = false) : c.ends c.data = true := by
  rw [Completion.ends, last, beq_self_eq_true]
  rfl

theorem Completion.ends_other (other : c.data ≠ data) : c.ends data = false := by
  rw [Completion.ends, beq_false_of_ne other, Bool.false_and]

theorem Phase.meet_other (h : Phase b registry rearm cancels failed data) (other : c.data ≠ data) :
    Phase (b.consume c) registry rearm cancels (Failing failed [(c, events)]) data := by
  refine h.frame rfl (Nat.le_refl _) rfl (Books.live_consume (Completion.ends_other other))
    (fun _ _ listed => listed) id fun known => .inl ⟨known, fun entry hentry => ?_⟩
  rw [List.mem_singleton.mp hentry]
  exact other

theorem Phase.mark_other (h : Phase b registry rearm cancels failed data) {key : Key}
    (other : Key.unpack data ≠ key) (pending : Bool) (more : List Key) :
    Phase b (registry.modify key ({ · with rearm := pending })) (more ++ rearm) cancels failed
      data := by
  refine h.frame ?_ ?_ rfl rfl (fun _ _ listed => List.mem_append_right _ listed) id id
  · rw [Registry.get?_modify, if_neg other]
  · rw [Registry.generation_modify]

theorem Taken.phase_other (taken : Taken r c t events r') (other : c.data ≠ data)
    (h : Phase b r.registry r.rearm r.cancels failed data) :
    Phase (b.consume c) r'.registry r'.rearm r'.cancels (Failing failed [(c, events)]) data := by
  have met : Phase (b.consume c) r.registry r.rearm r.cancels (Failing failed [(c, events)]) data :=
    h.meet_other other
  have elsewhere : Key.unpack data ≠ .unpack c.data := by
    intro same
    refine other ?_
    rw [← Key.pack_unpack c.data, ← same, Key.pack_unpack]
  cases taken with
  | wakeup => exact met
  | timer => exact met
  | withdrawal => exact met
  | stale => exact met
  | rejected => exact met.mark_other elsewhere true [_]
  | cancelled => exact met.mark_other elsewhere true [_]
  | failed => exact met
  | ready =>
      split
      · exact met
      · exact met.mark_other elsewhere true [_]

theorem negative_of_rejects (h : r.rejects c = true) : c.result < 0 := by
  simp only [rejects, Bool.and_eq_true, beq_iff_eq] at h
  rw [h.2]
  decide

/-- The last completion of an armed poll leaves its registration to be rearmed. -/
theorem Phase.marked {e : Registration} {multishot : Bool}
    (opened : registry.get? (.unpack c.data) = some e)
    (one : b.live c.data = [.poll e.descriptor e.interest.pollMask multishot c.data])
    (last : c.more = false) :
    Phase (b.consume c) (registry.modify (.unpack c.data) ({ · with rearm := true }))
      (.unpack c.data :: rearm) cancels failed c.data := by
  refine .pending (e := { e with rearm := true }) ?_ rfl ?_ List.mem_cons_self
  · rw [Registry.get?_modify, if_pos rfl, opened, Option.map_some]
  · rw [Books.live_consume_final (Completion.ends_self last), one, List.tail_cons]

theorem Taken.phase_self (taken : Taken r c t events r') (plain : ¬ Reserved c.data)
    (owes : b.finals c.data < (b.polls c.data).length ∧ (c.result < 0 → c.more = false))
    (h : Phase b r.registry r.rearm r.cancels failed c.data) :
    Phase (b.consume c) r'.registry r'.rearm r'.cancels (Failing failed [(c, events)]) c.data := by
  obtain ⟨owing, last⟩ := owes
  have armed : ∀ {e}, r.registry.get? (.unpack c.data) = some e → e.rearm = false ∧
      ∃ multishot, b.live c.data = [.poll e.descriptor e.interest.pollMask multishot c.data] := by
    intro e opened
    rcases h.of_owing owing with ⟨e', multishot, opened', clear, one⟩ | ⟨absent, -⟩
    · cases opened.symm.trans opened'
      exact ⟨clear, multishot, one⟩
    · cases absent.symm.trans opened
  cases taken with
  | wakeup wakes => exact absurd (.inl wakes) plain
  | timer timed => exact absurd (.inr (.inl timed)) plain
  | withdrawal withdraws => exact absurd (.inr (.inr withdraws)) plain
  | stale _ absent =>
      rcases h.of_owing owing with ⟨_, _, opened, -⟩ | ⟨_, past, pulled⟩
      · cases absent.symm.trans opened
      · exact .ended absent past fun _ => pulled
  | rejected _ opened rejected =>
      obtain ⟨-, multishot, one⟩ := armed opened
      exact .marked opened one (last (negative_of_rejects rejected))
  | cancelled _ opened _ cancelled =>
      obtain ⟨-, multishot, one⟩ := armed opened
      refine .marked opened one (last ?_)
      rw [cancelled]
      decide
  | failed _ opened _ _ negative =>
      obtain ⟨clear, multishot, one⟩ := armed opened
      refine .failed opened clear ?_
        (.inr ⟨[], c, _, [], rfl, rfl, negative, List.mem_singleton_self _, fun _ h => nomatch h⟩)
      rw [Books.live_consume_final (Completion.ends_self (last negative)), one, List.tail_cons]
  | ready _ opened =>
      obtain ⟨clear, multishot, one⟩ := armed opened
      cases goesOn : c.more with
      | true =>
          have lasts : c.ends c.data = false := by
            rw [Completion.ends, goesOn, Bool.not_true, Bool.and_false]
          exact .armed opened clear ((Books.live_consume lasts).trans one)
      | false => exact .marked opened one goesOn

end

/-! ### Moves -/

variable {t u : Transcript} {b : Books} {r r' : Ring} {failed : UInt64 → Event → Prop} {log : Log}

theorem Failing.nil {data : UInt64} {event : Event} (h : failed data event) :
    Failing failed [] data event := .inl ⟨h, fun _ h => nomatch h⟩

theorem watch_polls {data internal : UInt64} {fd : Descriptor} {mask : PollMask}
    (plain : ¬ Reserved data) (reserved : Reserved internal) :
    (r.watch fd mask internal).polls data = false :=
  beq_false_of_ne fun same => plain (same ▸ reserved)

theorem Phase.push_other {registry : Registry} {rearm : List Key} {cancels : List UInt64}
    {data : UInt64} {request : Request} (h : Phase b registry rearm cancels failed data)
    (other : request.polls data = false) :
    Phase (b.push request) registry rearm cancels failed data :=
  h.frame rfl (Nat.le_refl _) (Books.polls_push other) (Books.live_push other)
    (fun _ _ listed => listed)
    (fun pulled => pulled.imp_right fun withdrawn => withdrawn.push other) id

theorem Move.armed (move : Move r u log r') (h : Armed t b r failed)
    (lawful : Transcript.Lawful (t ++ u)) :
    ∃ b', b'.consumed = b.consumed ++ log.map (·.1) ∧
      Armed (t ++ u) b' r' (Failing failed log) := by
  cases move with
  | aside silent => exact ⟨b, (List.append_nil _).symm, (h.aside silent).mono .nil⟩
  | submit => exact ⟨b, (List.append_nil _).symm, (h.enter rfl lawful).mono .nil⟩
  | wait => exact ⟨b, (List.append_nil _).symm, (h.enter rfl lawful).mono .nil⟩
  | @cancel data rest pending =>
      refine ⟨b.push (.cancel data cancelKey), (List.append_nil _).symm, ?_⟩
      rw [List.append_nil]
      refine (h.push _ rfl fun {data'} plain => ?_).mono .nil
      refine (h.phase plain).frame rfl (Nat.le_refl _) (Books.polls_push rfl) (Books.live_push rfl)
        (fun _ _ listed => listed) ?_ id
      rintro (listed | withdrawn)
      · rw [pending] at listed
        rcases List.mem_cons.mp listed with rfl | listed
        · exact .inr Books.withdrawn_push_cancel
        · exact .inl listed
      · exact .inr (withdrawn.push rfl)
  | waker =>
      refine ⟨b.push (r.watch r.waker.descriptor .input wakeKey), (List.append_nil _).symm, ?_⟩
      rw [List.append_nil]
      refine (h.push _ rfl fun plain => ?_).mono .nil
      exact (h.phase plain).push_other (watch_polls plain (.inl rfl))
  | timer =>
      refine ⟨b.push (r.watch r.timer.descriptor .input timerKey), (List.append_nil _).symm, ?_⟩
      rw [List.append_nil]
      refine (h.push _ rfl fun plain => ?_).mono .nil
      exact (h.phase plain).push_other (watch_polls plain (.inr (.inl rfl)))
  | @skip key rest front idle =>
      refine ⟨b, (List.append_nil _).symm, ?_⟩
      rw [List.append_nil]
      refine Armed.mono ⟨h.linked, h.owed, h.counted, fun {data} plain => ?_⟩ .nil
      refine (h.phase plain).frame rfl (Nat.le_refl _) rfl rfl
        (fun opened flagged listed => ?_) id id
      rw [front] at listed
      rcases List.mem_cons.mp listed with same | listed
      · rw [same] at opened
        rw [idle _ opened] at flagged
        cases flagged
      · exact listed
  | @rearm key rest e front opened flagged =>
      refine ⟨b.push (r.watch e.descriptor e.interest.pollMask key.pack),
        (List.append_nil _).symm, ?_⟩
      rw [List.append_nil]
      refine (h.push _ rfl fun {data} plain => ?_).mono .nil
      by_cases same : key.pack = data
      · subst same
        have polls : (r.watch e.descriptor e.interest.pollMask key.pack).polls key.pack = true :=
          beq_self_eq_true key.pack
        have idle := (h.phase plain).idle_of_flagged ((Key.unpack_pack key).symm ▸ opened) flagged
        refine .armed (e := { e with rearm := false }) ?_ rfl
          (Books.live_push_self polls idle.1 (h.counted plain))
        rw [Registry.get?_modify, Key.unpack_pack, if_pos rfl, opened, Option.map_some]
      · have elsewhere : Key.unpack data ≠ key := fun eq => same (by rw [← eq, Key.pack_unpack])
        have quiet : (r.watch e.descriptor e.interest.pollMask key.pack).polls data = false :=
          beq_false_of_ne same
        refine ((h.phase plain).push_other quiet).frame ?_ ?_ rfl rfl (fun _ _ listed => ?_) id id
        · rw [Registry.get?_modify, if_neg elsewhere]
        · rw [Registry.generation_modify]
        · rw [front] at listed
          exact (List.mem_cons.mp listed).resolve_left elsewhere
  | @take c rest _ events r' front taken =>
      refine ⟨b.consume c, rfl, h.consume front ?_ taken.silent fun {data} plain => ?_⟩
      · change { r'.queues with completions := rest } = _
        rw [taken.queues_eq]
      · by_cases same : c.data = data
        · subst same
          exact taken.phase_self plain (h.owes front plain) (h.phase plain)
        · exact taken.phase_other same (h.phase plain)

theorem Moves.armed (moves : Moves r u log r') (h : Armed t b r failed)
    (lawful : Transcript.Lawful (t ++ u)) :
    ∃ b', b'.consumed = b.consumed ++ log.map (·.1) ∧
      Armed (t ++ u) b' r' (Failing failed log) := by
  induction moves with
  | rest =>
      rw [List.append_nil]
      exact ⟨b, (List.append_nil _).symm, h.mono .nil⟩
  | step _ move ih =>
      rw [← List.append_assoc] at lawful ⊢
      obtain ⟨b₁, consumed₁, armed₁⟩ := ih lawful.before
      obtain ⟨b₂, consumed₂, armed₂⟩ := move.armed armed₁ lawful
      refine ⟨b₂, ?_, armed₂.mono .append⟩
      rw [consumed₂, consumed₁, List.append_assoc, List.map_append]

/-! ### Calls -/

section

variable {registry registry' : Registry} {rearm : List Key} {cancels : List UInt64}
  {data : UInt64} {k k' : Key} {fd : Descriptor} {interest : Interest} {token : Token}
  {result : Except Error Unit}

theorem Pushed.armed {request : Request} {outcome : Except Cause Unit} {queues : Queues}
    (pushed : Pushed r.queues request u (outcome, queues)) (h : Armed t b r failed)
    (lawful : Transcript.Lawful (t ++ u)) :
    ∃ q, Armed (t ++ u) b { r with queues := q } failed ∧
      (outcome = .ok () → queues = q.append request) ∧ ∀ c, outcome = .error c → queues = q := by
  cases pushed with
  | room =>
      rw [List.append_nil]
      exact ⟨r.queues, h, fun _ => rfl, nofun⟩
  | flushed => exact ⟨_, h.enter rfl lawful, fun _ => rfl, nofun⟩
  | refused => exact ⟨_, h.enter rfl lawful, nofun, fun _ _ => rfl⟩
  | crowded => exact ⟨_, h.enter rfl lawful, nofun, fun _ _ => rfl⟩

/-- A key that opens nothing yet, in the generation its slot is in, has never been used. -/
theorem Phase.unused (h : Phase b registry rearm cancels failed k.pack)
    (absent : registry.get? k = none)
    (current : (registry.generation k.index).toNat ≤ k.generation.toNat) : b.polls k.pack = [] := by
  cases h with
  | unissued _ none => exact none
  | pending opened =>
      rw [Key.unpack_pack] at opened
      cases absent.symm.trans opened
  | armed opened =>
      rw [Key.unpack_pack] at opened
      cases absent.symm.trans opened
  | failed opened =>
      rw [Key.unpack_pack] at opened
      cases absent.symm.trans opened
  | ended _ past =>
      rw [Key.unpack_pack] at past
      exact absurd past (Nat.not_lt.mpr current)

theorem Phase.reopen (h : Phase b registry rearm cancels failed data)
    (found : registry'.get? (.unpack data) = registry.get? (.unpack data))
    (rises : ∀ i, (registry.generation i).toNat ≤ (registry'.generation i).toNat) :
    Phase b registry' rearm cancels failed data :=
  h.frame found (rises _) rfl rfl (fun _ _ listed => listed) id id

theorem Added.armed (added : Added r fd interest token u (result, r')) (wf : r.registry.WellFormed)
    (rises : ∀ i, (r.registry.generation i).toNat ≤ (r'.registry.generation i).toNat)
    (h : Armed t b r failed) (lawful : Transcript.Lawful (t ++ u)) :
    ∃ b', b'.consumed = b.consumed ∧ Armed (t ++ u) b' r' failed := by
  have look : ∀ reply, Transcript.Silent [.asked (.getFlags fd) reply] :=
    fun _ => Transcript.silent_singleton rfl
  cases added with
  | closed => exact ⟨b, rfl, h.aside (look _)⟩
  | duplicate => exact ⟨b, rfl, h.aside (look _)⟩
  | @unpushed k placed t' c queues hins pushed =>
      rw [← List.singleton_append, ← List.append_assoc] at lawful ⊢
      obtain ⟨q, armed, -, same⟩ := pushed.armed (h.aside (look _)) lawful
      have ins := wf.insert_inserted hins
      refine ⟨b, rfl, ?_, ?_, armed.counted, fun {data} plain => ?_⟩
      · rw [same c rfl]
        exact armed.linked
      · rw [same c rfl]
        exact armed.owed
      · refine (armed.phase plain).reopen ?_ rises
        change (placed.discard fd).get? _ = r.registry.get? _
        rw [(ins.discard wf).get?, ins.get?]
        split
        · rename_i key
          rw [key, ins.get?_key_eq_none]
        · rfl
  | @added k placed t' queues hins pushed =>
      have noted : Transcript.Silent [.noted (.pollSubmitted fd interest)] :=
        Transcript.silent_singleton rfl
      rw [Transcript.append_between] at lawful ⊢
      obtain ⟨q, armed, same, -⟩ := pushed.armed (h.aside (look _)) lawful.before
      have ins := wf.insert_inserted hins
      refine ⟨b.push (r.watch fd interest.pollMask k.pack), rfl,
        (armed.push _ (same rfl) fun {data} plain => ?_).aside noted⟩
      by_cases own : k.pack = data
      · subst own
        have polls : (r.watch fd interest.pollMask k.pack).polls k.pack = true :=
          beq_self_eq_true k.pack
        have unused : b.polls k.pack = [] := (armed.phase plain).unused ins.get?_key_eq_none
          (Nat.le_of_eq (congrArg UInt32.toNat ins.generation))
        have idle : b.live k.pack = [] := by rw [Books.live, unused, List.drop_nil]
        refine .armed (e := { descriptor := fd, interest, token }) ?_ rfl
          (Books.live_push_self polls idle (armed.counted plain))
        rw [Key.unpack_pack]
        exact ins.get?_self
      · have quiet : (r.watch fd interest.pollMask k.pack).polls data = false :=
          beq_false_of_ne own
        refine ((armed.phase plain).push_other quiet).reopen ?_ rises
        change placed.get? _ = r.registry.get? _
        rw [ins.get?, if_neg fun same => own (by rw [← same, Key.pack_unpack])]

/-- The data of an ended registration stay ended, and its poll is withdrawn. -/
theorem Phase.retire (rearm' : List Key) (h : Phase b registry rearm cancels failed k.pack)
    {e : Registration}
    (opened : registry.get? k = some e) (absent : registry'.get? k = none)
    (past : k.generation.toNat < (registry'.generation k.index).toNat) :
    Phase b registry' rearm' (if e.rearm then cancels else k.pack :: cancels) failed k.pack := by
  refine .ended ?_ ?_ fun owes => ?_
  · rw [Key.unpack_pack]
    exact absent
  · rw [Key.unpack_pack]
    exact past
  · cases flagged : e.rearm with
    | true =>
        rw [← Key.unpack_pack k] at opened
        exact absurd (h.idle_of_flagged opened flagged).1 owes
    | false => exact .inl List.mem_cons_self

theorem Phase.withdraw (h : Phase b registry rearm cancels failed data) (e : Registration)
    (other : UInt64) :
    Phase b registry rearm (if e.rearm then cancels else other :: cancels) failed data := by
  refine h.frame rfl (Nat.le_refl _) rfl rfl (fun _ _ listed => listed) (fun pulled => ?_) id
  refine pulled.imp_left fun listed => ?_
  split
  · exact listed
  · exact List.mem_cons_of_mem _ listed

theorem Removed.armed (removed : Removed r fd u (result, r'))
    (rises : ∀ i, (r.registry.generation i).toNat ≤ (r'.registry.generation i).toNat)
    (h : Armed t b r failed) : Armed (t ++ u) b r' failed := by
  cases removed with
  | unknown => exact h.aside Transcript.silent_nil
  | @removed k e rest _ _ rem =>
      refine Armed.aside ⟨h.linked, h.owed, h.counted, fun {data} plain => ?_⟩
        (Transcript.silent_singleton rfl)
      by_cases own : k.pack = data
      · subst own
        have absent := rem.get? k
        rw [if_pos rfl] at absent
        refine (h.phase plain).retire _ rem.opened absent ?_
        have next := rises k.index
        change _ ≤ (rest.generation k.index).toNat at next
        rw [rem.generation_eq, if_pos rfl, Registry.generation_of_get? rem.opened] at next ⊢
        rw [UInt32.toNat_add, UInt32.toNat_one] at next ⊢
        omega
      · refine ((h.phase plain).reopen ?_ rises).withdraw e k.pack
        change rest.get? _ = r.registry.get? _
        rw [rem.get?, if_neg fun same => own (by rw [← same, Key.pack_unpack])]

theorem Modified.armed (modified : Modified r fd interest u (result, r'))
    (rises : ∀ i, (r.registry.generation i).toNat ≤ (r'.registry.generation i).toNat)
    (h : Armed t b r failed) : Armed (t ++ u) b r' failed := by
  cases modified with
  | unknown => exact h.aside Transcript.silent_nil
  | @rekeyed k k' e moved _ _ rek =>
      refine Armed.aside ⟨h.linked, h.owed, h.counted, fun {data} plain => ?_⟩
        (Transcript.silent_singleton rfl)
      have current := Registry.generation_of_get? rek.opened
      have next := rises k.index
      change _ ≤ ((moved.modify k' _).generation k.index).toNat at next
      rw [Registry.generation_modify, rek.generation_eq, if_pos rfl, current, UInt32.toNat_add,
        UInt32.toNat_one] at next
      have index : k'.index = k.index := by rw [rek.key]
      have generation : k'.generation = k.generation + 1 := by rw [rek.key]
      by_cases own : k.pack = data
      · subst own
        refine (h.phase plain).retire _ rek.opened ?_ ?_
        · rw [Registry.get?_modify, if_neg rek.key_ne.symm, rek.get?, if_neg rek.key_ne.symm,
            if_pos rfl]
        · rw [Registry.generation_modify, rek.generation_eq, if_pos rfl, current, UInt32.toNat_add,
            UInt32.toNat_one]
          omega
      · by_cases new : k'.pack = data
        · subst new
          have absent : r.registry.get? k' = none := by
            rw [Option.eq_none_iff_forall_ne_some]
            intro e' opened
            have meet := Registry.generation_of_get? opened
            rw [index, current] at meet
            exact rek.key_ne (rek.key.trans (congrArg (Key.mk k.index) (generation ▸ meet).symm))
          have unused : b.polls k'.pack = [] := (h.phase plain).unused absent (by
            rw [index, current, generation, UInt32.toNat_add, UInt32.toNat_one]
            exact next)
          refine .pending (e := { e with interest, rearm := true }) ?_ rfl ?_ ?_
          · rw [Key.unpack_pack, Registry.get?_modify, if_pos rfl, rek.get?, if_pos rfl,
              Option.map_some]
          · rw [Books.live, unused, List.drop_nil]
          · rw [Key.unpack_pack]
            exact List.mem_cons_self
        · have old : Key.unpack data ≠ k := fun same => own (by rw [← same, Key.pack_unpack])
          have fresh : Key.unpack data ≠ k' := fun same => new (by rw [← same, Key.pack_unpack])
          refine Phase.withdraw ((h.phase plain).frame ?_ (rises _) rfl rfl
            (fun _ _ listed => List.mem_cons_of_mem _ listed) id id) e k.pack
          change (moved.modify k' _).get? _ = r.registry.get? _
          rw [Registry.get?_modify, if_neg fresh, rek.get?, if_neg fresh, if_neg old]

/-- Every call to a ring keeps its books. -/
theorem Served.armed {op : Operation} {answer : Answer} (served : r.Served op u answer r')
    (wf : r.registry.WellFormed)
    (rises : ∀ i, (r.registry.generation i).toNat ≤ (r'.registry.generation i).toNat)
    (h : Armed t b r failed) (lawful : Transcript.Lawful (t ++ u)) :
    ∃ b' log, b'.consumed = b.consumed ++ log.map (·.1) ∧
      (∃ pushed, Balanced r.queues u pushed (log.map (·.1)) r'.queues) ∧
      answer.events = log.events ∧ Armed (t ++ u) b' r' (Failing failed log) := by
  cases served with
  | add added =>
      obtain ⟨b', consumed, armed⟩ := added.armed wf rises h lawful
      exact ⟨b', [], consumed.trans (List.append_nil _).symm, added.balanced, rfl, armed.mono .nil⟩
  | modify modified =>
      exact ⟨b, [], (List.append_nil _).symm, ⟨[], modified.balanced⟩, rfl,
        (modified.armed rises h).mono .nil⟩
  | remove removed =>
      exact ⟨b, [], (List.append_nil _).symm, ⟨[], removed.balanced⟩, rfl,
        (removed.armed rises h).mono .nil⟩
  | poll moves events =>
      obtain ⟨b', consumed, armed⟩ := moves.armed h lawful
      exact ⟨b', _, consumed, moves.balanced, events, armed⟩
  | post silent =>
      exact ⟨b, [], (List.append_nil _).symm, ⟨[], .aside silent⟩, rfl, (h.aside silent).mono .nil⟩
  | wakeup silent =>
      exact ⟨b, [], (List.append_nil _).symm, ⟨[], .aside silent⟩, rfl, (h.aside silent).mono .nil⟩

end

end Multiplexer.Ring

import Multiplexer.Proofs.Ring.Books

/-! Rejections of multishot polls. A ring notices a rejection by a flag that the first one clears, so
what a rejection comes to depends on those taken before it, of whatever poll. A registration whose
rejection was noticed awaits to be submitted again as a single-shot poll. -/
namespace Multiplexer
open Dialogue

namespace Ring

/-- A rejection of the poll on the waker, on the timer or of a registration. -/
def Rejection (registry : Registry) (c : Completion) : Prop :=
  c.result = -Errno.invalidArgument ∧ (c.data = wakeKey ∨ c.data = timerKey ∨
    (¬ Reserved c.data ∧ (registry.get? (.unpack c.data)).isSome = true))

instance {registry : Registry} {c : Completion} : Decidable (Rejection registry c) :=
  inferInstanceAs (Decidable (_ ∧ _))

/-- Whether multishot polls are still asked for after these completions. -/
def asking (registry : Registry) (multishot : Bool) (cs : List Completion) : Bool :=
  multishot && cs.all fun c => !decide (Rejection registry c)

def outcome (registry : Registry) (multishot : Bool) (c : Completion) : List Event :=
  if Reserved c.data then []
  else (registry.get? (.unpack c.data)).elim [] fun e =>
    if c.result = -Errno.invalidArgument ∧ multishot = true ∨ c.result = -Errno.cancelled then []
    else [⟨e.descriptor, e.token, .readiness (if c.result < 0 then { error := true }
      else PollMask.ringReady c.result.toUInt32)⟩]

def outcomes (registry : Registry) : Bool → List Completion → List Event
  | _, [] => []
  | multishot, c :: rest =>
    outcome registry multishot c ++ outcomes registry (asking registry multishot [c]) rest

variable {registry registry' : Registry} {multishot : Bool} {c : Completion}
  {cs ds : List Completion}

theorem asking_nil : asking registry multishot [] = multishot := Bool.and_true _

theorem asking_singleton :
    asking registry multishot [c] = (multishot && !decide (Rejection registry c)) := by
  rw [asking, List.all_cons, List.all_nil, Bool.and_true]

theorem asking_append :
    asking registry multishot (cs ++ ds) = asking registry (asking registry multishot cs) ds := by
  rw [asking, asking, asking, List.all_append, Bool.and_assoc]

theorem asking_eq_true_iff :
    asking registry multishot cs = true ↔ multishot = true ∧ ∀ c ∈ cs, ¬ Rejection registry c := by
  simp only [asking, Bool.and_eq_true, List.all_eq_true, Bool.not_eq_true', decide_eq_false_iff_not]

theorem outcomes_append :
    outcomes registry multishot (cs ++ ds) =
      outcomes registry multishot cs ++ outcomes registry (asking registry multishot cs) ds := by
  induction cs generalizing multishot with
  | nil => rw [asking_nil]; rfl
  | cons c cs ih =>
      have both : asking registry multishot (c :: cs) =
          asking registry (asking registry multishot [c]) cs :=
        @asking_append registry multishot [c] cs
      rw [List.cons_append, outcomes, ih, outcomes, List.append_assoc, both]

/-- A rejection of the poll of a registration is taken for a failure unless it is noticed. -/
theorem outcome_rejected {e : Registration} (plain : ¬ Reserved c.data)
    (opened : registry.get? (.unpack c.data) = some e)
    (rejected : c.result = -Errno.invalidArgument) :
    outcome registry multishot c =
      if multishot = true then [] else [⟨e.descriptor, e.token, .readiness { error := true }⟩] := by
  rw [outcome, if_neg plain, opened, Option.elim_some, rejected]
  cases multishot with
  | true => rw [if_pos (.inl ⟨rfl, rfl⟩), if_pos rfl]
  | false =>
      rw [if_neg, if_pos (by decide), if_neg Bool.false_ne_true]
      rintro (⟨-, asks⟩ | cancelled)
      · cases asks
      · exact absurd cancelled (by decide)

/-! ### Registries that differ in flags -/

theorem rejection_reflagged (ref : registry.Reflagged registry') :
    Rejection registry' c ↔ Rejection registry c := by
  have same := congrArg Option.isSome (ref.get?_map_bare (.unpack c.data))
  rw [Option.isSome_map, Option.isSome_map] at same
  rw [Rejection, Rejection, same]

theorem asking_reflagged (ref : registry.Reflagged registry') :
    asking registry' multishot cs = asking registry multishot cs := by
  rw [Bool.eq_iff_iff, asking_eq_true_iff, asking_eq_true_iff]
  simp only [rejection_reflagged ref]

theorem outcome_reflagged (ref : registry.Reflagged registry') :
    outcome registry' multishot c = outcome registry multishot c := by
  have forget : ∀ (o : Option Registration) (f : Registration → List Event),
      (∀ e, f (Registry.bare e) = f e) → o.elim [] f = (o.map Registry.bare).elim [] f := by
    intro o f bare
    cases o with
    | none => rfl
    | some e => exact (bare e).symm
  rw [outcome, outcome, forget _ _ fun _ => rfl, ref.get?_map_bare, ← forget _ _ fun _ => rfl]

theorem outcomes_reflagged (ref : registry.Reflagged registry') :
    outcomes registry' multishot cs = outcomes registry multishot cs := by
  induction cs generalizing multishot with
  | nil => rfl
  | cons c cs ih => rw [outcomes, outcomes, outcome_reflagged ref, asking_reflagged ref, ih]

/-! ### What polls dispatch -/

section

variable {r r' : Ring} {t : Transcript} {events : List Event} {log : Log}

theorem rejects_eq : r.rejects c = (r.multishot && decide (c.result = -Errno.invalidArgument)) := by
  rw [rejects, beq_eq_decide]

/-- Wakeups and timers count as rejections by their result alone. -/
theorem asking_internal (internal : c.data = wakeKey ∨ c.data = timerKey) :
    (r.multishot && !r.rejects c) = asking r.registry r.multishot [c] := by
  have counts : Rejection r.registry c ↔ c.result = -Errno.invalidArgument :=
    ⟨And.left, fun result => ⟨result, internal.elim .inl (.inr ∘ .inl)⟩⟩
  rw [asking_singleton, rejects_eq, decide_eq_decide.mpr counts]
  cases r.multishot <;> rfl

theorem asking_unrejected (h : ¬ Rejection registry c) :
    asking registry multishot [c] = multishot := by
  rw [asking_singleton, decide_eq_false h, Bool.not_false, Bool.and_true]

theorem Taken.outcome_eq (taken : Taken r c t events r') :
    events = outcome r.registry r.multishot c ∧
      r'.multishot = asking r.registry r.multishot [c] := by
  have opens : ∀ {e}, ¬ Reserved c.data → r.registry.get? (.unpack c.data) = some e →
      r.rejects c = false → r.multishot = asking r.registry r.multishot [c] := by
    intro e plain opened accepted
    rw [rejects_eq] at accepted
    cases asks : r.multishot with
    | false => rfl
    | true =>
        rw [asks, Bool.true_and, decide_eq_false_iff_not] at accepted
        exact (asking_unrejected fun rejection => accepted rejection.1).symm
  cases taken with
  | wakeup wakes => exact ⟨(if_pos (.inl wakes)).symm, asking_internal (.inl wakes)⟩
  | timer timed => exact ⟨(if_pos (.inr (.inl timed))).symm, asking_internal (.inr timed)⟩
  | withdrawal withdraws =>
      refine ⟨(if_pos (.inr (.inr withdraws))).symm, (asking_unrejected fun rejection => ?_).symm⟩
      rcases rejection.2 with wakes | timed | ⟨plain, -⟩
      · exact absurd (withdraws.symm.trans wakes) (by decide)
      · exact absurd (withdraws.symm.trans timed) (by decide)
      · exact plain (.inr (.inr withdraws))
  | stale plain absent =>
      refine ⟨?_, (asking_unrejected fun rejection => ?_).symm⟩
      · rw [outcome, if_neg plain, absent, Option.elim_none]
      · rcases rejection.2 with wakes | timed | ⟨-, present⟩
        · exact plain (.inl wakes)
        · exact plain (.inr (.inl timed))
        · rw [absent] at present
          cases present
  | rejected plain opened rejected =>
      rw [rejects_eq, Bool.and_eq_true, decide_eq_true_eq] at rejected
      obtain ⟨asks, result⟩ := rejected
      have rejection : Rejection r.registry c :=
        ⟨result, .inr (.inr ⟨plain, by rw [opened]; rfl⟩)⟩
      constructor
      · rw [outcome, if_neg plain, opened, Option.elim_some, if_pos (.inl ⟨result, asks⟩)]
      · rw [asking_singleton, decide_eq_true rejection, Bool.not_true, Bool.and_false]
        rfl
  | cancelled plain opened accepted cancelled =>
      refine ⟨?_, opens plain opened accepted⟩
      rw [outcome, if_neg plain, opened, Option.elim_some, if_pos (.inr cancelled)]
  | failed plain opened accepted uncancelled negative =>
      refine ⟨?_, opens plain opened accepted⟩
      rw [rejects_eq, Bool.and_eq_false_iff, decide_eq_false_iff_not] at accepted
      rw [outcome, if_neg plain, opened, Option.elim_some, if_neg, if_pos negative]
      rintro (⟨result, asks⟩ | cancelled)
      · rcases accepted with off | other
        · cases off.symm.trans asks
        · exact other result
      · exact uncancelled cancelled
  | ready plain opened nonneg =>
      have other : ∀ errno : Errno, -errno < 0 → c.result ≠ -errno := by
        rintro errno negative result
        exact nonneg (result ▸ negative)
      have accepted : r.rejects c = false := by
        rw [rejects_eq, decide_eq_false (other _ (by decide)), Bool.and_false]
      refine ⟨?_, ?_⟩
      · rw [outcome, if_neg plain, opened, Option.elim_some, if_neg, if_neg nonneg]
        rintro (⟨result, -⟩ | cancelled)
        · exact other _ (by decide) result
        · exact other _ (by decide) cancelled
      · rw [← opens plain opened accepted]
        split <;> rfl

theorem Move.outcomes_eq (move : Move r t log r') :
    log.events = outcomes r.registry r.multishot (log.map (·.1)) ∧
      r'.multishot = asking r.registry r.multishot (log.map (·.1)) := by
  cases move with
  | take front taken =>
      obtain ⟨same, asks⟩ := taken.outcome_eq
      exact ⟨by rw [same]; rfl, asks⟩
  | _ => exact ⟨rfl, asking_nil.symm⟩

/-- Polls dispatch the outcomes of what they take, and ask for multishot polls until a rejection. -/
theorem Moves.outcomes_eq (moves : Moves r t log r') :
    log.events = outcomes r.registry r.multishot (log.map (·.1)) ∧
      r'.multishot = asking r.registry r.multishot (log.map (·.1)) := by
  induction moves with
  | rest => exact ⟨rfl, asking_nil.symm⟩
  | step moves move ih =>
      obtain ⟨events, asks⟩ := ih
      obtain ⟨more, asks'⟩ := move.outcomes_eq
      have ref := moves.reflagged
      rw [outcomes_reflagged ref, asks] at more
      rw [asking_reflagged ref, asks] at asks'
      rw [Log.events_append, List.map_append, outcomes_append, asking_append]
      exact ⟨by rw [events, more], asks'⟩

end

/-! ### Registrations to submit again -/

/-- The registration is to be submitted again under the key, and not as a multishot poll. -/
structure Awaits (r : Ring) (k : Key) (e : Registration) : Prop where
  opened : r.registry.get? k = some { e with rearm := true }
  listed : k ∈ r.rearm
  single : r.multishot = false

/-- It has been submitted again, or it still has to be and the ring has not been waited for. -/
def Resumes (pushed : List Request) (t : Transcript) (r : Ring) (k : Key) (e : Registration) :
    Prop :=
  .poll e.descriptor e.interest.pollMask false k.pack ∈ pushed ∨ (r.Awaits k e ∧ t.Unwaited)

section

variable {r r' : Ring} {k : Key} {e : Registration} {t u : Transcript} {log : Log} {n : Nat}
  {pushed more : List Request}

theorem Resumes.trans (h : Resumes pushed t r k e) (next : r.Awaits k e → Resumes more u r' k e) :
    Resumes (pushed ++ more) (t ++ u) r' k e := by
  rcases h with done | ⟨waits, quiet⟩
  · exact .inl (List.mem_append_left _ done)
  · rcases next waits with done | ⟨waits', quiet'⟩
    · exact .inl (List.mem_append_right _ done)
    · exact .inr ⟨waits', quiet.append quiet'⟩

theorem Awaits.marked (h : r.Awaits k e) (other : Key) : (r.markRearm other).Awaits k e where
  opened := by
    change (r.registry.modify other _).get? k = _
    rw [Registry.get?_modify, h.opened]
    split <;> rfl
  listed := List.mem_cons_of_mem _ h.listed
  single := h.single

/-- Completions of whatever kind leave it waiting. -/
theorem Taken.awaits {events : List Event} (taken : Taken r c t events r') (h : r.Awaits k e) :
    r'.Awaits k e := by
  cases taken with
  | wakeup => exact ⟨h.opened, h.listed, by rw [h.single]; rfl⟩
  | timer => exact ⟨h.opened, h.listed, by rw [h.single]; rfl⟩
  | withdrawal => exact h
  | stale => exact h
  | rejected _ _ rejected =>
      rw [rejects_eq, h.single] at rejected
      cases rejected
  | cancelled => exact h.marked _
  | failed => exact h
  | ready =>
      split
      · exact h
      · exact h.marked _

/-- It waits until its poll is pushed, which is before the ring is waited for. -/
theorem Move.resumes (move : Move r t log r') (h : r.Awaits k e) :
    ∃ pushed, Balanced r.queues t pushed (log.map (·.1)) r'.queues ∧
      Resumes pushed t r' k e := by
  obtain ⟨pushed, balanced⟩ := move.balanced
  have waiting : r'.Awaits k e → t.Unwaited → ∃ pushed,
      Balanced r.queues t pushed (log.map (·.1)) r'.queues ∧ Resumes pushed t r' k e :=
    fun waits quiet => ⟨pushed, balanced, .inr ⟨waits, quiet⟩⟩
  cases move with
  | aside silent => exact waiting h silent.unwaited
  | submit => exact waiting ⟨h.opened, h.listed, h.single⟩ (List.forall_mem_singleton.mpr rfl)
  | wait settled =>
      have listed := h.listed
      rw [settled.rearm] at listed
      cases listed
  | cancel => exact waiting ⟨h.opened, h.listed, h.single⟩ Transcript.unwaited_nil
  | waker => exact waiting ⟨h.opened, h.listed, h.single⟩ Transcript.unwaited_nil
  | timer => exact waiting ⟨h.opened, h.listed, h.single⟩ Transcript.unwaited_nil
  | @skip key rest front idle =>
      have listed := h.listed
      rw [front] at listed
      rcases List.mem_cons.mp listed with rfl | listed
      · cases idle _ h.opened
      · exact waiting ⟨h.opened, listed, h.single⟩ Transcript.unwaited_nil
  | @rearm key rest e' front opened flagged =>
      by_cases own : k = key
      · subst own
        cases h.opened.symm.trans opened
        refine ⟨_, .append r.queues _, .inl (List.mem_singleton.mpr ?_)⟩
        rw [watch, h.single]
      · have listed := h.listed
        rw [front] at listed
        refine waiting ⟨?_, (List.mem_cons.mp listed).resolve_left own, h.single⟩
          Transcript.unwaited_nil
        rw [Registry.get?_modify, if_neg own]
        exact h.opened
  | take front taken =>
      have waits := taken.awaits h
      exact waiting ⟨waits.opened, waits.listed, waits.single⟩ taken.silent.unwaited

theorem Moves.resumes (moves : Moves r t log r') (h : r.Awaits k e) :
    ∃ pushed, Balanced r.queues t pushed (log.map (·.1)) r'.queues ∧
      Resumes pushed t r' k e := by
  induction moves with
  | rest => exact ⟨[], .aside Transcript.silent_nil, .inr ⟨h, Transcript.unwaited_nil⟩⟩
  | @step t log r₁ u more r' _ move ih =>
      obtain ⟨pushed, balanced, next⟩ := ih
      obtain ⟨further, balanced', next'⟩ : ∃ pushed,
          Balanced r₁.queues u pushed (more.map (·.1)) r'.queues ∧
            (r₁.Awaits k e → Resumes pushed u r' k e) := by
        by_cases waits : r₁.Awaits k e
        · obtain ⟨further, balanced', next'⟩ := move.resumes waits
          exact ⟨further, balanced', fun _ => next'⟩
        · obtain ⟨further, balanced'⟩ := move.balanced
          exact ⟨further, balanced', fun h => absurd h waits⟩
      rw [List.map_append]
      exact ⟨_, balanced.trans balanced', next.trans next'⟩

/-- A resubmission that goes through leaves nothing waiting. -/
theorem Awaits.resubmit (h : r.Awaits k e) : Yields (r.resubmit n) fun t result =>
    result.1 = .ok () → ∃ pushed, Balanced r.queues t pushed [] result.2.queues ∧
      .poll e.descriptor e.interest.pollMask false k.pack ∈ pushed := by
  refine (resubmit_stage r).mono fun t result stage ok => ?_
  obtain ⟨pushed, balanced, done | ⟨waits, -⟩⟩ := stage.moves.resumes h
  · exact ⟨pushed, balanced, done⟩
  · have listed := waits.listed
    rw [(stage.left ok).rearm] at listed
    cases listed

/-! ### The first rejection -/

theorem Move.log_eq (move : Move r t log r') : log = [] ∨ ∃ entry, log = [entry] := by
  cases move with
  | take => exact .inr ⟨_, rfl⟩
  | _ => exact .inl rfl

/-- Moves up to one completion, its own move, and the moves after it. -/
theorem Moves.split_at (moves : Moves r t log r') {log₁ log₂ : Log}
    {entry : Completion × List Event} (split : log = log₁ ++ entry :: log₂) :
    ∃ t₁ r₁ u r₂ v, t = t₁ ++ (u ++ v) ∧ Moves r t₁ log₁ r₁ ∧ Move r₁ u [entry] r₂ ∧
      Moves r₂ v log₂ r' := by
  induction moves generalizing log₂ with
  | rest => exact absurd split.symm (List.append_ne_nil_of_right_ne_nil _ (List.cons_ne_nil _ _))
  | @step t log r₀ w more r' moves move ih =>
      rcases move.log_eq with rfl | ⟨last, rfl⟩
      · rw [List.append_nil] at split
        obtain ⟨t₁, r₁, u, r₂, v, rfl, before, own, after⟩ := ih split
        refine ⟨t₁, r₁, u, r₂, v ++ w, by simp only [List.append_assoc], before, own, ?_⟩
        rw [← List.append_nil log₂]
        exact after.step move
      · rcases cut_of_snoc split with ⟨rfl, rfl, rfl⟩ | ⟨log₃, init, rfl⟩
        · exact ⟨t, r₀, w, r', [], by rw [List.append_nil], moves, move, .rest⟩
        · obtain ⟨t₁, r₁, u, r₂, v, rfl, before, own, after⟩ := ih init
          exact ⟨t₁, r₁, u, r₂, v ++ w, by simp only [List.append_assoc], before, own,
            after.step move⟩

/-- A rejection that is noticed leaves its registration waiting. -/
theorem Taken.awaits_of_rejected {events : List Event} (taken : Taken r c t events r')
    (plain : ¬ Reserved c.data) (opened : r.registry.get? (.unpack c.data) = some e)
    (rejected : r.rejects c = true) : r'.Awaits (.unpack c.data) e := by
  have result : c.result = -Errno.invalidArgument := by
    rw [rejects_eq, Bool.and_eq_true, decide_eq_true_eq] at rejected
    exact rejected.2
  cases taken with
  | wakeup wakes => exact absurd (.inl wakes) plain
  | timer timed => exact absurd (.inr (.inl timed)) plain
  | withdrawal withdraws => exact absurd (.inr (.inr withdraws)) plain
  | stale _ absent => cases absent.symm.trans opened
  | rejected _ opened' =>
      refine ⟨?_, List.mem_cons_self, rfl⟩
      change (r.registry.modify _ _).get? _ = _
      rw [Registry.get?_modify, if_pos rfl, opened, Option.map_some]
  | cancelled _ _ accepted => cases accepted.symm.trans rejected
  | failed _ _ accepted => cases accepted.symm.trans rejected
  | ready _ _ nonneg =>
      rw [result] at nonneg
      exact absurd (by decide) nonneg

/-- After the first rejection taken, which is noticed, the registration is submitted again. -/
theorem Moves.resumes_of_rejected (moves : Moves r t log r') {earlier later : List Completion}
    (taken : log.map (·.1) = earlier ++ c :: later) (plain : ¬ Reserved c.data)
    (opened : r.registry.get? (.unpack c.data) = some e)
    (rejected : c.result = -Errno.invalidArgument)
    (first : asking r.registry r.multishot earlier = true) :
    ∃ past since q before after, t = past ++ since ∧ Balanced r.queues past before earlier q ∧
      Balanced q since after (c :: later) r'.queues ∧
      Resumes after since r' (.unpack c.data) e := by
  obtain ⟨log₁, log₂, rfl, rfl, rest⟩ := List.map_eq_append_iff.mp taken
  obtain ⟨⟨c', events⟩, log₃, rfl, same, rfl⟩ := List.map_eq_cons_iff.mp rest
  obtain rfl : c = c' := same.symm
  obtain ⟨t₁, r₁, u, r₂, v, rfl, before, own, after⟩ := moves.split_at rfl
  obtain ⟨e₁, opened₁, bare⟩ : ∃ e₁, r₁.registry.get? (.unpack c.data) = some e₁ ∧
      Registry.bare e₁ = Registry.bare e := by
    have same := before.reflagged.get?_map_bare (.unpack c.data)
    rw [opened, Option.map_some] at same
    exact Option.map_eq_some_iff.mp same
  have asks : r₁.multishot = true := before.outcomes_eq.2.trans first
  obtain ⟨p₁, balanced₁⟩ := before.balanced
  obtain ⟨p₂, balanced₂⟩ := own.balanced
  obtain ⟨waits, quiet⟩ : r₂.Awaits (.unpack c.data) e ∧ u.Unwaited := by
    cases own with
    | take _ taken =>
        have waits := taken.awaits_of_rejected plain opened₁
          (by rw [rejects_eq, asks, decide_eq_true rejected]; rfl)
        obtain ⟨_, _, _, _⟩ := e
        obtain ⟨_, _, _, _⟩ := e₁
        cases bare
        exact ⟨⟨waits.opened, waits.listed, waits.single⟩, taken.silent.unwaited⟩
  obtain ⟨p₃, balanced₃, next⟩ := after.resumes waits
  have own : Resumes p₂ u r₂ (.unpack c.data) e := .inr ⟨waits, quiet⟩
  exact ⟨t₁, u ++ v, r₁.queues, p₁, p₂ ++ p₃, rfl, balanced₁, balanced₂.trans balanced₃,
    own.trans fun _ => next⟩

/-! ### Calls -/

theorem Pushed.unwaited {q : Queues} {request : Request} {result : Except Cause Unit × Queues}
    (h : Pushed q request t result) : t.Unwaited := by
  cases h with
  | room => exact Transcript.unwaited_nil
  | _ => exact List.forall_mem_singleton.mpr rfl

/-- Only polls take completions. -/
theorem Served.moves_of_taken {op : Operation} {answer : Answer}
    (served : r.Served op t answer r') (balanced : Balanced r.queues t pushed cs r'.queues)
    (some : cs ≠ []) : ∃ log, Moves r t log r' ∧ log.map (·.1) = cs := by
  have other : ∀ {requests ds}, Balanced r.queues t requests ds r'.queues → ds = cs :=
    fun balanced' => balanced'.consumed_eq.symm.trans balanced.consumed_eq
  cases served with
  | add added =>
      obtain ⟨_, balanced'⟩ := added.balanced
      exact absurd (other balanced').symm some
  | modify modified => exact absurd (other modified.balanced).symm some
  | remove removed => exact absurd (other removed.balanced).symm some
  | poll moves =>
      obtain ⟨_, balanced'⟩ := moves.balanced
      exact ⟨_, moves, other balanced'⟩
  | post silent => exact absurd (other (.aside silent)).symm some
  | wakeup silent => exact absurd (other (.aside silent)).symm some

theorem Added.awaits {fd : Descriptor} {interest : Interest} {token : Token}
    {result : Except Error Unit} (added : Added r fd interest token t (result, r'))
    (wf : r.registry.WellFormed) (h : r.Awaits k e) : r'.Awaits k e ∧ t.Unwaited := by
  have look : ∀ {reply}, Step.waits (.asked (.getFlags fd) reply) = false := rfl
  have other : ∀ {key}, r.registry.get? key = none → k ≠ key := by
    rintro key absent rfl
    cases absent.symm.trans h.opened
  cases added with
  | closed => exact ⟨h, List.forall_mem_singleton.mpr look⟩
  | duplicate => exact ⟨h, List.forall_mem_singleton.mpr look⟩
  | unpushed hins pushed =>
      have ins := wf.insert_inserted hins
      refine ⟨⟨?_, h.listed, h.single⟩, List.forall_mem_cons.mpr ⟨look, pushed.unwaited⟩⟩
      change (Registry.discard _ _).get? k = _
      rw [(ins.discard wf).get?, if_neg (other ins.get?_key_eq_none), ins.get?,
        if_neg (other ins.get?_key_eq_none), h.opened]
  | added hins pushed =>
      have ins := wf.insert_inserted hins
      refine ⟨⟨?_, h.listed, h.single⟩, ?_⟩
      · rw [ins.get?, if_neg (other ins.get?_key_eq_none), h.opened]
      · have asked : Transcript.Unwaited (.asked (.getFlags fd) (.ok ()) :: _) :=
          List.forall_mem_cons.mpr ⟨look, pushed.unwaited⟩
        exact asked.append (List.forall_mem_singleton.mpr rfl)

/-- A call that does not end the registration submits it again or leaves it waiting. -/
theorem Served.resumes {op : Operation} {answer : Answer} (served : r.Served op t answer r')
    (wf : r.registry.WellFormed) (h : r.Awaits k e)
    (lasts : ∀ fd, r.registry.keyOf? fd = some k → answer = .returned (.ok ()) →
      op ≠ .remove fd ∧ ∀ interest, op ≠ .modify fd interest) :
    ∃ pushed consumed, Balanced r.queues t pushed consumed r'.queues ∧
      Resumes pushed t r' k e := by
  cases served with
  | add added =>
      obtain ⟨pushed, balanced⟩ := added.balanced
      exact ⟨pushed, [], balanced, .inr (added.awaits wf h)⟩
  | @modify fd interest _ _ _ modified =>
      refine ⟨[], [], modified.balanced, .inr ?_⟩
      cases modified with
      | unknown => exact ⟨h, Transcript.unwaited_nil⟩
      | @rekeyed old new e' moved hrek same rek =>
          have own : k ≠ old := by
            rintro rfl
            subst same
            exact (lasts _ (wf.keyOf?_of_get? rek.opened) rfl).2 interest rfl
          have fresh : k ≠ new := by
            rintro rfl
            have now := Registry.generation_of_get? h.opened
            rw [rek.key, Registry.generation_of_get? rek.opened] at now
            exact rek.key_ne (rek.key.trans (congrArg (Key.mk old.index) now.symm))
          refine ⟨⟨?_, List.mem_cons_of_mem _ h.listed, h.single⟩,
            List.forall_mem_singleton.mpr rfl⟩
          change (moved.modify new _).get? k = _
          rw [Registry.get?_modify, if_neg fresh, rek.get?, if_neg fresh, if_neg own, h.opened]
  | @remove fd _ _ _ removed =>
      refine ⟨[], [], removed.balanced, .inr ?_⟩
      cases removed with
      | unknown => exact ⟨h, Transcript.unwaited_nil⟩
      | @removed old e' rest hrem same rem =>
          have own : k ≠ old := by
            rintro rfl
            subst same
            exact (lasts _ (wf.keyOf?_of_get? rem.opened) rfl).1 rfl
          refine ⟨⟨?_, h.listed, h.single⟩, List.forall_mem_singleton.mpr rfl⟩
          change rest.get? k = _
          rw [rem.get?, if_neg own, h.opened]
  | poll moves =>
      obtain ⟨pushed, balanced, next⟩ := moves.resumes h
      exact ⟨pushed, _, balanced, next⟩
  | post silent => exact ⟨[], [], .aside silent, .inr ⟨h, silent.unwaited⟩⟩
  | wakeup silent => exact ⟨[], [], .aside silent, .inr ⟨h, silent.unwaited⟩⟩

end

end Ring
end Multiplexer

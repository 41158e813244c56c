import Multiplexer.Proofs.Ring.Rounds

/-! Why a poll of a ring fails. A wait that is interrupted, busy or timed out never makes it fail,
and what it left in the queue is taken in the same call; a submission that is to make room does,
whatever it is refused with. -/
namespace Multiplexer

theorem Polled.ready_ne_failed {events : List Event} {err : Error} : ready events ≠ failed err := by
  intro same
  have results := congrArg Polled.result same
  cases results

/-- Refusals after which there may be completions all the same. -/
def Errno.Transient (e : Errno) : Prop := e = interrupted ∨ e = busy ∨ e = timerExpired

instance {e : Errno} : Decidable e.Transient :=
  inferInstanceAs (Decidable (_ ∨ _))

/-- The error of a poll in which the ring is entered like this: any refusal of a submission that is
to make room, or its making none, but only the refusals of a wait that are not transient. -/
def Step.fault? : Step → Option Error
  | .asked (.ringWait ..) (entered : Ring.Entered) =>
    match entered.result with
    | .error e => if e.Transient then none else some (.facility (.os e))
    | .ok () => none
  | s =>
    match s.submitted? with
    | some (.error c) => some (.facility c)
    | _ => none

theorem Step.fault_of_submitted {s : Step} {c : Cause} (h : s.submitted? = some (.error c)) :
    s.fault? = some (.facility c) := by
  have waits := waits_of_submitted h
  unfold fault?
  split
  · cases waits
  · rw [h]

/-- Only a wait or a submission can be at fault. -/
theorem Step.of_fault {s : Step} {err : Error} (h : s.fault? = some err) :
    (∃ wait q entered, s = .asked (.ringWait wait q) entered ∧
      Ring.interruption (Ring.Entered.result entered) = .error err) ∨
    ∃ q entered c, s = .asked (.ringSubmit q) entered ∧ s.submitted? = some (.error c) ∧
      err = .facility c := by
  unfold fault? at h
  split at h
  · rename_i wait q entered
    split at h
    · rename_i e refused
      split at h
      · cases h
      · rename_i lasting
        obtain ⟨calm, others⟩ := not_or.mp lasting
        cases h
        refine .inl ⟨wait, q, entered, rfl, ?_⟩
        rw [refused, Ring.interruption]
        rw [if_neg calm, if_neg others]
    · cases h
  · split at h
    · rename_i c submitted
      cases h
      have whole := submitted
      unfold submitted? at submitted
      split at submitted
      · exact .inr ⟨_, _, c, rfl, whole, rfl⟩
      · cases submitted
    · cases h

namespace Ring
open Dialogue

theorem interruption_transient {e : Errno} (h : e.Transient) :
    interruption (.error e) = .ok (decide (e = .interrupted)) := by
  rw [interruption]
  by_cases calm : e = .interrupted
  · rw [if_pos calm, decide_eq_true calm]
  · rw [if_neg calm, if_pos (h.resolve_left calm), decide_eq_false calm]

theorem interruption_eq_error {result : Except Errno Unit} {err : Error}
    (h : interruption result = .error err) :
    ∃ e, result = .error e ∧ ¬ e.Transient ∧ err = .facility (.os e) := by
  cases result with
  | ok => cases h
  | error e =>
      refine ⟨e, rfl, fun transient => ?_, ?_⟩
      · rw [interruption_transient transient] at h
        cases h
      · rw [interruption] at h
        split_ifs at h
        cases h
        rfl

/-- What a poll fails of: what happened when the ring was entered, or that the timer could not be set
before. -/
inductive Blamed (t : Transcript) : Error → Prop
  | ring {s : Step} {err} : s ∈ t → s.fault? = some err → Blamed t err
  | timer {past rest : Transcript} {s : Step} {e} : t = past ++ s :: rest → past.Unwaited →
      s.unset? = some e → Blamed t (.facility (.os e))

variable {wait : Bool} {r r' : Ring} {t rest : Transcript} {o : Except Halt (Polled × Ring)}
  {q : Queues} {entered : Entered} {err : Error} {c : Cause} {timeout : Timeout}

/-! ### Stages and rounds -/

/-- A stage ends where a submission fails, with the queues as that left them. -/
theorem Attempts.of_failed {result : Except Cause Unit} {q' : Queues} (h : Attempts t result q')
    (mem : .asked (.ringSubmit q) entered ∈ t)
    (failed : Step.submitted? (.asked (.ringSubmit q) entered) = some (.error c)) :
    result = .error c ∧ q' = q.after entered := by
  cases h with
  | through made =>
      rw [made _ mem] at failed
      cases failed
  | stopped made last =>
      rcases List.mem_append.mp mem with mem | mem
      · rw [made _ mem] at failed
        cases failed
      · cases List.mem_singleton.mp mem
        cases failed.symm.trans last
        exact ⟨rfl, rfl⟩

theorem Attempts.blamed {q' : Queues} (h : Attempts t (.error c) q') :
    ∃ s ∈ t, s.fault? = some (.facility c) := by
  cases h with
  | stopped _ last =>
      exact ⟨_, List.mem_append_right _ (List.mem_singleton_self _), Step.fault_of_submitted last⟩

theorem Vain.not_submitted (h : Vain wait r t r') {s : Step} (mem : s ∈ t) :
    s.submitted? = none := by
  cases h with
  | round _ drains _ silent =>
      rcases List.mem_cons.mp mem with rfl | mem
      · rfl
      · exact (drains.pass.silent.append silent).not_submitted mem

theorem Waiting.of_failed (h : Waiting wait r t o) (mem : .asked (.ringSubmit q) entered ∈ t)
    (failed : Step.submitted? (.asked (.ringSubmit q) entered) = some (.error c)) :
    ∃ r', o = .ok (.failed (.facility c), r') ∧ r'.queues = q.after entered := by
  have other : ∀ {s : Step}, s.submitted? = none → s ≠ .asked (.ringSubmit q) entered := by
    rintro s none rfl
    cases none.symm.trans failed
  induction h with
  | impatient => cases mem
  | refused => exact absurd (List.mem_singleton.mp mem).symm (other rfl)
  | ended _ drains silent =>
      rcases List.mem_cons.mp mem with same | mem
      · exact absurd same.symm (other rfl)
      · exact absurd rfl (other ((drains.pass.silent.append silent).not_submitted mem))
  | stuck vain stage =>
      rcases List.mem_append.mp mem with mem | mem
      · exact absurd rfl (other (vain.not_submitted mem))
      · obtain ⟨same, queues⟩ := stage.attempts.of_failed mem failed
        cases same
        exact ⟨_, rfl, queues⟩
  | again vain stage _ ih =>
      rcases List.mem_append.mp mem with mem | mem
      · rcases List.mem_append.mp mem with mem | mem
        · exact absurd rfl (other (vain.not_submitted mem))
        · cases (stage.attempts.of_failed mem failed).1
      · exact ih mem

theorem Waiting.blamed (h : Waiting wait r t o) (failed : o = .ok (.failed err, r')) :
    ∃ s ∈ t, s.fault? = some err := by
  induction h with
  | impatient => cases failed
  | refused answer =>
      cases failed
      obtain ⟨e, refused, lasting, rfl⟩ := interruption_eq_error answer
      refine ⟨_, List.mem_singleton_self _, ?_⟩
      simp only [Step.fault?, refused, if_neg lasting]
  | ended => exact absurd (Prod.mk.inj (Except.ok.inj failed)).1 Polled.ready_ne_failed
  | stuck _ stage =>
      cases failed
      obtain ⟨s, mem, fault⟩ := stage.attempts.blamed
      exact ⟨s, List.mem_append_right _ mem, fault⟩
  | again _ _ _ ih =>
      obtain ⟨s, mem, fault⟩ := ih failed
      exact ⟨s, List.mem_append_right _ mem, fault⟩

/-- What a wait came to once it was answered. -/
theorem Waiting.answered {waited : Bool}
    (h : Waiting wait r (.asked (.ringWait waited q) entered :: rest) o) :
    (∃ err r', interruption entered.result = .error err ∧ o = .ok (.failed err, r')) ∨
    ∃ interrupted u log r' v, interruption entered.result = .ok interrupted ∧ rest = u ++ v ∧
      Drains { r with queues := r.queues.after entered } r.batch u log r' ∧
      (interrupted = true ∨ log.events ≠ [] → o = .ok (.ready log.events, r')) := by
  have vainly : ∀ {t r' v}, Vain wait r t r' →
      .asked (.ringWait waited q) entered :: rest = t ++ v →
      ∃ interrupted u log r' v, interruption entered.result = .ok interrupted ∧ rest = u ++ v ∧
        Drains { r with queues := r.queues.after entered } r.batch u log r' ∧
        (interrupted = true ∨ log.events ≠ [] → o = .ok (.ready log.events, r')) := by
    intro t r' v vain split
    cases vain with
    | @round _ u w log _ answer drains nothing =>
        cases split
        refine ⟨false, u, log, r', w ++ v, answer, List.append_assoc .., drains, ?_⟩
        rintro (interrupted | told)
        · cases interrupted
        · exact absurd nothing told
  generalize split : .asked (.ringWait waited q) entered :: rest = whole at h
  cases h with
  | impatient => cases split
  | refused answer =>
      cases split
      exact .inl ⟨_, _, answer, rfl⟩
  | ended answer drains =>
      cases split
      exact .inr ⟨_, _, _, _, _, answer, rfl, drains, fun _ => rfl⟩
  | stuck vain => exact .inr (vainly vain split)
  | again vain =>
      rw [List.append_assoc] at split
      exact .inr (vainly vain split)

/-- A wait waits first, unless there is no patience for it. -/
theorem Waiting.starts (h : Waiting wait r t o) :
    (t = [] ∧ o = .error .patience) ∨
      ∃ q entered rest, t = .asked (.ringWait wait q) entered :: rest := by
  cases h with
  | impatient => exact .inl ⟨rfl, rfl⟩
  | refused => exact .inr ⟨_, _, _, rfl⟩
  | ended => exact .inr ⟨_, _, _, rfl⟩
  | stuck vain =>
      obtain ⟨entered, u, rfl, -⟩ := vain.split
      exact .inr ⟨_, _, _, rfl⟩
  | again vain =>
      obtain ⟨entered, u, rfl, -⟩ := vain.split
      exact .inr ⟨_, _, _, rfl⟩

/-! ### Polls -/

theorem Polling.of_failed (h : Polling timeout r t o) (mem : .asked (.ringSubmit q) entered ∈ t)
    (failed : Step.submitted? (.asked (.ringSubmit q) entered) = some (.error c)) :
    ∃ r', o = .ok (.failed (.facility c), r') ∧ r'.queues = q.after entered := by
  have silent : ∀ {u : Transcript}, u.Silent → .asked (.ringSubmit q) entered ∉ u := by
    intro u silent mem
    cases (silent.not_submitted mem).symm.trans failed
  have through : ∀ {u r'}, Stage Settled r u (.ok (), r') → .asked (.ringSubmit q) entered ∉ u :=
    fun stage mem => by cases (stage.attempts.of_failed mem failed).1
  cases h with
  | unpushed stage =>
      obtain ⟨same, queues⟩ := stage.attempts.of_failed mem failed
      cases same
      exact ⟨_, rfl, queues⟩
  | endless stage timed =>
      exact absurd mem (List.not_mem_append (through stage) (silent timed.silent))
  | unarmed stage timed last =>
      exact absurd mem (List.not_mem_append
        (List.not_mem_append (through stage) (silent timed.silent))
        (silent (Transcript.silent_singleton last)))
  | halted stage timed waiting =>
      have before := List.not_mem_append (through stage) (silent timed.silent)
      exact waiting.of_failed ((List.mem_append.mp mem).resolve_left before) failed
  | waited stage timed waiting after =>
      have before := List.not_mem_append (through stage) (silent timed.silent)
      have mem := (List.mem_append.mp mem).resolve_right (silent after)
      exact waiting.of_failed ((List.mem_append.mp mem).resolve_left before) failed

theorem Polling.blamed (h : Polling timeout r t o) (failed : o = .ok (.failed err, r')) :
    Blamed t err := by
  cases h with
  | unpushed stage =>
      cases failed
      obtain ⟨s, mem, fault⟩ := stage.attempts.blamed
      exact .ring mem fault
  | endless => cases failed
  | unarmed stage timed _ unset =>
      cases failed
      exact .timer rfl (stage.attempts.unwaited.append timed.silent.unwaited) unset
  | halted => cases failed
  | waited _ _ waiting =>
      obtain ⟨s, mem, fault⟩ := waiting.blamed failed
      exact .ring (List.mem_append_left _ (List.mem_append_right _ mem)) fault

/-- The timer is set before the ring is waited for, and the poll ends there if it cannot be. -/
theorem Polling.of_unset (h : Polling timeout r t o) {past : Transcript} {s : Step} {e : Errno}
    (split : t = past ++ s :: rest) (early : past.Unwaited) (unset : s.unset? = some e) :
    ∃ r', o = .ok (.failed (.facility (.os e)), r') := by
  have before : ∀ {u v r'}, Stage Settled r u (.ok (), r') → Timed v → s ∉ u ++ v := by
    intro u v r' stage timed mem
    rcases List.mem_append.mp mem with mem | mem
    · obtain ⟨_, submitted⟩ := stage.attempts.submitted mem
      cases (Step.unset_of_submitted submitted).symm.trans unset
    · cases (timed.set s mem).symm.trans unset
  have waits : ∀ {u v : Transcript} {wait q} {entered : Entered}, s ∉ u →
      u ++ .asked (.ringWait wait q) entered :: v ≠ past ++ s :: rest := by
    intro u v wait q entered absent split
    refine absent (early.mem_of_split rfl ?_ split)
    rintro rfl
    cases unset
  have mem : s ∈ t := split ▸ List.mem_append_right _ List.mem_cons_self
  cases h with
  | unpushed stage =>
      obtain ⟨_, submitted⟩ := stage.attempts.submitted mem
      cases (Step.unset_of_submitted submitted).symm.trans unset
  | endless stage timed => exact absurd mem (before stage timed)
  | unarmed stage timed _ unset' =>
      rcases List.mem_append.mp mem with mem | mem
      · exact absurd mem (before stage timed)
      · cases List.mem_singleton.mp mem
        cases unset.symm.trans unset'
        exact ⟨_, rfl⟩
  | halted stage timed waiting =>
      rcases waiting.starts with ⟨rfl, -⟩ | ⟨q, entered, v, rfl⟩
      · rw [List.append_nil] at mem
        exact absurd mem (before stage timed)
      · exact absurd split (waits (before stage timed))
  | waited stage timed waiting =>
      obtain ⟨q, entered, v, rfl⟩ := waiting.starts.resolve_left fun stopped => nomatch stopped.2
      rw [List.append_assoc, List.cons_append] at split
      exact absurd split (waits (before stage timed))

/-- How a poll takes refusals: it fails exactly with what is to blame; a wait refused with a transient
error is followed by taking what is in the queue, and what this dispatches is told, as is an
interruption; a submission that fails ends the poll with the queues as they are. -/
structure Weathers (r : Ring) (t : Transcript) (o : Except Halt (Polled × Ring)) : Prop where
  blamed : ∀ {err}, (∃ r', o = .ok (.failed err, r')) ↔ Blamed t err
  waits : ∀ {past rest : Transcript} {s : Step} {q} {entered : Entered} {e : Errno},
    t = past ++ s :: rest → s.waits = true → s.entered? = some (q, entered) →
    entered.result = .error e → e.Transient →
    ∃ log₀ r₀ u log r' v, Moves r past log₀ r₀ ∧ r₀.queues = q ∧ rest = u ++ v ∧
      Drains { r₀ with queues := q.after entered } r.batch u log r' ∧
      (e = .interrupted ∨ log.events ≠ [] → o = .ok (.ready log.events, r'))
  submissions : ∀ {s : Step} {q} {entered : Entered} {c}, s ∈ t → s.submitted? = some (.error c) →
    s.entered? = some (q, entered) →
    ∃ r', o = .ok (.failed (.facility c), r') ∧ r'.queues = q.after entered

theorem Polling.weathers (h : Polling timeout r t o) : r.Weathers t o where
  blamed := by
    intro err
    refine ⟨fun ⟨_, failed⟩ => h.blamed failed, fun blamed => ?_⟩
    cases blamed with
    | ring mem fault =>
        obtain ⟨wait, q, entered, rfl, answer⟩ | ⟨q, entered, c, rfl, failed, rfl⟩ :=
          Step.of_fault fault
        · obtain ⟨past, rest, split⟩ := List.append_of_mem mem
          obtain ⟨_, r₀, _, _, -, -, rfl, -, -, waiting⟩ := h.at_wait split
          obtain ⟨_, r', answer', failed⟩ | ⟨_, _, _, _, _, answer', -⟩ := waiting.answered
          · cases answer.symm.trans answer'
            exact ⟨r', failed⟩
          · cases answer.symm.trans answer'
        · obtain ⟨r', failed, -⟩ := h.of_failed mem failed
          exact ⟨r', failed⟩
    | timer split early unset => exact h.of_unset split early unset
  waits := by
    intro past rest s q entered e split waits front refused transient
    obtain ⟨wait, rfl⟩ := Step.eq_wait waits front
    obtain ⟨log₀, r₀, rest', after, moves, -, rfl, rfl, -, waiting⟩ := h.at_wait split
    obtain ⟨_, _, answer, -⟩ | ⟨interrupted, u, log, r', v, answer, rfl, drains, told⟩ :=
      waiting.answered
    · rw [refused, interruption_transient transient] at answer
      cases answer
    · rw [refused, interruption_transient transient] at answer
      cases answer
      refine ⟨log₀, r₀, u, log, r', v ++ after, moves, rfl, List.append_assoc .., ?_, ?_⟩
      · exact ⟨drains.pass, moves.batch_eq ▸ drains.thorough⟩
      · exact fun ends => told (ends.imp_left decide_eq_true)
  submissions := by
    intro s q entered c mem failed front
    have same : s = .asked (.ringSubmit q) entered := by
      have submitted := failed
      unfold Step.submitted? at submitted
      split at submitted
      · cases front
        rfl
      · cases submitted
    subst same
    exact h.of_failed mem failed

end Ring
end Multiplexer

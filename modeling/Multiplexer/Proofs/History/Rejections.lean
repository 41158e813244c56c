import Multiplexer.Proofs.History.Generations
import Multiplexer.Proofs.History.Rehearsal
import Multiplexer.Proofs.History.Rings
import Multiplexer.Proofs.Ring.Rejection

/-! Rejections of multishot polls over whole histories. The first one taken downgrades its
registration: nothing is dispatched, and a single-shot poll takes over. Every later one is taken for
the failure of its poll, whatever that poll asked for. -/
namespace Multiplexer
open Dialogue Multiplexer.Ring

/-- No rejection was taken during the call. -/
def Exchange.Accepts (x : Exchange) : Prop :=
  ∀ c ∈ x.consumed, ¬ Rejection x.before.registry c

/-- The rest of a call once the earlier completions were taken: what was said and pushed since. -/
def Exchange.Rest (x : Exchange) (earlier later : List Completion) (since : Transcript)
    (pushed : List Request) : Prop :=
  ∃ past before q, x.transcript = past ++ since ∧ Balanced x.before.queues past before earlier q ∧
    Balanced q since pushed later x.after.queues

/-- Among the completions taken so far there was no rejection, and multishot polls were asked for. -/
def Unrejected (config : Config) (xs : List Exchange) (registry : Registry)
    (earlier : List Completion) : Prop :=
  config.ring.multishot = true ∧ (∀ y ∈ xs, y.Accepts) ∧ ∀ d ∈ earlier, ¬ Rejection registry d

section

variable {r r' : Ring} {op : Operation} {t : Transcript} {answer : Answer}

/-- What a call dispatches is the outcome of what it takes. -/
theorem Ring.Served.outcomes_eq (served : r.Served op t answer r') :
    ∃ pushed consumed, Balanced r.queues t pushed consumed r'.queues ∧
      answer.events = outcomes r.registry r.multishot consumed ∧
      r'.multishot = asking r.registry r.multishot consumed := by
  cases served with
  | add added =>
      obtain ⟨pushed, balanced⟩ := added.balanced
      refine ⟨pushed, [], balanced, rfl, ?_⟩
      rw [asking_nil]
      cases added <;> rfl
  | modify modified =>
      refine ⟨[], [], modified.balanced, rfl, ?_⟩
      rw [asking_nil]
      cases modified <;> rfl
  | remove removed =>
      refine ⟨[], [], removed.balanced, rfl, ?_⟩
      rw [asking_nil]
      cases removed <;> rfl
  | poll moves events =>
      obtain ⟨pushed, balanced⟩ := moves.balanced
      obtain ⟨dispatched, asks⟩ := moves.outcomes_eq
      exact ⟨pushed, _, balanced, events.trans dispatched, asks⟩
  | post silent => exact ⟨[], [], .aside silent, rfl, asking_nil.symm⟩
  | wakeup silent => exact ⟨[], [], .aside silent, rfl, asking_nil.symm⟩

end

namespace Exchange

variable {x : Exchange} {r : Ring}

theorem outcomes_eq (ring : x.before = .ring r) (wf : r.registry.WellFormed) :
    x.answer.events = outcomes r.registry r.multishot x.consumed ∧
      ∃ r', x.after = .ring r' ∧ r'.multishot = asking r.registry r.multishot x.consumed := by
  obtain ⟨r', after, served⟩ := x.ring_served ring wf
  obtain ⟨pushed, consumed, balanced, events, asks⟩ := served.outcomes_eq
  rw [consumed_eq ring after balanced]
  exact ⟨events, r', after, asks⟩

/-- A call that does not end a waiting registration submits it again or leaves it waiting. -/
theorem resumes {k : Key} {e : Registration} (ring : x.before = .ring r)
    (wf : r.registry.WellFormed) (h : r.Awaits k e) (lasts : ¬ x.Retires k.pack) :
    ∃ r', x.after = .ring r' ∧ Resumes x.pushed x.transcript r' k e := by
  obtain ⟨r', after, served⟩ := x.ring_served ring wf
  obtain ⟨pushed, consumed, balanced, next⟩ := served.resumes wf h fun fd key answer => by
    have key : x.before.registry.keyOf? fd = some k := by
      rw [ring]
      exact key
    refine ⟨fun op => lasts (.removed op answer key), fun interest op => lasts ?_⟩
    exact .replaced (by rw [ring]; rfl) op answer key
  rw [pushed_eq ring after balanced]
  exact ⟨r', after, next⟩

end Exchange

namespace Run

variable {b c : Backend} {xs : List Exchange} {r : Ring}

theorem asks (run : Run b xs c) (sound : b.Sound) (ring : b = .ring r) :
    ∃ r', c = .ring r' ∧
      (r'.multishot = true ↔ r.multishot = true ∧ ∀ y ∈ xs, y.Accepts) := by
  induction run with
  | start =>
      refine ⟨r, ring, ?_⟩
      simp only [List.not_mem_nil, false_imp_iff, implies_true, and_true]
  | @step xs x before ih =>
      obtain ⟨r₁, same, asks₁⟩ := ih
      have wf : r₁.registry.WellFormed := (before.sound sound).of_ring same
      obtain ⟨-, r', after, asks'⟩ := x.outcomes_eq same wf
      refine ⟨r', after, ?_⟩
      have accepts : x.Accepts ↔ ∀ c ∈ x.consumed, ¬ Rejection r₁.registry c := by
        rw [Exchange.Accepts, same]
        rfl
      rw [asks', asking_eq_true_iff, asks₁, List.forall_mem_append, List.forall_mem_singleton,
        accepts, and_assoc]

theorem resumes {k : Key} {e : Registration} (run : Run b xs c) (sound : b.Sound)
    (ring : b = .ring r) (h : r.Awaits k e) (lasts : ∀ y ∈ xs, ¬ y.Retires k.pack) :
    ∃ r', c = .ring r' ∧ Resumes (xs.flatMap (·.pushed)) (xs.flatMap (·.transcript)) r' k e := by
  induction run with
  | start => exact ⟨r, ring, .inr ⟨h, Transcript.unwaited_nil⟩⟩
  | @step xs x before ih =>
      obtain ⟨early, last⟩ := List.forall_mem_append.mp lasts
      obtain ⟨r₁, same, next⟩ := ih early
      have wf : r₁.registry.WellFormed := (before.sound sound).of_ring same
      have lasts' : ¬ x.Retires k.pack := last x (List.mem_singleton_self x)
      obtain ⟨r', after, -⟩ := x.ring_served same wf
      refine ⟨r', after, ?_⟩
      simp only [List.flatMap_append, List.flatMap_singleton]
      refine next.trans fun waits => ?_
      obtain ⟨r'', after', next'⟩ := x.resumes same wf waits lasts'
      cases after.symm.trans after'
      exact next'

end Run

namespace History

/-- Multishot polls are asked for until a rejection is taken. -/
theorem asks (h : History) {r : Ring} (ring : h.finish = .ring r) :
    r.multishot = true ↔ h.config.ring.multishot = true ∧ ∀ y ∈ h.exchanges, y.Accepts := by
  obtain ⟨r₀, n, start, follows⟩ := h.opened_ring ring
  obtain ⟨r', same, asks⟩ := h.run.asks h.opened.sound start
  cases ring.symm.trans same
  rw [asks, (create_fresh follows _ rfl).2]

/-- The rejection of the poll of a registration dispatches nothing exactly if multishot polls were
asked for and no rejection was taken before. Then, as long as the registration lasts, either a
single-shot poll has been pushed for it since, or it is marked to be submitted again, the ring has not
been waited for since, and the next resubmission that goes through pushes that poll. Every other
rejection is dispatched as an error. -/
theorem rejection_outcome (h : History) {es fs : List Exchange} {x : Exchange} {r : Ring}
    {earlier later : List Completion} {c : Completion} {e : Registration}
    (split : h.exchanges = es ++ x :: fs) (ring : x.before = .ring r)
    (taken : x.consumed = earlier ++ c :: later) (rejected : c.result = -Errno.invalidArgument)
    (plain : ¬ Reserved c.data) (current : r.registry.get? (.unpack c.data) = some e) :
    (∃ own, x.answer.events = outcomes r.registry r.multishot earlier ++
        (own ++ outcomes r.registry false later) ∧
      (own = [] ↔ Unrejected h.config es r.registry earlier) ∧
      (own = [] ∨ own = [⟨e.descriptor, e.token, .readiness { error := true }⟩])) ∧
    (Unrejected h.config es r.registry earlier → (∀ y ∈ fs, ¬ y.Retires c.data) →
      ∃ r' since pushed, h.finish = .ring r' ∧ x.Rest earlier (c :: later) since pushed ∧
        Resumes (pushed ++ fs.flatMap (·.pushed)) (since ++ fs.flatMap (·.transcript)) r'
          (.unpack c.data) e ∧
        (r'.Awaits (.unpack c.data) e → ∀ n, Yields (r'.resubmit n) fun t result =>
          result.1 = .ok () → ∃ requests, Balanced r'.queues t requests [] result.2.queues ∧
            .poll e.descriptor e.interest.pollMask false c.data ∈ requests)) := by
  have sound : x.before.Sound := (h.upTo split).sound
  have wf : r.registry.WellFormed := sound.of_ring ring
  have first : asking r.registry r.multishot earlier = true ↔
      Unrejected h.config es r.registry earlier := by
    rw [asking_eq_true_iff, (h.upTo split).asks ring, and_assoc]
    rfl
  have rejection : Rejection r.registry c :=
    ⟨rejected, .inr (.inr ⟨plain, by rw [current]; rfl⟩)⟩
  constructor
  · refine ⟨outcome r.registry (asking r.registry r.multishot earlier) c, ?_, ?_, ?_⟩
    · rw [(x.outcomes_eq ring wf).1, taken, outcomes_append, outcomes, asking_singleton,
        decide_eq_true rejection, Bool.not_true, Bool.and_false]
    · rw [← first, outcome_rejected plain current rejected]
      cases asking r.registry r.multishot earlier with
      | true => exact iff_of_true rfl rfl
      | false => exact iff_of_false (List.cons_ne_nil _ _) Bool.false_ne_true
    · rw [outcome_rejected plain current rejected]
      cases asking r.registry r.multishot earlier with
      | true => exact .inl rfl
      | false => exact .inr rfl
  · intro unrejected lasts
    obtain ⟨r₁, after, served⟩ := x.ring_served ring wf
    obtain ⟨_, consumed, balanced, -⟩ := served.outcomes_eq
    cases (x.consumed_eq ring after balanced).symm.trans taken
    obtain ⟨log, moves, same⟩ := served.moves_of_taken balanced
      (List.append_ne_nil_of_right_ne_nil _ (List.cons_ne_nil _ _))
    obtain ⟨past, since, q, before, pushed, whole, balanced₁, balanced₂, next⟩ :=
      moves.resumes_of_rejected same plain current rejected (first.mpr unrejected)
    have rest : x.Rest earlier (c :: later) since pushed := by
      refine ⟨past, before, q, whole, ?_, ?_⟩
      · rw [ring]
        exact balanced₁
      · rw [after]
        exact balanced₂
    have run : Run x.after fs h.finish := by
      have run := h.run
      rw [split, Run.append_iff] at run
      obtain ⟨_, -, rest⟩ := run
      exact (Run.cons_iff.mp rest).2
    obtain ⟨r', finish, -⟩ := run.asks (x.sound_after sound) after
    refine ⟨r', since, pushed, finish, rest, next.trans fun waits => ?_, fun waits n => ?_⟩
    · have lasts' : ∀ y ∈ fs, ¬ y.Retires (Key.unpack c.data).pack := by
        rw [Key.pack_unpack]
        exact lasts
      obtain ⟨r'', finish', next'⟩ := run.resumes (x.sound_after sound) after waits lasts'
      cases finish.symm.trans finish'
      exact next'
    · have resubmitted := waits.resubmit (n := n)
      rw [Key.pack_unpack] at resubmitted
      exact resubmitted

end History

/-- Two multishot polls are rejected in one pass, and then the ring is polled once more. -/
def twoRejections : Option History := do
  let rejections : List Completion := [⟨0, -22, 0⟩, ⟨1, -22, 0⟩]
  let waited := Script.empty.put .submitAndWait [some ⟨rejections, none, none⟩]
  let h ← History.rehearseOpening Ring.create .ring .ring { ring := { multishot := true } } .initial
  h.rehearse [(.add 5 { read := true } 1, .initial), (.add 6 { read := true } 2, .initial),
    (.poll (some .zero), { Script.Stage.initial with script := waited }),
    (.poll (some .zero), .initial)]

def rejectedFirst : Registration := { descriptor := 5, interest := { read := true }, token := 1 }

theorem first_rejection_downgraded :
    ∃ (h : History) (es : List Exchange) (x y : Exchange) (r : Ring),
      h.exchanges = es ++ [x, y] ∧ x.before = .ring r ∧
      x.consumed = [⟨0, -22, 0⟩, ⟨1, -22, 0⟩] ∧ Unrejected h.config es r.registry [] ∧
      ¬ y.Retires 0 ∧ x.answer.events = outcomes r.registry false [⟨1, -22, 0⟩] ∧
      ∃ r' since pushed, h.finish = .ring r' ∧ x.Rest [] x.consumed since pushed ∧
        Resumes (pushed ++ y.pushed) (since ++ y.transcript) r' ⟨0, 0⟩ rejectedFirst := by
  have computed : ∃ h ∈ twoRejections, h.config.ring.multishot = true ∧
      h.exchanges.map (fun x => (x.operation, x.consumed,
        x.before.ring?.bind (·.registry.get? ⟨0, 0⟩))) =
      [(.add 5 { read := true } 1, [], none),
        (.add 6 { read := true } 2, [], some rejectedFirst)] ++
      [(.poll (some .zero), [⟨0, -22, 0⟩, ⟨1, -22, 0⟩], some rejectedFirst),
        (.poll (some .zero), [], some { rejectedFirst with rearm := true })] := by
    decide +kernel
  obtain ⟨h, -, asks, shown⟩ := computed
  obtain ⟨es, polls, split, earlier, later⟩ := List.map_eq_append_iff.mp shown
  obtain ⟨x, polls, rfl, first, last⟩ := List.map_eq_cons_iff.mp later
  obtain ⟨y, rfl, second⟩ := List.map_eq_singleton_iff.mp last
  obtain ⟨-, taken, opened⟩ : _ ∧ _ ∧ _ := by simpa only [Prod.mk.injEq] using first
  obtain ⟨op, -, -⟩ : _ ∧ _ ∧ _ := by simpa only [Prod.mk.injEq] using second
  obtain ⟨r, ring, current⟩ := Option.bind_eq_some_iff.mp opened
  have before := Backend.eq_ring_of_ring? ring
  have unrejected : Unrejected h.config es r.registry [] := by
    refine ⟨asks, fun z hz c hc => ?_, fun _ hc => nomatch hc⟩
    have quiet : ∀ z ∈ es, z.consumed = [] := by
      obtain ⟨a, _, rfl, first, earlier⟩ := List.map_eq_cons_iff.mp earlier
      obtain ⟨b, rfl, second⟩ := List.map_eq_singleton_iff.mp earlier
      exact List.forall_mem_cons.mpr ⟨(Prod.mk.inj (Prod.mk.inj first).2).1,
        List.forall_mem_singleton.mpr (Prod.mk.inj (Prod.mk.inj second).2).1⟩
    rw [quiet z hz] at hc
    cases hc
  have lasts : ¬ y.Retires 0 := fun retires => retires.not_poll _ op
  obtain ⟨⟨own, events, silent, -⟩, resumes⟩ :=
    @History.rejection_outcome h es [y] x r [] [⟨1, -22, 0⟩] ⟨0, -22, 0⟩ rejectedFirst split before
      taken (by decide) (by decide) current
  obtain ⟨r', since, pushed, finish, rest, next, -⟩ :=
    resumes unrejected (List.forall_mem_singleton.mpr lasts)
  refine ⟨h, es, x, y, r, split, before, taken, unrejected, lasts, ?_, r', since, pushed, finish,
    ?_, ?_⟩
  · rw [events, silent.mpr unrejected]
    rfl
  · rw [taken]
    exact rest
  · simp only [List.flatMap_singleton] at next
    exact next

/-- The poll rejected second asked for multishot as well. Its rejection is dispatched as an error, and
its registration is neither marked nor submitted again. -/
theorem second_rejection_dispatched :
    ∃ h ∈ twoRejections,
      h.exchanges.map (·.pushed) =
        [[.poll 5 8193 true 0], [.poll 6 8193 true 1], [], [.poll 5 8193 false 0]] ∧
      h.exchanges.map (·.consumed) = [[], [], [⟨0, -22, 0⟩, ⟨1, -22, 0⟩], []] ∧
      h.exchanges.map (·.answer.events) = [[], [], [⟨6, 2, .readiness { error := true }⟩], []] ∧
      h.finish.ring?.map (fun r => (r.registry.get? ⟨1, 0⟩, r.rearm)) =
        some (some { descriptor := 6, interest := { read := true }, token := 2 }, []) := by
  decide +kernel

end Multiplexer

import Multiplexer.Proofs.History.Rejections
import Multiplexer.Proofs.Waits

/-! The batches of polls over whole histories. A poll dispatches as many events as it says, and no more
than the settings allow; one that fails dispatches nothing, and took nothing to dispatch. -/
namespace Multiplexer
open Sys

/-! ### The bound is kept -/

section

variable {op : Operation} {t : Transcript} {answer : Answer}

theorem Epoll.Served.batch_eq {p p' : Epoll} (served : p.Served op t answer p') :
    p'.batch = p.batch := by
  cases served <;> rfl

theorem Kqueue.Served.batch_eq {p p' : Kqueue} (served : p.Served op t answer p') :
    p'.batch = p.batch := by
  cases served with
  | add added => cases added <;> rfl
  | modify modified => cases modified <;> rfl
  | remove removed => cases removed <;> rfl
  | _ => rfl

theorem BitmapSelect.Served.batch_eq {p p' : BitmapSelect} (served : p.Served op t answer p') :
    p'.batch = p.batch := by
  cases served <;> rfl

theorem SocketSelect.Served.batch_eq {p p' : SocketSelect} (served : p.Served op t answer p') :
    p'.batch = p.batch := by
  cases served <;> rfl

theorem CompletionPort.Served.batch_eq {p p' : CompletionPort}
    (served : p.Served op t answer p') : p'.batch = p.batch := by
  cases served <;> rfl

theorem Ring.Served.batch_eq {r r' : Ring} (served : r.Served op t answer r') :
    r'.batch = r.batch := by
  cases served with
  | add added => cases added <;> rfl
  | modify modified => cases modified <;> rfl
  | remove removed => cases removed <;> rfl
  | poll moves => exact moves.batch_eq
  | post => rfl
  | wakeup => rfl

end

theorem Exchange.batch_eq (x : Exchange) (sound : x.before.Sound) :
    x.after.batch = x.before.batch := by
  cases before : x.before with
  | epoll p =>
      obtain ⟨p', after, served⟩ := x.epoll_served before
      rw [after]
      exact served.batch_eq
  | kqueue p =>
      have wf := sound.wellFormed
      rw [before] at wf
      obtain ⟨p', after, served⟩ := x.kqueue_served before wf
      rw [after]
      exact served.batch_eq
  | bitmap p =>
      obtain ⟨p', after, served⟩ := x.bitmap_served before
      rw [after]
      exact served.batch_eq
  | socket p =>
      obtain ⟨p', after, served⟩ := x.socket_served before
      rw [after]
      exact served.batch_eq
  | port p =>
      obtain ⟨p', after, served⟩ := x.port_served before
      rw [after]
      exact served.batch_eq
  | ring r =>
      obtain ⟨r', after, served⟩ := x.ring_served before (sound.of_ring before)
      rw [after]
      exact served.batch_eq

theorem History.batch_kept (h : History) : h.finish.batch = h.config.batchSize := by
  have kept : h.finish.Sound ∧ h.finish.batch = h.config.batchSize := by
    refine Run.invariant (P := fun b => b.Sound ∧ b.batch = h.config.batchSize) h.run
      ⟨h.opened.sound, h.opened.fresh.2⟩ fun x before => ?_
    exact ⟨x.sound_after before.1, (x.batch_eq before.1).trans before.2⟩
  exact kept.2

/-! ### What polls dispatch -/

variable {timeout : Timeout}

theorem Exchange.within (x : Exchange) (positive : 0 < x.before.batch)
    (op : x.operation = .poll timeout) (bounded : ∀ s ∈ x.transcript, s.bounded = true) :
    ∃ polled, x.answer = .polled polled ∧ polled.Within x.before.batch := by
  by_cases ring : x.before.facility = .ring
  · obtain ⟨r, before⟩ := Backend.eq_ring ring
    obtain ⟨n, follows⟩ := x.served
    have polls : Dialogue.Yields ((Backend.ring r).serve (.poll timeout) n) fun _ result =>
        ∃ polled, result.1 = .polled polled ∧ polled.Within r.batch := by
      simp only [Backend.serve, Backend.poll, yields_map]
      exact (r.poll_within timeout).mono fun _ _ within => ⟨_, rfl, within⟩
    rw [before, op] at follows
    rw [before]
    exact polls follows
  · obtain ⟨polled, answer, once⟩ := x.pollsOnce ring positive op
    exact ⟨polled, answer, once.within bounded⟩

/-- Whatever a poll is told, as long as no wait brings more than there is room for: if the poll
succeeds, it has dispatched as many events as it says and no more than the settings allow; if it
fails, it has dispatched none, its wait brought nothing, and of the completions that a ring took
meanwhile none had an event. -/
theorem History.polls_within_batch (h : History) {es fs : List Exchange} {x : Exchange}
    (split : h.exchanges = es ++ x :: fs) (op : x.operation = .poll timeout)
    (bounded : ∀ s ∈ x.transcript, s.bounded = true) :
    ∃ polled, x.answer = .polled polled ∧
      (∀ count, polled.result = .ok count →
        polled.events.length = count ∧ count ≤ h.config.batchSize) ∧
      (∀ e, polled.result = .error e → polled.events = [] ∧
        (x.before.facility ≠ .ring → x.waits = [.failed]) ∧
        ∀ r, x.before = .ring r → Ring.outcomes r.registry r.multishot x.consumed = []) := by
  have batch : x.before.batch = h.config.batchSize := (h.upTo split).batch_kept
  have positive : 0 < x.before.batch := batch ▸ h.config.batchSize_pos
  obtain ⟨polled, answer, within⟩ := x.within positive op bounded
  rw [batch] at within
  refine ⟨polled, answer, within.counted, fun e error => ?_⟩
  have silent := within.silent e error
  refine ⟨silent, fun ringless => ?_, fun r ring => ?_⟩
  · obtain ⟨polled', answer', once⟩ := x.pollsOnce ringless positive op
    cases answer.symm.trans answer'
    exact once.waits_of_error error
  · have wf : r.registry.WellFormed := (h.upTo split).sound.of_ring ring
    rw [← (x.outcomes_eq ring wf).1, answer]
    exact silent

/-- A poll takes a stale completion and then fails; the next one finds more completions than a batch
holds. -/
def crampedRing : Option History := do
  let failing := Script.empty.put .submitAndWait
    [some ⟨[⟨9, 1, 0⟩], none, none⟩, some ⟨[], some .badDescriptor, none⟩]
  let crowded := Script.empty.put .submitAndWait [some ⟨[⟨0, 1, 0⟩, ⟨1, 1, 0⟩], none, none⟩]
  let h ← History.rehearseOpening Ring.create .ring .ring { maxBatch := 1 } .initial
  h.rehearse [(.add 5 { read := true } 1, .initial), (.add 6 { read := true } 2, .initial),
    (.poll none, { Script.Stage.initial with script := failing }),
    (.poll none, { Script.Stage.initial with script := crowded })]

theorem cramped_ring_within :
    ∃ (h : History) (es : List Exchange) (x y : Exchange) (r : Ring) (failed told : Polled) (e : Error),
      h.exchanges = es ++ [x, y] ∧ h.config.batchSize = 1 ∧
      (∀ s ∈ x.transcript ++ y.transcript, s.bounded = true) ∧
      (x.answer = .polled failed ∧ failed.result = .error e ∧ failed.events = [] ∧
        x.before = .ring r ∧ x.consumed = [⟨9, 1, 0⟩] ∧
        Ring.outcomes r.registry r.multishot x.consumed = []) ∧
      (y.answer = .polled told ∧ told.result = .ok 1 ∧ told.events.length = 1) := by
  have computed : ∃ h ∈ crampedRing, h.config.batchSize = 1 ∧ h.start.facility = .ring ∧
      (∀ x ∈ h.exchanges, ∀ s ∈ x.transcript, s.bounded = true) ∧
      h.exchanges.map (fun x => (x.operation, x.consumed, x.answer.count?)) =
      [(.add 5 { read := true } 1, [], none), (.add 6 { read := true } 2, [], none)] ++
      [(.poll none, [⟨9, 1, 0⟩], none), (.poll none, [⟨0, 1, 0⟩], some 1)] := by
    decide +kernel
  obtain ⟨h, -, batch, opened, bounded, shown⟩ := computed
  obtain ⟨es, polls, split, -, later⟩ := List.map_eq_append_iff.mp shown
  obtain ⟨x, polls, rfl, first, last⟩ := List.map_eq_cons_iff.mp later
  obtain ⟨y, rfl, second⟩ := List.map_eq_singleton_iff.mp last
  obtain ⟨xPolls, taken, uncounted⟩ : _ ∧ _ ∧ _ := by simpa only [Prod.mk.injEq] using first
  obtain ⟨yPolls, -, counted⟩ : _ ∧ _ ∧ _ := by simpa only [Prod.mk.injEq] using second
  have bounded : ∀ z ∈ [x, y], ∀ s ∈ z.transcript, s.bounded = true := fun z mem =>
    bounded z (split ▸ List.mem_append_right es mem)
  obtain ⟨xBounded, yBounded⟩ := List.forall_mem_cons.mp bounded
  have yBounded := List.forall_mem_singleton.mp yBounded
  have facility : x.before.facility = .ring :=
    ((h.upTo split).run.facility_eq h.opened.sound).trans opened
  obtain ⟨r, before⟩ := Backend.eq_ring facility
  obtain ⟨failed, xAnswer, -, fails⟩ := h.polls_within_batch split xPolls xBounded
  have split' : h.exchanges = (es ++ [x]) ++ y :: [] := by rw [split, List.append_assoc]; rfl
  obtain ⟨told, yAnswer, tells, -⟩ := h.polls_within_batch split' yPolls yBounded
  rw [xAnswer] at uncounted
  rw [yAnswer, Answer.count?_polled] at counted
  cases error : failed.result with
  | ok count =>
      rw [Answer.count?_polled.mpr error] at uncounted
      cases uncounted
  | error e =>
      obtain ⟨silent, -, none⟩ := fails e error
      exact ⟨h, es, x, y, r, failed, told, e, split, batch,
        List.forall_mem_append.mpr ⟨xBounded, yBounded⟩,
        ⟨xAnswer, error, silent, before, taken, none r before⟩,
        ⟨yAnswer, counted, (tells 1 counted).1⟩⟩

end Multiplexer

import Multiplexer.Proofs.History.Opening
import Multiplexer.Proofs.History.Rehearsal
import Multiplexer.Proofs.History.Rings
import Multiplexer.Proofs.Ring.Deferral

/-! Requests put off, over whole histories of a ring. However often the queue refuses to take more,
what has come up is pushed once, is still pending or was superseded, and whenever the ring is waited for
nothing is pending. -/
namespace Multiplexer
open Multiplexer.Ring

/-- What a call to a ring makes it push, and which polls it need not push any more. -/
def Exchange.Incurs (x : Exchange) (incurred superseded : List Request) : Prop :=
  ∃ r r', x.before = .ring r ∧ x.after = .ring r' ∧
    r.Incurs x.operation x.transcript x.consumed x.answer incurred superseded r'

theorem Exchange.incurs (x : Exchange) {r : Ring} (ring : x.before = .ring r)
    (wf : r.registry.WellFormed) :
    ∃ r' incurred superseded, x.after = .ring r' ∧ x.Incurs incurred superseded ∧
      Alike (x.pushed ++ superseded ++ r'.pending) (r.pending ++ incurred) := by
  obtain ⟨r', after, served⟩ := x.ring_served ring wf
  obtain ⟨completions, pushed, incurred, superseded, balanced, incurs, same⟩ := served.incurs wf
  rw [← x.consumed_eq ring after balanced] at incurs
  rw [← x.pushed_eq ring after balanced] at same
  exact ⟨r', incurred, superseded, after, ⟨r, r', ring, after, incurs⟩, same⟩

theorem Run.incurs {b c : Backend} {xs : List Exchange} (run : Run b xs c) {r : Ring}
    (ring : b = .ring r) (sound : b.Sound) :
    ∃ (r' : Ring) (dues : List (List Request × List Request)), c = .ring r' ∧
      List.Forall₂ (fun x due => x.Incurs due.1 due.2) xs dues ∧
      Alike (xs.flatMap (·.pushed) ++ dues.flatMap (·.2) ++ r'.pending)
        (r.pending ++ dues.flatMap (·.1)) := by
  induction run with
  | start =>
      refine ⟨r, [], ring, .nil, .of_perm (List.Perm.of_eq (List.append_nil _).symm)⟩
  | @step xs x before ih =>
      obtain ⟨r₁, dues, same, all, accounts⟩ := ih
      obtain ⟨r', incurred, superseded, after, incurs, more⟩ :=
        x.incurs same ((before.sound sound).of_ring same)
      refine ⟨r', dues ++ [(incurred, superseded)], after,
        List.rel_append all (.cons incurs .nil), ?_⟩
      rw [List.flatMap_append, List.flatMap_append, List.flatMap_append, List.flatMap_singleton,
        List.flatMap_singleton, List.flatMap_singleton]
      exact accounts.step more

theorem History.recalls (h : History) {r : Ring} (ring : h.finish = .ring r) : r.Recalls := by
  obtain ⟨r₀, n, start, follows⟩ := h.opened_ring ring
  have fresh : r₀.Recalls := by
    intro k e opened
    rw [(create_fresh follows _ rfl).1] at opened
    cases opened
  obtain ⟨-, r', same, recalls⟩ := Run.invariant
    (P := fun b => b.Sound ∧ ∃ r, b = .ring r ∧ Recalls r) h.run
    ⟨h.opened.sound, r₀, start, fresh⟩ fun x ⟨sound, r, before, recalls⟩ => by
      have wf : r.registry.WellFormed := sound.of_ring before
      obtain ⟨r', after, served⟩ := x.ring_served before wf
      exact ⟨x.sound_after sound, r', after, served.recalls wf recalls⟩
  cases ring.symm.trans same
  exact recalls

open Dialogue in
/-- Resubmitting ends, whatever the state of the ring, and every pending request has been pushed once
or is pending still. Over any calls that follow, what has been pushed, what was superseded by a change
or a removal and what is pending are together what was pending and what came up; and before a poll
waits for the ring, all that was pending and has come up since has been pushed. -/
theorem History.deferred_pushed_once (h : History) {r : Ring} (ring : h.finish = .ring r) :
    (∀ {t log r'}, Moves r t log r' → ∀ n, Returns (r'.resubmit n) ∧
      Yields (r'.resubmit n) (Resubmits r')) ∧
    (∀ {xs b}, Run (.ring r) xs b →
      ∃ (r' : Ring) (dues : List (List Request × List Request)), b = .ring r' ∧
        List.Forall₂ (fun x due => x.Incurs due.1 due.2) xs dues ∧
        Alike (xs.flatMap (·.pushed) ++ dues.flatMap (·.2) ++ r'.pending)
          (r.pending ++ dues.flatMap (·.1))) ∧
    (∀ {timeout n t o past wait q entered rest}, Follows (r.poll timeout n) t o →
      t = past ++ .asked (.ringWait wait q) entered :: rest →
      ∃ completions revived r', Course r past completions revived r' ∧ r'.queues = q ∧
        r'.pending = [] ∧ Alike (pushedBetween r.queues past q) (r.pending ++ revived)) := by
  have wf : r.registry.WellFormed := h.sound.of_ring ring
  have recalls : r.Recalls := h.recalls ring
  refine ⟨?_, ?_, ?_⟩
  · intro t log r' moves n
    exact ⟨resubmit_returns r',
      resubmit_resubmits (moves.reflagged.wellFormed wf) (moves.recalls recalls)⟩
  · intro xs b run
    exact run.incurs rfl (ring ▸ h.sound)
  · intro timeout n t o past wait q entered rest follows split
    obtain ⟨log, r', -, -, moves, settled, rfl, -⟩ := (poll_polling r timeout follows).at_wait split
    have none : r'.pending = [] :=
      settled.pending_eq_nil (moves.recalls recalls) (moves.reflagged.wellFormed wf)
    obtain ⟨revived, course⟩ := moves.course
    obtain ⟨pushed, balanced, same⟩ := course.accounts wf
    rw [none, List.append_nil, ← balanced.pushed_eq] at same
    exact ⟨_, revived, r', course, rfl, none, same⟩

/-- The first poll after a change finds room for the withdrawal only, and what it leaves pending is
superseded by the next change. -/
def stallingRing : Option History := do
  let busy := Script.empty.put .submit [none, some ⟨[], some .busy, some 0⟩]
  let h ← History.rehearseOpening Ring.create .ring .ring
    { ring := { queueLength := 1, multishot := false } } .initial
  h.rehearse [(.add 5 { read := true } 1, .initial), (.modify 5 { write := true }, .initial),
    (.poll (some .zero), { Script.Stage.initial with script := busy }),
    (.modify 5 { read := true }, .initial), (.poll (some .zero), .initial)]

theorem stalling_ring_pushes_once :
    ∃ (h : History) (r : Ring) (xs : List Exchange) (b : Backend), h.finish = .ring r ∧
      Run (.ring r) xs b ∧
      r.pending = [.cancel 0 cancelKey, .poll 5 .output false 0x100000000] ∧
      xs.map (·.pushed) =
        [[.cancel 0 cancelKey], [], [.poll 5 (.input ||| .peerHangup) false 0x200000000]] ∧
      (∀ n, Dialogue.Yields (r.resubmit n) (Resubmits r)) ∧
      ∃ (r' : Ring) (dues : List (List Request × List Request)), b = .ring r' ∧
        List.Forall₂ (fun x due => x.Incurs due.1 due.2) xs dues ∧
        Alike (xs.flatMap (·.pushed) ++ dues.flatMap (·.2) ++ r'.pending)
          (r.pending ++ dues.flatMap (·.1)) := by
  have computed : ∃ h ∈ stallingRing, (h.exchanges.drop 2).map (·.pushed) =
      [[.cancel 0 cancelKey], [], [.poll 5 (.input ||| .peerHangup) false 0x200000000]] ∧
      ((h.exchanges.drop 2).head?.bind (·.before.ring?)).map (·.pending) =
        some [.cancel 0 cancelKey, .poll 5 .output false 0x100000000] := by
    decide +kernel
  obtain ⟨h, -, pushed, pending⟩ := computed
  have whole := (List.take_append_drop 2 h.exchanges).symm
  generalize h.exchanges.drop 2 = xs at pushed pending whole
  obtain ⟨x, rest, rfl, -, -⟩ := List.map_eq_cons_iff.mp pushed
  obtain ⟨r, ring, owes⟩ := Option.map_eq_some_iff.mp pending
  have finish : (h.upTo whole).finish = .ring r := Backend.eq_ring_of_ring? ring
  have later : Run (.ring r) (x :: rest) h.finish := finish ▸ h.run_from whole
  obtain ⟨resubmits, accounts, -⟩ := (h.upTo whole).deferred_pushed_once finish
  exact ⟨h.upTo whole, r, x :: rest, h.finish, finish, later, owes, pushed,
    fun n => (resubmits .rest n).2, accounts later⟩

end Multiplexer

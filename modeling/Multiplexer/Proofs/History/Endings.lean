import Multiplexer.Proofs.History.Rejections
import Multiplexer.Proofs.Ring.Endings

/-! What ends the polls of a ring that block. They end without an event only if they were roused.
Completions in the background dispatch nothing, whatever their number and order, with one exception:
the rejection of a multishot poll after another rejection. -/
namespace Multiplexer
open Dialogue Multiplexer.Ring

/-- The completion of an internal poll that does not wake, of a withdrawal, of a void key, of a
withdrawn poll or of a rejected one. -/
def Ring.Background (registry : Registry) (c : Completion) : Prop :=
  ¬ c.Wakes ∧ (Reserved c.data ∨ registry.get? (.unpack c.data) = none ∨
    c.result = -Errno.cancelled ∨ c.result = -Errno.invalidArgument)

instance {registry : Registry} {c : Completion} : Decidable (Background registry c) :=
  inferInstanceAs (Decidable (¬ (_ ∧ _) ∧ _))

/-- The poll of a registration was rejected. -/
def Ring.RejectsEntry (registry : Registry) (c : Completion) : Prop :=
  c.result = -Errno.invalidArgument ∧ ¬ Reserved c.data ∧
    (registry.get? (.unpack c.data)).isSome = true

namespace Ring

variable {registry : Registry} {multishot : Bool} {c : Completion} {cs : List Completion}

theorem outcomes_eq_nil_iff : outcomes registry multishot cs = [] ↔
    ∀ earlier c later, cs = earlier ++ c :: later →
      outcome registry (asking registry multishot earlier) c = [] := by
  induction cs generalizing multishot with
  | nil =>
      refine iff_of_true rfl fun earlier c later split => ?_
      exact absurd split.symm (List.append_ne_nil_of_right_ne_nil _ (List.cons_ne_nil _ _))
  | cons d cs ih =>
      have next : ∀ earlier, asking registry multishot (d :: earlier) =
          asking registry (asking registry multishot [d]) earlier :=
        fun earlier => @asking_append registry multishot [d] earlier
      rw [outcomes, List.append_eq_nil_iff, ih]
      constructor
      · rintro ⟨first, rest⟩ earlier c later split
        cases earlier with
        | nil =>
            cases split
            rw [asking_nil]
            exact first
        | cons d' earlier =>
            obtain ⟨rfl, tail⟩ := List.cons.inj split
            rw [next]
            exact rest earlier c later tail
      · intro every
        refine ⟨?_, fun earlier c later split => ?_⟩
        · have first := every [] d cs rfl
          rwa [asking_nil] at first
        · rw [← next]
          exact every (d :: earlier) c later (congrArg (d :: ·) split)

/-- In the background, only a rejection that goes unnoticed dispatches something. -/
theorem Background.outcome_eq_nil_iff (h : Background registry c) :
    outcome registry multishot c = [] ↔ (RejectsEntry registry c → multishot = true) := by
  by_cases reserved : Reserved c.data
  · rw [outcome, if_pos reserved]
    exact iff_of_true rfl fun rejects => absurd reserved rejects.2.1
  cases current : registry.get? (.unpack c.data) with
  | none =>
      rw [outcome, if_neg reserved, current, Option.elim_none]
      refine iff_of_true rfl fun rejects => ?_
      have present := rejects.2.2
      rw [current] at present
      cases present
  | some e =>
      by_cases rejected : c.result = -Errno.invalidArgument
      · rw [outcome_rejected reserved current rejected]
        cases multishot with
        | true => exact iff_of_true rfl fun _ => rfl
        | false =>
            refine iff_of_false (List.cons_ne_nil _ _) fun noticed => ?_
            refine absurd (noticed ⟨rejected, reserved, ?_⟩) Bool.false_ne_true
            rw [current]
            rfl
      · have cancelled : c.result = -Errno.cancelled := by
          rcases h.2 with internal | void | cancelled | rejected'
          · exact absurd internal reserved
          · cases current.symm.trans void
          · exact cancelled
          · exact absurd rejected' rejected
        rw [outcome, if_neg reserved, current, Option.elim_some, if_pos (.inr cancelled)]
        exact iff_of_true rfl fun rejects => absurd rejects.1 rejected

end Ring

theorem Exchange.poll_explained (x : Exchange) {r : Ring} {timeout : Timeout}
    (ring : x.before = .ring r) (op : x.operation = .poll timeout)
    (blocking : timeout ≠ some .zero) (idle : x.answer.count? = some 0) :
    Roused (x.transcript.due timeout) x.transcript x.consumed := by
  obtain ⟨n, follows⟩ := x.served
  rw [ring, op] at follows
  have explains : Yields ((Backend.ring r).serve (.poll timeout) n) fun t result =>
      ∃ polled r', result = (.polled polled, .ring r') ∧
        Explained (t.due timeout) r.queues t (polled, r') := by
    simp only [Backend.serve, Backend.poll, Sys.yields_map]
    exact (r.poll_explained blocking).mono₂ fun _ polled r' explained => ⟨polled, r', rfl, explained⟩
  obtain ⟨polled, r', same, pushed, consumed, balanced, roused⟩ := explains follows
  obtain ⟨answer, after⟩ := Prod.mk.inj same
  rw [x.consumed_eq ring after balanced]
  rw [answer, Answer.count?_polled] at idle
  exact roused idle

/-- A poll of a ring that blocks returns zero only if it took a wakeup, its wait was interrupted or it
saw the clock at its deadline or later. What it takes in the background dispatches nothing, exactly
if each rejected registration among it is the first rejection of all since the ring was opened. -/
theorem History.blocking_ring_endings (h : History) {es fs : List Exchange} {x : Exchange} {r : Ring}
    {timeout : Timeout} (split : h.exchanges = es ++ x :: fs) (ring : x.before = .ring r)
    (op : x.operation = .poll timeout) (blocking : timeout ≠ some .zero) :
    (x.answer.count? = some 0 → Roused (x.transcript.due timeout) x.transcript x.consumed) ∧
    ((∀ c ∈ x.consumed, Background r.registry c) →
      (x.answer.events = [] ↔ ∀ earlier c later, x.consumed = earlier ++ c :: later →
        RejectsEntry r.registry c → Unrejected h.config es r.registry earlier)) := by
  have wf : r.registry.WellFormed := (h.upTo split).sound.of_ring ring
  refine ⟨x.poll_explained ring op blocking, fun background => ?_⟩
  rw [(x.outcomes_eq ring wf).1, outcomes_eq_nil_iff]
  refine forall₄_congr fun earlier c later taken => ?_
  have quiet := background c (taken ▸ List.mem_append_right _ List.mem_cons_self)
  rw [quiet.outcome_eq_nil_iff, asking_eq_true_iff, (h.upTo split).asks ring, and_assoc]
  rfl

/-- A ring is polled without a timeout, and told of these completions before an interruption. -/
def polledInBackground (completions : List Completion) : Option History := do
  let waited := Script.empty.put .submitAndWait [some ⟨completions, none, none⟩]
  let h ← History.rehearseOpening Ring.create .ring .ring { ring := { multishot := true } } .initial
  h.rehearse [(.add 5 { read := true } 1, .initial), (.add 6 { read := true } 2, .initial),
    (.poll none, { Script.Stage.initial with script := waited })]

/-- A call and what it consumed, whether all of that was in the background, and how it ended. -/
structure Backdrop where
  operation : Operation
  consumed : List Completion
  background : Option Bool
  interrupted : Bool
  count : Option Nat
  deriving DecidableEq

def Exchange.backdrop (x : Exchange) : Backdrop where
  operation := x.operation
  consumed := x.consumed
  background := x.before.ring?.map fun r => decide (∀ c ∈ x.consumed, Background r.registry c)
  interrupted := x.transcript.any Step.interrupted
  count := x.answer.count?

/-- A rejection, a wakeup that failed, a timer, a withdrawal, a void key and a withdrawn poll. -/
def background : List Completion :=
  [⟨0, -22, 0⟩, ⟨wakeKey, -125, 2⟩, ⟨timerKey, 1, 2⟩, ⟨cancelKey, 0, 0⟩, ⟨77, 1, 2⟩, ⟨1, -125, 0⟩]

theorem background_poll_interrupted :
    ∃ (h : History) (es : List Exchange) (x : Exchange) (r : Ring),
      h.exchanges = es ++ [x] ∧ x.before = .ring r ∧ x.operation = .poll none ∧
      x.consumed = background ∧ (∀ c ∈ background, Background r.registry c) ∧
      x.answer.count? = some 0 ∧ Roused none x.transcript background ∧ x.answer.events = [] := by
  have computed : ∃ h ∈ polledInBackground background, h.config.ring.multishot = true ∧
      h.exchanges.map (·.backdrop) =
      [⟨.add 5 { read := true } 1, [], some true, false, none⟩,
        ⟨.add 6 { read := true } 2, [], some true, false, none⟩] ++
      [⟨.poll none, background, some true, true, some 0⟩] := by
    decide +kernel
  obtain ⟨h, -, asks, shown⟩ := computed
  obtain ⟨es, last, split, earlier, later⟩ := List.map_eq_append_iff.mp shown
  obtain ⟨x, rfl, facts⟩ := List.map_eq_singleton_iff.mp later
  obtain ⟨op, taken, quiet, -, count⟩ := Backdrop.mk.inj facts
  obtain ⟨r, ring, quiet⟩ := Option.map_eq_some_iff.mp quiet
  have before := Backend.eq_ring_of_ring? ring
  have quiet := of_decide_eq_true quiet
  obtain ⟨rouses, silent⟩ := h.blocking_ring_endings split before op nofun
  have untouched : ∀ z ∈ es, z.consumed = [] := by
    obtain ⟨a, _, rfl, first, earlier⟩ := List.map_eq_cons_iff.mp earlier
    obtain ⟨b, rfl, second⟩ := List.map_eq_singleton_iff.mp earlier
    exact List.forall_mem_cons.mpr ⟨(Backdrop.mk.inj first).2.1,
      List.forall_mem_singleton.mpr (Backdrop.mk.inj second).2.1⟩
  have noticed : ∀ first c rest, x.consumed = first ++ c :: rest →
      RejectsEntry r.registry c → Unrejected h.config es r.registry first := by
    intro first c rest same rejects
    rw [taken] at same
    cases first with
    | nil =>
        refine ⟨asks, fun z hz d hd => ?_, nofun⟩
        rw [untouched z hz] at hd
        cases hd
    | cons d first =>
        have others : ∀ c ∈ background.tail, c.result ≠ -Errno.invalidArgument := by decide
        refine absurd rejects.1 (others c ?_)
        rw [same]
        exact List.mem_append_right _ List.mem_cons_self
  have roused := rouses count
  rw [taken] at roused quiet
  exact ⟨h, es, x, r, split, before, op, taken, quiet, count, roused,
    (silent (taken ▸ quiet)).mpr noticed⟩

/-- Of two rejections the second is dispatched as an error, and that ends the poll. -/
theorem rejections_end_poll :
    ∃ h ∈ polledInBackground [⟨0, -22, 0⟩, ⟨1, -22, 0⟩], ∃ x ∈ h.exchanges.getLast?,
      x.backdrop = ⟨.poll none, [⟨0, -22, 0⟩, ⟨1, -22, 0⟩], some true, false, some 1⟩ ∧
      x.answer.events = [⟨6, 2, .readiness { error := true }⟩] := by
  decide +kernel

end Multiplexer

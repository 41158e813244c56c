import Multiplexer.Proofs.History.Opening
import Multiplexer.Proofs.History.Rehearsal
import Multiplexer.Proofs.History.Rings
import Multiplexer.Proofs.Ring.Internal

/-! The internal polls of a ring over whole histories. Between calls each of them is live or about to
be pushed, and it is live whenever the ring is waited for, so every wait can be ended. -/
namespace Multiplexer
open Sys

namespace Ring

variable {config : Config} {n : Nat}

/-- The ring with these internal polls to be pushed. -/
def flagged (r : Ring) (flags : Internal → Bool) : Ring :=
  { r with rearmWaker := flags .waker, rearmTimer := flags .timer }

theorem Internal.pending_flagged {r : Ring} {flags : Internal → Bool} (i : Internal) :
    i.pending (r.flagged flags) = flags i := by
  cases i <;> rfl

theorem Internal.descriptor_flagged {r : Ring} {flags : Internal → Bool} (i : Internal) :
    i.descriptor (r.flagged flags) = i.descriptor r := by
  cases i <;> rfl

theorem Watchful.fresh {t : Transcript} {r : Ring} {capacity : Nat} (silent : t.Silent)
    (queues : r.queues = .empty capacity) : Watchful t ⟨[], []⟩ (r.flagged fun _ => true) where
  linked := by
    change Balanced _ t _ _ r.queues
    exact queues ▸ .opened silent
  due := by
    change Due _ _ r.queues.completions
    rw [queues]
    trivial
  counted := fun _ => Nat.le_refl _
  watches := by
    intro i
    unfold Watches
    rw [if_pos i.pending_flagged]
    rfl

theorem Watchful.push_first {t u : Transcript} {b : Books} {r : Ring} {flags : Internal → Bool}
    {queues : Queues} (h : Watchful t b (r.flagged flags)) (i : Internal) (flag : flags i = true)
    (pushed : Pushed r.queues (r.watch (i.descriptor r) .input i.key) u (.ok (), queues))
    (orderly : Transcript.Orderly (t ++ u)) :
    ∃ b', Watchful (t ++ u) b'
      (({ r with queues } : Ring).flagged (Function.update flags i false)) := by
  obtain ⟨q, kept, appended, -⟩ := Pushed.watchful (r := r.flagged flags) pushed h orderly
  change Watchful (t ++ u) b (({ r with queues := q } : Ring).flagged flags) at kept
  refine ⟨_, kept.push_internal i (i.pending_flagged.trans flag) ?_ ?_ (fun j other => ?_)
    fun _ => ?_⟩
  · rw [Internal.descriptor_flagged]
    exact appended rfl
  · rw [Internal.pending_flagged, Function.update_self]
  · rw [Internal.pending_flagged, Internal.pending_flagged, Function.update_of_ne other]
  · rw [Internal.descriptor_flagged, Internal.descriptor_flagged]
    rfl

/-- A ring that has just been opened has both internal polls pushed. -/
theorem create_watchful : Gives (Ring.create config) n fun t r => t.Orderly →
    ∃ b, Watchful t b r := by
  refine create_created.mono fun t r created orderly => ?_
  obtain ⟨silent, first, second, enters, noted⟩ := created
  obtain ⟨_, watchful₁⟩ := Watchful.push_first (.fresh silent (by rfl)) .waker rfl first
    orderly.before.before.before
  obtain ⟨_, watchful₂⟩ := watchful₁.push_first .timer rfl second orderly.before.before
  exact ⟨_, (watchful₂.enter enters orderly.before).aside noted⟩

end Ring

open Multiplexer.Ring

theorem Run.watchful {t : Transcript} {b c : Backend} {r : Ring} {books : Books}
    {xs : List Exchange} (run : Run b xs c) (ring : b = .ring r) (sound : b.Sound)
    (narrow : r.registry.Narrow) (start : Watchful t books r)
    (orderly : Transcript.Orderly (t ++ xs.flatMap (·.transcript))) :
    ∃ r' books', c = .ring r' ∧ r'.registry.Narrow ∧
      Watchful (t ++ xs.flatMap (·.transcript)) books' r' := by
  induction run with
  | start =>
      rw [List.flatMap_nil, List.append_nil]
      exact ⟨r, books, ring, narrow, start⟩
  | @step xs x before ih =>
      simp only [List.flatMap_append, List.flatMap_singleton, ← List.append_assoc] at orderly ⊢
      obtain ⟨r₁, books₁, same, narrow₁, watchful₁⟩ := ih orderly.before
      have now : x.before.Sound := before.sound sound
      have wf : r₁.registry.WellFormed := now.of_ring same
      obtain ⟨r', after, served⟩ := x.ring_served same wf
      obtain ⟨books', watchful'⟩ := served.watchful wf narrow₁ watchful₁ orderly
      refine ⟨r', books', after, served.narrow wf narrow₁ fun opened => ?_, watchful'⟩
      exact orderly.opened (List.mem_append_right _ opened)

theorem History.watchful (h : History) {r : Ring} (ring : h.finish = .ring r)
    (orderly : h.transcript.Orderly) :
    r.registry.Narrow ∧ Watchful h.transcript (h.transcript.books r.queues) r := by
  obtain ⟨r₀, n, start, follows⟩ := h.opened_ring ring
  obtain ⟨books, fresh⟩ := create_watchful follows _ rfl orderly.before
  have narrow : r₀.registry.Narrow := by
    rw [(create_fresh follows _ rfl).1]
    exact Registry.Confined.empty
  obtain ⟨r', books', same, narrow', watchful⟩ :=
    h.run.watchful start h.opened.sound narrow fresh orderly
  cases ring.symm.trans same
  have whole : h.transcript.books r.queues = books' := Transcript.books_eq watchful.linked
  rw [whole]
  exact ⟨narrow', watchful⟩

/-- Between the calls of any history each internal poll is live exactly once, or it is to be pushed
again and not live; whenever a poll then waits for the ring, each is live exactly once. -/
theorem History.watches_internal (h : History) {r : Ring} (ring : h.finish = .ring r)
    (orderly : h.transcript.Orderly) (i : Internal) :
    r.Watches (h.transcript.books r.queues) i ∧
    ∀ {timeout n t o past s rest q entered}, Dialogue.Follows (r.poll timeout n) t o →
      t = past ++ s :: rest → s.waits = true → s.entered? = some (q, entered) →
      (h.transcript ++ past).Orderly →
      ∃ multishot, ((h.transcript ++ past).books q).live i.key =
        [.poll (i.descriptor r) .input multishot i.key] := by
  obtain ⟨narrow, watchful⟩ := h.watchful ring orderly
  refine ⟨watchful.watches i, ?_⟩
  intro timeout n t o past s rest q entered follows split waits front orderly
  obtain ⟨wait, rfl⟩ := Step.eq_wait waits front
  obtain ⟨log, r', -, -, moves, settled, rfl, -⟩ := (poll_polling r timeout follows).at_wait split
  obtain ⟨books, watchful'⟩ := moves.watchful watchful narrow orderly
  have watches := watchful'.watches i
  unfold Watches at watches
  rw [if_neg (Bool.eq_false_iff.mp (settled.not_pending i)), moves.descriptor_eq] at watches
  rw [Transcript.books_eq watchful'.linked]
  exact watches

/-- A poll of a small ring is ended by the last completion of the poll on the waker. -/
def wokenRing : Option History := do
  let woken := Script.empty.put .submitAndWait [some ⟨[⟨wakeKey, 1, 0⟩], none, none⟩]
  let h ← History.rehearseOpening Ring.create .ring .ring
    { ring := { queueLength := 1, multishot := true } } .initial
  h.rehearse [(.add 5 { read := true } 1, .initial),
    (.poll none, { Script.Stage.initial with script := woken })]

/-- What the next poll of a ring says when its first round ends the poll on the timer. -/
def timedRound (r : Ring) : Transcript :=
  let timed := Script.empty.put .submitAndWait [some ⟨[⟨timerKey, 1, 0⟩], none, none⟩]
  ((r.poll none 9).perform Script.Stage.respond
    { Script.Stage.initial with script := timed }).transcript

theorem woken_ring_watched :
    ∃ (h : History) (r : Ring), h.finish = .ring r ∧ h.transcript.Orderly ∧ r.rearmWaker = true ∧
      r.rearmTimer = false ∧ (∀ i, r.Watches (h.transcript.books r.queues) i) ∧
      ∃ o past s rest q entered, Dialogue.Follows (r.poll none 9) (timedRound r) o ∧
        timedRound r = past ++ s :: rest ∧ past.length = 2 ∧ s.waits = true ∧
        s.entered? = some (q, entered) ∧ (h.transcript ++ past).Orderly ∧
        ∀ i : Internal, ∃ multishot, ((h.transcript ++ past).books q).live i.key =
          [.poll (i.descriptor r) .input multishot i.key] := by
  have computed : ∃ h ∈ wokenRing, ∃ r ∈ h.finish.ring?, h.transcript.Orderly ∧
      r.rearmWaker = true ∧ r.rearmTimer = false ∧
      (h.transcript ++ (timedRound r).take 2).Orderly ∧
      ∃ s ∈ (timedRound r)[2]?, s.waits = true ∧ s.entered?.isSome = true := by
    decide +kernel
  obtain ⟨h, -, r, ring, orderly, waker, timer, orderly', s, third, waits, enters⟩ := computed
  obtain ⟨⟨q, entered⟩, front⟩ := Option.isSome_iff_exists.mp enters
  obtain ⟨within, same⟩ := List.getElem?_eq_some_iff.mp third
  have finish := Backend.eq_ring_of_ring? ring
  have split : timedRound r = (timedRound r).take 2 ++ s :: (timedRound r).drop 3 := by
    rw [← same, ← List.drop_eq_getElem_cons within, List.take_append_drop]
  have follows : Dialogue.Follows (r.poll none 9) (timedRound r) _ :=
    Dialogue.follows_perform _ _ _
  refine ⟨h, r, finish, orderly, waker, timer, fun i => (h.watches_internal finish orderly i).1, _,
    _, s, _, q, entered, follows, split, ?_, waits, front, orderly', fun i => ?_⟩
  · exact List.length_take_of_le within.le
  · exact (h.watches_internal finish orderly i).2 follows split waits front orderly'

end Multiplexer

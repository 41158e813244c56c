import Multiplexer.Proofs.History.Generations
import Multiplexer.Proofs.History.Rehearsal
import Multiplexer.Proofs.History.Rings
import Multiplexer.Proofs.Ring.Arming

/-! The polls of a ring over whole histories. -/
namespace Multiplexer
open Sys

namespace Ring

variable {config : Config} {n : Nat}

theorem pushFirst_armed {t u : Transcript} {b : Books} {r : Ring}
    {failed : UInt64 → Event → Prop} {fd : Descriptor} {mask : PollMask} {data : UInt64}
    {queues : Queues} (reserved : Reserved data) (h : Armed t b r failed)
    (pushed : Pushed r.queues (r.watch fd mask data) u (.ok (), queues))
    (lawful : Transcript.Lawful (t ++ u)) :
    ∃ b', b'.consumed = b.consumed ∧ Armed (t ++ u) b' { r with queues } failed := by
  obtain ⟨q, armed, same, -⟩ := pushed.armed h lawful
  refine ⟨b.push (r.watch fd mask data), rfl, armed.push _ (same rfl) fun plain => ?_⟩
  exact (armed.phase plain).push_other (watch_polls plain reserved)

theorem Armed.fresh {t : Transcript} {r : Ring} {capacity : Nat} (silent : t.Silent)
    (queues : r.queues = .empty capacity) (registry : r.registry = .empty) :
    Armed t ⟨[], []⟩ r fun _ _ => False where
  linked := queues ▸ .opened silent
  owed := by
    rw [queues]
    trivial
  counted := fun _ => Nat.le_refl _
  phase := fun _ => .unissued (registry ▸ Registry.get?_empty) rfl

/-- A ring that has just been opened has pushed nothing but its internal polls. -/
theorem create_armed : Gives (Ring.create config) n fun t r => t.Lawful →
    ∃ b, b.consumed = [] ∧ Armed t b r fun _ _ => False := by
  refine create_created.mono fun t r created lawful => ?_
  obtain ⟨silent, first, second, enters, noted⟩ := created
  obtain ⟨b₁, consumed₁, armed₁⟩ := pushFirst_armed (.inl rfl) (.fresh silent rfl rfl) first
    lawful.before.before.before
  obtain ⟨b₂, consumed₂, armed₂⟩ := pushFirst_armed (.inr (.inl rfl)) armed₁ second
    lawful.before.before
  exact ⟨b₂, consumed₂.trans consumed₁, (armed₂.enter enters lawful.before).aside noted⟩

end Ring

/-- A poll under the data failed, the event was dispatched for it, and nothing was taken under the
data since. -/
def ReportedFailed (xs : List Exchange) (data : UInt64) (event : Event) : Prop :=
  ∃ es x fs earlier c later, xs = es ++ x :: fs ∧ x.consumed = earlier ++ c :: later ∧
    c.data = data ∧ c.result < 0 ∧ event ∈ x.answer.events ∧
    ∀ d ∈ later ++ fs.flatMap (·.consumed), d.data ≠ data

theorem ReportedFailed.step {xs : List Exchange} {x : Exchange} {log : Ring.Log} {data : UInt64}
    {event : Event} (consumed : x.consumed = log.map (·.1)) (events : x.answer.events = log.events)
    (h : Ring.Failing (ReportedFailed xs) log data event) :
    ReportedFailed (xs ++ [x]) data event := by
  rcases h with ⟨⟨es, y, fs, earlier, c, later, rfl, split, same, neg, mem, quiet⟩, unmet⟩ |
    ⟨before, c, reported, after, rfl, same, neg, mem, quiet⟩
  · refine ⟨es, y, fs ++ [x], earlier, c, later, by rw [List.append_assoc, List.cons_append], split,
      same, neg, mem, fun d hd => ?_⟩
    rw [List.flatMap_append, List.flatMap_singleton, ← List.append_assoc] at hd
    rcases List.mem_append.mp hd with hd | hd
    · exact quiet d hd
    · rw [consumed] at hd
      obtain ⟨entry, hentry, rfl⟩ := List.mem_map.mp hd
      exact unmet entry hentry
  · refine ⟨xs, x, [], before.map (·.1), c, after.map (·.1), rfl, ?_, same, neg, ?_, fun d hd => ?_⟩
    · rw [consumed, List.map_append, List.map_cons]
    · rw [events]
      exact List.mem_flatMap.mpr ⟨_, List.mem_append_right _ List.mem_cons_self, mem⟩
    · rw [List.flatMap_nil, List.append_nil] at hd
      obtain ⟨entry, hentry, rfl⟩ := List.mem_map.mp hd
      exact quiet entry hentry

open Multiplexer.Ring

theorem Run.armed {t : Transcript} {b c : Backend} {r : Ring} {books : Books} {xs : List Exchange}
    (run : Run b xs c) (ring : b = .ring r) (sound : b.Sound) (fresh : b.registry = .empty)
    (start : Armed t books r fun _ _ => False) (none : books.consumed = [])
    (lawful : Transcript.Lawful (t ++ xs.flatMap (·.transcript)))
    (few : ∀ i, turns i xs < generations) :
    ∃ r' books', c = .ring r' ∧ books'.consumed = xs.flatMap (·.consumed) ∧ r'.registry.Narrow ∧
      Armed (t ++ xs.flatMap (·.transcript)) books' r' (ReportedFailed xs) := by
  have first : ∀ i, (b.registry.generation i).toNat = 0 := by
    intro i
    rw [fresh]
    rfl
  induction run with
  | start =>
      simp only [List.flatMap_nil, List.append_nil]
      have empty : r.registry = .empty := by
        rw [ring] at fresh
        exact fresh
      exact ⟨r, books, ring, none, empty ▸ Registry.Confined.empty, start.mono False.elim⟩
  | @step xs x before ih =>
      simp only [List.flatMap_append, List.flatMap_singleton, ← List.append_assoc] at lawful ⊢
      have fewer : ∀ i, turns i xs + turns i [x] < generations := by
        intro i
        rw [← turns_append]
        exact few i
      obtain ⟨r₁, books₁, same, consumed₁, narrow, armed₁⟩ :=
        ih lawful.before fun i => (Nat.le_add_right _ _).trans_lt (fewer i)
      have now : x.before.Sound := before.sound sound
      have wf : r₁.registry.WellFormed := now.of_ring same
      obtain ⟨r', after, served⟩ := x.ring_served same wf
      have rises : ∀ i, (r₁.registry.generation i).toNat ≤ (r'.registry.generation i).toNat := by
        intro i
        have met := before.toNat_generation sound (i := i)
          (by rw [first]; have := fewer i; omega)
        rw [first, Nat.zero_add] at met
        have moved := x.toNat_generation now (i := i) (by rw [met]; exact fewer i)
        rw [same, after] at moved
        exact moved ▸ Nat.le_add_right _ _
      obtain ⟨books', log, consumed', ⟨pushed, balanced⟩, events, armed'⟩ :=
        served.armed wf rises armed₁ lawful
      have taken : x.consumed = log.map (·.1) := x.consumed_eq same after balanced
      refine ⟨r', books', after, ?_, served.narrow wf narrow fun asked => ?_, armed'.mono ?_⟩
      · rw [consumed', consumed₁, taken]
      · exact lawful.descriptors (List.mem_append_right _ asked)
      · exact .step taken events

namespace History

/-- All that was pushed and taken on a ring until now. -/
def books (h : History) : Books :=
  ⟨h.transcript.taken ++ h.finish.queues.requests, h.exchanges.flatMap (·.consumed)⟩

theorem armed (h : History) {r : Ring} (ring : h.finish = .ring r) (lawful : h.transcript.Lawful)
    (few : ∀ i, turns i h.exchanges < generations) :
    r.registry.Narrow ∧ Armed h.transcript h.books r (ReportedFailed h.exchanges) := by
  obtain ⟨r₀, n, start, follows⟩ := h.opened_ring ring
  obtain ⟨books, none, armed⟩ := create_armed follows _ rfl lawful.before
  obtain ⟨r', books', same, consumed, narrow, armed'⟩ :=
    h.run.armed start h.opened.sound h.opened.registry_eq armed none lawful few
  cases ring.symm.trans same
  have whole : h.books = books' := by
    have requests := armed'.linked.requests
    obtain ⟨pushed, taken⟩ := books'
    rw [History.books, ring, ← consumed]
    exact congrArg (Books.mk · _) requests.symm
  exact ⟨narrow, whole ▸ armed'⟩

end History

/-- How a ring stands to the polls on its books: every registration is watched by exactly one poll,
with its descriptor and for the stored interest, or its key is kept to submit it again; only when its
poll failed, which was reported, it has neither. The polls of ended registrations are withdrawn or
about to be. -/
structure Ring.Tends (r : Ring) (b : Books) (failed : UInt64 → Event → Prop) : Prop where
  keyed : ∀ {fd}, r.registry.contains fd = true →
    ∃ k e, r.registry.keyOf? fd = some k ∧ r.registry.get? k = some e
  once : ∀ {fd k}, r.registry.keyOf? fd = some k → (b.live k.pack).length ≤ 1
  pending : ∀ {fd k e}, r.registry.keyOf? fd = some k → r.registry.get? k = some e →
    e.rearm = true → b.live k.pack = [] ∧ k ∈ r.rearm
  armed : ∀ {fd k e}, r.registry.keyOf? fd = some k → r.registry.get? k = some e →
    e.rearm = false →
    (∃ multishot, b.live k.pack = [.poll fd e.interest.pollMask multishot k.pack]) ∨
    (b.live k.pack = [] ∧ failed k.pack ⟨fd, e.token, .readiness { error := true }⟩)
  withdrawn : ∀ {data}, ¬ Reserved data → r.registry.get? (.unpack data) = none →
    b.live data ≠ [] → data ∈ r.cancels ∨ b.Withdrawn data

theorem Ring.Armed.tends {t : Transcript} {b : Books} {r : Ring} {failed : UInt64 → Event → Prop}
    (h : Armed t b r failed) (wf : r.registry.WellFormed) (narrow : r.registry.Narrow) :
    r.Tends b failed := by
  have phase : ∀ {k e}, r.registry.get? k = some e →
      Phase b r.registry r.rearm r.cancels failed k.pack :=
    fun opened => h.phase (not_reserved narrow opened)
  constructor
  case keyed =>
    intro fd present
    obtain ⟨k, hk⟩ := wf.contains_iff.mp present
    obtain ⟨e, opened, -⟩ := wf.keyOf?_eq_some_iff.mp hk
    exact ⟨k, e, hk, opened⟩
  case once =>
    intro fd k hk
    obtain ⟨e, opened, -⟩ := wf.keyOf?_eq_some_iff.mp hk
    cases phase opened with
    | unissued absent =>
        rw [Key.unpack_pack] at absent
        cases absent.symm.trans opened
    | pending _ _ idle =>
        rw [idle]
        exact Nat.zero_le _
    | armed _ _ one =>
        rw [one]
        exact Nat.le_refl _
    | failed _ _ idle =>
        rw [idle]
        exact Nat.zero_le _
    | ended absent =>
        rw [Key.unpack_pack] at absent
        cases absent.symm.trans opened
  case pending =>
    intro fd k e _ opened flagged
    have waits := (phase opened).idle_of_flagged ((Key.unpack_pack k).symm ▸ opened) flagged
    rw [Key.unpack_pack] at waits
    exact waits
  case armed =>
    intro fd k e hk opened clear
    obtain ⟨e', opened', rfl⟩ := wf.keyOf?_eq_some_iff.mp hk
    cases opened.symm.trans opened'
    have phase := phase opened
    rw [← Key.unpack_pack k] at opened
    cases phase with
    | unissued absent => cases absent.symm.trans opened
    | pending opened' flagged =>
        cases opened.symm.trans opened'
        cases flagged.symm.trans clear
    | armed opened' _ one =>
        cases opened.symm.trans opened'
        exact .inl ⟨_, one⟩
    | failed opened' _ idle reported =>
        cases opened.symm.trans opened'
        exact .inr ⟨idle, reported⟩
    | ended absent => cases absent.symm.trans opened
  case withdrawn =>
    intro data plain absent owes
    cases h.phase plain with
    | unissued _ none =>
        rw [Books.live, none, List.drop_nil] at owes
        exact absurd rfl owes
    | pending opened => cases absent.symm.trans opened
    | armed opened => cases absent.symm.trans opened
    | failed opened => cases absent.symm.trans opened
    | ended _ _ pulled => exact pulled owes

/-- Between the calls of any history, a ring tends its polls. -/
theorem History.tends_polls (h : History) {r : Ring} (ring : h.finish = .ring r)
    (lawful : h.transcript.Lawful) (few : ∀ i, turns i h.exchanges < generations) :
    r.Tends h.books (ReportedFailed h.exchanges) := by
  obtain ⟨narrow, armed⟩ := h.armed ring lawful few
  exact armed.tends (h.sound.of_ring ring) narrow

/-- Of three registrations one has to be submitted again and one has failed; the slot of the third
went to another one. -/
def mixedPolls : Option History := do
  let completions : List Completion := [⟨0, 1, 0⟩, ⟨1, -5, 0⟩]
  let waited := Script.empty.put .submitAndWait [some ⟨completions, none, none⟩]
  let h ← History.rehearseOpening Ring.create .ring .ring {} .initial
  h.rehearse [(.add 5 { read := true } 1, .initial), (.add 6 { read := true } 2, .initial),
    (.add 7 { write := true } 3, .initial),
    (.poll none, { Script.Stage.initial with script := waited }),
    (.remove 7, .initial), (.add 8 { write := true } 4, .initial)]

theorem mixed_polls_tended :
    ∃ (h : History) (r : Ring), h.finish = .ring r ∧ h.transcript.Lawful ∧
      (∀ i, turns i h.exchanges < generations) ∧ r.rearm = [⟨0, 0⟩] ∧ r.cancels = [2] ∧
      [0, 1, 2, 0x100000002].map h.books.live =
        [[], [], [.poll 7 .output false 2], [.poll 8 .output false 0x100000002]] ∧
      r.Tends h.books (ReportedFailed h.exchanges) := by
  have computed : ∃ h ∈ mixedPolls,
      (h.finish.ring?.map fun r => (r.rearm, r.cancels)) = some ([⟨0, 0⟩], [2]) ∧
      h.transcript.Lawful ∧ h.exchanges.length = 6 ∧
      [0, 1, 2, 0x100000002].map h.books.live =
        [[], [], [.poll 7 .output false 2], [.poll 8 .output false 0x100000002]] := by
    decide +kernel
  obtain ⟨h, -, pending, lawful, calls, live⟩ := computed
  obtain ⟨r, ring, lists⟩ := Option.map_eq_some_iff.mp pending
  obtain ⟨rearm, cancels⟩ : _ ∧ _ := by simpa only [Prod.mk.injEq] using lists
  have few : ∀ i, turns i h.exchanges < generations := fun i =>
    (List.countP_le_length.trans_eq calls).trans_lt (by decide)
  have finish := Backend.eq_ring_of_ring? ring
  exact ⟨h, r, finish, lawful, few, rearm, cancels, live, h.tends_polls finish lawful few⟩

end Multiplexer

import Multiplexer.Proofs.History.Filters
import Multiplexer.Proofs.History.Liveness
import Multiplexer.Proofs.History.Provenance
import Multiplexer.Proofs.Isolation
import Multiplexer.Proofs.Ring.Isolation

/-! The wakeup channel over whole histories. It stays watched under its own data and no event names its
descriptor, unless somebody adds that descriptor: then it is a registration like any other. -/
namespace Multiplexer
open Sys

variable {config : Config} {n : Nat} {w : Descriptor} {t : Transcript} {b c : Backend}
  {xs : List Exchange} {x : Exchange}

namespace Backend

/-- The descriptor by which a wait of the facility is ended; a completion port needs none. -/
def wakeupDescriptor? : Backend → Option Descriptor
  | epoll p => some p.wakeup.reader
  | kqueue p => some p.wakeup.reader
  | bitmap p => some p.wakeup.reader
  | socket p => some p.wakeup.reader
  | port _ => none
  | ring r => some r.waker.descriptor

/-- The wakeup channel is watched through this descriptor, and has been all along. -/
def Guards (w : Descriptor) (t : Transcript) : Backend → Prop
  | epoll p => p.wakeup.reader = w ∧ t.listed w = some (.input, wakeKey)
  | kqueue p => p.wakeup.reader = w ∧ t.filter w .read = ⟨some wakeKey, false⟩
  | bitmap p => p.Guards w ∧ t.Watches w
  | socket p => p.wakeup.reader = w ∧ t.Watches w
  | port _ => True
  | ring r => r.waker.descriptor = w ∧ ∀ request ∈ (t.books r.queues).pushed, request.Minds w

/-- What every call keeps of that. -/
def Secures (w : Descriptor) (t : Transcript) : Backend → Prop
  | ring r => ∃ books, Ring.Sparing w t books r
  | b => b.Guards w t

theorem Secures.guards (h : b.Secures w t) : b.Guards w t := by
  cases b with
  | ring r =>
      obtain ⟨books, sparing⟩ := h
      refine ⟨sparing.waker, ?_⟩
      rw [Transcript.books_eq sparing.linked]
      exact sparing.minds
  | _ => exact h

end Backend

namespace Exchange

/-- The call adds the descriptor. A kqueue or a ring is not what it was even if that fails. -/
def Intrudes (x : Exchange) (w : Descriptor) : Prop :=
  x.operation.added? = some w ∧
    (x.before.facility = .kqueue ∨ x.before.facility = .ring ∨ x.answer.error? = none)

instance {x : Exchange} {w : Descriptor} : Decidable (x.Intrudes w) :=
  inferInstanceAs (Decidable (_ ∧ _))

theorem refused_of_apart (apart : ¬ x.Intrudes w) (added : x.operation.added? = some w) :
    x.answer.error? ≠ none := fun done => apart ⟨added, .inr (.inr done)⟩

theorem absent_after (sound : x.before.Sound) (absent : x.before.registry.contains w = false)
    (apart : ¬ x.Intrudes w) : x.after.registry.contains w = false := by
  have wf := sound.wellFormed
  obtain ⟨effect, -⟩ := x.effect wf
  rw [wf.contains_eq_asked, Option.isSome_eq_false_iff, Option.isNone_iff_eq_none] at absent
  rw [Bool.eq_false_iff, (effect.wellFormed wf).contains_eq_asked, effect.asked_eq wf]
  intro present
  rcases Effect.watched_before present with before | ⟨interest, token, op, answer⟩
  · rw [absent] at before
    cases before
  · refine refused_of_apart apart ?_ ?_
    · rw [op]
      rfl
    · rw [answer]
      rfl

theorem secures_after (sound : x.before.Sound) (absent : x.before.registry.contains w = false)
    (secures : x.before.Secures w t) (apart : ¬ x.Intrudes w) :
    x.after.Secures w (t ++ x.transcript) := by
  have refused := refused_of_apart apart
  have wf := sound.wellFormed
  cases before : x.before with
  | epoll p =>
      rw [before] at secures absent wf
      obtain ⟨p', after, served⟩ := x.epoll_served before
      obtain ⟨same, unlisted⟩ := served.leaves wf absent refused
      rw [after]
      exact ⟨same ▸ secures.1, (Transcript.listed_append unlisted).trans secures.2⟩
  | kqueue p =>
      have other : x.operation.added? ≠ some w := fun added =>
        apart ⟨added, .inl (congrArg Backend.facility before)⟩
      rw [before] at secures absent wf
      obtain ⟨p', after, served⟩ := x.kqueue_served before wf
      obtain ⟨same, untouched⟩ := served.leaves (f := .read) absent wf other
      rw [after]
      refine ⟨same ▸ secures.1, ?_⟩
      rw [Transcript.filter_append, untouched, List.foldl_nil]
      exact secures.2
  | bitmap p =>
      rw [before] at secures absent wf
      obtain ⟨p', after, served⟩ := x.bitmap_served before
      obtain ⟨guards, watches⟩ := served.keeps wf absent secures.1 refused
      rw [after]
      exact ⟨guards, secures.2.append watches⟩
  | socket p =>
      rw [before] at secures
      obtain ⟨p', after, served⟩ := x.socket_served before
      obtain ⟨same, watches⟩ := served.keeps
      rw [after]
      exact ⟨same.trans secures.1, secures.2.append (secures.1 ▸ watches)⟩
  | port p =>
      have facility := (x.effect sound.wellFormed).2
      rw [before] at facility
      cases after : x.after with
      | port => trivial
      | _ => exact absurd (congrArg Backend.facility after ▸ facility) nofun
  | ring r =>
      rw [before] at secures
      have sound : r.registry.WellFormed := by
        rw [before] at wf
        exact wf
      obtain ⟨r', after, served⟩ := x.ring_served before sound
      obtain ⟨books, sparing⟩ := secures
      rw [after]
      refine served.sparing sound sparing fun fd interest token op => ?_
      rintro rfl
      exact apart ⟨by rw [op]; rfl, .inr (.inl (congrArg Backend.facility before))⟩

end Exchange

theorem Run.secures (run : Run b xs c) (sound : b.Sound)
    (absent : b.registry.contains w = false) (secures : b.Secures w t)
    (apart : ∀ x ∈ xs, ¬ x.Intrudes w) :
    c.registry.contains w = false ∧ c.Secures w (t ++ xs.flatMap (·.transcript)) := by
  induction run with
  | start =>
      rw [List.flatMap_nil, List.append_nil]
      exact ⟨absent, secures⟩
  | @step xs x before ih =>
      obtain ⟨earlier, last⟩ := List.forall_mem_append.mp apart
      have apart := last x (List.mem_singleton_self x)
      obtain ⟨absent, secures⟩ := ih earlier
      rw [List.flatMap_append, List.flatMap_singleton, ← List.append_assoc]
      exact ⟨x.absent_after (before.sound sound) absent apart,
        x.secures_after (before.sound sound) absent secures apart⟩

/-! ### Opening -/

/-- A list is opened with the wakeup pipe's reader in it, and nothing else. -/
theorem Epoll.create_listed : Gives (Epoll.create config) n fun t p => ∀ fd,
    t.listed fd = if fd = p.wakeup.reader then some (.input, wakeKey) else none := by
  refine gives_bind.mpr (gives_require.mpr (yields_ask.mpr fun created queue _ => ?_))
  refine gives_bind.mpr (gives_require.mpr (yields_bind.mpr (yields_ask.mpr fun piped => ?_)))
  cases piped with
  | error => exact yields_pure.mpr nofun
  | ok ends =>
      refine yields_pure.mpr fun wakeup same => ?_
      cases same
      refine gives_bind.mpr (gives_require.mpr (yields_ask.mpr fun listed _ done => ?_))
      refine gives_bind.mpr (gives_lift.mpr (yields_note.mpr (gives_pure.mpr ?_)))
      rw [done]
      intro fd
      by_cases own : fd = ends.1
      · simp [Transcript.listed, Transcript.relisted, Step.relisted, EpollChange.descriptor,
          EpollChange.entry, own]
      · simp [Transcript.listed, Transcript.relisted, Step.relisted, EpollChange.descriptor,
          own, Ne.symm own]

theorem BitmapSelect.create_guards : Gives (BitmapSelect.create config) n fun t p =>
    p.Guards p.wakeup.reader ∧ t.Still := by
  refine gives_bind.mpr (gives_require.mpr (yields_bind.mpr (yields_ask.mpr fun piped => ?_)))
  cases piped with
  | error => exact yields_pure.mpr nofun
  | ok ends =>
      refine yields_pure.mpr fun wakeup same => ?_
      cases same
      split
      · refine gives_bind.mpr (gives_lift.mpr (yields_note.mpr (gives_pure.mpr ⟨?_, ?_⟩)))
        · exact ⟨rfl, Std.TreeSet.mem_insert.mpr (.inl Std.ReflCmp.compare_self), Int32.le_refl _⟩
        · exact Transcript.still_cons rfl (Transcript.still_singleton rfl)
      · exact gives_throw

theorem SocketSelect.create_still : Gives (SocketSelect.create config) n fun t _ => t.Still := by
  refine gives_bind.mpr (gives_require.mpr ?_)
  refine Dialogue.Yields.mono SocketPair.create_still fun t _ still wakeup done => ?_
  refine gives_bind.mpr (gives_lift.mpr (yields_note.mpr (gives_pure.mpr ?_)))
  exact (still wakeup done).append (Transcript.still_cons rfl Transcript.still_nil)

/-- A ring is opened with its waker told and nothing else under the waker's data. -/
theorem Ring.create_sparing : Gives (Ring.create config) n fun t r =>
    ∃ books, Ring.Sparing r.waker.descriptor t books r := by
  refine create_created.mono fun t r created => ?_
  obtain ⟨silent, first, second, enters, noted⟩ := created
  obtain ⟨_, sparing₁⟩ := Sparing.pushed (.fresh silent rfl rfl rfl) first (minds_waker rfl)
  obtain ⟨_, sparing₂⟩ := sparing₁.pushed second minds_timer
  exact ⟨_, (sparing₂.enter enters).aside noted⟩

theorem Backend.Opened.secures (opened : b.Opened config t) (channel : b.wakeupDescriptor? = some w) :
    b.Secures w t := by
  cases opened with
  | epoll follows =>
      cases channel
      exact ⟨rfl, (Epoll.create_listed follows _ rfl _).trans (if_pos rfl)⟩
  | @kqueue p _ follows =>
      cases channel
      have created := Kqueue.create_changes p.wakeup.reader .read follows _ rfl
      refine ⟨rfl, ?_⟩
      rw [Transcript.filter, created.trans (if_pos rfl)]
      rfl
  | bitmap follows =>
      cases channel
      obtain ⟨guards, still⟩ := BitmapSelect.create_guards follows _ rfl
      exact ⟨guards, still.watches⟩
  | socket follows =>
      cases channel
      exact ⟨rfl, (SocketSelect.create_still follows _ rfl).watches⟩
  | port => cases channel
  | ring follows =>
      cases channel
      exact Ring.create_sparing follows _ rfl

theorem Exchange.enlists_of_added (x : Exchange) (epoll : x.before.facility = .epoll)
    (added : x.operation.added? = some w) (done : x.answer.error? = none) :
    ∃ s ∈ x.transcript, s.enlists w = true := by
  obtain ⟨p, before⟩ := Backend.eq_epoll epoll
  obtain ⟨p', -, served⟩ := x.epoll_served before
  cases op : x.operation with
  | add fd interest token =>
      rw [op] at added served
      cases added
      exact served.enlists done
  | _ =>
      rw [op] at added
      cases added

namespace History

/-- Unless somebody adds the wakeup descriptor, the channel stays watched and no event names it; the
poll on the waker of a ring is live then, or about to be. An epoll cannot add the descriptor while the
system refuses to list one twice. -/
theorem wakeup_isolated (h : History) (channel : h.start.wakeupDescriptor? = some w) :
    ((∀ x ∈ h.exchanges, ¬ x.Intrudes w) →
      h.finish.Guards w h.transcript ∧
      (∀ x ∈ h.exchanges, ∀ event ∈ x.answer.events, event.descriptor ≠ w) ∧
      ∀ {r}, h.finish = .ring r → h.transcript.Orderly →
        r.Watches (h.transcript.books r.queues) .waker) ∧
    (h.start.facility = .epoll →
      (∀ x ∈ h.exchanges, ∀ s ∈ x.transcript, s.enlists w = false) →
      ∀ x ∈ h.exchanges, ¬ x.Intrudes w) := by
  have sound := h.opened.sound
  have absent : h.start.registry.contains w = false := by
    rw [h.opened.registry_eq]
    exact Registry.contains_empty
  have secures : ∀ {es b}, Run h.start es b → (∀ x ∈ es, ¬ x.Intrudes w) →
      b.registry.contains w = false ∧ b.Secures w (h.before es) := fun run apart =>
    run.secures sound absent (h.opened.secures channel) apart
  refine ⟨fun apart => ⟨?_, fun x mem event dispatched named => ?_, fun ring orderly => ?_⟩, ?_⟩
  · exact (secures h.run apart).2.guards
  · obtain ⟨es, fs, split⟩ := List.append_of_mem mem
    have wf : x.before.registry.WellFormed := (h.upTo split).sound.wellFormed
    have missing : x.before.registry.contains w = false :=
      (secures (h.upTo split).run fun y early =>
        apart y (split ▸ List.mem_append_left _ early)).1
    obtain ⟨e, found, -⟩ := x.events_listed wf event dispatched
    rw [wf.contains_eq_isSome, ← named, found] at missing
    cases missing
  · exact (h.watchful ring orderly).2.watches .waker
  · intro epoll unlisted x mem intrudes
    obtain ⟨es, fs, split⟩ := List.append_of_mem mem
    have before : x.before.facility = .epoll := ((h.upTo split).run.facility_eq sound).trans epoll
    obtain ⟨added, marked⟩ := intrudes
    have done : x.answer.error? = none := by
      rw [before] at marked
      simpa only [reduceCtorEq, false_or] using marked
    obtain ⟨s, told, enlists⟩ := x.enlists_of_added before added done
    exact Bool.eq_false_iff.mp (unlisted x mem s told) enlists

end History

def Backend.bitmap? : Backend → Option BitmapSelect
  | bitmap p => some p
  | _ => none

/-- Somebody tries to have the reader of the wakeup pipe watched by an epoll, then to modify it and to
remove it. Both this pipe and another descriptor are reported to the poll after that. -/
def triedEpoll : Option History := do
  let listed := Script.empty.put .epollControl [some (.error .alreadyExists)]
  let waited := Script.empty.put .epollWait [some (.ok [⟨.input, wakeKey⟩, ⟨.input, 0x100000000⟩])]
  let h ← History.rehearseOpening Epoll.create .epoll .epoll {} .initial
  h.rehearse [(.add 101 { read := true } 7, { Script.Stage.initial with script := listed }),
    (.add 5 { read := true } 1, .initial), (.modify 101 { write := true }, .initial),
    (.remove 101, .initial),
    (.poll (some .zero), { Script.Stage.initial with script := waited })]

theorem tried_epoll_isolated :
    (∃ h : History, h.start.wakeupDescriptor? = some 101 ∧ h.start.facility = .epoll ∧
      (∀ x ∈ h.exchanges, ∀ s ∈ x.transcript, s.enlists 101 = false) ∧
      (∀ x ∈ h.exchanges, ¬ x.Intrudes 101) ∧ h.finish.Guards 101 h.transcript ∧
      h.exchanges.flatMap (·.answer.events) = [⟨5, 1, .readiness { read := true }⟩] ∧
      ∀ x ∈ h.exchanges, ∀ event ∈ x.answer.events, event.descriptor ≠ 101) ∧
    ∃ (h : History) (r : Ring) (w : Descriptor), h.start.wakeupDescriptor? = some w ∧
      h.finish = .ring r ∧ h.transcript.Orderly ∧ (∀ x ∈ h.exchanges, ¬ x.Intrudes w) ∧
      h.finish.Guards w h.transcript ∧ r.Watches (h.transcript.books r.queues) .waker := by
  have listed : ∃ h ∈ triedEpoll, h.start.wakeupDescriptor? = some 101 ∧
      h.start.facility = .epoll ∧
      (∀ x ∈ h.exchanges, ∀ s ∈ x.transcript, s.enlists 101 = false) ∧
      h.exchanges.flatMap (·.answer.events) = [⟨5, 1, .readiness { read := true }⟩] := by
    decide +kernel
  have woken : ∃ h ∈ wokenRing, ∃ r ∈ h.finish.ring?, h.start.wakeupDescriptor? = some 101 ∧
      h.transcript.Orderly ∧ ∀ x ∈ h.exchanges, ¬ x.Intrudes 101 := by
    decide +kernel
  constructor
  · obtain ⟨h, -, channel, epoll, unlisted, events⟩ := listed
    obtain ⟨isolated, refused⟩ := h.wakeup_isolated channel
    have apart := refused epoll unlisted
    obtain ⟨guards, unnamed, -⟩ := isolated apart
    exact ⟨h, channel, epoll, unlisted, apart, guards, events, unnamed⟩
  · obtain ⟨h, -, r, ring, channel, orderly, apart⟩ := woken
    have finish := Backend.eq_ring_of_ring? ring
    obtain ⟨guards, -, watches⟩ := (h.wakeup_isolated channel).1 apart
    exact ⟨h, r, 101, channel, finish, orderly, apart, guards, watches finish orderly⟩

/-- What becomes of a poller whose wakeup descriptor is added, reported and removed. -/
def intruded (opened : Option History) (w : Descriptor) (report : Script) : Option History := do
  let h ← opened
  h.rehearse [(.add w { read := true } 1, .initial),
    (.poll (some .zero), { Script.Stage.initial with script := report }), (.remove w, .initial)]

/-- The descriptor is dispatched to the caller. A kqueue and a select on sets then lose it, together
with the registration. -/
theorem wakeup_descriptor_taken :
    (∃ h ∈ intruded (History.rehearseOpening Kqueue.create .kqueue .kqueue {} .initial) 101
        (Script.empty.put .kqueueWait [some (.ok [⟨-1, 0, 0, 0⟩])]),
      h.start.wakeupDescriptor? = some 101 ∧
      h.exchanges.flatMap (·.answer.events) = [⟨101, 1, .readiness { read := true }⟩] ∧
      h.transcript.filter 101 .read = .absent) ∧
    (∃ h ∈ intruded (History.rehearseOpening BitmapSelect.create .bitmap .bitmap {} .initial) 101
        (Script.empty.put .select [some (.ok ⟨[101], [], []⟩)]),
      h.start.wakeupDescriptor? = some 101 ∧
      h.exchanges.flatMap (·.answer.events) = [⟨101, 1, .readiness { read := true }⟩] ∧
      ∃ p ∈ h.finish.bitmap?, p.watched.read.contains 101 = false) ∧
    (∃ h ∈ intruded (History.rehearseOpening SocketSelect.create .socket .socket {} .initial) 202
        (Script.empty.put .select [some (.ok ⟨[202], [], []⟩)]),
      h.start.wakeupDescriptor? = some 202 ∧
      h.exchanges.flatMap (·.answer.events) = [⟨202, 1, .readiness { read := true }⟩]) ∧
    (∃ h ∈ intruded (History.rehearseOpening Ring.create .ring .ring {} .initial) 101
        (Script.empty.put .submitAndWait [some ⟨[⟨0, 1, 0⟩], none, none⟩]),
      h.start.wakeupDescriptor? = some 101 ∧
      h.exchanges.flatMap (·.answer.events) = [⟨101, 1, .readiness { read := true }⟩]) := by
  decide +kernel

end Multiplexer

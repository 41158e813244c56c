import Multiplexer.Proofs.Epoll.Listing
import Multiplexer.Proofs.History.Isolation

/-! The list of an epoll over whole histories. It has every registered descriptor as its registration
asks, and no other but those that a removal left behind. -/
namespace Multiplexer

/-- The call removes a descriptor for which the list has this, and the kernel refuses to delete it. -/
def Exchange.Strands (x : Exchange) (fd : Descriptor) (v : PollMask × UInt64) : Prop :=
  x.operation = .remove fd ∧ x.before.registry.listing? fd = some v ∧
    ∃ s ∈ x.transcript, s.retains fd = true

instance {x : Exchange} {fd : Descriptor} {v : PollMask × UInt64} : Decidable (x.Strands fd v) :=
  inferInstanceAs (Decidable (_ ∧ _))

/-- One of the calls left the descriptor behind, and the list took no change of it since. -/
def Stranded (xs : List Exchange) (fd : Descriptor) (v : PollMask × UInt64) : Prop :=
  ∃ es x fs, xs = es ++ x :: fs ∧ x.Strands fd v ∧ ∀ y ∈ fs, y.transcript.relisted fd = []

/-- The list has for a descriptor what the registration asks for, or else what was left behind. -/
structure Registry.AccountsFor (r : Registry) (t : Transcript) (xs : List Exchange)
    (fd : Descriptor) : Prop where
  listed_iff : ∀ {v}, t.listed fd = some v ↔ r.listing? fd = some v ∨ Stranded xs fd v
  unregistered : ∀ {v}, Stranded xs fd v → r.listing? fd = none

variable {b c : Backend} {x : Exchange} {xs : List Exchange} {t : Transcript} {fd : Descriptor}
  {v : PollMask × UInt64}

theorem stranded_nil : ¬ Stranded [] fd v := by
  rintro ⟨es, x, fs, split, -⟩
  exact List.append_ne_nil_of_right_ne_nil _ (List.cons_ne_nil _ _) split.symm

theorem stranded_snoc : Stranded (xs ++ [x]) fd v ↔
    x.Strands fd v ∨ (Stranded xs fd v ∧ x.transcript.relisted fd = []) := by
  constructor
  · rintro ⟨es, y, fs, split, strands, since⟩
    cases fs using List.reverseRecOn with
    | nil =>
        obtain ⟨rfl, same⟩ := List.append_inj' split rfl
        cases same
        exact .inl strands
    | append_singleton fs z =>
        rw [← List.cons_append, ← List.append_assoc] at split
        obtain ⟨rfl, same⟩ := List.append_inj' split rfl
        cases same
        obtain ⟨since, last⟩ := List.forall_mem_append.mp since
        exact .inr ⟨⟨es, y, fs, rfl, strands, since⟩, last x (List.mem_singleton_self x)⟩
  · rintro (strands | ⟨⟨es, y, fs, rfl, strands, since⟩, last⟩)
    · exact ⟨xs, x, [], rfl, strands, fun _ none => nomatch none⟩
    · refine ⟨es, y, fs ++ [x], by rw [List.append_assoc, List.cons_append], strands, ?_⟩
      exact List.forall_mem_append.mpr ⟨since, List.forall_mem_singleton.mpr last⟩

/-- What a call does to the list, it accounts for. -/
theorem Exchange.accountsFor (x : Exchange) (sound : x.before.Sound)
    (epoll : x.before.facility = .epoll) (past : x.before.registry.AccountsFor t xs fd) :
    x.after.registry.AccountsFor (t ++ x.transcript) (xs ++ [x]) fd := by
  obtain ⟨p, before⟩ := Backend.eq_epoll epoll
  obtain ⟨p', after, served⟩ := x.epoll_served before
  have wf := sound.wellFormed
  have strands_iff {v} : x.Strands fd v ↔ x.operation = .remove fd ∧
      p.registry.listing? fd = some v ∧ ∃ s ∈ x.transcript, s.retains fd = true := by
    rw [Strands, before]
    rfl
  rw [before] at past wf
  rw [after]
  change p.registry.AccountsFor t xs fd at past
  change p'.registry.AccountsFor (t ++ x.transcript) (xs ++ [x]) fd
  cases served.relists wf fd with
  | kept unlisted same absent =>
      have later {v} : Stranded (xs ++ [x]) fd v ↔ Stranded xs fd v := by
        rw [stranded_snoc, and_iff_left unlisted, or_iff_right]
        rw [strands_iff]
        rintro ⟨op, present, -⟩
        cases present.symm.trans (absent op)
      refine ⟨fun {v} => ?_, fun {v} => ?_⟩
      · rw [Transcript.listed_append unlisted, past.listed_iff, same, later]
      · rw [same, later]
        exact past.unregistered
  | followed last same deleted =>
      have later {v} : ¬ Stranded (xs ++ [x]) fd v := by
        rw [stranded_snoc, last, strands_iff]
        rintro (⟨-, -, s, told, retains⟩ | ⟨-, none⟩)
        · cases retains.symm.trans (deleted s told)
        · cases none
      refine ⟨fun {v} => ?_, fun left => absurd left later⟩
      rw [Transcript.listed_append_of_relisted last, ← same, or_iff_left later]
  | stranded op unlisted gone retained =>
      refine ⟨fun {v} => ?_, fun _ => gone⟩
      have left {v} : x.Strands fd v ↔ p.registry.listing? fd = some v :=
        strands_iff.trans ⟨fun strands => strands.2.1, fun present => ⟨op, present, retained⟩⟩
      rw [Transcript.listed_append unlisted, past.listed_iff, stranded_snoc, left, gone,
        and_iff_left unlisted, or_iff_right (Option.some_ne_none v).symm]

theorem Run.accountsFor (run : Run b xs c) (sound : b.Sound) (epoll : b.facility = .epoll)
    (past : b.registry.AccountsFor t [] fd) :
    c.registry.AccountsFor (t ++ xs.flatMap (·.transcript)) xs fd := by
  induction run with
  | start =>
      rw [List.flatMap_nil, List.append_nil]
      exact past
  | @step xs x before ih =>
      rw [List.flatMap_append, List.flatMap_singleton, ← List.append_assoc]
      exact x.accountsFor (before.sound sound) ((before.facility_eq sound).trans epoll) ih

namespace History

/-- In any state of an epoll, a registered descriptor is in the list with the mask of its interest and
under its current key, and another one only if it was left behind; the reader of the wakeup pipe stays
in it under the reserved data, as long as nobody manages to add it once more. -/
theorem listed_as_registered (h : History) {p : Epoll} (opened : h.start = .epoll p) :
    (∀ fd, fd ≠ p.wakeup.reader →
      (∀ e, h.finish.registry.find? fd = some e →
        ∃ k, h.finish.registry.keyOf? fd = some k ∧
          h.transcript.listed fd = some (e.interest.pollMask, k.pack)) ∧
      (h.finish.registry.find? fd = none →
        ∀ v, h.transcript.listed fd = some v ↔ Stranded h.exchanges fd v)) ∧
    ((∀ x ∈ h.exchanges, ¬ x.Intrudes p.wakeup.reader) →
      h.transcript.listed p.wakeup.reader = some (.input, wakeKey)) := by
  have sound := h.opened.sound
  have epoll : h.start.facility = .epoll := by rw [opened]; rfl
  have listed : ∀ fd, h.opening.listed fd =
      if fd = p.wakeup.reader then some (.input, wakeKey) else none := by
    have start := h.opened
    rw [opened] at start
    cases start with
    | epoll follows => exact Epoll.create_listed follows _ rfl
  have wf := h.sound.wellFormed
  refine ⟨fun fd other => ?_, fun apart => ?_⟩
  · have empty : h.start.registry.AccountsFor h.opening [] fd := by
      refine ⟨fun {v} => ?_, fun left => absurd left stranded_nil⟩
      rw [listed, if_neg other, h.opened.registry_eq, Registry.listing?_empty,
        or_iff_left stranded_nil]
    have accounts := h.run.accountsFor sound epoll empty
    refine ⟨fun e found => ?_, fun absent v => ?_⟩
    · obtain ⟨k, opened, rfl⟩ := wf.find?_eq_some_iff.mp found
      refine ⟨k, wf.keyOf?_of_get? opened, accounts.listed_iff.mpr (.inl ?_)⟩
      rw [Registry.listing?, wf.keyed?_of_get? opened, Option.map_some]
    · rw [wf.find?_eq_keyed?, Option.map_eq_none_iff] at absent
      have unlisted : h.finish.registry.listing? fd = none := by
        rw [Registry.listing?, absent, Option.map_none]
      exact accounts.listed_iff.trans
        (by rw [unlisted, or_iff_right (Option.some_ne_none v).symm])
  · have channel : h.start.wakeupDescriptor? = some p.wakeup.reader := by rw [opened]; rfl
    have absent : h.start.registry.contains p.wakeup.reader = false := by
      rw [h.opened.registry_eq]
      exact Registry.contains_empty
    have secured := (h.run.secures sound absent (h.opened.secures channel) apart).2
    obtain ⟨q, finish⟩ := Backend.eq_epoll ((h.run.facility_eq sound).trans epoll)
    rw [finish] at secured
    exact secured.2

end History

/-- A modification is refused, then the kernel does not delete what is removed; the slot goes to
another descriptor. -/
def relistedEpoll : Option History := do
  let refused := Script.empty.put .epollControl [some (.error .invalidArgument)]
  let h ← History.rehearseOpening Epoll.create .epoll .epoll {} .initial
  h.rehearse [(.add 5 { read := true } 1, .initial),
    (.modify 5 { write := true }, { Script.Stage.initial with script := refused }),
    (.remove 5, { Script.Stage.initial with script := refused }),
    (.add 7 { read := true } 2, .initial), (.modify 7 { read := true, write := true }, .initial)]

theorem stranded_beside_registered :
    ∃ (h : History) (p : Epoll), h.start = .epoll p ∧ p.wakeup.reader = 101 ∧
      (h.finish.registry.find? 5 = none ∧ Stranded h.exchanges 5 (0x2001, 0)) ∧
      (h.finish.registry.keyOf? 7 = some ⟨0, 1⟩ ∧
        h.transcript.listed 7 = some (0x2005, 0x100000000)) ∧
      (∀ x ∈ h.exchanges, ¬ x.Intrudes 101) ∧
      h.transcript.listed 101 = some (.input, wakeKey) := by
  have computed : ∃ h ∈ relistedEpoll, h.start.facility = .epoll ∧
      h.start.wakeupDescriptor? = some 101 ∧ h.finish.registry.find? 5 = none ∧
      h.transcript.listed 5 = some (0x2001, 0) ∧
      h.finish.registry.find? 7 = some ⟨7, { read := true, write := true }, 2, false⟩ ∧
      h.finish.registry.keyOf? 7 = some ⟨0, 1⟩ ∧ ∀ x ∈ h.exchanges, ¬ x.Intrudes 101 := by
    decide +kernel
  obtain ⟨h, -, epoll, reader, absent, left, found, known, apart⟩ := computed
  obtain ⟨p, start⟩ := Backend.eq_epoll epoll
  have own : p.wakeup.reader = 101 := by
    rw [start] at reader
    exact Option.some.inj reader
  obtain ⟨listed, watched⟩ := h.listed_as_registered start
  rw [own] at listed watched
  obtain ⟨k, known', placed⟩ := (listed 7 (by decide)).1 _ found
  cases known.symm.trans known'
  exact ⟨h, p, start, own, ⟨absent, ((listed 5 (by decide)).2 absent _).mp left⟩,
    ⟨known, placed⟩, apart, watched apart⟩

end Multiplexer

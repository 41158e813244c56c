import Multiplexer.Proofs.History.Isolation
import Multiplexer.Proofs.Select.Sets

/-! The sets of a select over whole histories. They are those of the registrations and the reader of
the wakeup pipe, every wait is given just these, and none of the descriptors is out of their range. -/
namespace Multiplexer
open Dialogue Sys

theorem fitsFdSet_iff {fd : Descriptor} :
    fitsFdSet fd = true ↔ 0 ≤ fd ∧ fd.toInt < fdSetCapacity := by
  rw [fitsFdSet, Bool.and_eq_true, decide_eq_true_iff, decide_eq_true_iff]

/-- If the step is a wait, the sets are the poller's, and they are looked at up to its largest
descriptor. -/
def Step.WaitsFor (p : BitmapSelect) : Step → Prop
  | .asked (.selectFds bound watched _) _ => bound = p.top.toInt + 1 ∧ watched = p.watched
  | _ => True

theorem Transcript.Still.waitsFor {t : Transcript} (still : t.Still) (p : BitmapSelect) :
    ∀ s ∈ t, s.WaitsFor p := by
  intro s hs
  have quiet := still s hs
  unfold Step.WaitsFor
  split
  · cases quiet
  · trivial

namespace BitmapSelect

variable {p p' : BitmapSelect} {op : Operation} {t : Transcript} {answer : Answer}

theorem create_coherent {config : Config} {n : Nat} :
    Gives (BitmapSelect.create config) n fun _ p => p.Coherent := by
  refine gives_last fun wakeup => ?_
  split
  · rename_i fits
    refine gives_last fun _ => gives_pure.mpr ⟨fun {fd c} other => ?_, ?_, fits⟩
    · have absent : Registry.empty.find? fd = none := by
        rw [Registry.find?, Registry.keyOf?_empty, Option.bind_none]
      simp only [absent, reduceCtorEq, false_and, exists_false, iff_false]
      cases c with
      | read =>
          change fd ∉ Std.TreeSet.empty.insert wakeup.reader
          rw [Std.TreeSet.mem_insert, Std.LawfulEqCmp.compare_eq_iff_eq]
          rintro (rfl | none)
          · exact other ⟨rfl, rfl⟩
          · exact Std.TreeSet.not_mem_emptyc none
      | write => exact Std.TreeSet.not_mem_emptyc
      | error => exact Std.TreeSet.not_mem_emptyc
    · refine ⟨.inl rfl, ?_⟩
      rintro d (rfl | present)
      · exact Int32.le_refl _
      · rw [Registry.contains_empty] at present
        cases present
  · exact gives_throw

theorem Served.waitsFor (served : p.Served op t answer p') : ∀ s ∈ t, s.WaitsFor p := by
  have waited : ∀ {timeout reply u}, Transcript.Reads u →
      ∀ s ∈ Step.asked (p.wait timeout) reply :: u, s.WaitsFor p := fun reads =>
    List.forall_mem_cons.mpr ⟨⟨rfl, rfl⟩, reads.still.waitsFor p⟩
  have quiet : ∀ {s}, Step.rewatches s = false → Transcript.Still [s] := Transcript.still_singleton
  cases served with
  | unanswered => exact waited Transcript.reads_nil
  | unready => exact waited Transcript.reads_nil
  | answered _ reads => exact waited reads
  | wakeup still => exact still.waitsFor p
  | closed | duplicate | removed => exact (quiet rfl).waitsFor p
  | added => exact (Transcript.still_cons rfl (quiet rfl)).waitsFor p
  | unfit | unmodified | modified | unremoved | post => exact Transcript.still_nil.waitsFor p

theorem Served.wakeup_eq (served : p.Served op t answer p') : p'.wakeup = p.wakeup := by
  cases served <;> rfl

/-- A poll waits first, for the sets up to the largest descriptor, and does not wait again. -/
def WaitsOnce (p : BitmapSelect) (t : Transcript) : Prop :=
  ∃ wait reply rest, t = .asked (.selectFds (p.top.toInt + 1) p.watched wait) reply :: rest ∧
    Transcript.Still rest

/-- That is so even if the poll is stopped before it can answer. -/
theorem poll_waits_once (p : BitmapSelect) {timeout : Timeout} {n : Nat} :
    Meets (p.poll timeout n) fun t _ => p.WaitsOnce t := by
  refine (meets_ask_first ?_).mono fun t _ ⟨reply, rest, same, still⟩ => ⟨_, reply, rest, same, still⟩
  rintro (e | selected)
  · exact meets_done.mpr Transcript.still_nil
  · dsimp only [Dialogue.bind]
    split
    · exact meets_done.mpr Transcript.still_nil
    · split
      · exact still_then p.wakeup.drain_still fun _ => meets_done.mpr Transcript.still_nil
      · exact meets_done.mpr Transcript.still_nil

end BitmapSelect

theorem Exchange.waits_once (x : Exchange) {p : BitmapSelect} (before : x.before = .bitmap p)
    {timeout : Timeout} (op : x.operation = .poll timeout) : p.WaitsOnce x.transcript := by
  obtain ⟨n, follows⟩ := x.served
  have waits : Yields ((Backend.bitmap p).serve (.poll timeout) n) fun t _ => p.WaitsOnce t := by
    simp only [Backend.serve, Backend.poll, yields_map]
    exact fun _ _ polled => p.poll_waits_once polled
  rw [before, op] at follows
  exact waits follows

/-- A select on sets that has its wakeup pipe and whose sets are in order. -/
def Backend.Selects (wakeup : Pipe) (b : Backend) : Prop :=
  ∃ p, b = .bitmap p ∧ p.wakeup = wakeup ∧ p.Coherent

theorem Exchange.selects_after {wakeup : Pipe} (x : Exchange)
    (before : x.before.Sound ∧ x.before.Selects wakeup) :
    x.after.Sound ∧ x.after.Selects wakeup := by
  obtain ⟨sound, p, bitmap, rfl, coherent⟩ := before
  obtain ⟨p', after, served⟩ := x.bitmap_served bitmap
  have wf : p.registry.WellFormed := by
    have wf := sound.wellFormed
    rw [bitmap] at wf
    exact wf
  exact ⟨x.sound_after sound, p', after, served.wakeup_eq, served.coherent wf coherent⟩

namespace History

variable (h : History) {p₀ : BitmapSelect}

theorem selects (opened : h.start = .bitmap p₀) : h.finish.Selects p₀.wakeup := by
  have coherent : p₀.Coherent := by
    have start := h.opened
    rw [opened] at start
    cases start with
    | bitmap follows => exact BitmapSelect.create_coherent follows _ rfl
  exact (h.run.invariant (P := fun b => b.Sound ∧ b.Selects p₀.wakeup)
    ⟨h.opened.sound, p₀, opened, rfl, coherent⟩ Exchange.selects_after).2

/-- In any state of a select on sets, a descriptor other than the wakeup pipe's reader is in the sets
of the interest of its registration, or in none if it has no registration; the reader is in the read
set, as long as nobody adds it; the largest descriptor is the greatest of the reader and the
registered ones, all of which the sets have room for. A poll, even one that is stopped, waits once,
with these sets up to that descriptor, and no other call waits with any others. -/
theorem sets_as_registered (opened : h.start = .bitmap p₀) :
    (∃ p, h.finish = .bitmap p ∧ p.wakeup = p₀.wakeup ∧
      (∀ fd, p.registry.contains fd = true → 0 ≤ fd ∧ fd.toInt < fdSetCapacity) ∧
      (∀ fd, fd ≠ p₀.wakeup.reader → ∀ c, fd ∈ p.watched.of c ↔
        ∃ e, p.registry.find? fd = some e ∧ e.interest.asks c = true) ∧
      ((∀ x ∈ h.exchanges, ¬ x.Intrudes p₀.wakeup.reader) →
        p₀.wakeup.reader ∈ p.watched.read) ∧
      IsGreatest {fd | fd = p₀.wakeup.reader ∨ p.registry.contains fd = true} p.top ∧
      p.top.toInt + 1 ≤ fdSetCapacity ∧
      ∀ {timeout n t o}, Follows (p.poll timeout n) t o → p.WaitsOnce t) ∧
    ∀ x ∈ h.exchanges, ∃ p, x.before = .bitmap p ∧ p.Coherent ∧
      (∀ s ∈ x.transcript, s.WaitsFor p) ∧
      ∀ {timeout}, x.operation = .poll timeout → p.WaitsOnce x.transcript := by
  have channel : h.start.wakeupDescriptor? = some p₀.wakeup.reader := by rw [opened]; rfl
  have absent : h.start.registry.contains p₀.wakeup.reader = false := by
    rw [h.opened.registry_eq]
    exact Registry.contains_empty
  constructor
  · obtain ⟨p, finish, same, coherent⟩ := h.selects opened
    have facility : h.finish.facility = .bitmap := by rw [finish]; rfl
    have fits : ∀ fd, p.registry.contains fd = true → fitsFdSet fd = true := by
      have fits := h.sound.fits facility
      rw [finish] at fits
      exact fits
    rw [← same]
    refine ⟨p, finish, rfl, fun fd present => fitsFdSet_iff.mp (fits fd present),
      fun fd other c => coherent.mem_iff fun reader => other reader.1, fun apart => ?_,
      coherent.top, ?_, fun polled => p.poll_waits_once polled⟩
    · rw [same] at apart ⊢
      have secured := (h.run.secures h.opened.sound absent (h.opened.secures channel) apart).2
      rw [finish] at secured
      exact secured.1.mem
    · have topFits : fitsFdSet p.top = true := by
        rcases coherent.top.1 with reader | present
        · rw [reader]
          exact coherent.reader
        · exact fits _ present
      exact Int.add_one_le_iff.mpr (fitsFdSet_iff.mp topFits).2
  · intro x mem
    obtain ⟨es, fs, split⟩ := List.append_of_mem mem
    obtain ⟨p, before, -, coherent⟩ := (h.upTo split).selects opened
    obtain ⟨p', -, served⟩ := x.bitmap_served before
    exact ⟨p, before, coherent, served.waitsFor, x.waits_once before⟩

end History

/-- A descriptor too large for the sets is refused; the interest of one changes, and the largest one
leaves. -/
def shrunkSelect : Option History := do
  let h ← History.rehearseOpening BitmapSelect.create .bitmap .bitmap {} .initial
  h.rehearse [(.add 5 { read := true, error := true } 1, .initial),
    (.add 900 { write := true } 2, .initial), (.add 1024 { read := true } 3, .initial),
    (.modify 5 { write := true }, .initial), (.remove 900, .initial),
    (.poll (some .zero), .initial)]

theorem shrunk_sets_as_registered :
    ∃ (h : History) (p₀ p : BitmapSelect), h.start = .bitmap p₀ ∧ p₀.wakeup.reader = 101 ∧
      h.finish = .bitmap p ∧ p.registry.contains 5 = true ∧
      (5 ∈ p.watched.of .write ∧ 5 ∉ p.watched.of .read ∧ 5 ∉ p.watched.of .error) ∧
      (p.registry.find? 900 = none ∧ 900 ∉ p.watched.of .write) ∧
      (∀ x ∈ h.exchanges, ¬ x.Intrudes 101) ∧ 101 ∈ p.watched.read ∧
      p.top = 101 ∧ IsGreatest {fd | fd = 101 ∨ p.registry.contains fd = true} p.top ∧
      ∃ x ∈ h.exchanges, x.operation = .poll (some .zero) ∧
        ∃ q, x.before = .bitmap q ∧ q.Coherent ∧ q.WaitsOnce x.transcript := by
  have computed : ∃ h ∈ shrunkSelect, h.start.facility = .bitmap ∧
      h.start.wakeupDescriptor? = some 101 ∧ h.finish.registry.contains 5 = true ∧
      h.finish.registry.find? 5 = some ⟨5, { write := true }, 1, false⟩ ∧
      h.finish.registry.find? 900 = none ∧ (∀ x ∈ h.exchanges, ¬ x.Intrudes 101) ∧
      (∃ x ∈ h.exchanges, x.operation = .poll (some .zero)) ∧
      ∀ p ∈ h.finish.bitmap?, p.top = 101 := by
    decide +kernel
  obtain ⟨h, -, bitmap, reader, present, found, absent, apart, ⟨x, mem, op⟩, top⟩ := computed
  obtain ⟨p₀, start⟩ := Backend.eq_bitmap bitmap
  have own : p₀.wakeup.reader = 101 := by
    rw [start] at reader
    exact Option.some.inj reader
  obtain ⟨⟨p, finish, -, -, mem_iff, watched, greatest, -⟩, calls⟩ := h.sets_as_registered start
  obtain ⟨q, before, coherent, -, waits⟩ := calls x mem
  rw [own] at mem_iff watched greatest
  rw [finish] at present found absent top
  change p.registry.find? 5 = _ at found
  have asked : ∀ c, 5 ∈ p.watched.of c ↔ Interest.asks { write := true } c = true := by
    intro c
    rw [mem_iff 5 (by decide) c]
    simp only [found, Option.some.injEq, exists_eq_left']
  refine ⟨h, p₀, p, start, own, finish, present, ⟨(asked _).mpr rfl, ?_, ?_⟩, ⟨absent, ?_⟩, apart,
    watched apart, top p rfl, greatest, x, mem, op, q, before, coherent, waits op⟩
  · exact fun read => absurd ((asked .read).mp read) (by decide)
  · exact fun error => absurd ((asked .error).mp error) (by decide)
  · intro left
    obtain ⟨_, some, -⟩ := (mem_iff 900 (by decide) .write).mp left
    cases absent.symm.trans some

end Multiplexer

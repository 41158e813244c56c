import Multiplexer.Proofs.History.Rehearsal
import Multiplexer.Proofs.History.Watchlist
import Multiplexer.Proofs.Kqueue.Filters

/-! The filters of a kqueue over whole histories. Additions and removals keep them in step with the
registrations as long as what is taken back goes; modifications do so exactly when each change to
the kernel is settled, since a failed one is not taken back. -/
namespace Multiplexer
open Sys

/-- The kernel has the filters of a descriptor that the registrations call for. -/
def Backend.InStep (b : Backend) (t : Transcript) (fd : Descriptor) : Prop :=
  ∀ f, (t.filter fd f).Suits (b.registry.wanted fd f)

instance {b : Backend} {t : Transcript} {fd : Descriptor} : Decidable (b.InStep t fd) :=
  inferInstanceAs (Decidable (∀ _, _))

theorem Backend.eq_kqueue {b : Backend} (h : b.facility = .kqueue) : ∃ p, b = .kqueue p := by
  cases b with
  | kqueue p => exact ⟨p, rfl⟩
  | _ => cases h

namespace Exchange

/-- The call leaves every filter of a descriptor as wanted. -/
def Tidy (x : Exchange) (past : Transcript) (fd : Descriptor) : Prop :=
  ∀ f, (past.filter fd f).Tidy (x.after.registry.wanted fd f) (x.transcript.changes fd f) x.operation

instance {x : Exchange} {past : Transcript} {fd : Descriptor} : Decidable (x.Tidy past fd) :=
  inferInstanceAs (Decidable (∀ _, _))

/-- So does every one of these calls, one after the other. -/
def AllTidy (fd : Descriptor) : Transcript → List Exchange → Prop
  | _, [] => True
  | past, x :: rest => x.Tidy past fd ∧ AllTidy fd (past ++ x.transcript) rest

instance decidableAllTidy (fd : Descriptor) : ∀ past xs, Decidable (AllTidy fd past xs)
  | _, [] => inferInstanceAs (Decidable True)
  | past, x :: rest =>
    have := decidableAllTidy fd (past ++ x.transcript) rest
    inferInstanceAs (Decidable (_ ∧ _))

theorem between_kqueues (x : Exchange) (kqueue : x.before.facility = .kqueue) (sound : x.before.Sound) :
    ∃ p p', x.before = .kqueue p ∧ x.after = .kqueue p' ∧ p.registry.WellFormed ∧
      p.Served x.operation x.transcript x.answer p' := by
  obtain ⟨p, before⟩ := Backend.eq_kqueue kqueue
  have wf : p.registry.WellFormed := by
    rw [before] at sound
    exact sound.wellFormed
  obtain ⟨p', after, served⟩ := x.kqueue_served before wf
  exact ⟨p, p', before, after, wf, served⟩

variable {x : Exchange} {past : Transcript} {fd : Descriptor}

theorem inStep_of_tidy (kqueue : x.before.facility = .kqueue) (sound : x.before.Sound)
    (inStep : x.before.InStep past fd) (tidy : x.Tidy past fd) :
    x.after.InStep (past ++ x.transcript) fd := by
  obtain ⟨p, p', before, after, wf, served⟩ := x.between_kqueues kqueue sound
  intro f
  have found := inStep f
  have left := tidy f
  rw [before] at found
  rw [after] at left
  rw [Transcript.filter_append, after]
  exact served.suits wf found left

/-- A modification keeps the filters in step only by settling each of its changes. -/
theorem tidy_of_modify (kqueue : x.before.facility = .kqueue) (sound : x.before.Sound)
    (inStep : x.before.InStep past fd) {fd' : Descriptor} {interest : Interest}
    (op : x.operation = .modify fd' interest) (kept : x.after.InStep (past ++ x.transcript) fd) :
    x.Tidy past fd := by
  obtain ⟨p, p', before, after, wf, served⟩ := x.between_kqueues kqueue sound
  intro f
  have found := inStep f
  have suits := kept f
  rw [before] at found
  rw [Transcript.filter_append, after] at suits
  rw [op] at served ⊢
  rw [after]
  generalize x.answer = answer at served
  cases served with
  | modify modified => exact (modified.suits_iff wf found).mp suits

end Exchange

theorem Run.inStep {b c : Backend} {xs : List Exchange} {past : Transcript} {fd : Descriptor}
    (run : Run b xs c) (kqueue : b.facility = .kqueue) (sound : b.Sound)
    (inStep : b.InStep past fd) (tidy : Exchange.AllTidy fd past xs) :
    c.InStep (past ++ xs.flatMap (·.transcript)) fd := by
  induction xs generalizing b past with
  | nil =>
      rw [Run.nil_iff.mp run, List.flatMap_nil, List.append_nil]
      exact inStep
  | cons x rest ih =>
      obtain ⟨rfl, rest⟩ := Run.cons_iff.mp run
      rw [List.flatMap_cons, ← List.append_assoc]
      refine ih rest ?_ (x.sound_after sound) (x.inStep_of_tidy kqueue sound inStep tidy.1) tidy.2
      exact (x.effect sound.wellFormed).2.trans kqueue

/-- Opening a kqueue installs the filter of its wakeup pipe and no other. -/
theorem Kqueue.create_changes {config : Config} {n : Nat} (fd : Descriptor) (f : Filter) :
    Gives (Kqueue.create config) n fun t p => t.changes fd f =
      if (p.wakeup.reader, Filter.read) = (fd, f)
      then [(.add p.wakeup.reader .read wakeKey, .done)] else [] := by
  refine gives_bind.mpr (gives_require.mpr (yields_ask.mpr fun created queue _ => ?_))
  refine gives_bind.mpr (gives_require.mpr (yields_ask.mpr fun flagged _ _ => ?_))
  refine gives_bind.mpr (gives_require.mpr (yields_bind.mpr (yields_ask.mpr fun piped => ?_)))
  cases piped with
  | error => exact yields_pure.mpr nofun
  | ok ends =>
      refine yields_pure.mpr fun wakeup same => ?_
      cases same
      refine gives_bind.mpr (gives_lift.mpr (submit_submitted.mono fun t result sub => ?_))
      cases result with
      | error => exact gives_bind.mpr (gives_lift.mpr (yields_note.mpr gives_throw))
      | ok =>
          refine gives_bind.mpr (gives_lift.mpr (yields_note.mpr (gives_pure.mpr ?_)))
          have quiet : Transcript.Still ([.asked .kqueueCreate created] ++
              ([.asked (.setFlags queue 1) flagged] ++
                ([.asked (.pipe true true) (.ok ends)] ++ []))) :=
            Transcript.still_cons rfl (Transcript.still_cons rfl (Transcript.still_singleton rfl))
          have noted : Transcript.Still [.noted (.kqueueOpened queue config.batchSize)] :=
            Transcript.still_singleton rfl
          simp only [← List.append_assoc, List.append_nil] at quiet ⊢
          rw [Transcript.changes_append, Transcript.changes_append, quiet.changes_eq,
            noted.changes_eq, List.append_nil, List.nil_append]
          split
          · rename_i own
            cases own
            have only : ∃ fate, t.changes ends.1 .read =
                [(.add ends.1 .read wakeKey, fate)] :=
              sub.changes_eq_singleton (List.filter_cons_of_pos (decide_eq_true rfl))
            obtain ⟨fate, change⟩ := only
            rw [change]
            obtain rfl | ⟨_, none, -⟩ :=
              sub.fate_of_ok (c := (_, fate)) (change ▸ List.mem_singleton_self _)
            · rfl
            · cases none
          · rename_i other
            exact sub.changes_eq_nil (List.filter_cons_of_neg (decide_eq_true_iff.not.mpr other))

theorem Backend.Opened.filter_absent {config : Config} {t : Transcript} {b : Backend} {p : Kqueue}
    (opened : b.Opened config t) (kqueue : b = .kqueue p) {fd : Descriptor} {f : Filter}
    (other : fd ≠ p.wakeup.reader) : t.filter fd f = .absent := by
  subst kqueue
  cases opened with
  | kqueue follows =>
      have created := Kqueue.create_changes fd f follows p rfl
      have none : t.changes fd f = [] :=
        created.trans (if_neg fun same => other (Prod.mk.inj same).1.symm)
      rw [Transcript.filter, none, List.foldl_nil]

namespace History

/-- What was said before the calls that come after these. -/
def before (h : History) (es : List Exchange) : Transcript :=
  h.opening ++ es.flatMap (·.transcript)

/-- As long as every call is tidy, the filters of every descriptor but the wakeup channel's are in step
with the registrations. A call that finds them in step and is tidy leaves them so, and a modification
does only if it is tidy. -/
theorem filters_in_step (h : History) {p : Kqueue} (kqueue : h.start = .kqueue p) {fd : Descriptor}
    (other : fd ≠ p.wakeup.reader) :
    (Exchange.AllTidy fd h.opening h.exchanges → h.finish.InStep h.transcript fd) ∧
    ∀ {es x fs}, h.exchanges = es ++ x :: fs → x.before.InStep (h.before es) fd →
      (x.Tidy (h.before es) fd → x.after.InStep (h.before es ++ x.transcript) fd) ∧
      ∀ {fd' interest}, x.operation = .modify fd' interest →
        x.after.InStep (h.before es ++ x.transcript) fd → x.Tidy (h.before es) fd := by
  have facility : h.start.facility = .kqueue := congrArg Backend.facility kqueue
  have sound := h.opened.sound
  refine ⟨fun tidy => ?_, fun {es x fs} split inStep => ?_⟩
  · refine h.run.inStep facility sound (fun f => ?_) tidy
    rw [h.opened.registry_eq, Registry.wanted_empty, KernelFilter.suits_none,
      h.opened.filter_absent kqueue other]
    rfl
  · have run : Run h.start es x.before := (h.upTo split).run
    have before : x.before.facility = .kqueue := (run.facility_eq sound).trans facility
    exact ⟨x.inStep_of_tidy before (run.sound sound) inStep,
      x.tidy_of_modify before (run.sound sound) inStep⟩

end History

def Backend.kqueue? : Backend → Option Kqueue
  | kqueue p => some p
  | _ => none

theorem Backend.eq_kqueue_of_kqueue? {b : Backend} {p : Kqueue} (h : b.kqueue? = some p) :
    b = .kqueue p := by
  cases b with
  | kqueue => exact congrArg Backend.kqueue (Option.some.inj h)
  | _ => cases h

/-- The changes to the kernel come to the receipts of this script, and then succeed. -/
def receipts (answers : List (Option (Except Errno (List Receipt)))) : Script.Stage :=
  { Script.Stage.initial with script := Script.empty.put .kqueueChange answers }

/-- A closed peer refuses a filter of the second call, the whole third call is refused, and the fourth
finds the missing filter gone. -/
def tidyCalls : Option History := do
  let h ← History.rehearseOpening Kqueue.create .kqueue .kqueue {} .initial
  h.rehearse [(.add 5 { read := true } 1, .initial),
    (.modify 5 { read := true, write := true }, receipts [some (.ok [⟨true, 0⟩, ⟨true, .brokenPipe⟩])]),
    (.modify 5 { write := true }, receipts [some (.error .badDescriptor)]),
    (.modify 5 { read := true }, receipts [some (.ok [⟨true, .noEntry⟩])])]

/-- A registration is to be watched for writing instead of reading, and the kernel takes only the
first half. -/
def halfModified : Option History := do
  let h ← History.rehearseOpening Kqueue.create .kqueue .kqueue {} .initial
  h.rehearse [(.add 5 { read := true } 1, .initial),
    (.modify 5 { write := true }, receipts [some (.ok [⟨true, 0⟩, ⟨true, 12⟩])])]

theorem tidy_calls_in_step :
    ∃ (h : History) (p : Kqueue), h.start = .kqueue p ∧ (5 : Descriptor) ≠ p.wakeup.reader ∧
      Exchange.AllTidy 5 h.opening h.exchanges ∧ h.finish.InStep h.transcript 5 ∧
      ∃ es x fs, h.exchanges = es ++ x :: fs ∧ x.operation = .modify 5 { write := true } ∧
        x.answer.error? = some (.facility (.os .badDescriptor)) ∧ x.before.InStep (h.before es) 5 ∧
        x.after.InStep (h.before es ++ x.transcript) 5 ∧ x.Tidy (h.before es) 5 := by
  have computed : ∃ h ∈ tidyCalls, ∃ p ∈ h.start.kqueue?, (5 : Descriptor) ≠ p.wakeup.reader ∧
      Exchange.AllTidy 5 h.opening h.exchanges ∧
      ∃ x ∈ h.exchanges[2]?, x.operation = .modify 5 { write := true } ∧
        x.answer.error? = some (.facility (.os .badDescriptor)) ∧
        x.before.InStep (h.before (h.exchanges.take 2)) 5 ∧
        x.Tidy (h.before (h.exchanges.take 2)) 5 := by
    decide +kernel
  obtain ⟨h, -, p, start, other, all, x, third, op, error, before, tidy⟩ := computed
  obtain ⟨within, same⟩ := List.getElem?_eq_some_iff.mp third
  have split : h.exchanges = h.exchanges.take 2 ++ x :: h.exchanges.drop 3 := by
    rw [← same, ← List.drop_eq_getElem_cons within, List.take_append_drop]
  have kqueue := Backend.eq_kqueue_of_kqueue? start
  obtain ⟨whole, step⟩ := h.filters_in_step kqueue other
  obtain ⟨kept, settled⟩ := step split before
  exact ⟨h, p, kqueue, other, all, whole all, _, x, _, split, op, error, before, kept tidy,
    settled op (kept tidy)⟩

/-- The filter for reading is gone although the modification failed and the registration still asks
for it. -/
theorem half_modified_out_of_step :
    ∃ h ∈ halfModified, ∃ x ∈ h.exchanges[1]?,
      x.operation = .modify 5 { write := true } ∧ x.answer.error? = some (.facility (.os 12)) ∧
      x.before.InStep (h.before (h.exchanges.take 1)) 5 ∧
      (h.before (h.exchanges.take 1)).filter 5 .read = ⟨some 0, false⟩ ∧
      h.finish.registry.wanted 5 .read = some 0 ∧
      h.transcript.filter 5 .read = .absent ∧ h.transcript.filter 5 .write = .absent ∧
      ¬ h.finish.InStep h.transcript 5 := by
  decide +kernel

end Multiplexer

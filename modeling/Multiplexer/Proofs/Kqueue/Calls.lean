import Multiplexer.Proofs.Kqueue.Merging
import Multiplexer.Proofs.Registry.Operations
import Multiplexer.Proofs.Watching

/-! What the calls to a kqueue come to: every way a call can go, with the changes that were handed to
the kernel and what became of them, and the events of the records that a wait hands over. -/
namespace Multiplexer.Kqueue
open Dialogue

/-- What handing over changes comes to. -/
inductive Submitted (queue : Descriptor) (ignored : List Errno) (changes : List FilterChange) :
    Transcript → Except Errno Unit → Prop
  | idle : changes = [] → Submitted queue ignored changes [] (.ok ())
  | refused {e} : Submitted queue ignored changes
      [.asked (.kqueueChange queue changes) (.error e)] (.error e)
  | failed {receipts e} : firstError ignored (receipts.take changes.length) = some e →
      Submitted queue ignored changes
        [.asked (.kqueueChange queue changes) (.ok receipts)] (.error e)
  | done {receipts} : firstError ignored (receipts.take changes.length) = none →
      Submitted queue ignored changes
        [.asked (.kqueueChange queue changes) (.ok receipts)] (.ok ())

/-- The changes of a modification: filters no longer wanted go, all that are wanted come. -/
def transition (fd : Descriptor) (old interest : Interest) (data : UInt64) : List FilterChange :=
  (old \ interest).filters (.delete fd) ++ interest.filters (.add fd · data)

inductive Added (p : Kqueue) (fd : Descriptor) (interest : Interest) (token : Token) :
    Transcript → Except Error Unit × Kqueue → Prop
  | duplicate {e} : p.registry.insert fd interest token = .error e →
      Added p fd interest token [] (.error e, p)
  | undone {k placed t e u result} : p.registry.insert fd interest token = .ok (k, placed) →
      Submitted p.queue [.brokenPipe] (interest.filters (.add fd · k.pack)) t (.error e) →
      Submitted p.queue [.noEntry] (interest.filters (.delete fd)) u result →
      Added p fd interest token (t ++ u)
        (.error (refusal fd e), { p with registry := placed.discard fd })
  | added {k placed t} : p.registry.insert fd interest token = .ok (k, placed) →
      Submitted p.queue [.brokenPipe] (interest.filters (.add fd · k.pack)) t (.ok ()) →
      Added p fd interest token (t ++ [.noted (.registered .kqueue fd interest)])
        (.ok (), { p with registry := placed })

inductive Modified (p : Kqueue) (fd : Descriptor) (interest : Interest) :
    Transcript → Except Error Unit × Kqueue → Prop
  | unknown : p.registry.contains fd = false →
      Modified p fd interest [] (.error (.notRegistered fd), p)
  | failed {k e t error} : p.registry.get? k = some e → e.descriptor = fd →
      Submitted p.queue [.noEntry, .brokenPipe] (transition fd e.interest interest k.pack) t
        (.error error) →
      Modified p fd interest t (.error (.facility (.os error)), p)
  | modified {k e t} : p.registry.get? k = some e → e.descriptor = fd →
      Submitted p.queue [.noEntry, .brokenPipe] (transition fd e.interest interest k.pack) t
        (.ok ()) →
      Modified p fd interest t
        (.ok (), { p with registry := p.registry.modify k ({ · with interest }) })

inductive Removed (p : Kqueue) (fd : Descriptor) : Transcript → Except Error Unit × Kqueue → Prop
  | unknown : p.registry.contains fd = false → Removed p fd [] (.error (.notRegistered fd), p)
  | removed {k e rest t result record} : e.descriptor = fd → Registry.Removed p.registry e k rest →
      Submitted p.queue [.noEntry] (e.interest.filters (.delete fd)) t result →
      Removed p fd (t ++ [.noted record]) (.ok (), { p with registry := rest })

inductive Answered (p : Kqueue) (timeout : Timeout) : Transcript → Polled → Prop
  | refused {e} : Answered p timeout
      [.asked (.kqueueWait p.queue p.batch (timeout.map splitNanos)) (.error e)]
      (if e = .interrupted then .idle else .failed (.facility (.os e)))
  | reported {records t} : Transcript.Reads t → Answered p timeout
      (.asked (.kqueueWait p.queue p.batch (timeout.map splitNanos)) (.ok records) :: t)
      (.ready (p.events records))

inductive Served (p : Kqueue) : Operation → Transcript → Answer → Kqueue → Prop
  | add {fd interest token t result p'} : Added p fd interest token t (result, p') →
      Served p (.add fd interest token) t (.returned result) p'
  | modify {fd interest t result p'} : Modified p fd interest t (result, p') →
      Served p (.modify fd interest) t (.returned result) p'
  | remove {fd t result p'} : Removed p fd t (result, p') →
      Served p (.remove fd) t (.returned result) p'
  | poll {timeout t polled tally} : Transcript.Still t →
      Served p (.poll timeout) t (.polled polled) { p with tally }
  | post {fd marker bytes result} : Served p (.post fd marker bytes) [] (.returned result) p
  | wakeup {t result} : Transcript.Still t → Served p .wakeup t (.returned result) p

variable {n : Nat} {fd : Descriptor} {interest : Interest} {token : Token}

theorem submit_submitted {queue : Descriptor} {ignored : List Errno}
    {changes : List FilterChange} :
    Yields (submit queue ignored changes n) (Submitted queue ignored changes) := by
  unfold submit
  split
  · rename_i none
    rw [Sys.yields_pure]
    exact .idle (List.isEmpty_iff.mp none)
  · simp only [Sys.yields_bind, Sys.yields_ask]
    rintro (e | receipts)
    · simp only [Sys.yields_pure]
      exact .refused
    · simp only [Sys.yields_pure]
      cases found : firstError ignored (receipts.take changes.length) with
      | none => exact .done found
      | some e => exact .failed found

theorem add_added (p : Kqueue) :
    Yields (p.add fd interest token n) (Added p fd interest token) := by
  unfold add
  cases hins : p.registry.insert fd interest token with
  | error e =>
      rw [Sys.yields_pure]
      exact .duplicate hins
  | ok placed =>
      simp only [Sys.yields_bind]
      refine submit_submitted.mono fun t result added => ?_
      cases result with
      | error e =>
          simp only [Sys.yields_bind, Sys.yields_pure]
          refine submit_submitted.mono fun u _ undone => ?_
          rw [List.append_nil]
          exact .undone hins added undone
      | ok =>
          simp only [Sys.yields_bind, Sys.yields_note, Sys.yields_pure, List.append_nil]
          exact .added hins added

theorem modify_modified (p : Kqueue) (wf : p.registry.WellFormed) :
    Yields (p.modify fd interest n) (Modified p fd interest) := by
  unfold modify
  cases present : p.registry.contains fd with
  | false =>
      rw [Registry.keyOf?_eq_none present, Sys.yields_pure]
      exact .unknown present
  | true =>
      obtain ⟨k, hk⟩ := wf.contains_iff.mp present
      obtain ⟨e, he, rfl⟩ := wf.keyOf?_eq_some_iff.mp hk
      simp only [hk, he, Option.map_some, Option.getD_some, Sys.yields_bind]
      refine submit_submitted.mono fun t result changed => ?_
      cases result with
      | error error =>
          simp only [Sys.yields_pure, List.append_nil]
          exact .failed he rfl changed
      | ok =>
          simp only [Sys.yields_pure, List.append_nil]
          exact .modified he rfl changed

theorem remove_removed (p : Kqueue) (wf : p.registry.WellFormed) :
    Yields (p.remove fd n) (Removed p fd) := by
  unfold remove
  cases present : p.registry.contains fd with
  | false =>
      rw [(wf.remove_eq_error_iff).mpr ⟨present, rfl⟩, Sys.yields_pure]
      exact .unknown present
  | true =>
      obtain ⟨k, hk⟩ := wf.contains_iff.mp present
      obtain ⟨e, he, rfl⟩ := wf.keyOf?_eq_some_iff.mp hk
      obtain ⟨rest, hrest, spec⟩ := wf.remove_of_get? he
      simp only [hrest, Sys.yields_bind]
      refine submit_submitted.mono fun t result deleted => ?_
      cases result with
      | error error =>
          dsimp only
          split
          · simp only [Sys.yields_bind, Sys.yields_note, Sys.yields_pure, List.append_nil]
            exact .removed rfl spec deleted
          · simp only [Sys.yields_bind, Sys.yields_note, Sys.yields_pure, List.append_nil]
            exact .removed rfl spec deleted
      | ok =>
          simp only [Sys.yields_bind, Sys.yields_note, Sys.yields_pure, List.append_nil]
          exact .removed rfl spec deleted

variable {p : Kqueue} {timeout : Timeout}

/-- The records are gathered one after the other; all else that happens is that the pipe is
emptied. -/
theorem gather_gathered (p : Kqueue) (records : List FilterRecord) {tally : Tally}
    {merged : List Merged} (shows : Shows tally merged) :
    Meets (p.gather records tally n) fun t o => t.Reads ∧
      ((∃ all, o = .ok all ∧ Shows all (records.foldl p.gathered merged)) ∨
        o = .error .patience ∧ n ≤ t.length) := by
  induction records generalizing tally merged with
  | nil => exact meets_done.mpr ⟨Transcript.reads_nil, .inl ⟨tally, rfl, shows⟩⟩
  | cons record rest ih =>
      rw [List.foldl_cons]
      unfold gather
      split
      · rename_i reserved
        rw [gathered_of_wakeup reserved]
        refine meets_bind.mpr (p.wakeup.drain_ends.mono fun t o drained => ?_)
        obtain ⟨reads, rfl | ⟨rfl, long⟩⟩ := drained
        · refine (ih shows).mono fun u o gathered => ⟨reads.append gathered.1, ?_⟩
          refine gathered.2.imp_right (And.imp_right fun long => ?_)
          rw [List.length_append]
          exact Nat.le_add_left_of_le long
        · exact ⟨reads, .inr ⟨rfl, long⟩⟩
      · rename_i unreserved
        cases opened : p.registry.get? (.unpack record.data) with
        | none =>
            rw [gathered_of_unknown unreserved opened]
            exact ih shows
        | some e =>
            rw [gathered_of_known unreserved opened]
            exact ih shows.add

/-- A poll waits once. It dispatches what the records of the wait come to, unless it runs out of
patience with the pipe. -/
theorem poll_gathers (p : Kqueue) : Meets (p.poll timeout n) fun t o =>
    (∃ e, t = [.asked (.kqueueWait p.queue p.batch (timeout.map splitNanos)) (.error e)] ∧
      o = .ok (if e = .interrupted then .idle else .failed (.facility (.os e)), p)) ∨
    ∃ records u,
      t = .asked (.kqueueWait p.queue p.batch (timeout.map splitNanos)) (.ok records) :: u ∧
      Transcript.Reads u ∧ ((∃ tally, o = .ok (.ready (p.events records), { p with tally })) ∨
        o = .error .patience ∧ n ≤ u.length) := by
  refine meets_ask.mpr ?_
  rintro (e | records)
  · exact meets_done.mpr (.inl ⟨e, rfl, rfl⟩)
  · refine (meets_bind (p := p.gather records p.tally.clear n)).mpr
      ((p.gather_gathered records (.clear p.tally)).mono fun u o gathered => ?_)
    obtain ⟨reads, ⟨all, rfl, shows⟩ | ⟨rfl, long⟩⟩ := gathered
    · refine meets_done.mpr (.inr ⟨records, u, ?_, reads, .inl ⟨all, ?_⟩⟩)
      · rw [List.append_nil]
      · rw [shows.dispatched]
        rfl
    · exact .inr ⟨records, u, rfl, reads, .inr ⟨rfl, long⟩⟩

theorem poll_answered (p : Kqueue) : Yields (p.poll timeout n) fun t r =>
    Answered p timeout t r.1 ∧ ∃ tally, r.2 = { p with tally } := by
  intro t r follows
  obtain ⟨e, rfl, same⟩ | ⟨records, u, rfl, reads, ⟨tally, same⟩ | ⟨halted, -⟩⟩ :=
    p.poll_gathers follows
  · cases same
    exact ⟨.refused, p.tally, rfl⟩
  · cases same
    exact ⟨.reported reads, tally, rfl⟩
  · cases halted

/-- What is left of an earlier tally does not tell in a poll. -/
theorem gather_tally (p : Kqueue) (stale : Tally) (records : List FilterRecord) (tally : Tally) :
    ({ p with tally := stale } : Kqueue).gather records tally = p.gather records tally := by
  induction records generalizing tally with
  | nil => rfl
  | cons record rest ih =>
      unfold gather
      simp only [ih]

theorem poll_tally (p : Kqueue) (stale : Tally) (timeout : Timeout) :
    (·.1) <$> ({ p with tally := stale } : Kqueue).poll timeout = (·.1) <$> p.poll timeout := by
  unfold poll
  simp only [map_bind]
  refine bind_congr fun reply => ?_
  cases reply with
  | error e => rfl
  | ok records =>
      simp only [map_bind, gather_tally]
      rfl

theorem Answered.still {t : Transcript} {polled : Polled} (answered : Answered p timeout t polled) :
    t.Still := by
  cases answered with
  | refused => exact Transcript.still_singleton rfl
  | reported reads => exact Transcript.still_cons rfl reads.still

theorem serve_served (p : Kqueue) (wf : p.registry.WellFormed) (op : Operation) :
    Yields ((Backend.kqueue p).serve op n) fun t result =>
      ∃ p', result.2 = .kqueue p' ∧ Served p op t result.1 p' := by
  cases op with
  | add =>
      simp only [Backend.serve, Backend.add, Sys.yields_map]
      exact (add_added p).mono₂ fun _ _ p' added => ⟨p', rfl, .add added⟩
  | modify =>
      simp only [Backend.serve, Backend.modify, Sys.yields_map]
      exact (modify_modified p wf).mono₂ fun _ _ p' modified => ⟨p', rfl, .modify modified⟩
  | remove =>
      simp only [Backend.serve, Backend.remove, Sys.yields_map]
      exact (remove_removed p wf).mono₂ fun _ _ p' removed => ⟨p', rfl, .remove removed⟩
  | poll =>
      simp only [Backend.serve, Backend.poll, Sys.yields_map]
      refine p.poll_answered.mono₂ fun _ polled p' answered => ?_
      obtain ⟨answered, tally, rfl⟩ := answered
      exact ⟨_, rfl, .poll answered.still⟩
  | post =>
      simp only [Backend.serve, Backend.post, Sys.yields_map, Sys.yields_pure]
      exact ⟨p, rfl, .post⟩
  | wakeup =>
      simp only [Backend.serve, Sys.yields_map]
      refine (Backend.wakeup_still _).mono₂ fun t result b' woken => ?_
      obtain ⟨still, channel, same⟩ := woken
      exact ⟨p, same, .wakeup still⟩

end Multiplexer.Kqueue

namespace Multiplexer
open Dialogue

theorem Exchange.kqueue_served (x : Exchange) {p : Kqueue} (before : x.before = .kqueue p)
    (wf : p.registry.WellFormed) :
    ∃ p', x.after = .kqueue p' ∧ p.Served x.operation x.transcript x.answer p' := by
  obtain ⟨_, follows⟩ := x.served
  rw [before] at follows
  exact p.serve_served wf x.operation follows

theorem Exchange.kqueue_polled (x : Exchange) {p : Kqueue} {timeout : Timeout}
    (before : x.before = .kqueue p) (op : x.operation = .poll timeout) :
    ∃ polled, x.answer = .polled polled ∧ p.Answered timeout x.transcript polled := by
  obtain ⟨n, follows⟩ := x.served
  have polls : Yields ((Backend.kqueue p).serve (.poll timeout) n) fun t r =>
      ∃ polled, r.1 = .polled polled ∧ p.Answered timeout t polled := by
    simp only [Backend.serve, Backend.poll, Sys.yields_map]
    exact p.poll_answered.mono₂ fun _ polled _ answered => ⟨polled, rfl, answered.1⟩
  rw [before, op] at follows
  exact polls follows

end Multiplexer

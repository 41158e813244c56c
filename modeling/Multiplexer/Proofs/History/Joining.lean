import Multiplexer.Proofs.History.Filters
import Multiplexer.Proofs.Kqueue.Merging

/-! The events of a kqueue after any history. All records with the same data become one event, the
events come in the order of their first records, and nothing that an earlier poll has gathered is
left among them. -/
namespace Multiplexer
open Dialogue

/-- However the records of a wait come, the poll dispatches one event for each of the data that lead
to a registration. It does so unless the pipe never runs dry. -/
theorem History.records_joined (h : History) {p : Kqueue} (finish : h.finish = .kqueue p)
    {timeout : Timeout} {patience : Nat} {span : Option (UInt64 × Nat)}
    {records : List FilterRecord} {t : Transcript} {o : Except Halt (Polled × Kqueue)}
    (follows : Follows (p.poll timeout patience)
      (.asked (.kqueueWait p.queue p.batch span) (.ok records) :: t) o) :
    ((∃ tally, o = .ok (⟨p.joined records, .ok (p.joined records).length⟩, { p with tally })) ∨
      o = .error .patience ∧ patience ≤ t.length) ∧
    ((p.joined records).map (·.descriptor)).Nodup ∧
    ∀ stale, (·.1) <$> ({ p with tally := stale } : Kqueue).poll timeout =
      (·.1) <$> p.poll timeout := by
  have sound := h.sound
  rw [finish] at sound
  refine ⟨?_, p.nodup_joined sound.wellFormed records, fun stale => p.poll_tally stale timeout⟩
  obtain ⟨e, same, -⟩ | ⟨records', t', same, -, ended⟩ := p.poll_gathers follows
  · cases same
  · cases same
    rwa [p.events_eq_joined records] at ended

/-- Two filters of one descriptor, with the wakeup pipe and a removed descriptor between them. -/
def mixedRecords : List FilterRecord :=
  [⟨-1, 0, 0, 0⟩, ⟨-1, 0, 0, wakeKey⟩, ⟨-1, 0, 0, 1⟩, ⟨-2, 0x8000, 104, 0⟩]

/-- Descriptor 5 has been reported before, and descriptor 6 has been removed. -/
def reportedBefore : Option History := do
  let h ← History.rehearseOpening Kqueue.create .kqueue .kqueue {} .initial
  let script := Script.empty.put .kqueueWait [some (.ok [⟨-1, 0, 0, 1⟩, ⟨-1, 0, 0, 0⟩])]
  h.rehearse [(.add 5 { read := true, write := true } 1, .initial),
    (.add 6 { read := true } 2, .initial),
    (.poll none, { Script.Stage.initial with script }), (.remove 6, .initial)]

def mixedStage : Script.Stage :=
  { Script.Stage.initial with script := Script.empty.put .kqueueWait [some (.ok mixedRecords)] }

theorem mixed_records_joined :
    ∃ h ∈ reportedBefore, ∃ p ∈ h.finish.kqueue?, p.tally.dispatched.count = 2 ∧
      ∃ tally, ((p.poll none 2).perform Script.Stage.respond mixedStage).result =
        .ok (⟨[⟨5, 1, .readiness .all⟩], .ok 1⟩, { p with tally }) := by
  have computed : ∃ h ∈ reportedBefore, ∃ p ∈ h.finish.kqueue?, p.tally.dispatched.count = 2 ∧
      p.joined (mixedRecords.take p.batch) = [⟨5, 1, .readiness .all⟩] ∧
      ((p.poll none 2).perform Script.Stage.respond mixedStage).transcript.length = 2 := by
    decide +kernel
  obtain ⟨h, played, p, kqueue, before, events, brief⟩ := computed
  have follows : Follows (p.poll none 2)
      (.asked (.kqueueWait p.queue p.batch none) (.ok (mixedRecords.take p.batch)) :: _) _ :=
    follows_perform Script.Stage.respond (p.poll none 2) mixedStage
  obtain ⟨ended, -, -⟩ := h.records_joined (Backend.eq_kqueue_of_kqueue? kqueue) follows
  rw [events] at ended
  refine ⟨h, played, p, kqueue, before, ended.resolve_right fun halted => ?_⟩
  exact absurd halted.2 (Nat.not_le_of_lt (Nat.lt_of_succ_le (Nat.le_of_eq brief)))

end Multiplexer

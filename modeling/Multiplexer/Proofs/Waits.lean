import Multiplexer.Proofs.Epoll.Calls
import Multiplexer.Proofs.Kqueue.Calls
import Multiplexer.Proofs.Port.Calls
import Multiplexer.Proofs.Select.Calls

/-! What comes of the wait of a poll, and what the poll makes of it. Every facility but a ring waits
once in a poll: it is idle if nothing came of the wait or only what nobody is registered for, it fails
if the wait did, and else it dispatches no more than the wait brought and a batch holds. -/
namespace Multiplexer

structure Report where
  /-- The wakeup channel was signalled. -/
  woken : Bool
  /-- There is something for a registration. -/
  told : Bool
  deriving DecidableEq, Repr

inductive Waited where
  | interrupted
  /-- The wait ended and nothing was ready. -/
  | timedOut
  | failed
  | reported (report : Report)
  deriving DecidableEq, Repr

/-- The wait failed. It was interrupted if the error says so. -/
def Waited.refused (interruption e : Errno) : Waited :=
  if e = interruption then .interrupted else .failed

def Epoll.report (p : Epoll) (records : List EpollRecord) : Report where
  woken := records.any (·.data == wakeKey)
  told := records.any fun record =>
    record.data != wakeKey && (p.registry.get? (.unpack record.data)).isSome

def Kqueue.report (p : Kqueue) (records : List FilterRecord) : Report where
  woken := records.any (·.data == wakeKey)
  told := records.any fun record =>
    record.data != wakeKey && (p.registry.get? (.unpack record.data)).isSome

def CompletionPort.report (p : CompletionPort) (packets : List Packet) : Report where
  woken := packets.any Packet.wakes
  told := packets.any fun packet => !packet.wakes && (p.resolve? packet.key).isSome

def BitmapSelect.report (p : BitmapSelect) (found : FdSets) : Report where
  woken := found.read.contains p.wakeup.reader
  told := p.registry.entries.any fun (_, e) => !(found.conditions e.descriptor).isEmpty

def SocketSelect.report (p : SocketSelect) (found : SocketSets) : Report where
  woken := found.read.contains p.wakeup.reader
  told := p.registry.entries.any fun (_, e) => !(found.conditions e.descriptor).isEmpty

/-- What comes of a wait of a poller, if the step is one. Rings are not considered. -/
def Backend.waited? : Backend → Step → Option Waited
  | epoll _, .asked (.epollWait ..) (.error e) => some (.refused .interrupted e)
  | epoll p, .asked (.epollWait ..) (.ok records) =>
    some (if records = [] then .timedOut else .reported (p.report records))
  | kqueue _, .asked (.kqueueWait ..) (.error e) => some (.refused .interrupted e)
  | kqueue p, .asked (.kqueueWait ..) (.ok records) =>
    some (if records = [] then .timedOut else .reported (p.report records))
  | bitmap _, .asked (.selectFds ..) (.error e) => some (.refused .interrupted e)
  | bitmap p, .asked (.selectFds ..) (.ok selected) =>
    some (if selected.count = 0 then .timedOut else .reported (p.report selected.sets))
  | socket _, .asked (.selectSockets ..) (.error e) => some (.refused .socketInterrupted e)
  | socket p, .asked (.selectSockets ..) (.ok selected) =>
    some (if selected.count = 0 then .timedOut
      else .reported (p.report (p.watched.left selected.sets)))
  | port _, .asked (.portWait ..) (.error e) =>
    some (if e = .waitTimeout then .timedOut else .failed)
  | port p, .asked (.portWait ..) (.ok packets) =>
    some (if packets = [] then .timedOut else .reported (p.report packets))
  | _, _ => none

/-- A wait brings no more than there is room for. -/
def Step.bounded : Step → Bool
  | .asked (.epollWait _ room _) (.ok records) => records.length ≤ room
  | .asked (.kqueueWait _ room _) (.ok records) => records.length ≤ room
  | .asked (.portWait _ room _) (.ok packets) => packets.length ≤ room
  | _ => true

def Backend.waits (b : Backend) (t : Transcript) : List Waited := t.filterMap b.waited?

/-- How a poll goes that waits once. -/
inductive Backend.PollsOnce (b : Backend) : Transcript → Polled → Prop
  | idle {s t w} : b.waited? s = some w → w = .interrupted ∨ w = .timedOut → b.waits t = [] →
      PollsOnce b (s :: t) .idle
  | failed {s e} : b.waited? s = some .failed → PollsOnce b [s] (.failed e)
  | reported {s t report events} : b.waited? s = some (.reported report) → b.waits t = [] →
      (events = [] ↔ report.told = false) → (Step.bounded s = true → events.length ≤ b.batch) →
      PollsOnce b (s :: t) (.ready events)

variable {timeout : Timeout} {t : Transcript} {answer : Answer}

/-- A wait and nothing but other things. -/
theorem Backend.waits_single {b : Backend} {s : Step} {w : Waited} (waited : b.waited? s = some w)
    (rest : b.waits t = []) : b.waits (s :: t) = [w] :=
  (List.filterMap_cons_some waited).trans (congrArg _ rest)

theorem Transcript.Reads.waits_eq (reads : t.Reads) (b : Backend) : b.waits t = [] := by
  refine List.filterMap_eq_nil_iff.mpr (reads.all ?_ ?_)
  all_goals
    intros
    cases b <;> rfl

/-- A poll whose wait failed. -/
theorem Backend.PollsOnce.refused {b : Backend} {s : Step} {interruption e : Errno}
    (waited : b.waited? s = some (.refused interruption e)) {error : Error} :
    b.PollsOnce [s] (if e = interruption then .idle else .failed error) := by
  by_cases same : e = interruption
  · rw [Waited.refused, if_pos same] at waited
    rw [if_pos same]
    exact .idle waited (.inl rfl) rfl
  · rw [Waited.refused, if_neg same] at waited
    rw [if_neg same]
    exact .failed waited

/-- A poll fails only with its wait. -/
theorem Backend.PollsOnce.waits_of_error {b : Backend} {polled : Polled} {e : Error}
    (once : b.PollsOnce t polled) (error : polled.result = .error e) : b.waits t = [.failed] := by
  cases once with
  | idle => cases error
  | failed waited => exact waits_single waited rfl
  | reported => cases error

theorem Backend.PollsOnce.within {b : Backend} {polled : Polled} (once : b.PollsOnce t polled)
    (bounded : ∀ s ∈ t, s.bounded = true) : polled.Within b.batch := by
  cases once with
  | idle => exact .ready (Nat.zero_le _)
  | failed => exact .failed
  | reported _ _ _ limited => exact .ready (limited (bounded _ List.mem_cons_self))

namespace Epoll

theorem events_eq_nil_iff {p : Epoll} {records : List EpollRecord} :
    p.events records = [] ↔ (p.report records).told = false := by
  have silent : ∀ record, p.event? record = none ↔
      (record.data != wakeKey && (p.registry.get? (.unpack record.data)).isSome) = false := by
    intro record
    by_cases reserved : record.data = wakeKey
    · simp [p.event?_of_wakeup reserved, reserved]
    · simp [p.event?_of_key reserved, reserved]
  simp only [events, report, List.filterMap_eq_nil_iff, List.any_eq_false, silent, Bool.not_eq_true]

theorem Served.pollsOnce {p p' : Epoll} (served : p.Served (.poll timeout) t answer p') :
    ∃ polled, answer = .polled polled ∧ (Backend.epoll p).PollsOnce t polled := by
  cases served with
  | unanswered => exact ⟨_, rfl, .refused rfl⟩
  | @answered _ records _ reads =>
      refine ⟨_, rfl, ?_⟩
      by_cases none : records = []
      · subst none
        exact .idle rfl (.inr rfl) (reads.waits_eq _)
      · refine .reported (congrArg some (if_neg none)) (reads.waits_eq _) events_eq_nil_iff
          fun bounded => ?_
        exact (List.length_filterMap_le _ _).trans (of_decide_eq_true bounded)

end Epoll

namespace Kqueue

/-- A record that leads to a registration is not lost. -/
theorem events_eq_nil_iff {p : Kqueue} {records : List FilterRecord} :
    p.events records = [] ↔ (p.report records).told = false := by
  rw [← List.length_eq_zero_iff, p.length_events, List.length_eq_zero_iff,
    List.eq_nil_iff_forall_not_mem]
  simp only [heard, List.mem_eraseDups, List.mem_filter, List.mem_map, report, List.any_eq_false]
  constructor
  · exact fun none record mem told => none record.data ⟨⟨record, mem, rfl⟩, told⟩
  · rintro none _ ⟨⟨record, mem, rfl⟩, told⟩
    exact none record mem told

/-- A record adds one event at most. -/
theorem length_events_le (p : Kqueue) (records : List FilterRecord) :
    (p.events records).length ≤ records.length := by
  have few : (p.heard records).Subperm (records.map (·.data)) :=
    List.subperm_of_subset (nodup_eraseDups _)
      fun _ mem => (List.mem_filter.mp (List.mem_eraseDups.mp mem)).1
  rw [p.length_events]
  exact few.length_le.trans_eq (List.length_map _)

theorem Answered.pollsOnce {p : Kqueue} {polled : Polled} (answered : Answered p timeout t polled) :
    (Backend.kqueue p).PollsOnce t polled := by
  cases answered with
  | refused => exact .refused rfl
  | @reported records _ reads =>
      by_cases none : records = []
      · subst none
        exact .idle rfl (.inr rfl) (reads.waits_eq _)
      · refine .reported (congrArg some (if_neg none)) (reads.waits_eq _) events_eq_nil_iff
          fun bounded => ?_
        exact (p.length_events_le records).trans (of_decide_eq_true bounded)

end Kqueue

namespace CompletionPort

theorem events_eq_nil_iff {p : CompletionPort} {packets : List Packet} :
    p.events packets = [] ↔ (p.report packets).told = false := by
  have silent : ∀ packet, (p.fate packet).event? = none ↔
      (!packet.wakes && (p.resolve? packet.key).isSome) = false := by
    intro packet
    cases wakes : packet.wakes with
    | true => simp [fate_of_wakes wakes, Packet.Fate.event?]
    | false =>
        cases known : p.resolve? packet.key with
        | none => simp [fate_of_unknown wakes known, Packet.Fate.event?]
        | some e => simp [fate_of_known wakes known, Packet.Fate.event?]
  simp only [events, report, List.filterMap_eq_nil_iff, List.any_eq_false, silent, Bool.not_eq_true]

theorem Served.pollsOnce {p p' : CompletionPort}
    (served : p.Served (.poll timeout) t answer p') :
    ∃ polled, answer = .polled polled ∧ (Backend.port p).PollsOnce t polled := by
  cases served with
  | unanswered =>
      refine ⟨_, rfl, ?_⟩
      split
      · rename_i late
        exact .idle (congrArg some (if_pos late)) (.inr rfl) rfl
      · rename_i other
        exact .failed (congrArg some (if_neg other))
  | @answered _ packets =>
      refine ⟨_, rfl, ?_⟩
      have remarked : (Backend.port p).waits (p.remarks packets) = [] := by
        refine List.filterMap_eq_nil_iff.mpr fun s hs => ?_
        obtain ⟨record, -, rfl⟩ := List.mem_map.mp hs
        rfl
      by_cases none : packets = []
      · subst none
        exact .idle rfl (.inr rfl) remarked
      · refine .reported (congrArg some (if_neg none)) remarked events_eq_nil_iff fun bounded => ?_
        exact (List.length_filterMap_le _ _).trans (of_decide_eq_true bounded)

end CompletionPort

namespace Select

variable {batch cursor : Nat} {cs : List Candidate} {registry : Registry}
  {ready : Descriptor → Interest}

theorem length_rotate : (rotate cursor cs).length = cs.length := by
  rw [rotate, List.length_append, Nat.add_comm, ← List.length_append,
    List.takeWhile_append_dropWhile]

theorem length_chosen : (chosen batch cursor cs).length = min batch cs.length := by
  rw [chosen, List.length_take, length_rotate]

theorem length_turn : (turn batch cursor cs).1.length = min batch cs.length := by
  rw [turn, List.length_map, length_chosen]

/-- There is a candidate for every registration with a condition. -/
theorem candidates_eq_nil_iff : candidates registry ready = [] ↔
    (registry.entries.any fun (_, e) => !(ready e.descriptor).isEmpty) = false := by
  conv_rhs => rw [← List.zipIdx_map_fst 0 registry.entries, List.any_map]
  rw [candidates, List.filterMap_eq_nil_iff, List.any_eq_false]
  refine forall₂_congr fun scanned _ => ?_
  obtain ⟨⟨k, e⟩, position⟩ := scanned
  simp

theorem turn_eq_nil_iff (positive : 0 < batch) :
    (turn batch cursor cs).1 = [] ↔ cs = [] := by
  rw [← List.length_eq_zero_iff, length_turn, ← List.length_eq_zero_iff]
  omega

end Select

theorem BitmapSelect.Served.pollsOnce {p p' : BitmapSelect} (positive : 0 < p.batch)
    (served : p.Served (.poll timeout) t answer p') :
    ∃ polled, answer = .polled polled ∧ (Backend.bitmap p).PollsOnce t polled := by
  cases served with
  | unanswered => exact ⟨_, rfl, .refused rfl⟩
  | unready none => exact ⟨_, rfl, .idle (congrArg some (if_pos none)) (.inr rfl) rfl⟩
  | answered some reads =>
      refine ⟨_, rfl, .reported (congrArg _ (if_neg some)) (reads.waits_eq _) ?_ fun _ => ?_⟩
      · exact (Select.turn_eq_nil_iff positive).trans Select.candidates_eq_nil_iff
      · exact Select.length_turn.trans_le (Nat.min_le_left _ _)

theorem SocketSelect.Served.pollsOnce {p p' : SocketSelect} (positive : 0 < p.batch)
    (served : p.Served (.poll timeout) t answer p') :
    ∃ polled, answer = .polled polled ∧ (Backend.socket p).PollsOnce t polled := by
  cases served with
  | unanswered => exact ⟨_, rfl, .refused rfl⟩
  | unready none => exact ⟨_, rfl, .idle (congrArg some (if_pos none)) (.inr rfl) rfl⟩
  | answered some reads =>
      refine ⟨_, rfl, .reported (congrArg _ (if_neg some)) (reads.waits_eq _) ?_ fun _ => ?_⟩
      · exact (Select.turn_eq_nil_iff positive).trans Select.candidates_eq_nil_iff
      · exact Select.length_turn.trans_le (Nat.min_le_left _ _)

namespace Exchange

variable (x : Exchange)

def waits : List Waited := x.before.waits x.transcript

theorem pollsOnce (ringless : x.before.facility ≠ .ring) (positive : 0 < x.before.batch)
    (op : x.operation = .poll timeout) :
    ∃ polled, x.answer = .polled polled ∧ x.before.PollsOnce x.transcript polled := by
  cases before : x.before with
  | epoll p =>
      obtain ⟨_, -, served⟩ := x.epoll_served before
      rw [op] at served
      exact served.pollsOnce
  | kqueue p =>
      obtain ⟨polled, answer, answered⟩ := x.kqueue_polled before op
      exact ⟨polled, answer, answered.pollsOnce⟩
  | bitmap p =>
      obtain ⟨_, -, served⟩ := x.bitmap_served before
      rw [op] at served
      rw [before] at positive
      exact served.pollsOnce positive
  | socket p =>
      obtain ⟨_, -, served⟩ := x.socket_served before
      rw [op] at served
      rw [before] at positive
      exact served.pollsOnce positive
  | port p =>
      obtain ⟨_, -, served⟩ := x.port_served before
      rw [op] at served
      exact served.pollsOnce
  | ring p =>
      rw [before] at ringless
      exact absurd rfl ringless

end Exchange

end Multiplexer

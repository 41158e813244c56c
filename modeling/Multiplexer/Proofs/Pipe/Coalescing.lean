import Multiplexer.Proofs.Pipe.Waking
import Multiplexer.Proofs.Timeouts

/-! Wakes that end one poll between them. A poll waits once, at its beginning, and drains the pipe
exactly if that wait found it readable, so of many polls in a row none but the first that hears of
the pipe is woken. -/
namespace Multiplexer
open Dialogue

/-- Drains one after the other: at least one if the poller was woken, and none otherwise. -/
inductive Pipe.Drained (p : Pipe) : Bool → Transcript → Prop
  | quiet : Drained p false []
  | drain {n t woken u} : Follows (p.drain n) t (.ok ()) → Drained p woken u →
      Drained p true (t ++ u)

namespace Station

/-- What the waits of a transcript say about the pipe. -/
def tellings (w : Station) (t : Transcript) : List Bool := t.filterMap w.told?

/-- A wait, and then drains exactly if it found the pipe readable. -/
inductive Polls (w : Station) : Transcript → Prop
  | wait {s t} : w.pipe.traffic? s = none → w.pipe.Drained (w.told? s == some true) t →
      Polls w (s :: t)

variable {w : Station} {capacity b c n : Nat} {t u : Transcript} {woken : Bool}

theorem tellings_append : w.tellings (t ++ u) = w.tellings t ++ w.tellings u :=
  List.filterMap_append

theorem tellings_of_reads (reads : t.Reads) : w.tellings t = [] :=
  List.filterMap_eq_nil_iff.mpr (reads.all (fun _ _ _ => rfl) fun _ _ _ => rfl)

theorem tellings_of_drained (drained : w.pipe.Drained woken t) : w.tellings t = [] := by
  induction drained with
  | quiet => rfl
  | drain follows _ ih =>
      rw [tellings_append, tellings_of_reads (w.pipe.drain_reads follows), ih, List.append_nil]

/-- What a poll hears of the pipe, it hears from its wait. -/
theorem tellings_of_polls (polls : w.Polls t) : w.tellings t = (t.head?.bind w.told?).toList := by
  obtain ⟨-, drained⟩ := polls
  rename_i s t
  have silent := tellings_of_drained drained
  change (s :: t).filterMap w.told? = (w.told? s).toList
  cases said : w.told? s with
  | none => rwa [List.filterMap_cons_none said]
  | some told =>
      rw [List.filterMap_cons_some said, ← tellings, silent]
      rfl

/-- A drain that came to its end leaves the pipe empty. -/
theorem level_of_drain (follows : Follows (w.pipe.drain n) t (.ok ()))
    (run : w.level? capacity b t = some c) : c = 0 := by
  rcases w.pipe.drain_reads_on follows with ⟨-, u, s, rfl, -, ends⟩ | ⟨halted, -⟩
  · obtain ⟨_, -, last⟩ := level?_append.mp run
    exact ends_empty ends (level?_single.mp last)
  · exact absurd rfl halted

theorem level_of_drained (drained : w.pipe.Drained woken t)
    (run : w.level? capacity b t = some c) : c = if woken = true then 0 else b := by
  induction drained generalizing b with
  | quiet => exact level?_nil.mp run
  | drain follows _ ih =>
      obtain ⟨m, first, rest⟩ := level?_append.mp run
      cases level_of_drain follows first
      rw [ih rest, ite_self, if_pos rfl]

/-- A poll that hears nothing of the pipe leaves it alone. One that does is told whether there is
something in it, and leaves it empty. -/
theorem level_of_polls (polls : w.Polls t) (run : w.level? capacity b t = some c) :
    (w.tellings t = [] ∧ c = b) ∨ (w.tellings t = [decide (0 < b)] ∧ c = 0) := by
  obtain ⟨aside, drained⟩ := polls
  rename_i s t
  obtain ⟨m, wait, rest⟩ := level?_cons.mp run
  cases after_aside wait aside
  have left := level_of_drained drained rest
  have silent := tellings_of_drained drained
  cases said : w.told? s with
  | none =>
      rw [said] at left
      refine .inl ⟨?_, left⟩
      rw [tellings, List.filterMap_cons_none said, ← tellings, silent]
  | some told =>
      cases told_eq wait said
      rw [said] at left
      refine .inr ⟨?_, ?_⟩
      · rw [tellings, List.filterMap_cons_some said, ← tellings, silent]
      · cases b with
        | zero => exact left.trans (ite_self 0)
        | succ b => exact left

end Station

/-! ### The pollers -/

variable {n : Nat} {timeout : Timeout} {w : Station}

theorem Station.heard_beq {complete woken : Bool} :
    (Station.heard complete woken == some true) = woken := by
  cases woken <;> cases complete <;> rfl

theorem Epoll.dispatch_drains (p : Epoll) (records : List EpollRecord) :
    Yields (p.dispatch records n) fun t _ =>
      p.wakeup.Drained (records.any (·.data == wakeKey)) t := by
  induction records with
  | nil =>
      rw [dispatch, Sys.yields_pure]
      exact .quiet
  | cons record rest ih =>
      rw [List.any_cons]
      unfold dispatch
      split
      · rename_i reserved
        rw [beq_iff_eq.mpr reserved, Bool.true_or, Sys.yields_bind]
        exact fun t _ drains => ih.mono fun u _ later => .drain drains later
      · rename_i unreserved
        rw [beq_eq_false_iff_ne.mpr unreserved, Bool.false_or]
        simp only [Sys.yields_bind, Sys.yields_pure, List.append_nil]
        exact ih

theorem Kqueue.gather_drains (p : Kqueue) (records : List FilterRecord) (tally : Tally) :
    Yields (p.gather records tally n) fun t _ =>
      p.wakeup.Drained (records.any (·.data == wakeKey)) t := by
  induction records generalizing tally with
  | nil =>
      rw [gather, Sys.yields_pure]
      exact .quiet
  | cons record rest ih =>
      rw [List.any_cons]
      unfold gather
      split
      · rename_i reserved
        rw [beq_iff_eq.mpr reserved, Bool.true_or, Sys.yields_bind]
        exact fun t _ drains => (ih tally).mono fun u _ later => .drain drains later
      · rename_i unreserved
        rw [beq_eq_false_iff_ne.mpr unreserved, Bool.false_or]
        cases p.registry.get? (.unpack record.data) with
        | none => exact ih tally
        | some => exact ih _

theorem Epoll.poll_polls (p : Epoll) :
    Yields (p.poll timeout n) fun t _ => Station.Polls ⟨p.wakeup, some p.queue⟩ t := by
  unfold poll
  simp only [Sys.yields_bind, Sys.yields_ask]
  rintro (e | records)
  · rw [Sys.yields_pure]
    exact .wait rfl .quiet
  · simp only [Sys.yields_bind, Sys.yields_pure, List.append_nil]
    refine (p.dispatch_drains records).mono fun t _ drained => .wait rfl ?_
    rwa [Station.told?, if_pos rfl, Station.heard_beq]

theorem Kqueue.poll_polls (p : Kqueue) :
    Yields (p.poll timeout n) fun t _ => Station.Polls ⟨p.wakeup, some p.queue⟩ t := by
  unfold poll
  simp only [Sys.yields_bind, Sys.yields_ask]
  rintro (e | records)
  · rw [Sys.yields_pure]
    exact .wait rfl .quiet
  · simp only [Sys.yields_bind, Sys.yields_pure, List.append_nil]
    refine (p.gather_drains records _).mono fun t _ drained => .wait rfl ?_
    rwa [Station.told?, if_pos rfl, Station.heard_beq]

theorem BitmapSelect.poll_polls (p : BitmapSelect) :
    Yields (p.poll timeout n) fun t r =>
      Station.Polls ⟨p.wakeup, none⟩ t ∧ r.2.wakeup = p.wakeup := by
  unfold poll
  simp only [Sys.yields_bind, Sys.yields_ask]
  rintro (e | selected)
  · rw [Sys.yields_pure]
    exact ⟨.wait rfl .quiet, rfl⟩
  · dsimp only
    split
    · rename_i none
      rw [Sys.yields_pure]
      refine ⟨.wait rfl ?_, rfl⟩
      rw [Station.told?, Station.heard_beq, none]
      exact .quiet
    · rename_i some
      have counted : (selected.count != 0) = true := bne_iff_ne.mpr some
      split
      · rename_i found
        simp only [Sys.yields_bind, Sys.yields_pure, List.append_nil]
        refine fun t _ drains => ⟨.wait rfl ?_, trivial⟩
        rw [Station.told?, Station.heard_beq, counted, found]
        have drained : p.wakeup.Drained true (t ++ []) := .drain drains .quiet
        rwa [List.append_nil] at drained
      · rename_i missing
        rw [Sys.yields_pure]
        refine ⟨.wait rfl ?_, rfl⟩
        rw [Station.told?, Station.heard_beq, counted, eq_false_of_ne_true missing]
        exact .quiet

/-- Every poller that is woken through a pipe polls like that, and keeps its pipe. -/
theorem Backend.poll_polls (b : Backend) (station : b.station? = some w) :
    Yields (b.poll timeout n) fun t r => w.Polls t ∧ r.2.station? = some w := by
  cases b with
  | epoll p =>
      cases station
      simp only [poll, Sys.yields_map]
      exact p.poll_polls.mono fun _ _ polls => ⟨polls, rfl⟩
  | kqueue p =>
      cases station
      simp only [poll, Sys.yields_map]
      refine fun t r follows => ⟨p.poll_polls follows, ?_⟩
      obtain ⟨polled, p'⟩ := r
      obtain ⟨-, tally, rfl⟩ := p.poll_answered follows
      rfl
  | bitmap p =>
      cases station
      simp only [poll, Sys.yields_map]
      refine p.poll_polls.mono₂ fun _ _ p' polls => ⟨polls.1, ?_⟩
      exact congrArg (fun wakeup => some (Station.mk wakeup none)) polls.2
  | _ => cases station

theorem Exchange.polls (x : Exchange) (station : x.before.station? = some w)
    (op : x.operation = .poll timeout) :
    w.Polls x.transcript ∧ x.after.station? = some w := by
  obtain ⟨n, follows⟩ := x.served
  rw [op] at follows
  have served : Yields (x.before.serve (.poll timeout) n) fun t r =>
      w.Polls t ∧ r.2.station? = some w := by
    simp only [Backend.serve, Sys.yields_map]
    exact x.before.poll_polls station
  exact served follows

namespace Station

/-- The poll begins with the wait of its facility and waits for nothing else; what it hears of the
pipe, it hears from that wait. -/
structure Attends (w : Station) (x : Exchange) : Prop where
  awaits : ∀ timeout, x.operation = .poll timeout → x.transcript.Awaits x.before.facility timeout
  tellings : w.tellings x.transcript = (x.transcript.head?.bind w.told?).toList

/-- A poller that is woken through a pipe attends to it in every poll. -/
theorem attends {x : Exchange} (station : x.before.station? = some w)
    (op : x.operation = .poll timeout) : w.Attends x where
  awaits := by
    rintro _ op
    refine (x.awaits op).resolve_left fun ring => ?_
    cases before : x.before with
    | ring =>
        rw [before] at station
        cases station
    | _ =>
        rw [before] at ring
        cases ring
  tellings := tellings_of_polls (x.polls station op).1

variable {capacity : Nat}

/-- Polls in a row all attend to the pipe. The first that hears of it is woken if there was something
in it, and no other is. From then on the pipe is empty. -/
def Coalesces (w : Station) (capacity : Nat) : Prop :=
  ∀ {start finish : Backend} {polls : List Exchange} {b c : Nat},
    start.station? = some w → Run start polls finish →
    (∀ x ∈ polls, ∃ timeout, x.operation = .poll timeout) →
    w.level? capacity b (polls.flatMap (·.transcript)) = some c →
    (∀ x ∈ polls, w.Attends x) ∧
    ((w.tellings (polls.flatMap (·.transcript)) = [] ∧ c = b) ∨
      ∃ k, w.tellings (polls.flatMap (·.transcript)) = decide (0 < b) :: .replicate k false ∧ c = 0)

theorem coalesces (w : Station) (capacity : Nat) : w.Coalesces capacity := by
  intro start finish polls b c station run only level
  induction polls generalizing start b with
  | nil => exact ⟨List.forall_mem_nil _, .inl ⟨rfl, level?_nil.mp level⟩⟩
  | cons x polls ih =>
      obtain ⟨rfl, later⟩ := Run.cons_iff.mp run
      obtain ⟨⟨timeout, op⟩, others⟩ := List.forall_mem_cons.mp only
      obtain ⟨one, keeps⟩ := x.polls station op
      rw [List.flatMap_cons] at level ⊢
      obtain ⟨m, first, rest⟩ := level?_append.mp level
      obtain ⟨attend, heard⟩ := ih keeps later others rest
      refine ⟨List.forall_mem_cons.mpr ⟨attends station op, attend⟩, ?_⟩
      rw [tellings_append]
      rcases level_of_polls one first with ⟨silent, rfl⟩ | ⟨told, rfl⟩
      · rw [silent, List.nil_append]
        exact heard
      · rw [told]
        right
        rcases heard with ⟨silent, rfl⟩ | ⟨k, told, rfl⟩
        · exact ⟨0, by rw [silent]; rfl, rfl⟩
        · exact ⟨k + 1, by rw [told]; rfl, rfl⟩

/-- A pipe wakes its poller reliably: no wake is lost, every drain comes to its end and leaves
nothing behind, and however many wakes there were, one poll is ended by them all. -/
theorem wakeups_reliable (w : Station) (room : 0 < capacity) :
    w.KeepsWakes capacity ∧ w.EndsDrains capacity ∧ w.Coalesces capacity :=
  ⟨w.keepsWakes room, w.endsDrains capacity, w.coalesces capacity⟩

/-- A pipe that is listed in a queue of the kernel. -/
def listed : Station := ⟨⟨101, 102⟩, some 100⟩

/-- Three parties wake the poller, and there is room for two bytes: the first is interrupted, and the
last finds the pipe full. -/
def threeWakes : List (Nat × Step) :=
  [(1, .asked (.write 102 1) (.error .interrupted)), (2, .asked (.write 102 1) (.ok 1)),
    (1, .asked (.write 102 1) (.ok 1)), (3, .asked (.write 102 1) (.error .wouldBlock))]

def wokenWait : Step := .asked (.epollWait 100 1024 (-1)) (.ok [⟨.input, wakeKey⟩])

/-- A drain of the full pipe that is interrupted, and meets another wake. -/
def fullDrain : List (Nat × Step) :=
  [(0, .asked (.read 101 64) (.error .interrupted)),
    (1, .asked (.write 102 1) (.error .wouldBlock)), (0, .asked (.read 101 64) (.ok 2))]

/-- Two polls with two bytes in the pipe, of an epoll, a kqueue and a select. -/
def polledTwice : List (Station × Option History) :=
  let polled (report : Script) (h : History) :=
    let script := report.put .read [some (.ok 2)]
    h.rehearse [(.poll none, { Script.Stage.initial with script }), (.poll none, .initial)]
  [(listed, History.rehearseOpening Epoll.create .epoll .epoll {} .initial >>=
      polled (Script.empty.put .epollWait [some (.ok [⟨.input, wakeKey⟩])])),
    (listed, History.rehearseOpening Kqueue.create .kqueue .kqueue {} .initial >>=
      polled (Script.empty.put .kqueueWait [some (.ok [⟨-1, 0, 0, wakeKey⟩])])),
    (⟨listed.pipe, none⟩, History.rehearseOpening BitmapSelect.create .bitmap .bitmap {} .initial >>=
      polled (Script.empty.put .select [some (.ok ⟨[101], [], []⟩)]))]

theorem three_wakes_end_one_poll :
    0 < 2 ∧ listed.level? 2 0 (merged threeWakes) = some 2 ∧
      (∀ told, listed.told? wokenWait = some told → told = true) ∧
      (own 0 fullDrain).length ≤ listed.rereads 2 (merged fullDrain) (own 0 fullDrain) + 1 ∧
      ∀ polled ∈ polledTwice, ∃ h ∈ polled.2, h.exchanges.length = 2 ∧
        (∀ x ∈ h.exchanges, x.transcript.Awaits x.before.facility none) ∧
        ∃ k, polled.1.tellings (h.exchanges.flatMap (·.transcript)) =
          true :: .replicate k false := by
  obtain ⟨keeps, ends, -⟩ := listed.wakeups_reliable Nat.zero_lt_two
  have woke : Follows (listed.pipe.wake 1) [.asked (.write 102 1) (.error .wouldBlock)]
      (.ok (.ok ())) := .ask _ (.done _)
  have heard : listed.level? 2 0 (merged (threeWakes ++ [(0, wokenWait)])) = some 2 := by decide
  obtain ⟨-, told⟩ := @keeps Nat _ 3 (threeWakes.take 3) [(0, wokenWait)] _ [] _ 1 0 2 woke rfl heard
    nofun
  have drains : Follows (listed.pipe.drain 2) (own 0 fullDrain) (.ok ()) :=
    .ask _ (.ask _ (.done _))
  obtain ⟨short, -⟩ := ends drains (show listed.level? 2 2 (merged fullDrain) = some 0 by decide)
  have computed : ∀ polled ∈ polledTwice, ∃ h ∈ polled.2, h.start.station? = some polled.1 ∧
      (∀ x ∈ h.exchanges, x.operation = .poll none) ∧ h.exchanges.length = 2 ∧
      polled.1.level? 2 2 (h.exchanges.flatMap (·.transcript)) = some 0 ∧
      polled.1.tellings (h.exchanges.flatMap (·.transcript)) ≠ [] := by
    decide +kernel
  refine ⟨by decide, by decide, told _ List.mem_cons_self, short, fun polled mem => ?_⟩
  obtain ⟨h, played, station, only, two, level, hears⟩ := computed polled mem
  obtain ⟨-, -, coalesces⟩ := polled.1.wakeups_reliable Nat.zero_lt_two
  have polls : ∀ x ∈ h.exchanges, ∃ timeout, x.operation = .poll timeout :=
    fun x mem => ⟨none, only x mem⟩
  obtain ⟨attend, woken⟩ := coalesces station h.run polls level
  refine ⟨h, played, two, fun x mem => (attend x mem).awaits none (only x mem), ?_⟩
  rcases woken with ⟨silent, -⟩ | ⟨k, told, -⟩
  · exact absurd silent hears
  · exact ⟨k, told⟩

end Station
end Multiplexer

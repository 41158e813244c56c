import Multiplexer.Proofs.History.Batches
import Multiplexer.Proofs.History.Sets

/-! Polls that block until there is something to tell. Those of a select end without an event only
when they were woken or interrupted; the other facilities wait once as well, but can be told of what
nobody is registered for, and end with that. -/
namespace Multiplexer

/-! ### What a wait without a timeout brings -/

def Condition.all : List Condition := [.read, .write, .error]

theorem Condition.mem_all (c : Condition) : c ∈ all := by
  cases c <;> decide

def SocketSets.of (s : SocketSets) : Condition → List Descriptor
  | .read => s.read
  | .write => s.write
  | .error => s.error

/-- Something was found, and only what was watched. -/
def Select.finds (watched found : Condition → List Descriptor) : Bool :=
  Condition.all.any (fun c => !(found c).isEmpty) &&
    Condition.all.all fun c => (found c).all (watched c).contains

/-- If the step is a wait that succeeded, it brought something; a select found what it was to watch. -/
def Step.obliging : Step → Bool
  | .asked (.epollWait ..) (.ok records) => records != []
  | .asked (.kqueueWait ..) (.ok records) => records != []
  | .asked (.portWait ..) (.ok packets) => packets != []
  | .asked (.selectFds _ watched _) (.ok selected) =>
    selected.count != 0 && Select.finds (watched.of · |>.toList) (selected.sets.of · |>.toList)
  | .asked (.selectSockets watched _) (.ok selected) =>
    selected.count != 0 && Select.finds watched.of selected.sets.of
  | _ => true

/-- What came of a wait is nothing to dispatch, and no failure either. -/
def Waited.barren : Waited → Bool
  | interrupted | timedOut => true
  | failed => false
  | reported report => !report.told

/-- The wait was interrupted, or the wakeup channel was signalled. -/
def Waited.excused : Waited → Bool
  | interrupted => true
  | reported report => report.woken
  | _ => false

theorem Waited.refused_eq (interruption e : Errno) :
    refused interruption e = .interrupted ∨ refused interruption e = .failed := by
  unfold refused
  split
  · exact .inl rfl
  · exact .inr rfl

theorem Waited.reported_not_mem_refused {report : Report} {interruption e : Errno} :
    .reported report ∉ [refused interruption e] := by
  rw [List.mem_singleton]
  rcases refused_eq interruption e with same | same <;> rw [same] <;> nofun

variable {b : Backend} {t : Transcript} {timeout : Timeout} {answer : Answer}

theorem Select.mem_of_finds {watched found : Condition → List Descriptor}
    (h : finds watched found = true) : ∃ c d, d ∈ found c ∧ d ∈ watched c := by
  obtain ⟨some, only⟩ := Bool.and_eq_true_iff.mp h
  obtain ⟨c, -, nonempty⟩ := List.any_eq_true.mp some
  have nonempty : found c ≠ [] := by simpa using nonempty
  obtain ⟨d, mem⟩ := List.exists_mem_of_ne_nil _ nonempty
  have among := List.all_eq_true.mp (List.all_eq_true.mp only c c.mem_all) d mem
  exact ⟨c, d, mem, List.contains_iff_mem.mp among⟩

/-- A poll that waits once ends without an event exactly if the wait was barren. -/
theorem Backend.PollsOnce.idle_iff {polled : Polled} (once : b.PollsOnce t polled) :
    ∃ w, b.waits t = [w] ∧ (polled.result = .ok 0 ↔ w.barren = true) := by
  cases once with
  | @idle _ _ w waited early rest =>
      refine ⟨w, waits_single waited rest, iff_of_true rfl ?_⟩
      rcases early with rfl | rfl <;> rfl
  | failed waited => exact ⟨.failed, waits_single waited rfl, iff_of_false nofun Bool.false_ne_true⟩
  | @reported _ _ report events waited rest silent =>
      refine ⟨.reported report, waits_single waited rest, ?_⟩
      change Except.ok events.length = Except.ok 0 ↔ (!report.told) = true
      rw [Except.ok.injEq, List.length_eq_zero_iff, silent, Bool.not_eq_true']

/-- Of the facilities, only a port says that the time is up when there was none set. -/
theorem Backend.facility_of_timedOut {s : Step} (waited : b.waited? s = some .timedOut)
    (obliging : s.obliging = true) : b.facility = .port := by
  have refused : ∀ {interruption e : Errno},
      some (Waited.refused interruption e) ≠ some .timedOut := by
    intro interruption e
    rcases Waited.refused_eq interruption e with same | same <;> rw [same] <;> nofun
  have came : ∀ {late : Prop} [Decidable late] {report : Report}, ¬ late →
      some (if late then Waited.timedOut else .reported report) ≠ some .timedOut := by
    intro late _ report early
    rw [if_neg early]
    nofun
  unfold waited? at waited
  split at waited
  · exact absurd waited refused
  · exact absurd waited (came (bne_iff_ne.mp obliging))
  · exact absurd waited refused
  · exact absurd waited (came (bne_iff_ne.mp obliging))
  · exact absurd waited refused
  · exact absurd waited (came (bne_iff_ne.mp (Bool.and_eq_true_iff.mp obliging).1))
  · exact absurd waited refused
  · exact absurd waited (came (bne_iff_ne.mp (Bool.and_eq_true_iff.mp obliging).1))
  · rfl
  · rfl
  · cases waited

/-! ### Selects are told of registrations only -/

/-- Some registered descriptor is in one of the sets. -/
theorem Registry.any_ready {r : Registry} {ready : Descriptor → Interest} {k : Key}
    {e : Registration} {c : Condition} (mem : (k, e) ∈ r.entries)
    (held : (ready e.descriptor).asks c = true) :
    (r.entries.any fun (_, e) => !(ready e.descriptor).isEmpty) = true := by
  refine List.any_eq_true.mpr ⟨(k, e), mem, ?_⟩
  change (!(ready e.descriptor).isEmpty) = true
  rw [Bool.not_eq_true', Interest.isEmpty, beq_eq_false_iff_ne]
  intro none
  rw [none, Interest.none_asks] at held
  cases held

namespace BitmapSelect

variable {p p' : BitmapSelect}

theorem report_of_found (wf : p.registry.WellFormed) (coherent : p.Coherent) {found : FdSets}
    {c : Condition} {d : Descriptor} (mem : d ∈ found.of c) (watched : d ∈ p.watched.of c) :
    p.report found ≠ ⟨false, false⟩ := by
  rw [ne_eq, Report.mk.injEq, not_and_or, Bool.not_eq_false, Bool.not_eq_false]
  by_cases reader : d = p.wakeup.reader ∧ c = .read
  · obtain ⟨rfl, rfl⟩ := reader
    exact .inl (Std.TreeSet.contains_iff_mem.mpr mem)
  · obtain ⟨e, registered, -⟩ := (coherent.mem_iff reader).mp watched
    obtain ⟨k, opened, rfl⟩ := wf.find?_eq_some_iff.mp registered
    refine .inr (Registry.any_ready (c := c) (wf.mem_entries.mpr opened) ?_)
    cases c with
    | read => exact Std.TreeSet.contains_iff_mem.mpr mem
    | write => exact Std.TreeSet.contains_iff_mem.mpr mem
    | error => exact Std.TreeSet.contains_iff_mem.mpr mem

/-- A wait without a timeout is not told of what nobody is registered for. -/
theorem Served.tells (served : p.Served (.poll timeout) t answer p') (wf : p.registry.WellFormed)
    (coherent : p.Coherent) (obliging : ∀ s ∈ t, s.obliging = true) :
    .reported ⟨false, false⟩ ∉ (Backend.bitmap p).waits t := by
  cases served with
  | unanswered => exact Waited.reported_not_mem_refused
  | unready none =>
      obtain ⟨some, -⟩ := Bool.and_eq_true_iff.mp (obliging _ List.mem_cons_self)
      exact absurd none (bne_iff_ne.mp some)
  | @answered _ t selected some reads =>
      have waits : (Backend.bitmap p).waits (.asked (p.wait timeout) (.ok selected) :: t) =
          [.reported (p.report selected.sets)] :=
        Backend.waits_single (congrArg _ (if_neg some)) (reads.waits_eq _)
      obtain ⟨-, finds⟩ := Bool.and_eq_true_iff.mp (obliging _ List.mem_cons_self)
      obtain ⟨c, d, found, watched⟩ := Select.mem_of_finds finds
      rw [waits, List.mem_singleton, Waited.reported.injEq]
      exact (report_of_found wf coherent (Std.TreeSet.mem_toList.mp found)
        (Std.TreeSet.mem_toList.mp watched)).symm

end BitmapSelect

namespace SocketSelect

variable {p p' : SocketSelect} {c : Condition} {d : Descriptor}

/-- Putting a socket into the lists of its interest puts nothing else there. -/
theorem mem_of_mem_watch {s : SocketSets} {socket : Descriptor} {interest : Interest}
    (mem : d ∈ (s.watch socket interest).of c) : d ∈ s.of c ∨ d = socket := by
  have placed : ∀ {sockets : List Descriptor} {held : Bool},
      d ∈ (if held then SocketSets.put sockets socket else sockets) → d ∈ sockets ∨ d = socket := by
    intro sockets held mem
    cases held with
    | false => exact .inl mem
    | true =>
        rw [if_pos rfl, SocketSets.put] at mem
        split at mem
        · exact (List.mem_append.mp mem).imp_right List.mem_singleton.mp
        · exact .inl mem
  cases c with
  | read => exact placed mem
  | write => exact placed mem
  | error => exact placed mem

theorem mem_watched : d ∈ p.watched.of c →
    (d = p.wakeup.reader ∧ c = .read) ∨ ∃ entry ∈ p.registry.entries, entry.2.descriptor = d := by
  unfold watched
  refine List.foldlRecOn (motive := fun s : SocketSets => d ∈ s.of c → _) _ _ ?_ ?_
  · intro mem
    cases c with
    | read => exact .inl ⟨List.mem_singleton.mp mem, rfl⟩
    | write => cases mem
    | error => cases mem
  · intro s before entry listed mem
    rcases mem_of_mem_watch mem with mem | rfl
    · exact before mem
    · exact .inr ⟨entry, listed, rfl⟩

theorem report_of_found {found : SocketSets} (mem : d ∈ found.of c) (watched : d ∈ p.watched.of c) :
    p.report (p.watched.left found) ≠ ⟨false, false⟩ := by
  have left : d ∈ (p.watched.left found).of c := by
    have kept : ∀ {handed kept : List Descriptor}, d ∈ handed → d ∈ kept →
        d ∈ if handed.isEmpty then [] else kept := by
      intro handed kept handed' kept'
      rw [if_neg fun none => List.ne_nil_of_mem handed' (List.isEmpty_iff.mp none)]
      exact kept'
    cases c with
    | read => exact kept watched mem
    | write => exact kept watched mem
    | error => exact kept watched mem
  rw [ne_eq, Report.mk.injEq, not_and_or, Bool.not_eq_false, Bool.not_eq_false]
  rcases mem_watched watched with ⟨rfl, rfl⟩ | ⟨⟨k, e⟩, listed, rfl⟩
  · exact .inl (List.contains_iff_mem.mpr left)
  · refine .inr (Registry.any_ready (c := c) listed ?_)
    cases c with
    | read => exact List.contains_iff_mem.mpr left
    | write => exact List.contains_iff_mem.mpr left
    | error => exact List.contains_iff_mem.mpr left

theorem Served.tells (served : p.Served (.poll timeout) t answer p')
    (obliging : ∀ s ∈ t, s.obliging = true) :
    .reported ⟨false, false⟩ ∉ (Backend.socket p).waits t := by
  cases served with
  | unanswered => exact Waited.reported_not_mem_refused
  | unready none =>
      obtain ⟨some, -⟩ := Bool.and_eq_true_iff.mp (obliging _ List.mem_cons_self)
      exact absurd none (bne_iff_ne.mp some)
  | @answered _ t selected some reads =>
      have waits : (Backend.socket p).waits (.asked (p.wait timeout) (.ok selected) :: t) =
          [.reported (p.report (p.watched.left selected.sets))] :=
        Backend.waits_single (congrArg _ (if_neg some)) (reads.waits_eq _)
      obtain ⟨-, finds⟩ := Bool.and_eq_true_iff.mp (obliging _ List.mem_cons_self)
      obtain ⟨c, d, found, watched⟩ := Select.mem_of_finds finds
      rw [waits, List.mem_singleton, Waited.reported.injEq]
      exact (report_of_found found watched).symm

end SocketSelect

/-! ### Whole histories -/

/-- A poll without a timeout waits once. It ends without an event exactly if its wait was barren, and
then it was woken or interrupted unless all that the wait brought is what nobody is registered for,
or a port has said that the time is up; to a select neither can happen. -/
theorem History.blocking_poll_idle_iff (h : History) {es fs : List Exchange} {x : Exchange}
    (split : h.exchanges = es ++ x :: fs) (op : x.operation = .poll none)
    (ringless : x.before.facility ≠ .ring) (obliging : ∀ s ∈ x.transcript, s.obliging = true) :
    ∃ w, x.waits = [w] ∧ (x.answer.count? = some 0 ↔ w.barren = true) ∧
      ((x.answer.count? = some 0 → w.excused = true) ↔
        w ≠ .timedOut ∧ w ≠ .reported ⟨false, false⟩) ∧
      (w = .timedOut → x.before.facility = .port) ∧
      (x.before.facility = .bitmap ∨ x.before.facility = .socket → w ≠ .reported ⟨false, false⟩) := by
  have positive : 0 < x.before.batch := (h.upTo split).batch_kept ▸ h.config.batchSize_pos
  obtain ⟨polled, answer, once⟩ := x.pollsOnce ringless positive op
  obtain ⟨w, waits, idle⟩ := once.idle_iff
  have counted : x.answer.count? = some 0 ↔ w.barren = true := by
    rw [answer, Answer.count?_polled, idle]
  have waited : w ∈ x.before.waits x.transcript := waits ▸ List.mem_singleton_self w
  refine ⟨w, waits, counted, ?_, ?_, ?_⟩
  · rw [counted]
    rcases w with _ | _ | _ | ⟨woken, told⟩
    · decide
    · decide
    · decide
    · cases woken <;> cases told <;> decide
  · rintro rfl
    obtain ⟨s, said, came⟩ := List.mem_filterMap.mp waited
    exact Backend.facility_of_timedOut came (obliging s said)
  · rintro select rfl
    rcases select with bitmap | socket
    · have kept := (h.upTo split).run.facility_eq h.opened.sound
      obtain ⟨p₀, opened⟩ := Backend.eq_bitmap (kept.symm.trans bitmap)
      obtain ⟨p, before, -, coherent⟩ : x.before.Selects p₀.wakeup := (h.upTo split).selects opened
      obtain ⟨p', -, served⟩ := x.bitmap_served before
      have wf : x.before.registry.WellFormed := (h.upTo split).sound.wellFormed
      rw [before] at wf waited
      rw [op] at served
      exact served.tells wf coherent obliging waited
    · obtain ⟨p, before⟩ := Backend.eq_socket socket
      obtain ⟨p', -, served⟩ := x.socket_served before
      rw [op] at served
      rw [before] at waited
      exact served.tells obliging waited

/-- An epoll is told of a removed descriptor, which it could not delete, and of a wakeup. -/
def wokenBesideStale : Option History := do
  let refused := Script.empty.put .epollControl [some (.error .invalidArgument)]
  let waited := Script.empty.put .epollWait [some (.ok [⟨.input, 0⟩, ⟨.input, wakeKey⟩])]
  let h ← History.rehearseOpening Epoll.create .epoll .epoll {} .initial
  h.rehearse [(.add 5 { read := true } 1, .initial),
    (.remove 5, { Script.Stage.initial with script := refused }),
    (.poll none, { Script.Stage.initial with script := waited })]

theorem woken_poll_excused :
    ∃ (h : History) (es : List Exchange) (x : Exchange), h.exchanges = es ++ [x] ∧
      x.operation = .poll none ∧ x.before.facility = .epoll ∧
      (∀ s ∈ x.transcript, s.obliging = true) ∧ x.waits = [.reported ⟨true, false⟩] ∧
      x.answer.count? = some 0 := by
  have computed : ∃ h ∈ wokenBesideStale,
      h.exchanges.map (fun x => (x.operation, x.before.facility,
        x.transcript.all Step.obliging, x.waits)) =
      [(.add 5 { read := true } 1, .epoll, true, []), (.remove 5, .epoll, true, [])] ++
        [(.poll none, .epoll, true, [.reported ⟨true, false⟩])] := by
    decide +kernel
  obtain ⟨h, -, shown⟩ := computed
  obtain ⟨es, last, split, -, later⟩ := List.map_eq_append_iff.mp shown
  obtain ⟨x, rfl, facts⟩ := List.map_eq_singleton_iff.mp later
  obtain ⟨op, epoll, replies, waits⟩ : _ ∧ _ ∧ _ ∧ _ := by simpa only [Prod.mk.injEq] using facts
  have obliging := List.all_eq_true.mp replies
  obtain ⟨w, only, idle, -⟩ :=
    h.blocking_poll_idle_iff split op (by rw [epoll]; decide) obliging
  cases List.singleton_inj.mp (waits.symm.trans only)
  exact ⟨h, es, x, split, op, epoll, obliging, waits, idle.mpr rfl⟩

/-- A removed descriptor is polled for: the kernel did not let go of it, or a completion of it was
still queued. -/
def staleTidings : List (Option History) :=
  let refused := { Script.Stage.initial with
    script := (Script.empty.put .epollControl [some (.error .invalidArgument)]).put .kqueueChange
      [some (.error .invalidArgument)] }
  let waited := { Script.Stage.initial with
    script := (Script.empty.put .epollWait [some (.ok [⟨.input, 0⟩])]).put .kqueueWait
      [some (.ok [⟨-1, 0, 0, 0⟩])]
    packets := [⟨0, 1, 1⟩] }
  let polled (h : History) : Option History :=
    h.rehearse [(.add 5 { read := true } 1, .initial), (.post 5 1 1, .initial),
      (.remove 5, refused), (.poll none, waited)]
  [History.rehearseOpening Epoll.create .epoll .epoll {} .initial >>= polled,
    History.rehearseOpening Kqueue.create .kqueue .kqueue {} .initial >>= polled,
    History.rehearseOpening CompletionPort.create .port .port {} .initial >>= polled]

/-- Though nobody woke or interrupted it, such a poll ends without an event. -/
theorem stale_tidings_end_poll :
    staleTidings.map (·.map (·.finish.facility)) = [some .epoll, some .kqueue, some .port] ∧
    ∀ rehearsal ∈ staleTidings, ∃ h ∈ rehearsal, ∃ x ∈ h.exchanges.getLast?,
      x.operation = .poll none ∧ (∀ s ∈ x.transcript, s.obliging = true) ∧
        x.answer.count? = some 0 ∧ x.waits.map Waited.excused = [false] := by
  decide +kernel

end Multiplexer

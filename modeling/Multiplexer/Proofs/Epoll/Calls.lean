import Multiplexer.Proofs.Watching

/-! What the calls to an epoll come to: the events of the records that a wait hands over, and every
way a call can go, with what is said to the kernel. -/
namespace Multiplexer.Epoll
open Dialogue

/-- The event of a record. The wakeup pipe has none, and neither has a key that opens nothing. -/
def event? (p : Epoll) (record : EpollRecord) : Option Event :=
  if record.data = wakeKey then none
  else (p.registry.get? (.unpack record.data)).map fun e =>
    ⟨e.descriptor, e.token, .readiness record.mask.epollReady⟩

def events (p : Epoll) (records : List EpollRecord) : List Event := records.filterMap p.event?

/-- What a call to an epoll comes to, whatever it was for. -/
inductive Served (p : Epoll) : Operation → Transcript → Answer → Epoll → Prop
  | duplicate {fd interest token e} : p.registry.insert fd interest token = .error e →
      Served p (.add fd interest token) [] (.returned (.error e)) p
  | unlisted {fd interest token k placed e} :
      p.registry.insert fd interest token = .ok (k, placed) →
      Served p (.add fd interest token)
        [.asked (.epollControl p.queue (.add fd interest.pollMask k.pack)) (.error e)]
        (.returned (.error (refusal fd e))) { p with registry := placed.discard fd }
  | listed {fd interest token k placed} :
      p.registry.insert fd interest token = .ok (k, placed) →
      Served p (.add fd interest token)
        [.asked (.epollControl p.queue (.add fd interest.pollMask k.pack)) (.ok ()),
          .noted (.registered .epoll fd interest)]
        (.returned (.ok ())) { p with registry := placed }
  | unmodified {fd interest} : p.registry.keyOf? fd = none →
      Served p (.modify fd interest) [] (.returned (.error (.notRegistered fd))) p
  | unchanged {fd interest k e} : p.registry.keyOf? fd = some k →
      Served p (.modify fd interest)
        [.asked (.epollControl p.queue (.modify fd interest.pollMask k.pack)) (.error e)]
        (.returned (.error (.facility (.os e)))) p
  | modified {fd interest k} : p.registry.keyOf? fd = some k →
      Served p (.modify fd interest)
        [.asked (.epollControl p.queue (.modify fd interest.pollMask k.pack)) (.ok ())]
        (.returned (.ok ()))
        { p with registry := p.registry.modify k ({ · with interest }) }
  | unremoved {fd e} : p.registry.remove fd = .error e →
      Served p (.remove fd) [] (.returned (.error e)) p
  | removed {fd entry rest reply record} : p.registry.remove fd = .ok (entry, rest) →
      Served p (.remove fd) [.asked (.epollControl p.queue (.delete fd)) reply, .noted record]
        (.returned (.ok ())) { p with registry := rest }
  | unanswered {timeout e} :
      Served p (.poll timeout)
        [.asked (.epollWait p.queue p.batch (timeoutMillis timeout)) (.error e)]
        (.polled (if e = .interrupted then .idle else .failed (.facility (.os e)))) p
  | answered {timeout records t} : Transcript.Reads t →
      Served p (.poll timeout)
        (.asked (.epollWait p.queue p.batch (timeoutMillis timeout)) (.ok records) :: t)
        (.polled (.ready (p.events records))) p
  | post {fd marker bytes result} : Served p (.post fd marker bytes) [] (.returned result) p
  | wakeup {t result} : Transcript.Still t → Served p .wakeup t (.returned result) p

variable {n : Nat} {fd : Descriptor} {interest : Interest} {token : Token} {timeout : Timeout}
  {record : EpollRecord} {records : List EpollRecord}

/-- A poll starts with its wait, for as many records as fit in a batch. -/
theorem Served.waits {p p' : Epoll} {t : Transcript} {answer : Answer}
    (served : p.Served (.poll timeout) t answer p') : ∃ reply rest,
      t = .asked (.epollWait p.queue p.batch (timeoutMillis timeout)) reply :: rest := by
  cases served with
  | unanswered => exact ⟨_, _, rfl⟩
  | answered => exact ⟨_, _, rfl⟩

theorem event?_of_wakeup (p : Epoll) (reserved : record.data = wakeKey) : p.event? record = none :=
  if_pos reserved

theorem event?_of_key (p : Epoll) (unreserved : record.data ≠ wakeKey) :
    p.event? record = (p.registry.get? (.unpack record.data)).map fun e =>
      ⟨e.descriptor, e.token, .readiness record.mask.epollReady⟩ := if_neg unreserved

theorem events_cons (p : Epoll) :
    p.events (record :: records) = (p.event? record).toList ++ p.events records := by
  rw [events, List.filterMap_cons]
  cases p.event? record <;> rfl

/-- One record after the other becomes its event, and is counted; all else that happens is that the
pipe is emptied. -/
theorem dispatch_events (p : Epoll) (records : List EpollRecord) :
    Yields (p.dispatch records n) fun t dispatched =>
      t.Reads ∧ dispatched = .of (p.events records) := by
  induction records with
  | nil =>
      rw [dispatch, Sys.yields_pure]
      exact ⟨Transcript.reads_nil, rfl⟩
  | cons record rest ih =>
      rw [events_cons]
      unfold dispatch
      split
      · rename_i reserved
        rw [p.event?_of_wakeup reserved]
        simp only [Sys.yields_bind]
        refine p.wakeup.drain_reads.mono fun t _ drained => ih.mono fun u _ later => ?_
        exact ⟨drained.append later.1, later.2⟩
      · rename_i unreserved
        rw [p.event?_of_key unreserved]
        simp only [Sys.yields_bind, Sys.yields_pure, List.append_nil]
        refine ih.mono fun t _ later => ⟨later.1, ?_⟩
        rw [later.2]
        cases p.registry.get? (.unpack record.data) <;> rfl

theorem add_outcome (p : Epoll) :
    Yields (p.add fd interest token n) fun t r =>
      Served p (.add fd interest token) t (.returned r.1) r.2 := by
  unfold add
  cases placed : p.registry.insert fd interest token with
  | error e =>
      rw [Sys.yields_pure]
      exact .duplicate placed
  | ok =>
      simp only [Sys.yields_bind, Sys.yields_ask]
      rintro (e | ⟨⟩)
      · rw [Sys.yields_pure]
        exact .unlisted placed
      · simp only [Sys.yields_bind, Sys.yields_note, Sys.yields_pure]
        exact .listed placed

theorem modify_outcome (p : Epoll) :
    Yields (p.modify fd interest n) fun t r =>
      Served p (.modify fd interest) t (.returned r.1) r.2 := by
  unfold modify
  cases known : p.registry.keyOf? fd with
  | none =>
      rw [Sys.yields_pure]
      exact .unmodified known
  | some =>
      simp only [Sys.yields_bind, Sys.yields_ask]
      rintro (e | ⟨⟩)
      · rw [Sys.yields_pure]
        exact .unchanged known
      · rw [Sys.yields_pure]
        exact .modified known

theorem remove_outcome (p : Epoll) :
    Yields (p.remove fd n) fun t r => Served p (.remove fd) t (.returned r.1) r.2 := by
  unfold remove
  cases taken : p.registry.remove fd with
  | error =>
      rw [Sys.yields_pure]
      exact .unremoved taken
  | ok =>
      simp only [Sys.yields_bind, Sys.yields_ask]
      rintro (e | ⟨⟩)
      · dsimp only
        split
        · simp only [Sys.yields_bind, Sys.yields_note, Sys.yields_pure]
          exact .removed taken
        · simp only [Sys.yields_bind, Sys.yields_note, Sys.yields_pure]
          exact .removed taken
      · simp only [Sys.yields_bind, Sys.yields_note, Sys.yields_pure]
        exact .removed taken

theorem poll_outcome (p : Epoll) :
    Yields (p.poll timeout n) fun t polled => Served p (.poll timeout) t (.polled polled) p := by
  unfold poll
  simp only [Sys.yields_bind, Sys.yields_ask]
  rintro (e | records)
  · rw [Sys.yields_pure]
    exact .unanswered
  · simp only [Sys.yields_bind, Sys.yields_pure, List.append_nil]
    refine (p.dispatch_events records).mono fun t _ dispatched => ?_
    rw [dispatched.2]
    exact .answered dispatched.1

theorem serve_outcome (p : Epoll) (op : Operation) :
    Yields ((Backend.epoll p).serve op n) fun t r =>
      ∃ p', r.2 = .epoll p' ∧ Served p op t r.1 p' := by
  cases op with
  | add =>
      simp only [Backend.serve, Backend.add, Sys.yields_map]
      exact p.add_outcome.mono₂ fun _ _ p' outcome => ⟨p', rfl, outcome⟩
  | modify =>
      simp only [Backend.serve, Backend.modify, Sys.yields_map]
      exact p.modify_outcome.mono₂ fun _ _ p' outcome => ⟨p', rfl, outcome⟩
  | remove =>
      simp only [Backend.serve, Backend.remove, Sys.yields_map]
      exact p.remove_outcome.mono₂ fun _ _ p' outcome => ⟨p', rfl, outcome⟩
  | poll =>
      simp only [Backend.serve, Backend.poll, Sys.yields_map]
      exact p.poll_outcome.mono fun _ _ outcome => ⟨p, rfl, outcome⟩
  | post =>
      simp only [Backend.serve, Backend.post, Sys.yields_map, Sys.yields_pure]
      exact ⟨p, rfl, .post⟩
  | wakeup =>
      simp only [Backend.serve, Sys.yields_map]
      refine (Backend.wakeup_still _).mono₂ fun t result b' woken => ?_
      obtain ⟨still, channel, same⟩ := woken
      exact ⟨p, same, .wakeup still⟩

end Multiplexer.Epoll

namespace Multiplexer

theorem Backend.eq_epoll {b : Backend} (h : b.facility = .epoll) : ∃ p, b = .epoll p := by
  cases b with
  | epoll p => exact ⟨p, rfl⟩
  | _ => cases h

theorem Exchange.epoll_served (x : Exchange) {p : Epoll} (before : x.before = .epoll p) :
    ∃ p', x.after = .epoll p' ∧ p.Served x.operation x.transcript x.answer p' := by
  obtain ⟨_, follows⟩ := x.served
  rw [before] at follows
  exact p.serve_outcome x.operation follows

end Multiplexer

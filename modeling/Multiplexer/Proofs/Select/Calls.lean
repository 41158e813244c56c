import Multiplexer.Proofs.Watching

/-! What the calls to the two selects come to: every way a call can go, with what is said to the system
and what becomes of the poller. -/
namespace Multiplexer
open Dialogue

namespace Select

def chosen (batch cursor : Nat) (cs : List Candidate) : List Candidate :=
  (rotate cursor cs).take batch

/-- The events of a batch, and where the next scan starts. -/
def turn (batch cursor : Nat) (cs : List Candidate) : List Event × Nat :=
  let chosen := chosen batch cursor cs
  (chosen.map (·.event),
    if chosen.length < batch then 0 else (chosen.getLast?.map (·.position + 1)).getD cursor)

theorem takeUpTo_eq (room : Nat) (cs : List Candidate) (cursor : Nat) :
    takeUpTo room cs cursor = (.of ((cs.take room).map (·.event)),
      ((cs.take room).getLast?.map (·.position + 1)).getD cursor) := by
  induction cs generalizing room cursor with
  | nil => cases room <;> rfl
  | cons c rest ih =>
      cases room with
      | zero => rfl
      | succ room =>
          rw [takeUpTo, ih, List.take_succ_cons, List.getLast?_cons]
          refine Prod.ext rfl ?_
          cases (rest.take room).getLast? <;> rfl

/-- What is counted while a batch is dispatched is the number of its events. -/
theorem takeBatch_eq (batch cursor : Nat) (cs : List Candidate) :
    takeBatch batch cursor cs = Prod.map .of id (turn batch cursor cs) := by
  simp only [takeBatch, takeUpTo_eq, turn, chosen, Dispatched.of, List.length_map, Prod.map_apply]
  rfl

end Select

namespace BitmapSelect

def wait (p : BitmapSelect) (timeout : Timeout) : Call :=
  .selectFds (p.top.toInt + 1) p.watched (timeout.map (splitMicros · maxSignedSeconds))

def chosen (p : BitmapSelect) (found : FdSets) : List Event × Nat :=
  Select.turn p.batch p.cursor (Select.candidates p.registry found.conditions)

inductive Served (p : BitmapSelect) : Operation → Transcript → Answer → BitmapSelect → Prop
  | unfit {fd interest token} : fitsFdSet fd = false →
      Served p (.add fd interest token) []
        (.returned (.error (.capacityExceeded fd fdSetCapacity))) p
  | closed {fd interest token e} : fitsFdSet fd = true →
      Served p (.add fd interest token) [.asked (.getFlags fd) (.error e)]
        (.returned (.error (if p.registry.contains fd then .alreadyRegistered fd
          else .unsupported fd (.os e)))) p
  | duplicate {fd interest token e} : p.registry.insert fd interest token = .error e →
      Served p (.add fd interest token) [.asked (.getFlags fd) (.ok ())] (.returned (.error e)) p
  | added {fd interest token k placed} : fitsFdSet fd = true →
      p.registry.insert fd interest token = .ok (k, placed) →
      Served p (.add fd interest token)
        [.asked (.getFlags fd) (.ok ()), .noted (.registered .select fd interest)]
        (.returned (.ok ()))
        { p with
          registry := placed, watched := p.watched.apply fd interest, top := max p.top fd }
  | unmodified {fd interest} : p.registry.keyOf? fd = none →
      Served p (.modify fd interest) [] (.returned (.error (.notRegistered fd))) p
  | modified {fd interest k} : p.registry.keyOf? fd = some k →
      Served p (.modify fd interest) [] (.returned (.ok ()))
        { p with
          registry := p.registry.modify k ({ · with interest })
          watched := p.watched.apply fd interest }
  | unremoved {fd e} : p.registry.remove fd = .error e →
      Served p (.remove fd) [] (.returned (.error e)) p
  | removed {fd entry rest} : p.registry.remove fd = .ok (entry, rest) →
      Served p (.remove fd) [.noted (.deregistered .select fd)] (.returned (.ok ()))
        { p with
          registry := rest
          watched := p.watched.apply fd .none
          top := if fd = p.top then topOf p.wakeup rest else p.top }
  | unanswered {timeout e} :
      Served p (.poll timeout) [.asked (p.wait timeout) (.error e)]
        (.polled (if e = .interrupted then .idle else .failed (.facility (.os e)))) p
  | unready {timeout} {selected : Selected FdSets} : selected.count = 0 →
      Served p (.poll timeout) [.asked (p.wait timeout) (.ok selected)] (.polled .idle) p
  | answered {timeout t} {selected : Selected FdSets} : selected.count ≠ 0 →
      Transcript.Reads t →
      Served p (.poll timeout) (.asked (p.wait timeout) (.ok selected) :: t)
        (.polled (.ready (p.chosen selected.sets).1))
        { p with cursor := (p.chosen selected.sets).2 }
  | post {fd marker bytes result} : Served p (.post fd marker bytes) [] (.returned result) p
  | wakeup {t result} : Transcript.Still t → Served p .wakeup t (.returned result) p

variable {n : Nat} {fd : Descriptor} {interest : Interest} {token : Token} {timeout : Timeout}

theorem add_outcome (p : BitmapSelect) :
    Yields (p.add fd interest token n) fun t r =>
      Served p (.add fd interest token) t (.returned r.1) r.2 := by
  unfold add
  cases fits : fitsFdSet fd with
  | false =>
      simp only [Bool.not_false, if_true, Sys.yields_pure]
      exact .unfit fits
  | true =>
      simp only [Bool.not_true, Bool.false_eq_true, if_false, Sys.yields_bind, Sys.yields_ask]
      rintro (e | ⟨⟩)
      · rw [Sys.yields_pure]
        exact .closed fits
      · dsimp only
        cases placed : p.registry.insert fd interest token with
        | error e =>
            rw [Sys.yields_pure]
            exact .duplicate placed
        | ok =>
            simp only [Sys.yields_bind, Sys.yields_note, Sys.yields_pure]
            exact .added fits placed

theorem modify_outcome (p : BitmapSelect) :
    Served p (.modify fd interest) [] (.returned (p.modify fd interest).1)
      (p.modify fd interest).2 := by
  unfold modify
  cases known : p.registry.keyOf? fd with
  | none => exact .unmodified known
  | some => exact .modified known

theorem remove_outcome (p : BitmapSelect) :
    Yields (p.remove fd n) fun t r => Served p (.remove fd) t (.returned r.1) r.2 := by
  unfold remove
  cases taken : p.registry.remove fd with
  | error =>
      rw [Sys.yields_pure]
      exact .unremoved taken
  | ok =>
      simp only [Sys.yields_bind, Sys.yields_note, Sys.yields_pure]
      exact .removed taken

theorem poll_outcome (p : BitmapSelect) :
    Yields (p.poll timeout n) fun t r => Served p (.poll timeout) t (.polled r.1) r.2 := by
  unfold poll
  simp only [Sys.yields_bind, Sys.yields_ask]
  rintro (e | selected)
  · rw [Sys.yields_pure]
    exact .unanswered
  · dsimp only
    split
    · rename_i none
      rw [Sys.yields_pure]
      exact .unready none
    · rename_i some
      rw [Select.takeBatch_eq]
      split
      · simp only [Sys.yields_bind, Sys.yields_pure, List.append_nil]
        exact p.wakeup.drain_reads.mono fun _ _ reads => .answered some reads
      · simp only [Sys.yields_pure]
        exact .answered some Transcript.reads_nil

theorem serve_outcome (p : BitmapSelect) (op : Operation) :
    Yields ((Backend.bitmap p).serve op n) fun t r =>
      ∃ p', r.2 = .bitmap p' ∧ Served p op t r.1 p' := by
  cases op with
  | add =>
      simp only [Backend.serve, Backend.add, Sys.yields_map]
      exact p.add_outcome.mono₂ fun _ _ p' outcome => ⟨p', rfl, outcome⟩
  | modify =>
      simp only [Backend.serve, Backend.modify, Sys.yields_map, Sys.yields_pure]
      exact ⟨_, rfl, p.modify_outcome⟩
  | remove =>
      simp only [Backend.serve, Backend.remove, Sys.yields_map]
      exact p.remove_outcome.mono₂ fun _ _ p' outcome => ⟨p', rfl, outcome⟩
  | poll =>
      simp only [Backend.serve, Backend.poll, Sys.yields_map]
      exact p.poll_outcome.mono₂ fun _ _ p' outcome => ⟨p', rfl, outcome⟩
  | post =>
      simp only [Backend.serve, Backend.post, Sys.yields_map, Sys.yields_pure]
      exact ⟨p, rfl, .post⟩
  | wakeup =>
      simp only [Backend.serve, Sys.yields_map]
      refine (Backend.wakeup_still _).mono₂ fun t result b' woken => ?_
      obtain ⟨still, channel, same⟩ := woken
      exact ⟨p, same, .wakeup still⟩

end BitmapSelect

namespace SocketSelect

def wait (p : SocketSelect) (timeout : Timeout) : Call :=
  .selectSockets p.watched (timeout.map (splitMicros · maxSeconds))

def chosen (p : SocketSelect) (found : SocketSets) : List Event × Nat :=
  Select.turn p.batch p.cursor (Select.candidates p.registry found.conditions)

inductive Served (p : SocketSelect) : Operation → Transcript → Answer → SocketSelect → Prop
  | full {fd interest token} : p.registry.contains fd = false →
      socketSetCapacity ≤ p.registry.size + 1 →
      Served p (.add fd interest token) []
        (.returned (.error (.capacityExceeded fd socketSetCapacity))) p
  | closed {fd interest token e} :
      Served p (.add fd interest token) [.asked (.socketType fd) (.error e)]
        (.returned (.error (if p.registry.contains fd then .alreadyRegistered fd
          else .unsupported fd (.os e)))) p
  | duplicate {fd interest token e} : p.registry.insert fd interest token = .error e →
      Served p (.add fd interest token) [.asked (.socketType fd) (.ok ())]
        (.returned (.error e)) p
  | added {fd interest token k placed} :
      p.registry.insert fd interest token = .ok (k, placed) →
      Served p (.add fd interest token)
        [.asked (.socketType fd) (.ok ()), .noted (.registered .select fd interest)]
        (.returned (.ok ())) { p with registry := placed }
  | unmodified {fd interest} : p.registry.keyOf? fd = none →
      Served p (.modify fd interest) [] (.returned (.error (.notRegistered fd))) p
  | modified {fd interest k} : p.registry.keyOf? fd = some k →
      Served p (.modify fd interest) [] (.returned (.ok ()))
        { p with registry := p.registry.modify k ({ · with interest }) }
  | unremoved {fd e} : p.registry.remove fd = .error e →
      Served p (.remove fd) [] (.returned (.error e)) p
  | removed {fd entry rest} : p.registry.remove fd = .ok (entry, rest) →
      Served p (.remove fd) [.noted (.deregistered .select fd)] (.returned (.ok ()))
        { p with registry := rest }
  | unanswered {timeout e} :
      Served p (.poll timeout) [.asked (p.wait timeout) (.error e)]
        (.polled (if e = .socketInterrupted then .idle else .failed (.facility (.os e)))) p
  | unready {timeout} {selected : Selected SocketSets} : selected.count = 0 →
      Served p (.poll timeout) [.asked (p.wait timeout) (.ok selected)] (.polled .idle) p
  | answered {timeout t} {selected : Selected SocketSets} : selected.count ≠ 0 →
      Transcript.Reads t →
      Served p (.poll timeout) (.asked (p.wait timeout) (.ok selected) :: t)
        (.polled (.ready (p.chosen (p.watched.left selected.sets)).1))
        { p with cursor := (p.chosen (p.watched.left selected.sets)).2 }
  | post {fd marker bytes result} : Served p (.post fd marker bytes) [] (.returned result) p
  | wakeup {t result} : Transcript.Still t → Served p .wakeup t (.returned result) p

variable {n : Nat} {fd : Descriptor} {interest : Interest} {token : Token} {timeout : Timeout}

theorem add_outcome (p : SocketSelect) :
    Yields (p.add fd interest token n) fun t r =>
      Served p (.add fd interest token) t (.returned r.1) r.2 := by
  unfold add
  split
  · rename_i full
    simp only [Bool.and_eq_true, Bool.not_eq_true', decide_eq_true_eq] at full
    rw [Sys.yields_pure]
    exact .full full.1 full.2
  · simp only [Sys.yields_bind, Sys.yields_ask]
    rintro (e | ⟨⟩)
    · rw [Sys.yields_pure]
      exact .closed
    · dsimp only
      cases placed : p.registry.insert fd interest token with
      | error e =>
          rw [Sys.yields_pure]
          exact .duplicate placed
      | ok =>
          simp only [Sys.yields_bind, Sys.yields_note, Sys.yields_pure]
          exact .added placed

theorem modify_outcome (p : SocketSelect) :
    Served p (.modify fd interest) [] (.returned (p.modify fd interest).1)
      (p.modify fd interest).2 := by
  unfold modify
  cases known : p.registry.keyOf? fd with
  | none => exact .unmodified known
  | some => exact .modified known

theorem remove_outcome (p : SocketSelect) :
    Yields (p.remove fd n) fun t r => Served p (.remove fd) t (.returned r.1) r.2 := by
  unfold remove
  cases taken : p.registry.remove fd with
  | error =>
      rw [Sys.yields_pure]
      exact .unremoved taken
  | ok =>
      simp only [Sys.yields_bind, Sys.yields_note, Sys.yields_pure]
      exact .removed taken

theorem poll_outcome (p : SocketSelect) :
    Yields (p.poll timeout n) fun t r => Served p (.poll timeout) t (.polled r.1) r.2 := by
  unfold poll
  simp only [Sys.yields_bind, Sys.yields_ask]
  rintro (e | selected)
  · rw [Sys.yields_pure]
    exact .unanswered
  · dsimp only
    split
    · rename_i none
      rw [Sys.yields_pure]
      exact .unready none
    · rename_i some
      rw [Select.takeBatch_eq]
      split
      · simp only [Sys.yields_bind, Sys.yields_pure, List.append_nil]
        exact p.wakeup.drain_reads.mono fun _ _ reads => .answered some reads
      · simp only [Sys.yields_pure]
        exact .answered some Transcript.reads_nil

theorem serve_outcome (p : SocketSelect) (op : Operation) :
    Yields ((Backend.socket p).serve op n) fun t r =>
      ∃ p', r.2 = .socket p' ∧ Served p op t r.1 p' := by
  cases op with
  | add =>
      simp only [Backend.serve, Backend.add, Sys.yields_map]
      exact p.add_outcome.mono₂ fun _ _ p' outcome => ⟨p', rfl, outcome⟩
  | modify =>
      simp only [Backend.serve, Backend.modify, Sys.yields_map, Sys.yields_pure]
      exact ⟨_, rfl, p.modify_outcome⟩
  | remove =>
      simp only [Backend.serve, Backend.remove, Sys.yields_map]
      exact p.remove_outcome.mono₂ fun _ _ p' outcome => ⟨p', rfl, outcome⟩
  | poll =>
      simp only [Backend.serve, Backend.poll, Sys.yields_map]
      exact p.poll_outcome.mono₂ fun _ _ p' outcome => ⟨p', rfl, outcome⟩
  | post =>
      simp only [Backend.serve, Backend.post, Sys.yields_map, Sys.yields_pure]
      exact ⟨p, rfl, .post⟩
  | wakeup =>
      simp only [Backend.serve, Sys.yields_map]
      refine (Backend.wakeup_still _).mono₂ fun t result b' woken => ?_
      obtain ⟨still, channel, same⟩ := woken
      exact ⟨p, same, .wakeup still⟩

end SocketSelect

theorem Backend.eq_bitmap {b : Backend} (h : b.facility = .bitmap) : ∃ p, b = .bitmap p := by
  cases b with
  | bitmap p => exact ⟨p, rfl⟩
  | _ => cases h

theorem Backend.eq_socket {b : Backend} (h : b.facility = .socket) : ∃ p, b = .socket p := by
  cases b with
  | socket p => exact ⟨p, rfl⟩
  | _ => cases h

namespace Exchange

variable (x : Exchange)

theorem bitmap_served {p : BitmapSelect} (before : x.before = .bitmap p) :
    ∃ p', x.after = .bitmap p' ∧ p.Served x.operation x.transcript x.answer p' := by
  obtain ⟨_, follows⟩ := x.served
  rw [before] at follows
  exact p.serve_outcome x.operation follows

theorem socket_served {p : SocketSelect} (before : x.before = .socket p) :
    ∃ p', x.after = .socket p' ∧ p.Served x.operation x.transcript x.answer p' := by
  obtain ⟨_, follows⟩ := x.served
  rw [before] at follows
  exact p.serve_outcome x.operation follows

end Exchange

end Multiplexer

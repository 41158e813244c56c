import Multiplexer.Proofs.Watching

/-! What the calls to a completion port come to: what becomes of each packet that a wait hands over,
and every way a call can go, with what is said to the port. -/
namespace Multiplexer

namespace Dialogue

variable {α β : Type}

/-- Leaves the records and ends with the value, without asking anything. -/
def recite (records : List Record) (a : α) : Dialogue α := records.foldr .note (.done a)

theorem follows_recite (records : List Record) (a : α) :
    Follows (recite records a) (records.map .noted) (.ok a) := by
  induction records with
  | nil => exact .done a
  | cons record rest ih => exact .note ih

theorem yields_recite {records : List Record} {a : α} {Q : Transcript → α → Prop} :
    Yields (recite records a) Q ↔ Q (records.map .noted) a := by
  induction records generalizing Q with
  | nil => exact yields_done
  | cons record rest ih => exact yields_note.trans ih

theorem recite_bind {records : List Record} {a : α} {f : α → Dialogue β} {b : β}
    (last : f a = .done b) : (recite records a).bind f = recite records b := by
  induction records with
  | nil => exact last
  | cons record rest ih => exact congrArg (Dialogue.note record) ih

end Dialogue

def Packet.wakeup : Packet := ⟨wakeKey, 0, 0⟩

/-- The packet counts as a wakeup. A completion under the same key has a marker of its own. -/
def Packet.wakes (packet : Packet) : Bool := packet.key = wakeKey ∧ packet.marker = 0

inductive Packet.Fate where
  | wakeup
  /-- The key leads to no registration. -/
  | stale (key : UInt64)
  | dispatched (event : Event)
  deriving DecidableEq, Repr

namespace Packet.Fate

def event? : Fate → Option Event
  | dispatched event => some event
  | _ => none

def record? : Fate → Option Record
  | stale key => some (.stalePacket key)
  | _ => none

end Packet.Fate

/-- The packets that the port was given and accepted. -/
def Transcript.accepted (t : Transcript) : List Packet :=
  t.filterMap fun
    | .asked (.portPost _ packet) (.ok ()) => some packet
    | _ => none

def Transcript.received (t : Transcript) : List Packet :=
  t.flatMap fun
    | .asked (.portWait ..) (.ok packets) => packets
    | _ => []

/-- The signal after packets were dealt with: a wakeup among them makes room for the next one. -/
def PortSignal.after (signal : PortSignal) (packets : List Packet) : PortSignal :=
  { signal with notified := signal.notified && !packets.any Packet.wakes }

namespace PortSignal

theorem after_nil (signal : PortSignal) : signal.after [] = signal := by
  rw [after, List.any_nil, Bool.not_false, Bool.and_true]

theorem after_cons (signal : PortSignal) (packet : Packet) (rest : List Packet) :
    signal.after (packet :: rest) = (signal.after [packet]).after rest := by
  simp only [after, List.any_cons, List.any_nil, Bool.or_false, Bool.not_or, Bool.and_assoc]

theorem after_of_wakes {signal : PortSignal} {packet : Packet} (wakes : packet.wakes = true) :
    signal.after [packet] = { signal with notified := false } := by
  rw [after, List.any_cons, wakes, Bool.true_or, Bool.not_true, Bool.and_false]

theorem after_of_silent {signal : PortSignal} {packet : Packet} (silent : packet.wakes = false) :
    signal.after [packet] = signal := by
  rw [after, List.any_cons, silent, List.any_nil, Bool.or_false, Bool.not_false, Bool.and_true]

end PortSignal

namespace CompletionPort
open Dialogue

def fate (p : CompletionPort) (packet : Packet) : Packet.Fate :=
  if packet.wakes then .wakeup
  else (p.resolve? packet.key).elim (.stale packet.key) fun e =>
    .dispatched ⟨e.descriptor, e.token, .completion packet.marker packet.bytes⟩

def events (p : CompletionPort) (packets : List Packet) : List Event :=
  packets.filterMap fun packet => (p.fate packet).event?

def records (p : CompletionPort) (packets : List Packet) : List Record :=
  packets.filterMap fun packet => (p.fate packet).record?

def remarks (p : CompletionPort) (packets : List Packet) : Transcript :=
  (p.records packets).map .noted

inductive Served (p : CompletionPort) :
    Operation → Transcript → Answer → CompletionPort → Prop
  | duplicate {fd interest token e} : p.registry.insert fd interest token = .error e →
      Served p (.add fd interest token) [] (.returned (.error e)) p
  | associated {fd interest token k placed} :
      p.registry.insert fd interest token = .ok (k, placed) →
      Served p (.add fd interest token)
        [.asked (.portAssociate fd p.signal.port k.pack) (.ok ()),
          .noted (.registered .iocp fd interest)]
        (.returned (.ok ()))
        { p with registry := placed, associations := associate p.associations k.pack fd }
  | reassociated {fd interest token k placed} :
      p.registry.insert fd interest token = .ok (k, placed) → p.isAssociated fd = true →
      Served p (.add fd interest token)
        [.asked (.portAssociate fd p.signal.port k.pack) (.error .invalidParameter),
          .noted (.alreadyAssociated fd), .noted (.registered .iocp fd interest)]
        (.returned (.ok ())) { p with registry := placed }
  | unassociated {fd interest token k placed e} :
      p.registry.insert fd interest token = .ok (k, placed) →
      ¬ (e = .invalidParameter ∧ p.isAssociated fd = true) →
      Served p (.add fd interest token)
        [.asked (.portAssociate fd p.signal.port k.pack) (.error e)]
        (.returned (.error (.unsupported fd (.os e)))) { p with registry := placed.discard fd }
  | unmodified {fd interest} : p.registry.keyOf? fd = none →
      Served p (.modify fd interest) [] (.returned (.error (.notRegistered fd))) p
  | modified {fd interest k} : p.registry.keyOf? fd = some k →
      Served p (.modify fd interest) [] (.returned (.ok ()))
        { p with registry := p.registry.modify k ({ · with interest }) }
  | unremoved {fd e} : p.registry.remove fd = .error e →
      Served p (.remove fd) [] (.returned (.error e)) p
  | removed {fd entry rest} : p.registry.remove fd = .ok (entry, rest) →
      Served p (.remove fd) [.noted (.deregistered .iocp fd)] (.returned (.ok ()))
        { p with registry := rest }
  | unanswered {timeout e} :
      Served p (.poll timeout)
        [.asked (.portWait p.signal.port p.batch (millis timeout)) (.error e)]
        (.polled (if e = .waitTimeout then .idle else .failed (.facility (.os e)))) p
  | answered {timeout packets} :
      Served p (.poll timeout)
        (.asked (.portWait p.signal.port p.batch (millis timeout)) (.ok packets) ::
          p.remarks packets)
        (.polled (.ready (p.events packets))) { p with signal := p.signal.after packets }
  | unposted {fd marker bytes} : p.registry.keyOf? fd = none →
      Served p (.post fd marker bytes) [] (.returned (.error (.notRegistered fd))) p
  | posted {fd marker bytes k} : p.registry.keyOf? fd = some k →
      Served p (.post fd marker bytes)
        [.asked (.portPost p.signal.port ⟨k.pack, marker, bytes⟩) (.ok ())]
        (.returned (.ok ())) p
  | refused {fd marker bytes k e} : p.registry.keyOf? fd = some k →
      Served p (.post fd marker bytes)
        [.asked (.portPost p.signal.port ⟨k.pack, marker, bytes⟩) (.error e)]
        (.returned (.error (.facility (.os e)))) p
  | coalesced : p.signal.notified = true → Served p .wakeup [] (.returned (.ok ())) p
  | woken : p.signal.notified = false →
      Served p .wakeup [.asked (.portPost p.signal.port .wakeup) (.ok ())]
        (.returned (.ok ())) { p with signal.notified := true }
  | unwoken {e} : p.signal.notified = false →
      Served p .wakeup [.asked (.portPost p.signal.port .wakeup) (.error e)]
        (.returned (.error (.facility (.os e)))) { p with signal.notified := false }

variable {n : Nat} {p : CompletionPort} {packet : Packet} {rest : List Packet}

theorem fate_of_wakes (wakes : packet.wakes = true) : p.fate packet = .wakeup := if_pos wakes

theorem fate_of_silent (silent : packet.wakes = false) :
    p.fate packet = (p.resolve? packet.key).elim (.stale packet.key) fun e =>
      .dispatched ⟨e.descriptor, e.token, .completion packet.marker packet.bytes⟩ := by
  rw [fate, silent, if_neg Bool.false_ne_true]

theorem fate_of_unknown (silent : packet.wakes = false) (unknown : p.resolve? packet.key = none) :
    p.fate packet = .stale packet.key := by
  rw [fate_of_silent silent, unknown, Option.elim_none]

theorem fate_of_known (silent : packet.wakes = false) {e : Registration}
    (known : p.resolve? packet.key = some e) :
    p.fate packet = .dispatched
      ⟨e.descriptor, e.token, .completion packet.marker packet.bytes⟩ := by
  rw [fate_of_silent silent, known, Option.elim_some]

theorem events_cons :
    p.events (packet :: rest) = (p.fate packet).event?.toList ++ p.events rest := by
  rw [events, List.filterMap_cons]
  cases (p.fate packet).event? <;> rfl

theorem records_cons :
    p.records (packet :: rest) = (p.fate packet).record?.toList ++ p.records rest := by
  rw [records, List.filterMap_cons]
  cases (p.fate packet).record? <;> rfl

/-- What the log says of packets does not count as packets handed over. -/
theorem received_answer {port : Handle} {room limit : Nat} {packets : List Packet} :
    Transcript.received (.asked (.portWait port room limit) (.ok packets) :: p.remarks rest) =
      packets := by
  have quiet : (p.remarks rest).received = [] := by
    refine List.flatMap_eq_nil_iff.mpr fun s mem => ?_
    obtain ⟨record, -, rfl⟩ := List.mem_map.mp mem
    rfl
  exact (congrArg (packets ++ ·) quiet).trans (List.append_nil packets)

/-- Each packet is dealt with by itself, and counted if it is dispatched: the flag has no say in where
a key leads. -/
theorem dispatch_eq (p : CompletionPort) (packets : List Packet) :
    p.dispatch packets n =
      recite (p.records packets) (.of (p.events packets), (p.signal.after packets).notified) := by
  induction packets generalizing p with
  | nil =>
      rw [PortSignal.after_nil]
      rfl
  | cons packet rest ih =>
      rw [records_cons, events_cons, PortSignal.after_cons]
      unfold dispatch
      split
      · rename_i reserved
        have wakes : packet.wakes = true := decide_eq_true reserved
        rw [fate_of_wakes wakes, PortSignal.after_of_wakes wakes]
        exact ih _
      · rename_i unreserved
        have silent : packet.wakes = false := decide_eq_false unreserved
        rw [PortSignal.after_of_silent silent]
        cases found : p.resolve? packet.key with
        | none =>
            rw [fate_of_unknown silent found]
            exact congrArg (Dialogue.note _) (ih p)
        | some e =>
            rw [fate_of_known silent found]
            refine (congrArg (Dialogue.bind · _) (ih p)).trans ?_
            exact recite_bind rfl

theorem add_outcome (p : CompletionPort) {fd : Descriptor} {interest : Interest} {token : Token} :
    Yields (p.add fd interest token n) fun t r =>
      Served p (.add fd interest token) t (.returned r.1) r.2 := by
  unfold add
  cases placed : p.registry.insert fd interest token with
  | error e =>
      rw [Sys.yields_pure]
      exact .duplicate placed
  | ok =>
      simp only [Sys.yields_bind, Sys.yields_ask]
      rintro (e | ⟨⟩)
      · dsimp only
        split
        · rename_i joined
          obtain ⟨rfl, known⟩ := joined
          simp only [Sys.yields_bind, Sys.yields_note, Sys.yields_pure]
          exact .reassociated placed known
        · rename_i other
          rw [Sys.yields_pure]
          exact .unassociated placed other
      · simp only [Sys.yields_bind, Sys.yields_note, Sys.yields_pure]
        exact .associated placed

theorem modify_outcome (p : CompletionPort) {fd : Descriptor} {interest : Interest} :
    Served p (.modify fd interest) [] (.returned (p.modify fd interest).1)
      (p.modify fd interest).2 := by
  unfold modify
  cases known : p.registry.keyOf? fd with
  | none => exact .unmodified known
  | some => exact .modified known

theorem remove_outcome (p : CompletionPort) {fd : Descriptor} :
    Yields (p.remove fd n) fun t r => Served p (.remove fd) t (.returned r.1) r.2 := by
  unfold remove
  cases taken : p.registry.remove fd with
  | error =>
      rw [Sys.yields_pure]
      exact .unremoved taken
  | ok =>
      simp only [Sys.yields_bind, Sys.yields_note, Sys.yields_pure]
      exact .removed taken

theorem poll_outcome (p : CompletionPort) {timeout : Timeout} :
    Yields (p.poll timeout n) fun t r => Served p (.poll timeout) t (.polled r.1) r.2 := by
  unfold poll
  simp only [Sys.yields_bind, Sys.yields_ask]
  rintro (e | packets)
  · rw [Sys.yields_pure]
    exact .unanswered
  · simp only [Sys.yields_bind, Sys.yields_pure, List.append_nil]
    rw [dispatch_eq, yields_recite]
    exact .answered

/-- Whatever packets a wait hands over, a poll can go like that. -/
theorem poll_follows (p : CompletionPort) (timeout : Timeout) (packets : List Packet) :
    Follows (p.poll timeout n)
      (.asked (.portWait p.signal.port p.batch (millis timeout)) (.ok packets) ::
        p.remarks packets)
      (.ok (.ready (p.events packets), { p with signal := p.signal.after packets })) := by
  refine .ask _ ?_
  change Follows ((p.dispatch packets n).bind _) _ _
  rw [dispatch_eq, ← List.append_nil (p.remarks packets)]
  exact (follows_recite _ _).bind (.done _)

theorem post_outcome (p : CompletionPort) {fd : Descriptor} {marker : Marker} {bytes : UInt32} :
    Yields (p.post fd marker bytes n) fun t result =>
      Served p (.post fd marker bytes) t (.returned result) p := by
  unfold post
  cases known : p.registry.keyOf? fd with
  | none =>
      rw [Sys.yields_pure]
      exact .unposted known
  | some =>
      simp only [Sys.yields_bind, Sys.yields_ask]
      rintro (e | ⟨⟩)
      · rw [Sys.yields_pure]
        exact .refused known
      · rw [Sys.yields_pure]
        exact .posted known

theorem serve_outcome (p : CompletionPort) (op : Operation) :
    Yields ((Backend.port p).serve op n) fun t r =>
      ∃ p', r.2 = .port p' ∧ Served p op t r.1 p' := by
  cases op with
  | add =>
      simp only [Backend.serve, Backend.add, Sys.yields_map]
      exact p.add_outcome.mono₂ fun _ _ p' outcome => ⟨p', rfl, outcome⟩
  | modify =>
      simp only [Backend.serve, Backend.modify, Sys.yields_map, Sys.yields_pure]
      exact ⟨_, rfl, p.modify_outcome⟩
  | remove =>
      simp only [Backend.serve, Backend.remove, Sys.yields_map]
      exact p.remove_outcome.mono₂ fun _ _ p' outcome => ⟨p', rfl, outcome⟩
  | poll =>
      simp only [Backend.serve, Backend.poll, Sys.yields_map]
      exact p.poll_outcome.mono₂ fun _ _ p' outcome => ⟨p', rfl, outcome⟩
  | post =>
      simp only [Backend.serve, Backend.post, Sys.yields_map]
      exact p.post_outcome.mono fun _ _ outcome => ⟨p, rfl, outcome⟩
  | wakeup =>
      simp only [Backend.serve, Backend.wakeup, Backend.channel, Channel.wake, PortSignal.wake,
        Sys.yields_map, Sys.yields_bind]
      cases flag : p.signal.notified with
      | true =>
          simp only [if_true, Sys.yields_pure]
          exact ⟨p, rfl, .coalesced flag⟩
      | false =>
          simp only [Bool.false_eq_true, if_false, Sys.yields_bind, Sys.yields_ask]
          rintro (e | ⟨⟩)
          · simp only [Sys.yields_pure]
            exact ⟨_, rfl, .unwoken flag⟩
          · simp only [Sys.yields_pure]
            exact ⟨_, rfl, .woken flag⟩

end CompletionPort

theorem Exchange.port_served (x : Exchange) {p : CompletionPort} (before : x.before = .port p) :
    ∃ p', x.after = .port p' ∧ p.Served x.operation x.transcript x.answer p' := by
  obtain ⟨_, follows⟩ := x.served
  rw [before] at follows
  exact p.serve_outcome x.operation follows

namespace Backend

variable {b : Backend} {p : CompletionPort}

theorem eq_port (h : b.facility = .port) : ∃ p, b = .port p := by
  cases b with
  | port p => exact ⟨p, rfl⟩
  | _ => cases h

/-- A completion port leaves every registration under its key. -/
theorem settled_of_port (h : b = .port p) : b.facility ≠ .ring := by
  rw [h]
  exact nofun

end Backend

end Multiplexer

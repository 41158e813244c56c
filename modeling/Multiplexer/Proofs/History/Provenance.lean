import Mathlib.Data.List.Perm.Subperm
import Multiplexer.Proofs.History.Associations
import Multiplexer.Proofs.History.Generations
import Multiplexer.Proofs.History.Rehearsal
import Multiplexer.Proofs.History.Rings

/-! Where events come from. The system hands over records under data it was once told; every event is
made of such records, and the data of each lead to the registration that the event names. -/
namespace Multiplexer

/-- Something that the system reports under the data it carries. -/
structure Delivery where
  data : UInt64
  occurrence : Occurrence
  deriving DecidableEq, Repr

def EpollRecord.delivery (r : EpollRecord) : Delivery := ⟨r.data, .readiness r.mask.epollReady⟩

def FilterRecord.delivery (r : FilterRecord) : Delivery := ⟨r.data, .readiness r.ready⟩

def Packet.delivery (p : Packet) : Delivery := ⟨p.key, .completion p.marker p.bytes⟩

def Ring.Completion.delivery (c : Ring.Completion) : Delivery :=
  ⟨c.data, .readiness
    (if c.result < 0 then { error := true } else PollMask.ringReady c.result.toUInt32)⟩

/-- What the reply to a wait hands over. A ring hands over completions, which stay in its queue until
they are taken. -/
def Step.deliveries : Step → List Delivery
  | .asked (.epollWait ..) (.ok records) => records.map EpollRecord.delivery
  | .asked (.kqueueWait ..) (.ok records) => records.map FilterRecord.delivery
  | .asked (.portWait ..) (.ok packets) => packets.map Packet.delivery
  | _ => []

/-- What a call was handed over to dispatch. -/
def Exchange.deliveries (x : Exchange) : List Delivery :=
  x.transcript.flatMap Step.deliveries ++ x.consumed.map Ring.Completion.delivery

/-- What deliveries report together. -/
inductive Reports : List Delivery → Occurrence → Prop
  | one (d : Delivery) : Reports [d] d.occurrence
  | more {ds : List Delivery} {d : Delivery} {a b : Interest} : Reports ds (.readiness a) →
      d.occurrence = .readiness b → Reports (ds ++ [d]) (.readiness (a ∪ b))

theorem Reports.ne_nil {ds : List Delivery} {o : Occurrence} (h : Reports ds o) : ds ≠ [] := by
  cases h with
  | one => exact List.cons_ne_nil _ _
  | more => exact List.append_ne_nil_of_right_ne_nil _ (List.cons_ne_nil _ _)

/-- The events are made of the deliveries, each used at most once, and only in an event that its data
stand for. -/
def Attributed (standsFor : UInt64 → Event → Prop) (ds : List Delivery) (events : List Event) :
    Prop :=
  ∃ groups : List (List Delivery), groups.flatten.Subperm ds ∧
    List.Forall₂ (fun group event =>
      Reports group event.occurrence ∧ ∀ d ∈ group, standsFor d.data event) groups events

namespace Attributed

variable {standsFor other : UInt64 → Event → Prop} {d : Delivery} {ds more : List Delivery}
  {event : Event} {events later : List Event}

theorem nil : Attributed standsFor ds [] := ⟨[], List.nil_subperm, .nil⟩

theorem weaken (h : Attributed standsFor ds events) (fewer : ds.Subperm more) :
    Attributed standsFor more events := by
  obtain ⟨groups, used, made⟩ := h
  exact ⟨groups, used.trans fewer, made⟩

theorem mono (h : Attributed standsFor ds events)
    (imp : ∀ data event, standsFor data event → other data event) : Attributed other ds events := by
  obtain ⟨groups, used, made⟩ := h
  exact ⟨groups, used, made.imp fun _ _ ⟨reports, all⟩ => ⟨reports, fun d hd => imp _ _ (all d hd)⟩⟩

theorem append (h : Attributed standsFor ds events) (h' : Attributed standsFor more later) :
    Attributed standsFor (ds ++ more) (events ++ later) := by
  obtain ⟨groups, used, made⟩ := h
  obtain ⟨groups', used', made'⟩ := h'
  exact ⟨groups ++ groups', by rw [List.flatten_append]; exact used.append used',
    List.rel_append made made'⟩

theorem one (same : event.occurrence = d.occurrence) (h : standsFor d.data event) :
    Attributed standsFor [d] [event] := by
  refine ⟨[[d]], List.Subperm.refl _, .cons ⟨?_, ?_⟩ .nil⟩
  · rw [same]
    exact .one d
  · intro d' hd'
    rw [List.mem_singleton.mp hd']
    exact h

end Attributed

/-- Under these data the registry keeps the registration that the event names. -/
def Registry.Knows (r : Registry) (data : UInt64) (event : Event) : Prop :=
  ∃ e, r.get? (.unpack data) = some e ∧ e.descriptor = event.descriptor ∧ e.token = event.token

theorem Registry.Reflagged.knows {r r' : Registry} (ref : r.Reflagged r') {data : UInt64}
    {event : Event} (h : r'.Knows data event) : r.Knows data event := by
  obtain ⟨e, opened, fd, token⟩ := h
  have same := ref.get?_map_bare (.unpack data)
  rw [opened, Option.map_some] at same
  obtain ⟨e', opened', bared⟩ := Option.map_eq_some_iff.mp same.symm
  have sameDescriptor := congrArg Registration.descriptor bared
  have sameToken := congrArg Registration.token bared
  exact ⟨e', opened', sameDescriptor.trans fd, sameToken.trans token⟩

variable {timeout : Timeout}

/-! ### Epoll -/

namespace Epoll

theorem event_attributed (p : Epoll) (record : EpollRecord) :
    Attributed p.registry.Knows [record.delivery] (p.event? record).toList := by
  by_cases reserved : record.data = wakeKey
  · rw [p.event?_of_wakeup reserved]
    exact .nil
  · rw [p.event?_of_key reserved]
    cases opened : p.registry.get? (.unpack record.data) with
    | none => exact .nil
    | some e => exact .one rfl ⟨e, opened, rfl, rfl⟩

theorem events_attributed (p : Epoll) (records : List EpollRecord) :
    Attributed p.registry.Knows (records.map EpollRecord.delivery) (p.events records) := by
  induction records with
  | nil => exact .nil
  | cons record rest ih =>
      rw [events_cons]
      exact (p.event_attributed record).append ih

theorem Served.attributed {p p' : Epoll} {op : Operation} {t : Transcript} {answer : Answer}
    (served : p.Served op t answer p') :
    Attributed p.registry.Knows (t.flatMap Step.deliveries) answer.events := by
  cases served with
  | unanswered => split <;> exact .nil
  | answered =>
      exact (p.events_attributed _).weaken (List.sublist_append_left _ _).subperm
  | _ => exact .nil

end Epoll

/-! ### Kqueue -/

namespace Kqueue

/-- The records that a gathered event is made of. -/
def Gathers (p : Kqueue) (group : List Delivery) (m : Merged) : Prop :=
  Reports group (.readiness m.ready) ∧ (∀ d ∈ group, d.data = m.data) ∧
    p.registry.Knows m.data m.event

theorem merge_gathers (p : Kqueue) {groups : List (List Delivery)} {merged : List Merged}
    (h : List.Forall₂ p.Gathers groups merged) {record : FilterRecord} {e : Registration}
    (opened : p.registry.get? (.unpack record.data) = some e) :
    ∃ groups', groups'.flatten.Perm (groups.flatten ++ [record.delivery]) ∧
      List.Forall₂ p.Gathers groups' (merge record.data e record.ready merged) := by
  induction h with
  | nil =>
      refine ⟨[[record.delivery]], List.Perm.refl _, .cons ⟨.one _, ?_, e, opened, rfl, rfl⟩ .nil⟩
      intro d hd
      rw [List.mem_singleton.mp hd]
      rfl
  | @cons group m groups merged gathers rest ih =>
      unfold merge
      split
      · rename_i same
        obtain ⟨reports, all, known⟩ := gathers
        refine ⟨(group ++ [record.delivery]) :: groups, ?_,
          .cons ⟨.more reports rfl, ?_, known⟩ rest⟩
        · simp only [List.flatten_cons, List.append_assoc]
          exact List.perm_append_comm.append_left group
        · intro d hd
          rcases List.mem_append.mp hd with hd | hd
          · exact all d hd
          · rw [List.mem_singleton.mp hd]
            exact same.symm
      · obtain ⟨groups', used, made⟩ := ih
        refine ⟨group :: groups', ?_, .cons gathers made⟩
        simp only [List.flatten_cons, List.append_assoc]
        exact used.append_left group

theorem gathered_gathers (p : Kqueue) {groups : List (List Delivery)} {merged : List Merged}
    (h : List.Forall₂ p.Gathers groups merged) (record : FilterRecord) :
    ∃ groups', groups'.flatten.Subperm (groups.flatten ++ [record.delivery]) ∧
      List.Forall₂ p.Gathers groups' (p.gathered merged record) := by
  have dropped : groups.flatten.Subperm (groups.flatten ++ [record.delivery]) :=
    (List.sublist_append_left _ _).subperm
  by_cases reserved : record.data = wakeKey
  · rw [gathered_of_wakeup reserved]
    exact ⟨groups, dropped, h⟩
  · cases opened : p.registry.get? (.unpack record.data) with
    | none =>
        rw [gathered_of_unknown reserved opened]
        exact ⟨groups, dropped, h⟩
    | some e =>
        rw [gathered_of_known reserved opened]
        obtain ⟨groups', used, made⟩ := p.merge_gathers h opened
        exact ⟨groups', used.subperm, made⟩

theorem events_attributed (p : Kqueue) (records : List FilterRecord) :
    Attributed p.registry.Knows (records.map FilterRecord.delivery) (p.events records) := by
  have folded : ∀ {groups merged}, List.Forall₂ p.Gathers groups merged →
      ∃ groups', groups'.flatten.Subperm (groups.flatten ++ records.map FilterRecord.delivery) ∧
        List.Forall₂ p.Gathers groups' (records.foldl p.gathered merged) := by
    induction records with
    | nil =>
        intro groups merged h
        refine ⟨groups, ?_, h⟩
        rw [List.map_nil, List.append_nil]
    | cons record rest ih =>
        intro groups merged h
        obtain ⟨groups', used, made⟩ := p.gathered_gathers h record
        obtain ⟨groups'', used', made'⟩ := ih made
        refine ⟨groups'', used'.trans ?_, made'⟩
        rw [List.map_cons, List.append_cons]
        exact used.append (List.Subperm.refl _)
  obtain ⟨groups, used, made⟩ := folded .nil
  refine ⟨groups, used, List.forall₂_map_right_iff.mpr (made.imp ?_)⟩
  rintro group m ⟨reports, all, known⟩
  exact ⟨reports, fun d hd => (all d hd) ▸ known⟩

theorem Answered.attributed {p : Kqueue} {t : Transcript} {polled : Polled}
    (answered : p.Answered timeout t polled) :
    Attributed p.registry.Knows (t.flatMap Step.deliveries) (Answer.polled polled).events := by
  cases answered with
  | refused => split <;> exact .nil
  | reported =>
      exact (p.events_attributed _).weaken (List.sublist_append_left _ _).subperm

end Kqueue

/-! ### Completion ports -/

namespace CompletionPort

/-- Directly or through an association, the data lead to the registration that the event names. -/
def Knows (p : CompletionPort) (data : UInt64) (event : Event) : Prop :=
  ∃ e, p.resolve? data = some e ∧ e.descriptor = event.descriptor ∧ e.token = event.token

theorem fate_attributed (p : CompletionPort) (packet : Packet) :
    Attributed p.Knows [packet.delivery] (p.fate packet).event?.toList := by
  cases wakes : packet.wakes with
  | true =>
      rw [fate_of_wakes wakes]
      exact .nil
  | false =>
      cases known : p.resolve? packet.key with
      | none =>
          rw [fate_of_unknown wakes known]
          exact .nil
      | some e =>
          rw [fate_of_known wakes known]
          exact .one rfl ⟨e, known, rfl, rfl⟩

theorem events_attributed (p : CompletionPort) (packets : List Packet) :
    Attributed p.Knows (packets.map Packet.delivery) (p.events packets) := by
  induction packets with
  | nil => exact .nil
  | cons packet rest ih =>
      rw [events_cons]
      exact (p.fate_attributed packet).append ih

theorem Served.attributed {p p' : CompletionPort} {op : Operation} {t : Transcript}
    {answer : Answer} (served : p.Served op t answer p') :
    Attributed p.Knows (t.flatMap Step.deliveries) answer.events := by
  cases served with
  | unanswered => split <;> exact .nil
  | answered =>
      exact (p.events_attributed _).weaken (List.sublist_append_left _ _).subperm
  | _ => exact .nil

end CompletionPort

/-! ### Rings -/

namespace Ring

variable {r r' : Ring} {t : Transcript} {log : Log}

theorem Taken.attributed {c : Completion} {events : List Event} (h : Taken r c t events r') :
    Attributed r.registry.Knows [c.delivery] events := by
  have unused : Attributed r.registry.Knows [c.delivery] [] :=
    Attributed.nil.weaken List.nil_subperm
  cases h with
  | wakeup => exact unused
  | timer => exact unused
  | withdrawal => exact unused
  | stale => exact unused
  | rejected => exact unused
  | cancelled => exact unused
  | @failed e _ opened _ _ failed =>
      refine .one ?_ ⟨e, opened, rfl, rfl⟩
      rw [Completion.delivery, if_pos failed]
  | @ready e _ opened ready =>
      refine .one ?_ ⟨e, opened, rfl, rfl⟩
      rw [Completion.delivery, if_neg ready]

theorem Move.attributed (h : Move r t log r') :
    Attributed r.registry.Knows (log.map (·.1.delivery)) log.events := by
  cases h with
  | take _ taken =>
      rw [Log.events, List.flatMap_singleton]
      exact taken.attributed
  | _ => exact .nil

/-- Events come from the completions taken, in their order. -/
theorem Moves.attributed (h : Moves r t log r') :
    Attributed r.registry.Knows (log.map (·.1.delivery)) log.events := by
  induction h with
  | rest => exact .nil
  | step before move ih =>
      rw [List.map_append, Log.events_append]
      exact ih.append (move.attributed.mono fun _ _ => before.reflagged.knows)

theorem Served.attributed {op : Operation} {answer : Answer} (h : r.Served op t answer r') :
    ∃ pushed consumed, Balanced r.queues t pushed consumed r'.queues ∧
      Attributed r.registry.Knows (consumed.map Completion.delivery) answer.events := by
  cases h with
  | add added =>
      obtain ⟨pushed, balanced⟩ := added.balanced
      exact ⟨pushed, [], balanced, .nil⟩
  | modify modified => exact ⟨[], [], modified.balanced, .nil⟩
  | remove removed => exact ⟨[], [], removed.balanced, .nil⟩
  | @poll _ _ log polled _ moves events =>
      obtain ⟨pushed, balanced⟩ := moves.balanced
      refine ⟨pushed, _, balanced, ?_⟩
      rw [List.map_map]
      change Attributed _ _ polled.events
      rw [events]
      exact moves.attributed
  | post silent => exact ⟨[], [], .aside silent, .nil⟩
  | wakeup silent => exact ⟨[], [], .aside silent, .nil⟩

end Ring

/-! ### Select -/

/-- The event names a descriptor that is registered, with its token. -/
def Registry.Lists (r : Registry) (event : Event) : Prop :=
  ∃ e, r.find? event.descriptor = some e ∧ e.token = event.token

namespace Select

theorem candidates_listed {r : Registry} (wf : r.WellFormed) {ready : Descriptor → Interest}
    {c : Candidate} (h : c ∈ candidates r ready) : r.Lists c.event := by
  obtain ⟨⟨⟨k, e⟩, position⟩, mem, found⟩ := List.mem_filterMap.mp h
  dsimp only at found
  split at found
  · cases found
  · cases found
    have listed : (k, e) ∈ r.entries := List.fst_mem_of_mem_zipIdx mem
    exact ⟨e, wf.find?_of_get? (wf.mem_entries.mp listed), rfl⟩

theorem mem_rotate {cursor : Nat} {cs : List Candidate} {c : Candidate} (h : c ∈ rotate cursor cs) :
    c ∈ cs := by
  rcases List.mem_append.mp h with h | h
  · exact (List.dropWhile_sublist _).mem h
  · exact (List.takeWhile_sublist _).mem h

theorem turn_listed {r : Registry} (wf : r.WellFormed) {ready : Descriptor → Interest}
    {batch cursor : Nat} {event : Event}
    (h : event ∈ (turn batch cursor (candidates r ready)).1) : r.Lists event := by
  obtain ⟨c, mem, rfl⟩ := List.mem_map.mp h
  exact candidates_listed wf (mem_rotate (List.mem_of_mem_take mem))

end Select

theorem BitmapSelect.Served.listed {p p' : BitmapSelect} {op : Operation} {t : Transcript}
    {answer : Answer} (served : p.Served op t answer p') (wf : p.registry.WellFormed) :
    ∀ event ∈ answer.events, p.registry.Lists event := by
  cases served with
  | unanswered => split <;> exact List.forall_mem_nil _
  | answered => exact fun _ mem => Select.turn_listed wf mem
  | _ => exact List.forall_mem_nil _

theorem SocketSelect.Served.listed {p p' : SocketSelect} {op : Operation} {t : Transcript}
    {answer : Answer} (served : p.Served op t answer p') (wf : p.registry.WellFormed) :
    ∀ event ∈ answer.events, p.registry.Lists event := by
  cases served with
  | unanswered => split <;> exact List.forall_mem_nil _
  | answered => exact fun _ mem => Select.turn_listed wf mem
  | _ => exact List.forall_mem_nil _

/-! ### All facilities -/

/-- The facility tells the system data to find registrations by. -/
def Facility.tellsData : Facility → Bool
  | epoll | kqueue | port | ring => true
  | bitmap | socket => false

namespace Backend

def Knows : Backend → UInt64 → Event → Prop
  | port p => p.Knows
  | b => b.registry.Knows

end Backend

theorem Effect.events_eq_nil {b : Backend} {t : Transcript} {op : Operation} {answer : Answer}
    {r : Registry} (h : Effect b t op answer r) (other : ∀ timeout, op ≠ .poll timeout) :
    answer.events = [] := by
  cases h with
  | polled => exact absurd rfl (other _)
  | _ => rfl

theorem Exchange.attributed (x : Exchange) (wf : x.before.registry.WellFormed)
    (tells : x.before.facility.tellsData = true) :
    Attributed x.before.Knows x.deliveries x.answer.events := by
  cases same : x.before with
  | epoll p =>
      obtain ⟨_, -, served⟩ := x.epoll_served same
      exact served.attributed.weaken (List.sublist_append_left _ _).subperm
  | kqueue p =>
      by_cases polls : ∃ timeout, x.operation = .poll timeout
      · obtain ⟨timeout, op⟩ := polls
        obtain ⟨polled, answer, answered⟩ := x.kqueue_polled same op
        rw [answer]
        exact answered.attributed.weaken (List.sublist_append_left _ _).subperm
      · rw [(x.effect wf).1.events_eq_nil fun timeout op => polls ⟨timeout, op⟩]
        exact .nil
  | port p =>
      obtain ⟨_, -, served⟩ := x.port_served same
      exact served.attributed.weaken (List.sublist_append_left _ _).subperm
  | ring r =>
      rw [same] at wf
      obtain ⟨r', after, served⟩ := x.ring_served same wf
      obtain ⟨pushed, consumed, balanced, attributed⟩ := served.attributed
      have taken : x.consumed = consumed := by
        have eq := balanced.consumed_eq
        rw [Exchange.consumed, same, after]
        exact eq
      rw [Exchange.deliveries, taken]
      exact attributed.weaken (List.sublist_append_right _ _).subperm
  | _ =>
      rw [same] at tells
      cases tells

theorem Attributed.exists_standsFor {standsFor : UInt64 → Event → Prop} {ds : List Delivery}
    {events : List Event} (h : Attributed standsFor ds events) {event : Event}
    (mem : event ∈ events) : ∃ data, standsFor data event := by
  obtain ⟨groups, _, made⟩ := h
  obtain ⟨i, bound, rfl⟩ := List.getElem_of_mem mem
  have paired := made.get (by rw [made.length_eq]; exact bound) bound
  obtain ⟨d, hd⟩ := List.exists_mem_of_ne_nil _ paired.1.ne_nil
  exact ⟨d.data, paired.2 d hd⟩

/-- A port finds a registration by its key, or by the association of its handle. -/
theorem CompletionPort.Knows.cases {p : CompletionPort} {data : UInt64} {event : Event}
    (wf : p.registry.WellFormed) (h : p.Knows data event) :
    p.registry.Knows data event ∨
      p.registry.Lists event ∧ (data, event.descriptor) ∈ p.associations := by
  obtain ⟨e, resolved, fd, token⟩ := h
  rcases Option.or_eq_some_iff.mp resolved with opened | ⟨_, found⟩
  · exact .inl ⟨e, opened, fd, token⟩
  · obtain ⟨handle, joined, found⟩ := Option.bind_eq_some_iff.mp found
    have same : handle = event.descriptor := (wf.descriptor_of_find? found).symm.trans fd
    subst same
    obtain ⟨front, back, table, -⟩ := List.lookup_eq_some_iff.mp joined
    refine .inr ⟨⟨e, found, token⟩, ?_⟩
    rw [table]
    exact List.mem_append_cons_self

theorem Registry.Knows.lists {r : Registry} {data : UInt64} {event : Event} (wf : r.WellFormed)
    (h : r.Knows data event) : r.Lists event := by
  obtain ⟨e, opened, fd, token⟩ := h
  exact ⟨e, fd ▸ wf.find?_of_get? opened, token⟩

theorem Backend.Knows.lists {b : Backend} {data : UInt64} {event : Event}
    (wf : b.registry.WellFormed) (h : b.Knows data event) : b.registry.Lists event := by
  cases b with
  | port p =>
      rcases CompletionPort.Knows.cases wf h with known | ⟨listed, _⟩
      · exact known.lists wf
      · exact listed
  | _ => exact Registry.Knows.lists wf h

/-- Every event names a descriptor registered at the time. -/
theorem Exchange.events_listed (x : Exchange) (wf : x.before.registry.WellFormed) :
    ∀ event ∈ x.answer.events, x.before.registry.Lists event := by
  intro event mem
  cases tells : x.before.facility.tellsData with
  | true =>
      obtain ⟨data, known⟩ := (x.attributed wf tells).exists_standsFor mem
      exact known.lists wf
  | false =>
      cases same : x.before with
      | bitmap p =>
          obtain ⟨_, -, served⟩ := x.bitmap_served same
          rw [same] at wf
          exact served.listed wf event mem
      | socket p =>
          obtain ⟨_, -, served⟩ := x.socket_served same
          rw [same] at wf
          exact served.listed wf event mem
      | _ =>
          rw [same] at tells
          cases tells

/-- The token of the descriptor's last addition that succeeded. -/
def lastToken (fd : Descriptor) (xs : List Exchange) : Option Token :=
  xs.foldl (fun last x => match x.operation, x.answer with
    | .add added _ token, .returned (.ok ()) => if added = fd then some token else last
    | _, _ => last) none

theorem lastToken_of_replay {fd : Descriptor} {xs : List Exchange} {v : Interest × Token}
    (h : Watchlist.empty.replay xs fd = some v) : lastToken fd xs = some v.2 := by
  induction xs using List.reverseRecOn generalizing v with
  | nil => cases h
  | append_singleton xs x ih =>
      rw [Watchlist.replay, List.foldl_append] at h
      rw [lastToken, List.foldl_append]
      change Watchlist.after (Watchlist.empty.replay xs) x.operation x.answer fd = some v at h
      dsimp only [List.foldl_cons, List.foldl_nil]
      generalize x.operation = op, x.answer = answer at h ⊢
      rcases answer with (e | ⟨⟩) | polled
      · cases op <;> exact ih h
      · cases op with
        | add added interest token =>
            change Function.update (Watchlist.empty.replay xs) added (some (interest, token)) fd =
              some v at h
            change (if added = fd then some token else lastToken fd xs) = some v.2
            by_cases same : added = fd
            · rw [same, Function.update_self] at h
              cases h
              exact if_pos same
            · rw [Function.update_of_ne (Ne.symm same)] at h
              rw [if_neg same]
              exact ih h
        | modify modified interest =>
            change Function.update (Watchlist.empty.replay xs) modified
              ((Watchlist.empty.replay xs modified).map _) fd = some v at h
            by_cases same : modified = fd
            · rw [same, Function.update_self] at h
              obtain ⟨v', before, rfl⟩ := Option.map_eq_some_iff.mp h
              have known : lastToken fd xs = some v'.2 := ih before
              exact known
            · rw [Function.update_of_ne (Ne.symm same)] at h
              exact ih h
        | remove removed =>
            change Function.update (Watchlist.empty.replay xs) removed none fd = some v at h
            by_cases same : removed = fd
            · rw [same, Function.update_self] at h
              cases h
            · rw [Function.update_of_ne (Ne.symm same)] at h
              exact ih h
        | _ => exact ih h
      · cases op <;> exact ih h

/-- Every event names a descriptor that is registered at the time, with the token of its last
addition. Where the system reports by data it was told, and until the generations of some slot
repeat, each event is made of what was handed over under the current key of its descriptor, and never
under data issued for a registration that has ended; a port also takes the key of the descriptor's
last association. -/
theorem History.events_of_current_registrations (h : History) {es fs : List Exchange} {x : Exchange}
    (split : h.exchanges = es ++ x :: fs) :
    (∀ event ∈ x.answer.events, x.before.registry.Lists event ∧
      lastToken event.descriptor es = some event.token) ∧
    (x.before.facility.tellsData = true → (∀ i, turns i es < generations) →
      Attributed (fun data event =>
        (x.before.registry.keyOf? event.descriptor = some (.unpack data) ∧
          ∀ y ∈ es, ¬ y.Retires data) ∨
        (x.before.facility = .port ∧
          Transcript.lastAssociation (es.flatMap (·.transcript)) event.descriptor = some data))
        x.deliveries x.answer.events) := by
  have wf : x.before.registry.WellFormed := (h.upTo split).sound.wellFormed
  have current : ∀ {data event}, (∀ i, turns i es < generations) →
      x.before.registry.Knows data event →
      x.before.registry.keyOf? event.descriptor = some (.unpack data) ∧
        ∀ y ∈ es, ¬ y.Retires data := by
    rintro data event few ⟨e, opened, fd, -⟩
    refine ⟨fd ▸ wf.keyOf?_of_get? opened, fun y mem retires => ?_⟩
    have void := (h.upTo split).get?_eq_none_of_retires few mem retires
    cases void.symm.trans opened
  constructor
  · intro event mem
    have listed := x.events_listed wf event mem
    refine ⟨listed, ?_⟩
    obtain ⟨e, found, token⟩ := listed
    have asked : x.before.registry.asked = Watchlist.empty.replay es := (h.upTo split).asked_eq
    have replayed : Watchlist.empty.replay es event.descriptor = some (e.interest, e.token) := by
      rw [← asked, Registry.asked, found, Option.map_some]
    rw [lastToken_of_replay replayed, token]
  · intro tells few
    refine (x.attributed wf tells).mono fun data event known => ?_
    cases same : x.before with
    | port p =>
        rw [same] at known wf current
        rcases CompletionPort.Knows.cases wf known with direct | ⟨_, joined⟩
        · exact .inl (current few direct)
        · rw [(h.upTo split).associations_eq same] at joined
          exact .inr ⟨rfl, Transcript.lastAssociation_of_mem joined⟩
    | _ =>
        rw [same] at known current
        exact .inl (current few known)

/-- A descriptor is removed and its slot goes to another one; then the system reports both, the first
under its old data. -/
def reusedSlot : Option History := do
  let reported : List EpollRecord := [⟨.input, 0⟩, ⟨.input, 0x100000000⟩]
  let waited := Script.empty.put .epollWait [some (.ok reported)]
  let h ← History.rehearseOpening Epoll.create .epoll .epoll {} .initial
  h.rehearse [(.add 5 { read := true } 1, .initial), (.remove 5, .initial),
    (.add 6 { read := true } 2, .initial),
    (.poll none, { Script.Stage.initial with script := waited })]

theorem late_record_dropped :
    ∃ (h : History) (es : List Exchange) (x : Exchange), h.exchanges = es ++ [x] ∧
      x.deliveries.map (·.data) = [0, 0x100000000] ∧
      x.answer.events = [⟨6, 2, .readiness { read := true }⟩] ∧
      Attributed (fun data event =>
        (x.before.registry.keyOf? event.descriptor = some (.unpack data) ∧
          ∀ y ∈ es, ¬ y.Retires data) ∨
        (x.before.facility = .port ∧
          Transcript.lastAssociation (es.flatMap (·.transcript)) event.descriptor = some data))
        x.deliveries x.answer.events := by
  have computed : (reusedSlot.map fun h => h.exchanges.map fun x =>
      (x.before.facility, x.deliveries.map (·.data), x.answer.events)) =
      some ([(.epoll, [], []), (.epoll, [], []), (.epoll, [], [])] ++
        [(.epoll, [0, 0x100000000], [⟨6, 2, .readiness { read := true }⟩])]) := by decide +kernel
  obtain ⟨h, -, shown⟩ := Option.map_eq_some_iff.mp computed
  obtain ⟨es, last, split, earlier, later⟩ := List.map_eq_append_iff.mp shown
  obtain ⟨x, rfl, facts⟩ := List.map_eq_singleton_iff.mp later
  obtain ⟨epoll, data, events⟩ : _ ∧ _ ∧ _ := by simpa only [Prod.mk.injEq] using facts
  refine ⟨h, es, x, split, data, events,
    (History.events_of_current_registrations h split).2 (by rw [epoll]; rfl) fun i => ?_⟩
  have few : es.length = 3 := by
    rw [← List.length_map, earlier]
    rfl
  exact (List.countP_le_length.trans_eq few).trans_lt (by decide)

end Multiplexer

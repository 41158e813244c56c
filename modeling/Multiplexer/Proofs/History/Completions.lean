import Multiplexer.Proofs.History.Routing

/-! What becomes of a completion that was posted to a port. It carries the key that its descriptor
had then, and meets the registry as it is when the packet is taken out of the queue, however late
that is and whatever else was queued. -/
namespace Multiplexer

section

variable {b c : Backend} {xs : List Exchange} {k : Key} {fd : Descriptor} {token : Token}

theorem Run.issued (run : Run b xs c) (sound : b.Sound) (settled : b.facility ≠ .ring)
    (few : (b.registry.generation k.index).toNat + turns k.index xs < generations)
    (issued : b.registry.Issued k fd) : c.registry.Issued k fd := by
  induction run with
  | start => exact issued
  | @step xs x before ih =>
      rw [turns_append] at few
      have now : (x.before.registry.generation k.index).toNat =
          (b.registry.generation k.index).toNat + turns k.index xs :=
        before.toNat_generation sound (by omega)
      have still : x.before.facility ≠ .ring := (before.facility_eq sound).trans_ne settled
      exact x.issued (before.sound sound) still (by omega) (ih (by omega))

/-- Once its descriptor is removed, a key is retired. -/
theorem Run.retired (run : Run b xs c) (sound : b.Sound) (settled : b.facility ≠ .ring)
    (removed : ∃ x ∈ xs, x.Removes fd) (holds : b.registry.Holds k fd token) :
    ∃ x ∈ xs, x.Retires k.pack := by
  induction xs generalizing b with
  | nil =>
      obtain ⟨_, mem, _⟩ := removed
      cases mem
  | cons x xs ih =>
      obtain ⟨rfl, rest⟩ := Run.cons_iff.mp run
      by_cases here : x.Removes fd
      · exact ⟨x, List.mem_cons_self, here.retires (holds.keyOf? sound.wellFormed)⟩
      · have later : ∃ y ∈ xs, y.Removes fd := by
          obtain ⟨y, mem, removes⟩ := removed
          rcases List.mem_cons.mp mem with rfl | mem
          · exact absurd removes here
          · exact ⟨y, mem, removes⟩
        have kept := (x.holds sound settled holds).resolve_left here
        have still : x.after.facility ≠ .ring := (x.effect sound.wellFormed).2.trans_ne settled
        obtain ⟨y, mem, retires⟩ := ih rest (x.sound_after sound) still later kept
        exact ⟨y, List.mem_cons_of_mem x mem, retires⟩

/-- Once a key was issued, no other handle joins under it. -/
theorem Run.lastAssociation_of_issued (run : Run b xs c) (sound : b.Sound)
    (settled : b.facility ≠ .ring) {p : CompletionPort} (port : c = .port p)
    (few : (b.registry.generation k.index).toNat + turns k.index xs < generations)
    (issued : b.registry.Issued k fd) {past : Transcript} {fd' : Descriptor}
    (known : (past ++ xs.flatMap (·.transcript)).lastAssociation fd' = some k.pack) :
    past.lastAssociation fd' = some k.pack := by
  induction run generalizing p with
  | start => rwa [List.flatMap_nil, List.append_nil] at known
  | @step xs x before ih =>
      rw [turns_append] at few
      have earlierSound := before.sound sound
      obtain ⟨q, same, outcome⟩ := x.port_outcome earlierSound.wellFormed port
      have earlier := ih same (by omega)
      rw [List.flatMap_append, List.flatMap_singleton, ← List.append_assoc] at known
      rcases outcome.joins with ⟨quiet, -⟩ | ⟨_, _, _, k', placed, -, last⟩
      · rw [quiet.lastAssociation_append] at known
        exact earlier known
      · rw [last] at known
        split at known
        · have again : x.before.registry.Issued k fd :=
            before.issued sound settled (by omega) issued
          rw [same] at again
          cases Key.pack_injective (Option.some.inj known)
          have wf := earlierSound.port_wellFormed same
          exact absurd again (wf.insert_inserted placed).not_issued
        · exact earlier known

end

/-! ### Keys of a past state -/

section

variable {h : History} {es ys : List Exchange} {y : Exchange} {p q : CompletionPort} {k : Key}
  {fd : Descriptor} {token : Token}

/-- A completion port stays one. -/
theorem History.port_at (split : h.exchanges = es ++ y :: ys) (port : h.start.facility = .port) :
    ∃ p, y.before = .port p :=
  Backend.eq_port (((h.upTo split).run.facility_eq h.opened.sound).trans port)

theorem History.few_from (split : h.exchanges = es ++ y :: ys)
    (few : ∀ i, turns i h.exchanges < generations) (i : UInt32) :
    (y.before.registry.generation i).toNat + turns i (y :: ys) < generations := by
  have bound := few i
  rw [split] at bound
  have now : (y.before.registry.generation i).toNat = turns i es :=
    (h.upTo split).toNat_generation ((turns_le_append i es (y :: ys)).trans_lt bound)
  rwa [now, ← turns_append]

/-- A key that a removed registration had opens nothing any more. -/
theorem History.get?_of_removed (split : h.exchanges = es ++ y :: ys)
    (few : ∀ i, turns i h.exchanges < generations) (settled : y.before.facility ≠ .ring)
    (holds : y.before.registry.Holds k fd token) (removed : ∃ z ∈ y :: ys, z.Removes fd) :
    h.finish.registry.get? k = none := by
  obtain ⟨z, mem, retires⟩ :=
    (h.run_from split).retired (h.upTo split).sound settled removed holds
  have void := h.get?_eq_none_of_retires few (split ▸ List.mem_append_right es mem) retires
  rwa [Key.unpack_pack] at void

/-- Nobody but the descriptor that has a key can ever have joined a port under it. -/
theorem History.joined_by_holder (split : h.exchanges = es ++ y :: ys)
    (few : ∀ i, turns i h.exchanges < generations) (before : y.before = .port q)
    (finish : h.finish = .port p) (holds : q.registry.Holds k fd token) {fd' : Descriptor}
    (known : h.lastAssociation fd' = some k.pack) : fd' = fd := by
  have issued : y.before.registry.Issued k fd := by
    rw [before]
    exact .inl ⟨token, holds⟩
  have fewer : ∀ i, turns i es < generations := fun i =>
    (turns_le_append i es (y :: ys)).trans_lt (split ▸ few i)
  rw [History.lastAssociation, split, List.flatMap_append] at known
  have early : (h.upTo split).lastAssociation fd' = some k.pack :=
    (h.run_from split).lastAssociation_of_issued (h.upTo split).sound
      (Backend.settled_of_port before) finish (History.few_from split few k.index) issued known
  have other := ((h.upTo split).routed before fewer).issued early
  rw [Key.unpack_pack] at other
  obtain ⟨e, opened, rfl, -⟩ := holds
  exact (other.descriptor_eq opened).symm

end

/-! ### The fate of a posted completion -/

namespace CompletionPort

variable {p p' : CompletionPort} {last : Descriptor → Option UInt64} {t : Transcript}
  {answer : Answer} {k : Key} {fd : Descriptor} {token : Token} {marker : Marker} {bytes : UInt32}
  {timeout : Timeout}

/-- A completion is queued under the key that the descriptor has at the time. -/
theorem Served.accepted_eq (h : p.Served (.post fd marker bytes) t (.returned (.ok ())) p')
    (wf : p.registry.WellFormed) :
    ∃ k token, p.registry.Holds k fd token ∧ t.accepted = [⟨k.pack, marker, bytes⟩] := by
  cases h with
  | posted known =>
      obtain ⟨e, opened, named⟩ := wf.keyOf?_eq_some_iff.mp known
      exact ⟨_, e.token, ⟨e, opened, named, rfl⟩, rfl⟩

/-- A poll deals with what its wait handed over, packet by packet. -/
theorem Served.received_eq (h : p.Served (.poll timeout) t answer p') :
    answer.events = p.events t.received ∧ t.tail = p.remarks t.received := by
  cases h with
  | unanswered =>
      refine ⟨?_, rfl⟩
      split <;> rfl
  | answered =>
      rw [received_answer]
      exact ⟨rfl, rfl⟩

theorem fate_of_holds (holds : p.registry.Holds k fd token)
    (silent : Packet.wakes ⟨k.pack, marker, bytes⟩ = false) :
    p.fate ⟨k.pack, marker, bytes⟩ = .dispatched ⟨fd, token, .completion marker bytes⟩ := by
  obtain ⟨e, opened, rfl, rfl⟩ := holds
  exact fate_of_known silent (resolve?_of_get? (by rw [Key.unpack_pack, opened]))

/-- What is left to a void key is the association under it. -/
theorem Routed.fate_of_void (routed : p.Routed last) (wf : p.registry.WellFormed)
    (void : p.registry.get? k = none) (alone : ∀ fd', last fd' = some k.pack → fd' = fd)
    (silent : Packet.wakes ⟨k.pack, marker, bytes⟩ = false) :
    p.fate ⟨k.pack, marker, bytes⟩ =
      if last fd = some k.pack then
        (p.registry.find? fd).elim (.stale k.pack) fun e =>
          .dispatched ⟨fd, e.token, .completion marker bytes⟩
      else .stale k.pack := by
  rw [← Key.unpack_pack k] at void
  split
  · rename_i joined
    have resolved := routed.resolve?_of_last joined void
    cases found : p.registry.find? fd with
    | none => exact fate_of_unknown silent (resolved.trans found)
    | some e =>
        rw [Option.elim_some, ← wf.descriptor_of_find? found]
        exact fate_of_known silent (resolved.trans found)
  · rename_i left
    refine fate_of_unknown silent (routed.resolve?_of_not_last (fun fd' joined => ?_) void)
    exact left (alone fd' joined ▸ joined)

end CompletionPort

/-- What becomes of a posted completion when a wait hands it over: it is dispatched to the
registration it was posted under as long as that is in place; after its removal it is stale, unless
the descriptor is registered again and the key in the packet is still that of its last association,
by which it goes to the new registration. -/
theorem History.fate_of_posted (h : History) {es fs gs : List Exchange} {y x : Exchange}
    {fd : Descriptor} {marker : Marker} {bytes : UInt32} {timeout : Timeout}
    (split : h.exchanges = es ++ y :: (fs ++ x :: gs)) (port : h.start.facility = .port)
    (posts : y.operation = .post fd marker bytes) (accepted : y.answer = .returned (.ok ()))
    (polls : x.operation = .poll timeout) (few : ∀ i, turns i (es ++ y :: fs) < generations) :
    ∃ (q p : CompletionPort) (k : Key) (token : Token), y.before = .port q ∧ x.before = .port p ∧
      q.registry.Holds k fd token ∧ y.transcript.accepted = [⟨k.pack, marker, bytes⟩] ∧
      x.answer.events = p.events x.transcript.received ∧
      x.transcript.tail = p.remarks x.transcript.received ∧
      (Packet.wakes ⟨k.pack, marker, bytes⟩ = false →
        ((∀ z ∈ fs, ¬ z.Removes fd) → p.registry.Holds k fd token ∧
          p.fate ⟨k.pack, marker, bytes⟩ = .dispatched ⟨fd, token, .completion marker bytes⟩) ∧
        ((∃ z ∈ fs, z.Removes fd) → p.fate ⟨k.pack, marker, bytes⟩ =
          if Transcript.lastAssociation ((es ++ y :: fs).flatMap (·.transcript)) fd =
              some k.pack then
            (p.registry.find? fd).elim (.stale k.pack) fun e =>
              .dispatched ⟨fd, e.token, .completion marker bytes⟩
          else .stale k.pack)) := by
  have whole : h.exchanges = (es ++ y :: fs) ++ x :: gs := by
    rw [split, List.append_assoc, List.cons_append]
  obtain ⟨q, before⟩ := History.port_at split port
  obtain ⟨p, meets⟩ := History.port_at whole port
  have sound : y.before.Sound := (h.upTo split).sound
  have settled := Backend.settled_of_port before
  obtain ⟨_, _, posted⟩ := y.port_served before
  rw [posts, accepted] at posted
  obtain ⟨k, token, holds, queued⟩ := posted.accepted_eq (sound.port_wellFormed before)
  obtain ⟨_, _, polled⟩ := x.port_served meets
  rw [polls] at polled
  obtain ⟨events, remarks⟩ := polled.received_eq
  have held : y.before.registry.Holds k fd token := by
    rw [before]
    exact holds
  -- From here on the history up to the poll is what counts.
  have same : (h.upTo whole).exchanges = es ++ y :: fs := rfl
  refine ⟨q, p, k, token, before, meets, holds, queued, events, remarks, fun silent =>
    ⟨fun unremoved => ?_, fun removed => ?_⟩⟩
  · have unremoved' : ∀ z ∈ y :: fs, ¬ z.Removes fd := by
      refine List.forall_mem_cons.mpr ⟨fun removes => ?_, unremoved⟩
      cases posts.symm.trans removes.1
    have kept : x.before.registry.Holds k fd token :=
      ((h.upTo whole).run_from same).holds sound settled unremoved' held
    rw [meets] at kept
    exact ⟨kept, CompletionPort.fate_of_holds kept silent⟩
  · obtain ⟨z, mem, removes⟩ := removed
    have void : x.before.registry.get? k = none :=
      History.get?_of_removed same few settled held ⟨z, List.mem_cons_of_mem y mem, removes⟩
    have wf := Backend.Sound.port_wellFormed (h.upTo whole).sound meets
    rw [meets] at void
    have routed := (h.upTo whole).routed meets few
    exact routed.fate_of_void wf void
      (fun _ => History.joined_by_holder same few before meets holds) silent

/-- A completion is posted, its descriptor is removed and added again, and then the packet arrives.
The second addition is answered as this script says. -/
def returnedHandle (again : Script.Stage) : Option History := do
  let h ← History.rehearseOpening CompletionPort.create .port .port {} .initial
  h.rehearse [(.add 5 { read := true } 1, .initial), (.post 5 1 1, .initial),
    (.remove 5, .initial), (.add 5 { read := true } 2, again),
    (.poll none, { Script.Stage.initial with packets := [⟨0, 1, 1⟩] })]

/-- The handle joins anew, so the key in the packet leads nowhere. -/
theorem removed_completion_dropped :
    ∃ (h : History) (es fs gs : List Exchange) (y x : Exchange) (p : CompletionPort),
      h.exchanges = es ++ y :: (fs ++ x :: gs) ∧ h.start.facility = .port ∧
      y.operation = .post 5 1 1 ∧ y.answer = .returned (.ok ()) ∧ x.operation = .poll none ∧
      (∀ i, turns i (es ++ y :: fs) < generations) ∧ (∃ z ∈ fs, z.Removes 5) ∧
      y.transcript.accepted = [⟨0, 1, 1⟩] ∧ x.before = .port p ∧
      x.answer.events = p.events x.transcript.received ∧ p.fate ⟨0, 1, 1⟩ = .stale 0 := by
  have computed : ∃ h ∈ returnedHandle .initial, h.start.facility = .port ∧
      h.exchanges.length = 5 ∧
      (∃ z ∈ (h.exchanges.drop 2).take 2, z.Removes 5) ∧
      ∃ y ∈ h.exchanges[1]?, y.operation = .post 5 1 1 ∧ y.answer = .returned (.ok ()) ∧
        y.transcript.accepted = [⟨0, 1, 1⟩] ∧
        Transcript.lastAssociation ((h.exchanges.take 1 ++ y ::
          (h.exchanges.drop 2).take 2).flatMap (·.transcript)) 5 = some 0x100000000 ∧
      ∃ x ∈ h.exchanges[4]?, x.operation = .poll none := by
    decide +kernel
  obtain ⟨h, -, port, five, removed, y, second, posts, accepted, queued, last, x, fifth, polls⟩ :=
    computed
  obtain ⟨inside, rfl⟩ := List.getElem?_eq_some_iff.mp second
  obtain ⟨inside', rfl⟩ := List.getElem?_eq_some_iff.mp fifth
  have split : h.exchanges = h.exchanges.take 1 ++ h.exchanges[1] ::
      ((h.exchanges.drop 2).take 2 ++ h.exchanges[4] :: h.exchanges.drop 5) := by
    have back := List.take_append_drop 2 (h.exchanges.drop 2)
    rw [List.drop_drop, List.drop_eq_getElem_cons inside'] at back
    rw [back, ← List.drop_eq_getElem_cons inside, List.take_append_drop]
  have few : ∀ i, turns i (h.exchanges.take 1 ++ h.exchanges[1] ::
      (h.exchanges.drop 2).take 2) < generations := by
    intro i
    refine List.countP_le_length.trans_lt ?_
    simp only [List.length_append, List.length_cons, List.length_take, List.length_drop, five]
    decide
  obtain ⟨q, p, k, token, -, before, -, same, events, -, fate⟩ :=
    h.fate_of_posted split port posts accepted polls few
  have key : k.pack = 0 := by
    rw [queued] at same
    injection same with same
    injection same with same
    exact same.symm
  rw [key, last] at fate
  obtain ⟨-, stale⟩ := fate rfl
  exact ⟨h, _, _, _, _, _, p, split, port, posts, accepted, polls, few, removed, queued, before,
    events, (stale removed).trans (if_neg (by decide))⟩

/-- The system says that the handle has joined already, so the packet still leads to it, and the
completion is reported with the token of a registration that came after it. -/
theorem late_completion_redirected :
    ∃ h ∈ returnedHandle joinedAlready, h.transcript.accepted = [⟨0, 1, 1⟩] ∧
      h.transcript.received = [⟨0, 1, 1⟩] ∧
      (∃ y ∈ h.exchanges[1]?, y.operation = .post 5 1 1 ∧ y.answer = .returned (.ok ()) ∧
        (y.before.registry.find? 5).map (·.token) = some 1) ∧
      (∃ z ∈ h.exchanges[2]?, z.Removes 5) ∧
      ∃ x ∈ h.exchanges[4]?, x.operation = .poll none ∧
        x.answer.events = [⟨5, 2, .completion 1 1⟩] := by
  decide +kernel

end Multiplexer

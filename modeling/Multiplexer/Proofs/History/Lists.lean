import Multiplexer.Proofs.History.Blocking

/-! The lists of a select over sockets. They are built anew for every wait by putting in one
registration after the other, and a list that is full drops what is put in; as long as there are no
more registrations than there is room for beside the wakeup socket, none is ever full. -/
namespace Multiplexer
open Dialogue

/-! ### One wait -/

/-- The sockets of the registrations that ask for a condition, in their order. -/
def Select.asking (entries : List (Key × Registration)) (c : Condition) : List Descriptor :=
  (entries.filter fun (_, e) => e.interest.asks c).map fun (_, e) => e.descriptor

theorem Select.asking_append {earlier later : List (Key × Registration)} {c : Condition} :
    asking (earlier ++ later) c = asking earlier c ++ asking later c := by
  simp only [asking, List.filter_append, List.map_append]

/-- No registration asks twice. -/
theorem Select.length_asking_le (entries : List (Key × Registration)) (c : Condition) :
    (asking entries c).length ≤ entries.length := by
  rw [asking, List.length_map]
  exact List.length_filter_le _ _

/-- Asking are those registered with an interest in the condition, slot by slot. -/
theorem Registry.WellFormed.asking_listed {r : Registry} (wf : r.WellFormed) (c : Condition) :
    (∀ {fd}, fd ∈ Select.asking r.entries c ↔
      ∃ e, r.find? fd = some e ∧ e.interest.asks c = true) ∧
    (Select.asking r.entries c).Pairwise fun a b => ∃ j k, r.keyOf? a = some j ∧
      r.keyOf? b = some k ∧ j.index.toNat < k.index.toNat := by
  constructor
  · intro fd
    simp only [Select.asking, List.mem_map, List.mem_filter, Prod.exists, wf.mem_entries,
      wf.find?_eq_some_iff]
    constructor
    · rintro ⟨k, e, ⟨opened, asks⟩, rfl⟩
      exact ⟨e, ⟨k, opened, rfl⟩, asks⟩
    · rintro ⟨e, ⟨k, opened, rfl⟩, asks⟩
      exact ⟨k, e, ⟨opened, asks⟩, rfl⟩
  · rw [Select.asking, List.pairwise_map]
    apply (wf.entries_ordered.filter _).imp_of_mem
    intro a b first second below
    have opened := wf.mem_entries.mp (List.mem_of_mem_filter first)
    have opened' := wf.mem_entries.mp (List.mem_of_mem_filter second)
    exact ⟨a.1, b.1, wf.keyOf?_of_get? opened, wf.keyOf?_of_get? opened', below⟩

/-- While there is room a socket goes to the end of the lists of its interest. -/
theorem SocketSets.of_watch {s : SocketSets} {fd : Descriptor} {interest : Interest} {c : Condition}
    (room : (s.of c).length < socketSetCapacity) :
    (s.watch fd interest).of c = s.of c ++ if interest.asks c then [fd] else [] := by
  have placed : ∀ {held : Bool} {sockets : List Descriptor},
      sockets.length < socketSetCapacity →
      (if held then put sockets fd else sockets) = sockets ++ if held then [fd] else [] := by
    intro held sockets room
    cases held with
    | true => exact if_pos room
    | false => exact (List.append_nil sockets).symm
  cases c with
  | read => exact placed room
  | write => exact placed room
  | error => exact placed room

namespace SocketSelect

variable {p p' : SocketSelect} {timeout : Timeout} {n : Nat} {op : Operation} {t : Transcript}
  {answer : Answer}

def unasked (p : SocketSelect) : SocketSets := ⟨[p.wakeup.reader], [], []⟩

/-- The lists when these registrations have been put in. -/
def gathered (p : SocketSelect) (entries : List (Key × Registration)) : SocketSets :=
  entries.foldl (fun s (_, entry) => s.watch entry.descriptor entry.interest) p.unasked

theorem length_unasked_le (p : SocketSelect) (c : Condition) : (p.unasked.of c).length ≤ 1 := by
  cases c <;> simp [unasked, SocketSets.of]

/-- Up to one registration less than a list has room for, nothing is dropped. -/
theorem of_gathered {entries : List (Key × Registration)}
    (few : entries.length < socketSetCapacity) (c : Condition) :
    (p.gathered entries).of c = p.unasked.of c ++ Select.asking entries c := by
  induction entries using List.reverseRecOn with
  | nil => exact (List.append_nil _).symm
  | append_singleton entries entry ih =>
      rw [List.length_append, List.length_singleton] at few
      have before := ih (Nat.lt_of_succ_lt few)
      have room : ((p.gathered entries).of c).length < socketSetCapacity := by
        have own := p.length_unasked_le c
        have most := Select.length_asking_le entries c
        rw [before, List.length_append]
        omega
      have next : p.gathered (entries ++ [entry]) =
          (p.gathered entries).watch entry.2.descriptor entry.2.interest := by
        simp only [gathered, List.foldl_append, List.foldl_cons, List.foldl_nil]
      have last : Select.asking [entry] c =
          if entry.2.interest.asks c then [entry.2.descriptor] else [] := by
        cases asks : entry.2.interest.asks c <;> simp [Select.asking, asks]
      rw [next, SocketSets.of_watch room, before, Select.asking_append, last, List.append_assoc]

/-- So the next registration finds room in every list. -/
theorem gathered_has_room {earlier later : List (Key × Registration)} {entry : Key × Registration}
    (few : (earlier ++ entry :: later).length < socketSetCapacity) (c : Condition) :
    ((p.gathered earlier).of c).length < socketSetCapacity := by
  rw [List.length_append, List.length_cons] at few
  have own := p.length_unasked_le c
  have most := Select.length_asking_le earlier c
  rw [of_gathered (by omega), List.length_append]
  omega

/-- What a wait should be given: the wakeup socket and all registered ones. -/
def wanted (p : SocketSelect) : SocketSets where
  read := p.wakeup.reader :: Select.asking p.registry.entries .read
  write := Select.asking p.registry.entries .write
  error := Select.asking p.registry.entries .error

theorem watched_eq_wanted (few : p.registry.entries.length < socketSetCapacity) :
    p.watched = p.wanted := by
  have same := of_gathered (p := p) few
  change p.gathered p.registry.entries = _
  cases gathered : p.gathered p.registry.entries with
  | mk read write error =>
      rw [gathered] at same
      exact (SocketSets.mk.injEq ..).mpr ⟨same .read, same .write, same .error⟩

/-- A poll waits first and once, also if it is stopped before it can answer. -/
theorem poll_waits_once (p : SocketSelect) : Meets (p.poll timeout n) fun t _ =>
    ∃ reply rest, t = .asked (p.wait timeout) reply :: rest ∧ Transcript.Still rest := by
  refine meets_ask_first ?_
  rintro (e | selected)
  · exact meets_done.mpr Transcript.still_nil
  · dsimp only [Dialogue.bind]
    split
    · exact meets_done.mpr Transcript.still_nil
    · split
      · exact still_then p.wakeup.drain_still fun _ => meets_done.mpr Transcript.still_nil
      · exact meets_done.mpr Transcript.still_nil

/-- An addition is refused before the last place beside the wakeup socket is taken. -/
theorem add_keeps_room {fd : Descriptor} {interest : Interest} {token : Token}
    (wf : p.registry.WellFormed) (room : p.registry.size < socketSetCapacity) :
    Yields (p.add fd interest token n) fun _ r => r.2.registry.size < socketSetCapacity := by
  unfold add
  split
  · exact Sys.yields_pure.mpr room
  · rename_i unfilled
    simp only [Sys.yields_bind, Sys.yields_ask]
    rintro (e | ⟨⟩)
    · exact Sys.yields_pure.mpr room
    · dsimp only
      cases placed : p.registry.insert fd interest token with
      | error e => exact Sys.yields_pure.mpr room
      | ok result =>
          simp only [Sys.yields_bind, Sys.yields_note, Sys.yields_pure]
          have absent := (wf.insert_inserted placed).absent
          have size : result.2.size = p.registry.size + 1 := by
            rw [Registry.size, (wf.insert_inserted placed).index, Registry.size_insert_index absent]
            rfl
          rw [Registry.contains_eq_false_iff.mpr absent, Bool.not_false, Bool.true_and,
            decide_eq_true_eq, Nat.not_le] at unfilled
          rw [size]
          exact unfilled

/-- Nothing but an addition takes a place. -/
theorem Served.size_le (served : p.Served op t answer p') (wf : p.registry.WellFormed)
    (other : ∀ fd interest token, op ≠ .add fd interest token) :
    p'.registry.size ≤ p.registry.size := by
  cases served with
  | full | closed | duplicate | added => exact absurd rfl (other _ _ _)
  | removed taken =>
      obtain ⟨k, rfl, removed⟩ := wf.remove_eq_ok taken
      change Std.TreeMap.size _ ≤ _
      rw [removed.index]
      exact Std.TreeMap.size_erase_le
  | _ => exact Nat.le_refl _

theorem Served.wakeup_eq (served : p.Served op t answer p') : p'.wakeup = p.wakeup := by
  cases served <;> rfl

end SocketSelect

/-! ### Whole histories -/

/-- A select on sockets that has its wakeup sockets and fewer registrations than a list has room for. -/
def Backend.Lists (wakeup : SocketPair) (b : Backend) : Prop :=
  ∃ p, b = .socket p ∧ p.wakeup = wakeup ∧ p.registry.size < socketSetCapacity

theorem Exchange.lists_after {wakeup : SocketPair} (x : Exchange)
    (before : x.before.Sound ∧ x.before.Lists wakeup) : x.after.Sound ∧ x.after.Lists wakeup := by
  obtain ⟨sound, p, socket, rfl, room⟩ := before
  obtain ⟨p', after, served⟩ := x.socket_served socket
  have wf : p.registry.WellFormed := by
    have wf := sound.wellFormed
    rw [socket] at wf
    exact wf
  refine ⟨x.sound_after sound, p', after, served.wakeup_eq, ?_⟩
  by_cases adds : ∃ fd interest token, x.operation = .add fd interest token
  · obtain ⟨fd, interest, token, op⟩ := adds
    obtain ⟨n, follows⟩ := x.served
    have kept : Yields ((Backend.socket p).serve (.add fd interest token) n) fun _ r =>
        ∀ q, r.2 = .socket q → q.registry.size < socketSetCapacity := by
      simp only [Backend.serve, Backend.add, Sys.yields_map]
      exact (SocketSelect.add_keeps_room wf room).mono fun _ r roomy q same =>
        Backend.socket.inj same ▸ roomy
    rw [socket, op] at follows
    exact kept follows p' after
  · simp only [not_exists] at adds
    exact (served.size_le wf adds).trans_lt room

/-- In any state of a select on sockets, no more are registered than fit into a list beside the wakeup
socket. Of whatever is registered, the next registration to be put into the lists finds room in each.
So a poll, even one that is stopped, waits with the wakeup socket and the sockets that ask to be
read, and with those that ask to be written or for errors: all of them, each once and by slot. -/
theorem History.lists_as_registered (h : History) {p₀ : SocketSelect}
    (opened : h.start = .socket p₀) :
    ∃ p, h.finish = .socket p ∧ p.wakeup = p₀.wakeup ∧ p.registry.size ≤ 63 ∧
      (∀ {earlier later entry}, p.registry.entries = earlier ++ entry :: later →
        ∀ c, ((p.gathered earlier).of c).length < socketSetCapacity) ∧
      (∀ c, (∀ {fd}, fd ∈ Select.asking p.registry.entries c ↔
          ∃ e, p.registry.find? fd = some e ∧ e.interest.asks c = true) ∧
        (Select.asking p.registry.entries c).Pairwise fun a b => ∃ j k,
          p.registry.keyOf? a = some j ∧ p.registry.keyOf? b = some k ∧
            j.index.toNat < k.index.toNat) ∧
      ∀ {timeout n t o}, Follows (p.poll timeout n) t o →
        ∃ sets wait reply rest, t = .asked (.selectSockets sets wait) reply :: rest ∧
          sets.read = p₀.wakeup.reader :: Select.asking p.registry.entries .read ∧
          sets.write = Select.asking p.registry.entries .write ∧
          sets.error = Select.asking p.registry.entries .error ∧ Transcript.Still rest := by
  have start : h.start.Sound ∧ h.start.Lists p₀.wakeup := by
    refine ⟨h.opened.sound, p₀, opened, rfl, ?_⟩
    have empty := h.opened.registry_eq
    rw [opened] at empty
    change p₀.registry = _ at empty
    rw [empty]
    decide
  obtain ⟨-, p, finish, same, room⟩ := h.run.invariant
    (P := fun b => b.Sound ∧ b.Lists p₀.wakeup) start Exchange.lists_after
  have wf : p.registry.WellFormed := by
    have wf := h.sound.wellFormed
    rw [finish] at wf
    exact wf
  have few : p.registry.entries.length < socketSetCapacity := by
    rw [wf.size_eq, Registry.registrations, List.length_map] at room
    exact room
  refine ⟨p, finish, same, Nat.le_of_lt_succ room, fun split => ?_, wf.asking_listed, fun follows => ?_⟩
  · exact SocketSelect.gathered_has_room (split ▸ few)
  · obtain ⟨reply, rest, rfl, still⟩ := p.poll_waits_once follows
    have whole := SocketSelect.watched_eq_wanted few
    refine ⟨p.watched, _, reply, rest, rfl, ?_, ?_, ?_, still⟩
    · rw [whole, ← same]
      rfl
    · rw [whole]
      rfl
    · rw [whole]
      rfl

def Backend.socket? : Backend → Option SocketSelect
  | socket p => some p
  | _ => none

/-- As many sockets as a list has room for; the last one is refused. -/
def crowdedSelect : Option History := do
  let h ← History.rehearseOpening SocketSelect.create .socket .socket {} .initial
  h.rehearse ((List.range 64).map fun i =>
    (.add (.ofNat i) { read := true, write := i = 0 } 1, .initial))

theorem crowded_lists_as_registered :
    ∃ (h : History) (p₀ p : SocketSelect), h.start = .socket p₀ ∧ h.finish = .socket p ∧
      p.registry.size = 63 ∧
      h.exchanges.getLast?.map (·.answer.error?) = some (some (.capacityExceeded 63 64)) ∧
      ∀ {timeout n t o}, Follows (p.poll timeout n) t o →
        ∃ sets wait reply rest, t = .asked (.selectSockets sets wait) reply :: rest ∧
          sets = ⟨202 :: (List.range 63).map Int32.ofNat, [0], []⟩ := by
  have computed : ∃ h ∈ crowdedSelect, h.start.facility = .socket ∧
      h.exchanges.getLast?.map (·.answer.error?) = some (some (.capacityExceeded 63 64)) ∧
      h.finish.socket?.map (fun p => (p.registry.size, p.wanted)) =
        some (63, ⟨202 :: (List.range 63).map Int32.ofNat, [0], []⟩) := by
    decide +kernel
  obtain ⟨h, -, socket, refused, lists⟩ := computed
  obtain ⟨p₀, opened⟩ := Backend.eq_socket socket
  obtain ⟨p, finish, same, -, -, -, waits⟩ := h.lists_as_registered opened
  rw [finish] at lists
  obtain ⟨size, wanted⟩ : _ ∧ _ := by
    simpa only [Backend.socket?, Option.map_some, Option.some.injEq, Prod.mk.injEq] using lists
  refine ⟨h, p₀, p, opened, finish, size, refused, fun follows => ?_⟩
  obtain ⟨sets, wait, reply, rest, front, read, write, error, -⟩ := waits follows
  refine ⟨sets, wait, reply, rest, front, ?_⟩
  rw [← wanted, SocketSelect.wanted, same, ← read, ← write, ← error]

end Multiplexer

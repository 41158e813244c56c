import Multiplexer.Proofs.History.Associations
import Multiplexer.Proofs.History.Issued
import Multiplexer.Proofs.History.Rehearsal

/-! Where a completion port takes the packets of a key. The table of associations and the registry
share one space of keys: a key leads to a registration because it is its current one, or because
the descriptor last joined the port under it. Until generations repeat no key leads to two
descriptors. -/
namespace Multiplexer

/-- A table without repeated keys is a map. -/
theorem lookup_eq_some_iff_mem {α β : Type} [BEq α] [LawfulBEq α] {table : List (α × β)} {a : α}
    {b : β} (nodup : (table.map (·.1)).Nodup) : table.lookup a = some b ↔ (a, b) ∈ table := by
  constructor
  · intro found
    obtain ⟨front, back, rfl, -⟩ := List.lookup_eq_some_iff.mp found
    exact List.mem_append_cons_self
  · intro mem
    obtain ⟨front, back, rfl⟩ := List.append_of_mem mem
    refine List.lookup_eq_some_iff.mpr ⟨front, back, rfl, fun pair earlier => ?_⟩
    rw [List.map_append, List.map_cons] at nodup
    refine bne_iff_ne.mpr fun same => ?_
    have disjoint := (List.nodup_append.mp nodup).2.2
    exact disjoint _ (List.mem_map_of_mem earlier) a List.mem_cons_self same.symm

namespace CompletionPort

variable {table : List (UInt64 × Descriptor)} {key : UInt64} {fd : Descriptor}

theorem mem_associate {key' : UInt64} {fd' : Descriptor} :
    (key', fd') ∈ associate table key fd ↔
      (key' = key ∧ fd' = fd) ∨ ((key', fd') ∈ table ∧ fd' ≠ fd ∧ key' ≠ key) := by
  simp only [associate, List.mem_cons, Prod.mk.injEq, List.mem_filter, Bool.and_eq_true,
    bne_iff_ne]

/-- A handle that joins under a key nobody has joined under gets that key for its last one. -/
theorem mem_associate_of_fresh {last : Descriptor → Option UInt64}
    (known : ∀ {key fd}, (key, fd) ∈ table ↔ last fd = some key)
    (fresh : ∀ fd', last fd' ≠ some key) {key' : UInt64} {fd' : Descriptor} :
    (key', fd') ∈ associate table key fd ↔
      (if fd = fd' then some key else last fd') = some key' := by
  rw [mem_associate, known]
  by_cases same : fd = fd'
  · rw [if_pos same]
    constructor
    · rintro (⟨rfl, -⟩ | ⟨-, other, -⟩)
      · rfl
      · exact absurd same.symm other
    · intro current
      exact .inl ⟨(Option.some.inj current).symm, same.symm⟩
  · rw [if_neg same]
    constructor
    · rintro (⟨-, joined⟩ | ⟨kept, -⟩)
      · exact absurd joined.symm same
      · exact kept
    · intro kept
      exact .inr ⟨kept, Ne.symm same, fun again => fresh fd' (again ▸ kept)⟩

theorem nodup_keys_associate (nodup : (table.map (·.1)).Nodup) :
    ((associate table key fd).map (·.1)).Nodup := by
  rw [associate, List.map_cons, List.nodup_cons]
  refine ⟨fun mem => ?_, (List.filter_sublist.map _).nodup nodup⟩
  obtain ⟨pair, kept, same⟩ := List.mem_map.mp mem
  have others := (List.mem_filter.mp kept).2
  simp only [Bool.and_eq_true, bne_iff_ne] at others
  exact others.2 same

theorem nodup_handles_associate (nodup : (table.map (·.2)).Nodup) :
    ((associate table key fd).map (·.2)).Nodup := by
  rw [associate, List.map_cons, List.nodup_cons]
  refine ⟨fun mem => ?_, (List.filter_sublist.map _).nodup nodup⟩
  obtain ⟨pair, kept, same⟩ := List.mem_map.mp mem
  have others := (List.mem_filter.mp kept).2
  simp only [Bool.and_eq_true, bne_iff_ne] at others
  exact others.1 same

end CompletionPort

namespace Transcript

variable {t u : Transcript} {fd : Descriptor}

theorem Unassociating.lastAssociation_append (quiet : u.Unassociating) :
    (t ++ u).lastAssociation fd = t.lastAssociation fd := by
  unfold lastAssociation
  rw [List.foldl_append]
  generalize t.foldl _ none = last
  induction u generalizing last with
  | nil => rfl
  | cons s u ih =>
      rw [List.foldl_cons]
      refine (ih (fun s' mem => quiet s' (List.mem_cons_of_mem _ mem)) _).trans ?_
      split
      · cases quiet _ List.mem_cons_self []
      · rfl

/-- Joining gives a handle its key and leaves the others theirs. -/
theorem lastAssociation_joined {handle : Descriptor} {port : Handle} {key : UInt64}
    (quiet : u.Unassociating) :
    (t ++ .asked (.portAssociate handle port key) (.ok ()) :: u).lastAssociation fd =
      if handle = fd then some key else t.lastAssociation fd := by
  rw [List.append_cons, quiet.lastAssociation_append, lastAssociation, List.foldl_append]
  rfl

end Transcript

namespace CompletionPort

open Transcript

variable {p p' : CompletionPort} {op : Operation} {t : Transcript} {answer : Answer}

/-- A call does not touch the table, or it has a handle join under a key just issued. -/
theorem Served.joins (h : p.Served op t answer p') :
    (t.Unassociating ∧ p'.associations = p.associations) ∨
    ∃ fd interest token k, p.registry.insert fd interest token = .ok (k, p'.registry) ∧
      p'.associations = associate p.associations k.pack fd ∧
      ∀ past fd', Transcript.lastAssociation (past ++ t) fd' =
        if fd = fd' then some k.pack else Transcript.lastAssociation past fd' := by
  cases h with
  | @associated fd interest token k _ placed =>
      refine .inr ⟨fd, interest, token, k, placed, rfl, fun past fd' => ?_⟩
      exact lastAssociation_joined (unassociating_cons (fun _ => rfl) unassociating_nil)
  | reassociated =>
      exact .inl ⟨unassociating_cons (fun _ => rfl) (unassociating_cons (fun _ => rfl)
        (unassociating_cons (fun _ => rfl) unassociating_nil)), rfl⟩
  | answered =>
      exact .inl ⟨unassociating_cons (fun _ => rfl) (p.remarks_unassociating _), rfl⟩
  | unassociated | removed | unanswered | posted | refused | woken | unwoken =>
      exact .inl ⟨unassociating_cons (fun _ => rfl) unassociating_nil, rfl⟩
  | _ => exact .inl ⟨unassociating_nil, rfl⟩

/-- What the table and the registry of a port have in common with what was said to the port. -/
structure Routed (p : CompletionPort) (last : Descriptor → Option UInt64) : Prop where
  table : ∀ {key fd}, (key, fd) ∈ p.associations ↔ last fd = some key
  keys : (p.associations.map (·.1)).Nodup
  handles : (p.associations.map (·.2)).Nodup
  /-- A key that a descriptor joined under was issued to it. -/
  issued : ∀ {key fd}, last fd = some key → p.registry.Issued (.unpack key) fd

end CompletionPort

theorem Backend.Sound.port_wellFormed {b : Backend} {p : CompletionPort} (sound : b.Sound)
    (h : b = .port p) : p.registry.WellFormed := by
  subst h
  exact sound.wellFormed

theorem Exchange.routed {x : Exchange} {p p' : CompletionPort} {past : Transcript}
    (before : x.before = .port p) (after : x.after = .port p')
    (outcome : p.Served x.operation x.transcript x.answer p') (sound : x.before.Sound)
    (few : ∀ i, (x.before.registry.generation i).toNat + turns i [x] < generations)
    (routed : p.Routed past.lastAssociation) :
    p'.Routed (past ++ x.transcript).lastAssociation := by
  have kept : ∀ {k fd}, p.registry.Issued k fd → p'.registry.Issued k fd := by
    intro k fd issued
    have carried : x.before.registry.Issued k fd → x.after.registry.Issued k fd :=
      x.issued sound (Backend.settled_of_port before) (few k.index)
    rw [before, after] at carried
    exact carried issued
  rcases outcome.joins with ⟨quiet, same⟩ | ⟨fd, interest, token, k, placed, table, last⟩
  · refine ⟨?_, same ▸ routed.keys, same ▸ routed.handles, ?_⟩
    · intro key fd
      rw [same, quiet.lastAssociation_append, routed.table]
    · intro key fd known
      rw [quiet.lastAssociation_append] at known
      exact kept (routed.issued known)
  · have ins := (sound.port_wellFormed before).insert_inserted placed
    refine ⟨?_, ?_, ?_, ?_⟩
    · intro key fd'
      rw [table, last]
      refine CompletionPort.mem_associate_of_fresh routed.table fun fd'' known => ?_
      have issued := routed.issued known
      rw [Key.unpack_pack] at issued
      exact ins.not_issued issued
    · rw [table]
      exact CompletionPort.nodup_keys_associate routed.keys
    · rw [table]
      exact CompletionPort.nodup_handles_associate routed.handles
    · intro key fd' known
      rw [last] at known
      split at known
      · rename_i same
        cases known
        rw [Key.unpack_pack]
        exact .inl ⟨token, _, ins.get?_self, same, rfl⟩
      · exact kept (routed.issued known)

/-- All that was said in the exchanges of a history gives every descriptor its last key. -/
def History.lastAssociation (h : History) : Descriptor → Option UInt64 :=
  Transcript.lastAssociation (h.exchanges.flatMap (·.transcript))

theorem History.routed (h : History) {p : CompletionPort} (port : h.finish = .port p)
    (few : ∀ i, turns i h.exchanges < generations) : p.Routed h.lastAssociation := by
  obtain ⟨config, opening, start, exchanges, finish, opened, run⟩ := h
  unfold lastAssociation
  dsimp only at port few ⊢
  induction run generalizing p with
  | start =>
      subst port
      cases opened with
      | port follows =>
          have empty : p.associations = [] := CompletionPort.create_associations follows _ rfl
          refine ⟨?_, ?_, ?_, ?_⟩
          · intro key fd
            rw [empty]
            exact ⟨nofun, nofun⟩
          · rw [empty]
            exact List.nodup_nil
          · rw [empty]
            exact List.nodup_nil
          · exact nofun
  | @step xs x before ih =>
      have sound : x.before.Sound := before.sound opened.sound
      have fewer : ∀ i, turns i xs < generations := fun i =>
        (turns_le_append i xs [x]).trans_lt (few i)
      obtain ⟨q, same, outcome⟩ := x.port_outcome sound.wellFormed port
      rw [List.flatMap_append, List.flatMap_singleton]
      refine Exchange.routed same port outcome sound (fun i => ?_) (ih same fewer)
      have now : (x.before.registry.generation i).toNat = turns i xs :=
        History.toNat_generation ⟨config, opening, start, xs, x.before, opened, before⟩ (fewer i)
      rw [now, ← turns_append]
      exact few i

namespace CompletionPort

variable {p : CompletionPort} {last : Descriptor → Option UInt64} {key : UInt64}
  {fd : Descriptor}

/-- The key belongs to a registered descriptor: it is the current key, or the one that the
descriptor last joined under. -/
def Routes (p : CompletionPort) (last : Descriptor → Option UInt64) (key : UInt64)
    (fd : Descriptor) : Prop :=
  p.registry.contains fd = true ∧
    (p.registry.keyOf? fd = some (.unpack key) ∨ last fd = some key)

theorem Routed.lookup_eq_some_iff (routed : p.Routed last) :
    p.associations.lookup key = some fd ↔ last fd = some key := by
  rw [lookup_eq_some_iff_mem routed.keys, routed.table]

theorem resolve?_of_get? {e : Registration} (opened : p.registry.get? (.unpack key) = some e) :
    p.resolve? key = some e := by
  rw [resolve?, opened, Option.some_or]

theorem Routed.resolve?_of_last (routed : p.Routed last) (known : last fd = some key)
    (void : p.registry.get? (.unpack key) = none) : p.resolve? key = p.registry.find? fd := by
  rw [resolve?, void, Option.none_or, routed.lookup_eq_some_iff.mpr known, Option.bind_some]

theorem Routed.resolve?_of_not_last (routed : p.Routed last) (unknown : ∀ fd, last fd ≠ some key)
    (void : p.registry.get? (.unpack key) = none) : p.resolve? key = none := by
  have missing : p.associations.lookup key = none := by
    rw [Option.eq_none_iff_forall_ne_some]
    intro fd found
    exact unknown fd (routed.lookup_eq_some_iff.mp found)
  rw [resolve?, void, Option.none_or, missing, Option.bind_none]

theorem Routed.resolve?_of_routes (routed : p.Routed last) (wf : p.registry.WellFormed)
    (routes : p.Routes last key fd) :
    ∃ e, p.registry.find? fd = some e ∧ p.resolve? key = some e := by
  obtain ⟨present, current | joined⟩ := routes
  · obtain ⟨e, opened, rfl⟩ := wf.keyOf?_eq_some_iff.mp current
    exact ⟨e, wf.find?_of_get? opened, resolve?_of_get? opened⟩
  · cases opened : p.registry.get? (.unpack key) with
    | none =>
        rw [wf.contains_eq_isSome, Option.isSome_iff_exists] at present
        obtain ⟨e, found⟩ := present
        exact ⟨e, found, (routed.resolve?_of_last joined opened).trans found⟩
    | some e =>
        have named : e.descriptor = fd := (routed.issued joined).descriptor_eq opened
        exact ⟨e, named ▸ wf.find?_of_get? opened, resolve?_of_get? opened⟩

theorem Routed.routes_of_resolve? (routed : p.Routed last) (wf : p.registry.WellFormed)
    {e : Registration} (resolved : p.resolve? key = some e) : p.Routes last key e.descriptor := by
  cases opened : p.registry.get? (.unpack key) with
  | some e' =>
      cases (resolve?_of_get? opened).symm.trans resolved
      exact ⟨wf.contains_of_get? opened, .inl (wf.keyOf?_of_get? opened)⟩
  | none =>
      rw [resolve?, opened, Option.none_or] at resolved
      obtain ⟨fd, found, registered⟩ := Option.bind_eq_some_iff.mp resolved
      have named : e.descriptor = fd := wf.descriptor_of_find? registered
      subst named
      refine ⟨?_, .inr (routed.lookup_eq_some_iff.mp found)⟩
      rw [wf.contains_eq_isSome, registered, Option.isSome_some]

end CompletionPort

/-- Until the generations of some slot repeat, a key resolves to the registration of the one
descriptor it belongs to, and to nothing if it belongs to none; the table of associations holds for
every descriptor the key of its last association, and no other. -/
theorem History.routes_completions (h : History) {p : CompletionPort} (port : h.finish = .port p)
    (few : ∀ i, turns i h.exchanges < generations) (key : UInt64) :
    (∀ fd, p.Routes h.lastAssociation key fd →
      ∃ e, p.registry.find? fd = some e ∧ p.resolve? key = some e) ∧
    ((∀ fd, ¬ p.Routes h.lastAssociation key fd) → p.resolve? key = none) ∧
    (∀ fd fd', p.Routes h.lastAssociation key fd → p.Routes h.lastAssociation key fd' → fd = fd') ∧
    (∀ fd, (key, fd) ∈ p.associations ↔ h.lastAssociation fd = some key) ∧
    (p.associations.map (·.2)).Nodup := by
  have routed := h.routed port few
  have wf := h.sound.port_wellFormed port
  refine ⟨fun fd => routed.resolve?_of_routes wf, fun none => ?_, fun fd fd' routes routes' => ?_,
    fun fd => routed.table, routed.handles⟩
  · rw [Option.eq_none_iff_forall_ne_some]
    intro e resolved
    exact none _ (routed.routes_of_resolve? wf resolved)
  · obtain ⟨e, found, resolved⟩ := routed.resolve?_of_routes wf routes
    obtain ⟨e', found', resolved'⟩ := routed.resolve?_of_routes wf routes'
    cases resolved.symm.trans resolved'
    exact (wf.descriptor_of_find? found).symm.trans (wf.descriptor_of_find? found')

def Backend.port? : Backend → Option CompletionPort
  | port p => some p
  | _ => none

theorem Backend.eq_port_of_port? {b : Backend} {p : CompletionPort} (h : b.port? = some p) :
    b = .port p := by
  cases b with
  | port => exact congrArg Backend.port (Option.some.inj h)
  | _ => cases h

/-- The system says that the handle has joined a port already. -/
def joinedAlready : Script.Stage :=
  { Script.Stage.initial with
    script := Script.empty.put .portCreate [some (.error .invalidParameter)] }

/-- A handle comes back after its slot went to another one. -/
def rejoinedPort : Option History := do
  let h ← History.rehearseOpening CompletionPort.create .port .port {} .initial
  h.rehearse [(.add 5 { read := true } 1, .initial), (.remove 5, .initial),
    (.add 6 { read := true } 2, .initial), (.add 5 { read := true } 3, joinedAlready)]

theorem rejoined_handle_routed :
    ∃ (h : History) (p : CompletionPort), h.finish = .port p ∧
      (∀ i, turns i h.exchanges < generations) ∧
      p.registry.keyOf? 5 = some ⟨1, 0⟩ ∧ h.lastAssociation 5 = some 0 ∧
      (∃ e, p.registry.find? 5 = some e ∧ p.resolve? 0 = some e) ∧
      (∀ fd, p.Routes h.lastAssociation 0 fd → fd = 5) ∧
      (∀ fd, (0, fd) ∈ p.associations ↔ h.lastAssociation fd = some 0) ∧
      (p.associations.map (·.2)).Nodup := by
  have computed : ∃ h ∈ rejoinedPort, ∃ p ∈ h.finish.port?, h.exchanges.length = 4 ∧
      p.registry.contains 5 = true ∧ p.registry.keyOf? 5 = some ⟨1, 0⟩ ∧
      h.lastAssociation 5 = some 0 := by
    decide +kernel
  obtain ⟨h, -, p, finish, four, present, current, joined⟩ := computed
  have port := Backend.eq_port_of_port? finish
  have few : ∀ i, turns i h.exchanges < generations := fun i =>
    (List.countP_le_length.trans_eq four).trans_lt (by decide)
  obtain ⟨leads, -, alone, table, handles⟩ := h.routes_completions port few 0
  have routes : p.Routes h.lastAssociation 0 5 := ⟨present, .inr joined⟩
  exact ⟨h, p, port, few, current, joined, leads 5 routes, fun fd other => alone fd 5 other routes,
    table, handles⟩

end Multiplexer

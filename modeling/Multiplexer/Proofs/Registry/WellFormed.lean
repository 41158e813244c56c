import Mathlib.Data.Fintype.Card
import Multiplexer.Proofs.Registry.Lookup

/-! The invariant of the registry: the index leads to exactly the filled slots and the free list names
exactly the vacant ones. Under it a registry is a finite map from keys to registrations, `get?`, in
which no two keys share a descriptor; every operation is described by what it does to that map. The
number of slots is bounded by the number of descriptors, so slot numbers never wrap. -/
namespace Multiplexer.Registry

variable {r r' : Registry} {i : UInt32} {fd fd' : Descriptor} {k k' : Key}
  {e e' : Registration} {interest : Interest} {token : Token}

/-- More descriptors than this cannot be told apart. -/
def maxSlots : Nat := 4294967296

structure WellFormed (r : Registry) : Prop where
  /-- The index leads to a slot filled for the descriptor. -/
  filled : ∀ {fd i}, r.index[fd]? = some i →
    ∃ s e, r.slot? i = some s ∧ s.entry = some e ∧ e.descriptor = fd
  /-- Every filled slot is found by its descriptor. -/
  indexed : ∀ {i s e}, r.slot? i = some s → s.entry = some e → r.index[e.descriptor]? = some i
  vacant : ∀ {i}, i ∈ r.free ↔ ∃ s, r.slot? i = some s ∧ s.entry = none
  nodup : r.free.Nodup
  size_slots : r.slots.size = r.index.size + r.free.length
  bounded : r.slots.size ≤ maxSlots

theorem wellFormed_empty : Registry.empty.WellFormed where
  filled := by
    intro fd i h
    have none : Registry.empty.index[fd]? = none := Std.TreeMap.getElem?_emptyc
    rw [none] at h
    cases h
  indexed := by
    intro i s e h
    cases h
  vacant := by
    intro i
    refine ⟨fun h => ?_, fun ⟨s, h, _⟩ => ?_⟩
    · cases h
    · cases h
  nodup := List.nodup_nil
  size_slots := rfl
  bounded := Nat.zero_le _

/-- Descriptors are numbers of 32 bits, so an index that lacks one holds fewer than all. -/
theorem size_index_lt (h : r.index[fd]? = none) : r.index.size < maxSlots := by
  have absent : fd ∉ r.index.keys := by
    rw [Std.TreeMap.mem_keys, Std.TreeMap.mem_iff_isSome_getElem?, h]
    decide
  have distinct : ((fd :: r.index.keys).map fun d => d.toBitVec.toFin).Nodup := by
    refine List.Nodup.map ?_ (List.nodup_cons.mpr ⟨absent, Std.TreeMap.nodup_keys⟩)
    intro a b hab
    exact Int32.toBitVec_inj.mp (BitVec.toFin_inj.mp hab)
  have few := distinct.length_le_card
  simp only [List.map_cons, List.length_cons, List.length_map, Std.TreeMap.length_keys,
    Fintype.card_fin] at few
  exact few

namespace WellFormed

/-- What the index leads to is open under a key. -/
theorem exists_get?_of_index (wf : r.WellFormed) (found : r.index[fd]? = some i) :
    ∃ k e, r.get? k = some e ∧ e.descriptor = fd := by
  obtain ⟨s, e, hs, he, own⟩ := wf.filled found
  exact ⟨⟨i, s.generation⟩, e, get?_eq_some_iff.mpr ⟨s, hs, rfl, he⟩, own⟩

/-- Under the invariant the index says no more than the slots do. -/
theorem keyOf?_eq_some_iff (wf : r.WellFormed) :
    r.keyOf? fd = some k ↔ ∃ e, r.get? k = some e ∧ e.descriptor = fd := by
  simp only [Registry.keyOf?_eq_some_iff, get?_eq_some_iff]
  constructor
  · rintro ⟨hi, s, hs, hg⟩
    obtain ⟨s', e, hs', he, rfl⟩ := wf.filled hi
    cases hs.symm.trans hs'
    exact ⟨e, ⟨s, hs, hg, he⟩, rfl⟩
  · rintro ⟨e, ⟨s, hs, hg, he⟩, rfl⟩
    exact ⟨wf.indexed hs he, s, hs, hg⟩

theorem keyOf?_of_get? (wf : r.WellFormed) (h : r.get? k = some e) :
    r.keyOf? e.descriptor = some k := wf.keyOf?_eq_some_iff.mpr ⟨e, h, rfl⟩

/-- No two keys lead to the same descriptor. -/
theorem key_unique (wf : r.WellFormed) (h : r.get? k = some e) (h' : r.get? k' = some e')
    (same : e.descriptor = e'.descriptor) : k = k' := by
  have hk := wf.keyOf?_of_get? h
  rw [same, wf.keyOf?_of_get? h'] at hk
  exact (Option.some.inj hk).symm

theorem find?_eq_some_iff (wf : r.WellFormed) :
    r.find? fd = some e ↔ ∃ k, r.get? k = some e ∧ e.descriptor = fd := by
  simp only [find?, Option.bind_eq_some_iff, wf.keyOf?_eq_some_iff]
  constructor
  · rintro ⟨k, ⟨e', he', rfl⟩, he⟩
    cases he.symm.trans he'
    exact ⟨k, he, rfl⟩
  · rintro ⟨k, he, rfl⟩
    exact ⟨k, ⟨e, he, rfl⟩, he⟩

theorem find?_of_get? (wf : r.WellFormed) (h : r.get? k = some e) :
    r.find? e.descriptor = some e := wf.find?_eq_some_iff.mpr ⟨k, h, rfl⟩

theorem descriptor_of_find? (wf : r.WellFormed) (h : r.find? fd = some e) : e.descriptor = fd := by
  obtain ⟨k, _, hfd⟩ := wf.find?_eq_some_iff.mp h
  exact hfd

/-- A change of the registration of one descriptor. -/
theorem find?_modify_of_keyOf? (wf : r.WellFormed) {fd' : Descriptor} (known : r.keyOf? fd' = some k)
    (f : Registration → Registration) :
    (r.modify k f).find? fd = if fd = fd' then (r.find? fd).map f else r.find? fd := by
  have own : r.keyOf? fd = some k ↔ fd = fd' := by
    obtain ⟨e, opened, rfl⟩ := wf.keyOf?_eq_some_iff.mp known
    constructor
    · intro same
      obtain ⟨e', opened', rfl⟩ := wf.keyOf?_eq_some_iff.mp same
      cases opened.symm.trans opened'
      rfl
    · rintro rfl
      exact known
  simp only [find?_modify, own]

theorem contains_iff (wf : r.WellFormed) : r.contains fd = true ↔ ∃ k, r.keyOf? fd = some k := by
  rw [Registry.contains_iff]
  simp only [wf.keyOf?_eq_some_iff]
  constructor
  · rintro ⟨i, hi⟩
    exact wf.exists_get?_of_index hi
  · rintro ⟨k, e, opened, rfl⟩
    obtain ⟨s, hs, -, he⟩ := get?_eq_some_iff.mp opened
    exact ⟨k.index, wf.indexed hs he⟩

theorem contains_of_keyOf?_eq_none (wf : r.WellFormed) (h : r.keyOf? fd = none) :
    r.contains fd = false := by
  rw [Bool.eq_false_iff]
  intro present
  obtain ⟨k, hk⟩ := wf.contains_iff.mp present
  rw [h] at hk
  cases hk

theorem contains_eq_isSome (wf : r.WellFormed) : r.contains fd = (r.find? fd).isSome := by
  rw [Bool.eq_iff_iff, wf.contains_iff, Option.isSome_iff_exists]
  simp only [wf.keyOf?_eq_some_iff, wf.find?_eq_some_iff]
  exact ⟨fun ⟨k, e, h⟩ => ⟨e, k, h⟩, fun ⟨e, k, h⟩ => ⟨k, e, h⟩⟩

theorem contains_of_get? (wf : r.WellFormed) (h : r.get? k = some e) :
    r.contains e.descriptor = true := wf.contains_iff.mpr ⟨k, wf.keyOf?_of_get? h⟩

theorem descriptor_ne (wf : r.WellFormed) (absent : r.contains fd = false)
    (h : r.get? k = some e) : e.descriptor ≠ fd := by
  rintro rfl
  exact Bool.eq_false_iff.mp absent (wf.contains_of_get? h)

end WellFormed

end Multiplexer.Registry

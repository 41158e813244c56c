import Multiplexer.Proofs.Registry.WellFormed

/-! The operations of the registry under its invariant. Each is described once, by what it does to the
slots, the index and the free list; from that follow the invariant of the result, the keys it
answers to and the generations of its slots. -/
namespace Multiplexer.Registry

variable {r r' : Registry} {i : UInt32} {fd fd' : Descriptor} {k k' : Key}
  {e e' : Registration} {interest : Interest} {token : Token}

/-! ### Insertion -/

/-- What inserting a descriptor comes to: a slot that was vacant, or did not exist, is filled, and
its key is that of the generation the slot has had. -/
structure Inserted (r : Registry) (entry : Registration) (k : Key) (r' : Registry) : Prop where
  absent : r.index[entry.descriptor]? = none
  unfilled : ∀ {s}, r.slot? k.index = some s → s.entry = none
  generation : r.generation k.index = k.generation
  slot : ∀ j, r'.slot? j = if j = k.index then some ⟨k.generation, some entry⟩ else r.slot? j
  index : r'.index = r.index.insert entry.descriptor k.index
  free : ∀ j, j ∈ r'.free ↔ j ∈ r.free ∧ j ≠ k.index
  nodup : r'.free.Nodup
  size_slots : r'.slots.size = r'.index.size + r'.free.length
  grown : r.free = [] ∨ r'.slots.size = r.slots.size
  bounded : r'.slots.size ≤ maxSlots

theorem size_insert_index (absent : r.index[fd]? = none) (i : UInt32) :
    (r.index.insert fd i).size = r.index.size + 1 := by
  rw [Std.TreeMap.size_insert, if_neg]
  rw [Std.TreeMap.contains_eq_isSome_getElem?, absent]
  decide

/-- Without a vacant slot a new one is added at the end. -/
theorem WellFormed.inserted_new (wf : r.WellFormed) (absent : r.index[e.descriptor]? = none)
    (full : r.free = []) :
    Inserted r e ⟨r.slots.size.toUInt32, 0⟩
      { slots := r.slots.push ⟨0, some e⟩
        free := r.free
        index := r.index.insert e.descriptor r.slots.size.toUInt32 } := by
  have count := wf.size_slots
  rw [full, List.length_nil, Nat.add_zero] at count
  have below : r.slots.size < maxSlots := count ▸ size_index_lt absent
  have position : r.slots.size.toUInt32.toNat = r.slots.size := by
    rw [Nat.toUInt32_eq, UInt32.toNat_ofNat']
    exact Nat.mod_eq_of_lt below
  have missing : r.slot? r.slots.size.toUInt32 = none := by
    rw [slot?, position]
    exact Array.getElem?_eq_none (Nat.le_refl _)
  refine ⟨absent, ?_, ?_, ?_, rfl, ?_, wf.nodup, ?_, .inl full, ?_⟩
  · intro s hs
    cases missing.symm.trans hs
  · rw [Registry.generation, missing, Option.elim_none]
  · intro j
    simp only [slot?, Array.getElem?_push, ← UInt32.toNat_inj, position]
  · intro j
    simp only [full, List.not_mem_nil, false_and]
  · rw [Array.size_push, size_insert_index absent, count, full]
    rfl
  · rw [Array.size_push]
    exact below

/-- Otherwise the vacant slot in front is filled, in the generation it has. -/
theorem WellFormed.inserted_reused (wf : r.WellFormed) (absent : r.index[e.descriptor]? = none)
    {rest : List UInt32} (front : r.free = i :: rest) {s : Slot} (hs : r.slot? i = some s) :
    Inserted r e ⟨i, s.generation⟩
      { r.modifySlot i ({ · with entry := some e }) with
        free := rest
        index := r.index.insert e.descriptor i } := by
  obtain ⟨notIn, distinct⟩ := List.nodup_cons.mp (front ▸ wf.nodup)
  refine ⟨absent, ?_, generation_of_slot? hs, ?_, rfl, ?_, distinct, ?_, .inr ?_, ?_⟩
  · intro s' hs'
    obtain ⟨s'', hs'', empty⟩ := wf.vacant.mp (front ▸ List.mem_cons_self : i ∈ r.free)
    cases hs''.symm.trans hs'
    exact empty
  · intro j
    refine (slot?_modifySlot (i := i) (j := j) _).trans ?_
    by_cases hj : i = j
    · subst hj
      rw [if_pos rfl, if_pos rfl, hs, Option.map_some]
    · rw [if_neg hj, if_neg (Ne.symm hj)]
  · intro j
    rw [front, List.mem_cons]
    constructor
    · intro hj
      refine ⟨.inr hj, ?_⟩
      rintro rfl
      exact notIn hj
    · rintro ⟨rfl | hj, ne⟩
      · exact absurd rfl ne
      · exact hj
  · have count := wf.size_slots
    rw [front, List.length_cons] at count
    simp only [size_slots_modifySlot, size_insert_index absent, count]
    omega
  · exact size_slots_modifySlot _
  · simpa only [size_slots_modifySlot] using wf.bounded

theorem WellFormed.insert_inserted (wf : r.WellFormed)
    (h : r.insert fd interest token = .ok (k, r')) :
    Inserted r { descriptor := fd, interest, token } k r' := by
  unfold insert at h
  split at h
  · cases h
  · rename_i hc
    have absent := contains_eq_false_iff.mp (Bool.eq_false_iff.mpr hc)
    cases front : r.free with
    | nil =>
        have placed := wf.inserted_new (e := { descriptor := fd, interest, token }) absent front
        have key := placed.slot r.slots.size.toUInt32
        rw [if_pos rfl] at key
        simp only [place, front, slot?] at h key placed
        rw [key] at h
        cases h
        exact placed
    | cons i rest =>
        obtain ⟨s, hs, -⟩ := wf.vacant.mp (front ▸ List.mem_cons_self : i ∈ r.free)
        have placed := wf.inserted_reused (e := { descriptor := fd, interest, token })
          absent front hs
        have key := placed.slot i
        rw [if_pos rfl] at key
        simp only [place, front, slot?] at h key placed
        rw [key] at h
        cases h
        exact placed

namespace Inserted

theorem wellFormed (ins : Inserted r e k r') (wf : r.WellFormed) : r'.WellFormed where
  filled := by
    intro fd i h
    rw [ins.index, Std.TreeMap.getElem?_insert] at h
    split at h
    · rename_i same
      cases h
      exact ⟨_, e, by rw [ins.slot, if_pos rfl], rfl, Std.LawfulEqCmp.compare_eq_iff_eq.mp same⟩
    · obtain ⟨s, e', hs, he, hfd⟩ := wf.filled h
      have other : i ≠ k.index := by
        rintro rfl
        cases he.symm.trans (ins.unfilled hs)
      exact ⟨s, e', by rw [ins.slot, if_neg other, hs], he, hfd⟩
  indexed := by
    intro i s e' hs he
    rw [ins.slot] at hs
    rw [ins.index, Std.TreeMap.getElem?_insert]
    split at hs
    · cases hs
      cases he
      rename_i here
      rw [if_pos Std.ReflCmp.compare_self, here]
    · rw [if_neg, wf.indexed hs he]
      intro same
      have found := wf.indexed hs he
      rw [← Std.LawfulEqCmp.compare_eq_iff_eq.mp same, ins.absent] at found
      cases found
  vacant := by
    intro i
    rw [ins.free, wf.vacant, ins.slot]
    by_cases hi : i = k.index
    · simp only [hi, ne_eq, not_true_eq_false, and_false, if_true, Option.some.injEq, false_iff]
      rintro ⟨s, rfl, hs⟩
      cases hs
    · simp only [hi, ne_eq, not_false_eq_true, and_true, if_false]
  nodup := ins.nodup
  size_slots := ins.size_slots
  bounded := ins.bounded

/-- The key is new, and every other key opens what it did. -/
theorem get? (ins : Inserted r e k r') (k' : Key) :
    r'.get? k' = if k' = k then some e else r.get? k' := by
  obtain ⟨i, g⟩ := k
  obtain ⟨j, g'⟩ := k'
  ext e'
  rw [get?_eq_some_iff, ins.slot]
  by_cases hj : j = i
  · subst hj
    have closed : ∀ e', r.get? ⟨j, g'⟩ ≠ some e' := by
      intro e' he'
      obtain ⟨s, hs, -, he⟩ := get?_eq_some_iff.mp he'
      cases he.symm.trans (ins.unfilled hs)
    by_cases hg : g' = g
    · subst hg
      simp only [if_true, Option.some.injEq, exists_eq_left', true_and]
    · simp only [Key.mk.injEq, true_and, hg, if_true, if_false, Option.some.injEq, exists_eq_left',
        closed, iff_false]
      exact fun h => hg h.1.symm
  · rw [if_neg hj, if_neg (fun h => hj (congrArg Key.index h)), get?_eq_some_iff]

theorem get?_self (ins : Inserted r e k r') : r'.get? k = some e := by rw [ins.get?, if_pos rfl]

theorem get?_key_eq_none (ins : Inserted r e k r') : r.get? k = none := by
  rw [Option.eq_none_iff_forall_ne_some]
  intro e' he'
  obtain ⟨s, hs, -, he⟩ := get?_eq_some_iff.mp he'
  cases he.symm.trans (ins.unfilled hs)

theorem generation_eq (ins : Inserted r e k r') (i : UInt32) :
    r'.generation i = r.generation i := by
  by_cases hi : i = k.index
  · rw [hi, ins.generation, Registry.generation, ins.slot, if_pos rfl, Option.elim_some]
  · rw [Registry.generation, ins.slot, if_neg hi, Registry.generation]

end Inserted

theorem insert_eq_error_iff {f : Error} :
    r.insert fd interest token = .error f ↔ r.contains fd = true ∧ f = .alreadyRegistered fd := by
  unfold insert
  split
  · rename_i hc
    simp only [Except.error.injEq, hc, true_and, eq_comm]
  · rename_i hc
    simp only [reduceCtorEq, hc, false_and]

/-! ### Removal -/

/-- What removing the registration under a key comes to: its slot is vacated under the next
generation, to be reused next. -/
structure Removed (r : Registry) (e : Registration) (k : Key) (r' : Registry) : Prop where
  opened : r.get? k = some e
  slot : ∀ j, r'.slot? j = if j = k.index then some ⟨k.generation + 1, none⟩ else r.slot? j
  index : r'.index = r.index.erase e.descriptor
  free : r'.free = k.index :: r.free
  size_slots : r'.slots.size = r.slots.size

theorem remove_eq_error_iff_of_absent {f : Error} (absent : r.index[fd]? = none) :
    r.remove fd = .error f ↔ f = .notRegistered fd := by
  unfold remove vacate
  rw [absent]
  simp only [Except.map, Except.error.injEq, eq_comm]

theorem WellFormed.remove_of_get? (wf : r.WellFormed) (h : r.get? k = some e) :
    ∃ r', r.remove e.descriptor = .ok (e, r') ∧ Removed r e k r' := by
  obtain ⟨s, hs, hg, he⟩ := get?_eq_some_iff.mp h
  refine ⟨{ r.modifySlot k.index fun s => ⟨s.generation + 1, none⟩ with
      free := k.index :: r.free
      index := r.index.erase e.descriptor }, ?_, h, ?_, rfl, rfl, size_slots_modifySlot _⟩
  · unfold remove vacate
    simp only [wf.indexed hs he, hs, Option.bind_some, he, free_modifySlot, index_modifySlot,
      Except.map]
  · intro j
    refine (slot?_modifySlot (i := k.index) (j := j) _).trans ?_
    by_cases hj : k.index = j
    · subst hj
      rw [if_pos rfl, if_pos rfl, hs, Option.map_some, hg]
    · rw [if_neg hj, if_neg (Ne.symm hj)]

theorem WellFormed.remove_eq_ok (wf : r.WellFormed) (h : r.remove fd = .ok (e, r')) :
    ∃ k, e.descriptor = fd ∧ Removed r e k r' := by
  cases hi : r.index[fd]? with
  | none =>
      unfold remove vacate at h
      rw [hi] at h
      cases h
  | some i =>
      obtain ⟨k, e', opened, rfl⟩ := wf.exists_get?_of_index hi
      obtain ⟨r'', removed, spec⟩ := wf.remove_of_get? opened
      cases h.symm.trans removed
      exact ⟨k, rfl, spec⟩

theorem WellFormed.remove_eq_error_iff (wf : r.WellFormed) {f : Error} :
    r.remove fd = .error f ↔ r.contains fd = false ∧ f = .notRegistered fd := by
  cases hc : r.contains fd with
  | false => simp only [remove_eq_error_iff_of_absent (contains_eq_false_iff.mp hc), true_and]
  | true =>
      obtain ⟨k, hk⟩ := wf.contains_iff.mp hc
      obtain ⟨e, he, rfl⟩ := wf.keyOf?_eq_some_iff.mp hk
      obtain ⟨r', removed, -⟩ := wf.remove_of_get? he
      simp only [removed, reduceCtorEq, false_and]

namespace Removed

theorem filled_slot (rem : Removed r e k r') :
    ∃ s, r.slot? k.index = some s ∧ s.generation = k.generation ∧ s.entry = some e :=
  get?_eq_some_iff.mp rem.opened

theorem wellFormed (rem : Removed r e k r') (wf : r.WellFormed) : r'.WellFormed where
  filled := by
    intro fd i h
    rw [rem.index, Std.TreeMap.getElem?_erase] at h
    split at h
    · cases h
    · rename_i other
      obtain ⟨s, e', hs, he, hfd⟩ := wf.filled h
      refine ⟨s, e', ?_, he, hfd⟩
      rw [rem.slot, if_neg, hs]
      rintro rfl
      obtain ⟨s', hs', -, he'⟩ := rem.filled_slot
      cases hs.symm.trans hs'
      cases he.symm.trans he'
      exact other (hfd ▸ Std.ReflCmp.compare_self)
  indexed := by
    intro i s e' hs he
    rw [rem.slot] at hs
    split at hs
    · cases hs
      cases he
    · rename_i other
      rw [rem.index, Std.TreeMap.getElem?_erase, if_neg, wf.indexed hs he]
      intro same
      obtain ⟨s', hs', -, he'⟩ := rem.filled_slot
      have here := wf.indexed hs' he'
      rw [Std.LawfulEqCmp.compare_eq_iff_eq.mp same, wf.indexed hs he] at here
      exact other (Option.some.inj here)
  vacant := by
    intro i
    rw [rem.free, List.mem_cons, wf.vacant, rem.slot]
    by_cases hi : i = k.index
    · simp only [hi, true_or, if_true, Option.some.injEq, true_iff]
      exact ⟨_, rfl, rfl⟩
    · simp only [hi, false_or, if_false]
  nodup := by
    rw [rem.free, List.nodup_cons]
    refine ⟨?_, wf.nodup⟩
    rw [wf.vacant]
    rintro ⟨s, hs, hv⟩
    obtain ⟨s', hs', -, he'⟩ := rem.filled_slot
    cases hs.symm.trans hs'
    cases hv.symm.trans he'
  size_slots := by
    obtain ⟨s, hs, -, he⟩ := rem.filled_slot
    have present : r.index.contains e.descriptor = true := contains_iff.mpr ⟨_, wf.indexed hs he⟩
    have positive : 0 < r.index.size := by
      rw [← Std.TreeMap.length_keys]
      exact List.length_pos_of_mem (Std.TreeMap.mem_keys.mpr present)
    rw [rem.size_slots, wf.size_slots, rem.index, Std.TreeMap.size_erase, if_pos present, rem.free,
      List.length_cons]
    omega
  bounded := rem.size_slots ▸ wf.bounded

/-- The key is void, and every other key opens what it did. -/
theorem get? (rem : Removed r e k r') (k' : Key) :
    r'.get? k' = if k' = k then none else r.get? k' := by
  obtain ⟨s, hs, hg, he⟩ := rem.filled_slot
  obtain ⟨i, g⟩ := k
  obtain ⟨j, g'⟩ := k'
  ext e'
  rw [get?_eq_some_iff, rem.slot]
  by_cases hj : j = i
  · subst hj
    by_cases hk : g' = g
    · simp only [hk, if_true, Option.some.injEq, exists_eq_left', reduceCtorEq, and_false]
    · simp only [Key.mk.injEq, hk, if_true, if_false, Option.some.injEq, exists_eq_left',
        reduceCtorEq, and_false, false_iff]
      intro h
      obtain ⟨s', hs', hg', -⟩ := get?_eq_some_iff.mp h
      cases hs.symm.trans hs'
      exact hk (hg'.symm.trans hg)
  · rw [if_neg hj, if_neg (fun h => hj (congrArg Key.index h)), get?_eq_some_iff]

theorem generation_eq (rem : Removed r e k r') (i : UInt32) :
    r'.generation i = if i = k.index then r.generation i + 1 else r.generation i := by
  rw [Registry.generation, rem.slot]
  by_cases hi : i = k.index
  · rw [if_pos hi, if_pos hi, hi, generation_of_get? rem.opened, Option.elim_some]
  · rw [if_neg hi, if_neg hi, Registry.generation]

end Removed

/-- Rolling an insertion back leaves nothing of it but the next generation of its slot. -/
theorem Inserted.discard (ins : Inserted r e k r') (wf : r.WellFormed) :
    Removed r' e k (r'.discard e.descriptor) := by
  obtain ⟨r'', removed, spec⟩ := (ins.wellFormed wf).remove_of_get? ins.get?_self
  rw [Registry.discard, removed]
  exact spec

theorem Inserted.contains_discard (ins : Inserted r e k r') (wf : r.WellFormed) :
    (r'.discard e.descriptor).contains e.descriptor = false := by
  have same : compare e.descriptor e.descriptor = .eq := Std.ReflCmp.compare_self
  rw [contains, (ins.discard wf).index, Std.TreeMap.contains_erase, same]
  rfl

/-! ### Moving to the next generation -/

structure Rekeyed (r : Registry) (e : Registration) (k k' : Key) (r' : Registry) : Prop where
  opened : r.get? k = some e
  key : k' = ⟨k.index, k.generation + 1⟩
  slot : ∀ j, r'.slot? j = if j = k.index then some ⟨k'.generation, some e⟩ else r.slot? j
  index : r'.index = r.index
  free : r'.free = r.free
  size_slots : r'.slots.size = r.slots.size

theorem WellFormed.rekey_of_get? (wf : r.WellFormed) (h : r.get? k = some e) :
    ∃ r', r.rekey e.descriptor = .ok (⟨k.index, k.generation + 1⟩, r') ∧
      Rekeyed r e k ⟨k.index, k.generation + 1⟩ r' := by
  obtain ⟨s, hs, hg, he⟩ := get?_eq_some_iff.mp h
  have slot : ∀ j,
      (r.modifySlot k.index fun s => { s with generation := s.generation + 1 }).slot? j =
      if j = k.index then some ⟨k.generation + 1, some e⟩ else r.slot? j := by
    intro j
    rw [slot?_modifySlot]
    by_cases hj : k.index = j
    · subst hj
      rw [if_pos rfl, if_pos rfl, hs, Option.map_some, hg, he]
    · rw [if_neg hj, if_neg (Ne.symm hj)]
  refine ⟨_, ?_, h, rfl, slot, rfl, rfl, size_slots_modifySlot _⟩
  unfold rekey
  simp only [wf.indexed hs he, keyAt?, slot, if_true, Option.map_some]

theorem WellFormed.rekey_eq_ok (wf : r.WellFormed) (h : r.rekey fd = .ok (k', r')) :
    ∃ k e, e.descriptor = fd ∧ Rekeyed r e k k' r' := by
  cases hi : r.index[fd]? with
  | none =>
      unfold rekey at h
      rw [hi] at h
      cases h
  | some i =>
      obtain ⟨k, e, opened, rfl⟩ := wf.exists_get?_of_index hi
      obtain ⟨r'', moved, spec⟩ := wf.rekey_of_get? opened
      cases h.symm.trans moved
      exact ⟨k, e, rfl, spec⟩

namespace Rekeyed

theorem wellFormed (rek : Rekeyed r e k k' r') (wf : r.WellFormed) : r'.WellFormed := by
  obtain ⟨s, hs, -, he⟩ := get?_eq_some_iff.mp rek.opened
  -- Only a generation differs, and no condition of the invariant looks at generations.
  have same : ∀ i x,
      (∃ s, r'.slot? i = some s ∧ s.entry = x) ↔ ∃ s, r.slot? i = some s ∧ s.entry = x := by
    intro i x
    rw [rek.slot]
    by_cases hi : i = k.index
    · simp only [hi, if_true, hs, Option.some.injEq, exists_eq_left', he]
    · simp only [hi, if_false]
  refine ⟨?_, ?_, ?_, rek.free ▸ wf.nodup, ?_, rek.size_slots ▸ wf.bounded⟩
  · intro fd i h
    obtain ⟨s, e, hs, he, hfd⟩ := wf.filled (rek.index ▸ h)
    obtain ⟨s', hs', he'⟩ := (same i (some e)).mpr ⟨s, hs, he⟩
    exact ⟨s', e, hs', he', hfd⟩
  · intro i s e hs he
    obtain ⟨s', hs', he'⟩ := (same i (some e)).mp ⟨s, hs, he⟩
    exact rek.index ▸ wf.indexed hs' he'
  · intro i
    rw [rek.free, wf.vacant]
    exact (same i none).symm
  · rw [rek.size_slots, rek.index, rek.free, wf.size_slots]

/-- The old key is void, the new one opens the registration, and every other key opens what it
did. -/
theorem get? (rek : Rekeyed r e k k' r') (k'' : Key) :
    r'.get? k'' = if k'' = k' then some e else if k'' = k then none else r.get? k'' := by
  obtain ⟨s, hs, hg, -⟩ := get?_eq_some_iff.mp rek.opened
  have key := rek.key
  obtain ⟨i, g⟩ := k
  obtain ⟨j, g''⟩ := k''
  subst key
  ext e'
  rw [get?_eq_some_iff, rek.slot]
  by_cases hj : j = i
  · subst hj
    by_cases hk : g'' = g + 1
    · simp only [hk, if_true, Option.some.injEq, exists_eq_left', true_and]
    · have void : r.get? ⟨j, g''⟩ = some e' → g'' = g := by
        intro h
        obtain ⟨s', hs', hg', -⟩ := get?_eq_some_iff.mp h
        cases hs.symm.trans hs'
        exact hg'.symm.trans hg
      simp only [Key.mk.injEq, true_and, hk, if_true, if_false, Option.some.injEq, exists_eq_left',
        Ne.symm hk, false_and, false_iff]
      split
      · simp only [reduceCtorEq, not_false_eq_true]
      · rename_i other
        exact fun h => other (void h)
  · rw [if_neg hj, if_neg (fun h => hj (congrArg Key.index h)),
      if_neg (fun h => hj (congrArg Key.index h)), get?_eq_some_iff]

theorem generation_eq (rek : Rekeyed r e k k' r') (i : UInt32) :
    r'.generation i = if i = k.index then r.generation i + 1 else r.generation i := by
  rw [Registry.generation, rek.slot]
  by_cases hi : i = k.index
  · rw [if_pos hi, if_pos hi, hi, generation_of_get? rek.opened, Option.elim_some, rek.key]
  · rw [if_neg hi, if_neg hi, Registry.generation]

theorem key_ne (rek : Rekeyed r e k k' r') : k' ≠ k := by
  intro same
  have moved := congrArg Key.generation (rek.key.symm.trans same)
  exact absurd moved (by
    simp only [← UInt32.toNat_inj, UInt32.toNat_add, UInt32.toNat_one]
    have := k.generation.toNat_lt
    omega)

theorem get?_self (rek : Rekeyed r e k k' r') : r'.get? k' = some e := by rw [rek.get?, if_pos rfl]

theorem get?_key_eq_none (rek : Rekeyed r e k k' r') : r.get? k' = none := by
  rw [Option.eq_none_iff_forall_ne_some]
  intro e' he'
  have moved := generation_of_get? he'
  rw [rek.key, generation_of_get? rek.opened] at moved
  exact rek.key_ne (rek.key.trans (congrArg (Key.mk k.index) moved.symm))

end Rekeyed

/-! ### Changes in place -/

/-- A change that keeps the descriptor keeps the invariant. -/
theorem WellFormed.modify (wf : r.WellFormed) (k : Key) {f : Registration → Registration}
    (keeps : ∀ e, (f e).descriptor = e.descriptor) : (r.modify k f).WellFormed := by
  -- Slots stay filled for the same descriptors, and vacant ones stay vacant.
  have same : ∀ i fd, (∃ s e, (r.modify k f).slot? i = some s ∧ s.entry = some e ∧
      e.descriptor = fd) ↔ ∃ s e, r.slot? i = some s ∧ s.entry = some e ∧ e.descriptor = fd := by
    intro i fd
    simp only [slot?_modify, Option.map_eq_some_iff]
    constructor
    · rintro ⟨_, e, ⟨s, hs, rfl⟩, he, rfl⟩
      split at he
      · obtain ⟨e', he', rfl⟩ := Option.map_eq_some_iff.mp he
        exact ⟨s, e', hs, he', (keeps e').symm⟩
      · exact ⟨s, e, hs, he, rfl⟩
    · rintro ⟨s, e, hs, he, rfl⟩
      by_cases hk : k.index = i ∧ s.generation = k.generation
      · exact ⟨_, f e, ⟨s, hs, rfl⟩, by rw [if_pos hk, he, Option.map_some], keeps e⟩
      · exact ⟨_, e, ⟨s, hs, rfl⟩, by rw [if_neg hk, he], rfl⟩
  refine ⟨?_, ?_, ?_, wf.nodup, ?_, ?_⟩
  · intro fd i h
    exact (same i fd).mpr (wf.filled h)
  · intro i s e hs he
    obtain ⟨s', e', hs', he', hfd⟩ := (same i e.descriptor).mp ⟨s, e, hs, he, rfl⟩
    exact hfd ▸ wf.indexed hs' he'
  · intro i
    rw [free_modify, wf.vacant, slot?_modify]
    simp only [Option.map_eq_some_iff]
    constructor
    · rintro ⟨s, hs, hv⟩
      refine ⟨_, ⟨s, hs, rfl⟩, ?_⟩
      split <;> simp only [hv, Option.map_none]
    · rintro ⟨_, ⟨s, hs, rfl⟩, hv⟩
      refine ⟨s, hs, ?_⟩
      split at hv
      · simpa only [Option.map_eq_none_iff] using hv
      · exact hv
  · rw [size_slots_modify, index_modify, free_modify, wf.size_slots]
  · rw [size_slots_modify]
    exact wf.bounded

/-- The registration without what the facility keeps about it. -/
def bare (e : Registration) : Registration := { e with rearm := false }

/-- Registries that differ only in which registrations wait for rearming. -/
inductive Reflagged (r : Registry) : Registry → Prop
  | refl : Reflagged r r
  | flag {r' : Registry} (k : Key) (pending : Bool) :
      Reflagged r r' → Reflagged r (r'.modify k ({ · with rearm := pending }))

namespace Reflagged

theorem trans {r'' : Registry} (h : Reflagged r r') (h' : Reflagged r' r'') : Reflagged r r'' := by
  induction h' with
  | refl => exact h
  | flag k pending _ ih => exact .flag k pending ih

theorem wellFormed (ref : Reflagged r r') (wf : r.WellFormed) : r'.WellFormed := by
  induction ref with
  | refl => exact wf
  | flag k pending _ ih => exact ih.modify k fun _ => rfl

theorem generation_eq (ref : Reflagged r r') (i : UInt32) : r'.generation i = r.generation i := by
  induction ref with
  | refl => rfl
  | flag k pending _ ih => rw [generation_modify, ih]

theorem keyOf?_eq (ref : Reflagged r r') (fd : Descriptor) : r'.keyOf? fd = r.keyOf? fd := by
  induction ref with
  | refl => rfl
  | flag k pending _ ih => rw [keyOf?_modify, ih]

theorem get?_map_bare (ref : Reflagged r r') (k : Key) :
    (r'.get? k).map bare = (r.get? k).map bare := by
  induction ref with
  | refl => rfl
  | flag k' pending _ ih =>
      rw [get?_modify, ← ih]
      split
      · rw [Option.map_map]
        rfl
      · rfl

theorem find?_map_bare (ref : Reflagged r r') (fd : Descriptor) :
    (r'.find? fd).map bare = (r.find? fd).map bare := by
  rw [find?, find?, ref.keyOf?_eq, Option.map_bind, Option.map_bind]
  exact Option.bind_congr fun k _ => ref.get?_map_bare k

end Reflagged

/-! ### The registration of a descriptor -/

/-- Inserting registers the descriptor and no other. -/
theorem Inserted.find? (ins : Inserted r e k r') (wf : r.WellFormed) (fd : Descriptor) :
    r'.find? fd = if fd = e.descriptor then some e else r.find? fd := by
  ext e'
  rw [(ins.wellFormed wf).find?_eq_some_iff]
  simp only [ins.get?]
  by_cases same : fd = e.descriptor
  · subst same
    rw [if_pos rfl, Option.some.injEq]
    constructor
    · rintro ⟨k', he', hfd⟩
      split at he'
      · exact Option.some.inj he'
      · have present := wf.keyOf?_of_get? he'
        rw [Registry.keyOf?, hfd, ins.absent] at present
        cases present
    · rintro rfl
      exact ⟨k, if_pos rfl, rfl⟩
  · rw [if_neg same, wf.find?_eq_some_iff]
    constructor
    · rintro ⟨k', he', rfl⟩
      split at he'
      · cases he'
        exact absurd rfl same
      · exact ⟨k', he', rfl⟩
    · rintro ⟨k', he', rfl⟩
      refine ⟨k', ?_, rfl⟩
      rw [if_neg, he']
      rintro rfl
      rw [ins.get?_key_eq_none] at he'
      cases he'

theorem Removed.find? (rem : Removed r e k r') (wf : r.WellFormed) (fd : Descriptor) :
    r'.find? fd = if fd = e.descriptor then none else r.find? fd := by
  ext e'
  rw [(rem.wellFormed wf).find?_eq_some_iff]
  simp only [rem.get?]
  by_cases same : fd = e.descriptor
  · subst same
    rw [if_pos rfl]
    constructor
    · rintro ⟨k', he', hfd⟩
      split at he'
      · cases he'
      · rename_i other
        exact absurd (wf.key_unique he' rem.opened hfd) other
    · rintro ⟨⟩
  · rw [if_neg same, wf.find?_eq_some_iff]
    constructor
    · rintro ⟨k', he', rfl⟩
      split at he'
      · cases he'
      · exact ⟨k', he', rfl⟩
    · rintro ⟨k', he', rfl⟩
      refine ⟨k', ?_, rfl⟩
      rw [if_neg, he']
      rintro rfl
      cases he'.symm.trans rem.opened
      exact same rfl

theorem Rekeyed.find? (rek : Rekeyed r e k k' r') (wf : r.WellFormed) (fd : Descriptor) :
    r'.find? fd = r.find? fd := by
  ext e'
  rw [(rek.wellFormed wf).find?_eq_some_iff, wf.find?_eq_some_iff]
  simp only [rek.get?]
  constructor
  · rintro ⟨k'', he', rfl⟩
    split at he'
    · cases he'
      exact ⟨k, rek.opened, rfl⟩
    · split at he'
      · cases he'
      · exact ⟨k'', he', rfl⟩
  · rintro ⟨k'', he', rfl⟩
    by_cases old : k'' = k
    · subst old
      cases he'.symm.trans rek.opened
      exact ⟨k', if_pos rfl, rfl⟩
    · refine ⟨k'', ?_, rfl⟩
      rw [if_neg, if_neg old, he']
      rintro rfl
      cases rek.get?_key_eq_none.symm.trans he'

/-! ### Confined registries -/

/-- Only some descriptors are registered, and there are no more slots than those would fill. -/
structure Confined (allowed : Descriptor → Prop) (room : Nat) (r : Registry) : Prop where
  within : ∀ {fd}, r.contains fd = true → allowed fd
  few : r.slots.size ≤ room

namespace Confined

variable {allowed : Descriptor → Prop} {room : Nat}

theorem empty : Confined allowed room Registry.empty where
  within := by
    intro fd present
    rw [wellFormed_empty.contains_eq_isSome, Registry.find?, keyOf?_empty] at present
    cases present
  few := Nat.zero_le _

/-- Slots are added only when all are filled, so there is room for one more descriptor. -/
theorem inserted (confined : Confined allowed room r) (ins : Inserted r e k r')
    (own : allowed e.descriptor)
    (enough : (∀ {fd}, r'.contains fd = true → allowed fd) → r'.index.size ≤ room) :
    Confined allowed room r' := by
  have all : ∀ {fd}, r'.contains fd = true → allowed fd := by
    intro fd present
    rw [contains, ins.index, Std.TreeMap.contains_insert, Bool.or_eq_true, beq_iff_eq] at present
    rcases present with same | present
    · exact Std.LawfulEqCmp.compare_eq_iff_eq.mp same ▸ own
    · exact confined.within present
  refine ⟨all, ?_⟩
  rcases ins.grown with full | same
  · have full' : r'.free = [] := by
      refine List.eq_nil_iff_forall_not_mem.mpr fun j hj => ?_
      have old := ((ins.free j).mp hj).1
      rw [full] at old
      cases old
    rw [ins.size_slots, full']
    exact enough all
  · exact same ▸ confined.few

theorem removed (confined : Confined allowed room r) (rem : Removed r e k r') :
    Confined allowed room r' where
  within := by
    intro fd present
    rw [contains, rem.index, Std.TreeMap.contains_erase, Bool.and_eq_true] at present
    exact confined.within present.2
  few := rem.size_slots ▸ confined.few

theorem rekeyed (confined : Confined allowed room r) (rek : Rekeyed r e k k' r') :
    Confined allowed room r' where
  within := by
    intro fd present
    rw [contains, rek.index] at present
    exact confined.within present
  few := rek.size_slots ▸ confined.few

theorem modify (confined : Confined allowed room r) (k : Key) (f : Registration → Registration) :
    Confined allowed room (r.modify k f) :=
  ⟨confined.within, (size_slots_modify f).trans_le confined.few⟩

theorem reflagged (confined : Confined allowed room r) (ref : Reflagged r r') :
    Confined allowed room r' := by
  induction ref with
  | refl => exact confined
  | flag k pending _ ih => exact ih.modify k _

theorem index_lt (confined : Confined allowed room r) (opened : r.get? k = some e) :
    k.index.toNat < room := (index_lt_of_get? opened).trans_le confined.few

end Confined

/-- There are this many descriptors that are not negative. -/
def halfSlots : Nat := 2147483648

/-- No negative descriptor is registered. -/
abbrev Narrow (r : Registry) : Prop := Confined (0 ≤ ·) halfSlots r

theorem size_index_le (nonneg : ∀ {fd}, r.contains fd = true → 0 ≤ fd) :
    r.index.size ≤ halfSlots := by
  have signed : ∀ fd ∈ r.index.keys, 0 ≤ fd.toInt := fun fd mem =>
    Int32.le_iff_toInt_le.mp (nonneg (Std.TreeMap.mem_keys.mp mem))
  have distinct : (r.index.keys.map fun d => d.toInt.toNat).Nodup := by
    refine List.Nodup.map_on (fun a ha b hb same => Int32.toInt_inj.mp ?_) Std.TreeMap.nodup_keys
    have := signed a ha
    have := signed b hb
    omega
  have within : (r.index.keys.map fun d => d.toInt.toNat) ⊆ List.range halfSlots := by
    intro n hn
    obtain ⟨d, -, rfl⟩ := List.mem_map.mp hn
    have := d.toInt_lt
    exact List.mem_range.mpr (by unfold halfSlots; omega)
  have few := (List.subperm_of_subset distinct within).length_le
  rwa [List.length_map, Std.TreeMap.length_keys, List.length_range] at few

theorem Narrow.inserted (narrow : r.Narrow) (ins : Inserted r e k r') (nonneg : 0 ≤ e.descriptor) :
    r'.Narrow := Confined.inserted narrow ins nonneg size_index_le

/-- One descriptor is not registered, which leaves one slot number unused. -/
abbrev Spares (fd : Descriptor) (r : Registry) : Prop := Confined (· ≠ fd) (maxSlots - 1) r

theorem Spares.absent (spares : Spares fd r) : r.contains fd = false :=
  Bool.eq_false_iff.mpr fun present => spares.within present rfl

theorem Spares.inserted (spares : Spares fd r) (ins : Inserted r e k r')
    (other : e.descriptor ≠ fd) : Spares fd r' := by
  refine Confined.inserted spares ins other fun others => ?_
  have absent : r'.index[fd]? = none :=
    contains_eq_false_iff.mp (Bool.eq_false_iff.mpr fun present => others present rfl)
  exact Nat.le_pred_of_lt (size_index_lt absent)

end Multiplexer.Registry

import Multiplexer.Registry.Basic

/-! What each change of a registry does to its slots, its index and its free list, and how keys are
looked up afterwards. Nothing here asks the three to fit together. -/
namespace Multiplexer.Registry

variable {r : Registry} {i j : UInt32} {fd : Descriptor} {k : Key} {e : Registration}

/-! ### Slots -/

@[simp] theorem slot?_modifySlot (f : Slot → Slot) :
    (r.modifySlot i f).slot? j = if i = j then (r.slot? j).map f else r.slot? j := by
  simp only [slot?, modifySlot, Array.getElem?_modify, UInt32.toNat_inj]

@[simp] theorem index_modifySlot (f : Slot → Slot) : (r.modifySlot i f).index = r.index := rfl
@[simp] theorem free_modifySlot (f : Slot → Slot) : (r.modifySlot i f).free = r.free := rfl

@[simp] theorem size_slots_modifySlot (f : Slot → Slot) :
    (r.modifySlot i f).slots.size = r.slots.size := Array.size_modify

theorem slot?_isSome : (r.slot? i).isSome ↔ i.toNat < r.slots.size := by
  rw [slot?, Option.isSome_iff_exists]
  exact ⟨fun ⟨_, h⟩ => (Array.getElem?_eq_some_iff.mp h).1,
    fun h => ⟨_, Array.getElem?_eq_getElem h⟩⟩

/-- Slots that do not exist yet count as being of the first generation, in which they will be
filled. -/
def generation (r : Registry) (i : UInt32) : UInt32 := (r.slot? i).elim 0 (·.generation)

theorem generation_of_slot? {s : Slot} (h : r.slot? i = some s) :
    r.generation i = s.generation := by
  rw [generation, h, Option.elim_some]

/-! ### Keys -/

/-- A key opens a filled slot of its generation, and nothing else. -/
theorem get?_eq_some_iff :
    r.get? k = some e ↔
      ∃ s, r.slot? k.index = some s ∧ s.generation = k.generation ∧ s.entry = some e := by
  simp only [get?, Option.bind_eq_some_iff]
  constructor
  · rintro ⟨s, hs, he⟩
    split at he
    · exact ⟨s, hs, ‹_›, he⟩
    · cases he
  · rintro ⟨s, hs, hg, he⟩
    exact ⟨s, hs, by rw [if_pos hg, he]⟩

theorem generation_of_get? (h : r.get? k = some e) : r.generation k.index = k.generation := by
  obtain ⟨s, hs, hg, -⟩ := get?_eq_some_iff.mp h
  rw [generation_of_slot? hs, hg]

theorem index_lt_of_get? (h : r.get? k = some e) : k.index.toNat < r.slots.size := by
  obtain ⟨s, hs, -⟩ := get?_eq_some_iff.mp h
  exact slot?_isSome.mp (Option.isSome_of_eq_some hs)

theorem keyAt?_eq_some_iff :
    r.keyAt? i = some k ↔ k.index = i ∧ ∃ s, r.slot? i = some s ∧ s.generation = k.generation := by
  obtain ⟨j, g⟩ := k
  simp only [keyAt?, Option.map_eq_some_iff, Key.mk.injEq]
  constructor
  · rintro ⟨s, hs, rfl, rfl⟩
    exact ⟨rfl, s, hs, rfl⟩
  · rintro ⟨rfl, s, hs, rfl⟩
    exact ⟨s, hs, rfl, rfl⟩

theorem keyOf?_eq_some_iff :
    r.keyOf? fd = some k ↔ r.index[fd]? = some k.index ∧
      ∃ s, r.slot? k.index = some s ∧ s.generation = k.generation := by
  simp only [keyOf?, Option.bind_eq_some_iff, keyAt?_eq_some_iff]
  constructor
  · rintro ⟨i, hi, rfl, hs⟩
    exact ⟨hi, hs⟩
  · rintro ⟨hi, hs⟩
    exact ⟨k.index, hi, rfl, hs⟩

theorem contains_iff : r.contains fd = true ↔ ∃ i, r.index[fd]? = some i := by
  rw [contains, Std.TreeMap.contains_eq_isSome_getElem?, Option.isSome_iff_exists]

theorem contains_eq_false_iff : r.contains fd = false ↔ r.index[fd]? = none := by
  rw [contains, Std.TreeMap.contains_eq_isSome_getElem?, Option.isSome_eq_false_iff,
    Option.isNone_iff_eq_none]

theorem keyOf?_eq_none (h : r.contains fd = false) : r.keyOf? fd = none := by
  rw [keyOf?, contains_eq_false_iff.mp h, Option.bind_none]

theorem ne_of_keyOf? {fd' : Descriptor} (absent : r.contains fd = false)
    (found : r.keyOf? fd' = some k) : fd' ≠ fd := by
  rintro rfl
  rw [keyOf?_eq_none absent] at found
  cases found

theorem contains_empty : Registry.empty.contains fd = false :=
  contains_eq_false_iff.mpr Std.TreeMap.getElem?_emptyc

theorem get?_empty : Registry.empty.get? k = none := rfl

theorem keyOf?_empty : Registry.empty.keyOf? fd = none := by
  have h : Registry.empty.index[fd]? = none := Std.TreeMap.getElem?_emptyc
  rw [keyOf?, h, Option.bind_none]

/-! ### Changing a registration in place -/

@[simp] theorem index_modify (f : Registration → Registration) :
    (r.modify k f).index = r.index := rfl
@[simp] theorem free_modify (f : Registration → Registration) :
    (r.modify k f).free = r.free := rfl

@[simp] theorem size_slots_modify (f : Registration → Registration) :
    (r.modify k f).slots.size = r.slots.size := size_slots_modifySlot _

theorem slot?_modify (f : Registration → Registration) :
    (r.modify k f).slot? j = (r.slot? j).map fun s =>
      if k.index = j ∧ s.generation = k.generation then { s with entry := s.entry.map f }
      else s := by
  rw [modify, slot?_modifySlot]
  by_cases hj : k.index = j
  · simp only [hj, true_and, if_true]
  · simp only [hj, false_and, if_false, Option.map_id']

@[simp] theorem generation_modify (f : Registration → Registration) :
    (r.modify k f).generation i = r.generation i := by
  rw [generation, generation, slot?_modify]
  cases r.slot? i with
  | none => rfl
  | some s =>
      simp only [Option.map_some, Option.elim_some]
      split <;> rfl

theorem get?_modify (f : Registration → Registration) (k' : Key) :
    (r.modify k f).get? k' = if k' = k then (r.get? k').map f else r.get? k' := by
  obtain ⟨i, g⟩ := k
  obtain ⟨j, g'⟩ := k'
  simp only [get?, slot?_modify, Key.mk.injEq]
  cases r.slot? j with
  | none => simp only [Option.map_none, Option.bind_none, ite_self]
  | some s =>
      simp only [Option.map_some, Option.bind_some]
      by_cases hs : s.generation = g'
      · by_cases hk : i = j ∧ s.generation = g
        · obtain ⟨rfl, rfl⟩ := hk
          simp only [and_self, if_true, hs]
        · have hk' : ¬(j = i ∧ g' = g) := fun h => hk ⟨h.1.symm, hs.trans h.2⟩
          rw [if_neg hk, if_neg hk', if_pos hs]
      · have hs' : (if i = j ∧ s.generation = g then { s with entry := s.entry.map f }
            else s).generation ≠ g' := by
          split <;> exact hs
        rw [if_neg hs', if_neg hs, Option.map_none, ite_self]

@[simp] theorem keyOf?_modify (f : Registration → Registration) :
    (r.modify k f).keyOf? fd = r.keyOf? fd := by
  ext k'
  simp only [keyOf?_eq_some_iff, index_modify, slot?_modify, Option.map_eq_some_iff]
  refine and_congr_right fun _ => ?_
  constructor
  · rintro ⟨_, ⟨s, hs, rfl⟩, hg⟩
    refine ⟨s, hs, ?_⟩
    split at hg <;> exact hg
  · rintro ⟨s, hs, hg⟩
    refine ⟨_, ⟨s, hs, rfl⟩, ?_⟩
    split <;> exact hg

theorem find?_modify (f : Registration → Registration) :
    (r.modify k f).find? fd = if r.keyOf? fd = some k then (r.find? fd).map f else r.find? fd := by
  rw [find?, keyOf?_modify, find?]
  cases r.keyOf? fd with
  | none => rfl
  | some k' => simp only [Option.bind_some, get?_modify, Option.some.injEq]

end Multiplexer.Registry

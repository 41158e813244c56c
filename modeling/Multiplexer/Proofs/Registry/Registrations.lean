import Multiplexer.Proofs.Registry.WellFormed

/-! The registrations as a list, in slot order: what the owner of a registry can count and compare. -/
namespace Multiplexer.Registry

variable {r : Registry} {k : Key} {e : Registration} {fd : Descriptor}

theorem WellFormed.slot?_position (wf : r.WellFormed) {i : Nat} (h : i < r.slots.size) :
    r.slot? i.toUInt32 = some r.slots[i] ∧ i.toUInt32.toNat = i := by
  have position : i.toUInt32.toNat = i := by
    rw [Nat.toUInt32_eq, UInt32.toNat_ofNat']
    exact Nat.mod_eq_of_lt (h.trans_le wf.bounded)
  exact ⟨by rw [slot?, position, Array.getElem?_eq_getElem h], position⟩

/-- The registrations listed are those that some key opens. -/
theorem WellFormed.mem_entries (wf : r.WellFormed) : (k, e) ∈ r.entries ↔ r.get? k = some e := by
  obtain ⟨i, g⟩ := k
  simp only [entries, List.mem_filterMap, Prod.exists, List.mem_zipIdx_iff_getElem?,
    Array.getElem?_toList, Option.map_eq_some_iff, Prod.mk.injEq, Key.mk.injEq, get?_eq_some_iff]
  constructor
  · rintro ⟨s, n, hs, e', he, ⟨rfl, rfl⟩, rfl⟩
    obtain ⟨bound, rfl⟩ := Array.getElem?_eq_some_iff.mp hs
    exact ⟨_, (wf.slot?_position bound).1, rfl, he⟩
  · rintro ⟨s, hs, rfl, he⟩
    exact ⟨s, i.toNat, hs, e, he, ⟨by rw [Nat.toUInt32_eq, UInt32.ofNat_toNat], rfl⟩, rfl⟩

/-- The registrations are listed slot by slot. -/
theorem WellFormed.entries_ordered (wf : r.WellFormed) :
    r.entries.Pairwise fun a b => a.1.index.toNat < b.1.index.toNat := by
  rw [entries, List.pairwise_filterMap, List.pairwise_iff_getElem]
  intro i j hi hj below a ha b hb
  rw [List.length_zipIdx, Array.length_toList] at hi hj
  simp only [List.getElem_zipIdx, Nat.zero_add, Option.map_eq_some_iff] at ha hb
  obtain ⟨_, -, rfl⟩ := ha
  obtain ⟨_, -, rfl⟩ := hb
  rw [(wf.slot?_position hi).2, (wf.slot?_position hj).2]
  exact below

def registrations (r : Registry) : List (Descriptor × Interest × Token) :=
  r.entries.map fun (_, e) => (e.descriptor, e.interest, e.token)

/-- What the caller has asked of a descriptor. -/
def asked (r : Registry) (fd : Descriptor) : Option (Interest × Token) :=
  (r.find? fd).map fun e => (e.interest, e.token)

theorem descriptors_eq (r : Registry) :
    r.registrations.map (·.1) = r.slots.toList.filterMap fun s => s.entry.map (·.descriptor) := by
  have positions := List.zipIdx_map_fst 0 r.slots.toList
  rw [registrations, entries, List.map_map, List.map_filterMap]
  nth_rewrite 2 [← positions]
  rw [List.filterMap_map]
  refine List.filterMap_congr fun p _ => ?_
  simp only [Option.map_map, Function.comp_def]

/-- A change in place leaves every descriptor where it is. -/
theorem descriptors_modify (r : Registry) (k : Key) {f : Registration → Registration}
    (keeps : ∀ e, (f e).descriptor = e.descriptor) :
    (r.modify k f).registrations.map (·.1) = r.registrations.map (·.1) := by
  have same : (r.modify k f).slots.toList.map (fun s => s.entry.map (·.descriptor)) =
      r.slots.toList.map fun s => s.entry.map (·.descriptor) := by
    ext i d
    simp only [modify, modifySlot, Array.toList_modify, List.getElem?_map, List.getElem?_modify,
      Option.map_eq_map, Option.map_map]
    refine iff_of_eq (congrArg (Option.map · r.slots.toList[i]? = some d) (funext fun s => ?_))
    simp only [Function.comp_def]
    split
    · split
      · simp only [Option.map_map, Function.comp_def, keeps]
      · rfl
    · rfl
  have listed : ∀ slots : List Slot, (slots.filterMap fun s => s.entry.map (·.descriptor)) =
      (slots.map fun s => s.entry.map (·.descriptor)).filterMap id := by
    intro slots
    rw [List.filterMap_map]
    rfl
  rw [descriptors_eq, descriptors_eq, listed, listed, same]

theorem WellFormed.nodup_descriptors (wf : r.WellFormed) :
    (r.registrations.map (·.1)).Nodup := by
  rw [descriptors_eq, List.Nodup, List.pairwise_filterMap, List.pairwise_iff_getElem]
  intro i j hi hj below d hd d' hd' same
  obtain ⟨e, he, rfl⟩ := Option.map_eq_some_iff.mp hd
  obtain ⟨e', he', rfl⟩ := Option.map_eq_some_iff.mp hd'
  obtain ⟨slot, position⟩ := wf.slot?_position hi
  obtain ⟨slot', position'⟩ := wf.slot?_position hj
  have found := wf.indexed slot he
  rw [same, wf.indexed slot' he'] at found
  have meet := congrArg UInt32.toNat (Option.some.inj found)
  omega

theorem WellFormed.mem_registrations (wf : r.WellFormed) {v : Interest × Token} :
    (fd, v) ∈ r.registrations ↔ r.asked fd = some v := by
  simp only [registrations, asked, List.mem_map, Option.map_eq_some_iff, wf.find?_eq_some_iff]
  constructor
  · rintro ⟨⟨k, e⟩, mem, same⟩
    cases same
    exact ⟨e, ⟨k, wf.mem_entries.mp mem, rfl⟩, rfl⟩
  · rintro ⟨e, ⟨k, opened, rfl⟩, rfl⟩
    exact ⟨(k, e), wf.mem_entries.mpr opened, rfl⟩

/-- The index holds the same descriptors, so it has as many. -/
theorem WellFormed.size_eq (wf : r.WellFormed) : r.size = r.registrations.length := by
  have same : r.index.keys.Perm (r.registrations.map (·.1)) := by
    refine (List.perm_ext_iff_of_nodup Std.TreeMap.nodup_keys wf.nodup_descriptors).mpr fun fd => ?_
    rw [Std.TreeMap.mem_keys, ← Std.TreeMap.contains_iff_mem]
    change r.contains fd = true ↔ _
    rw [wf.contains_eq_isSome]
    simp only [List.mem_map, Prod.exists, exists_and_right, exists_eq_right, wf.mem_registrations,
      asked, Option.map_eq_some_iff, Option.isSome_iff_exists]
    exact ⟨fun ⟨e, he⟩ => ⟨_, _, e, he, rfl⟩, fun ⟨_, _, e, he, _⟩ => ⟨e, he⟩⟩
  rw [size, ← Std.TreeMap.length_keys, same.length_eq, List.length_map]

end Multiplexer.Registry

import Multiplexer.Proofs.Registry.Operations

/-! Registrations together with their keys: what a facility hands to the kernel for a descriptor is
made of the two. -/
namespace Multiplexer.Registry

/-- The registration of a descriptor, and the key that opens it now. -/
def keyed? (r : Registry) (fd : Descriptor) : Option (Key × Registration) :=
  (r.keyOf? fd).bind fun k => (r.get? k).map (k, ·)

variable {r r' : Registry} {k k' : Key} {e : Registration} {fd : Descriptor}

theorem keyed?_empty : Registry.empty.keyed? fd = none := by
  rw [keyed?, keyOf?_empty, Option.bind_none]

theorem keyed?_of_keyOf?_eq_none (absent : r.keyOf? fd = none) : r.keyed? fd = none := by
  rw [keyed?, absent, Option.bind_none]

theorem WellFormed.keyed?_eq_some_iff (wf : r.WellFormed) :
    r.keyed? fd = some (k, e) ↔ r.get? k = some e ∧ e.descriptor = fd := by
  simp only [keyed?, Option.bind_eq_some_iff, Option.map_eq_some_iff, Prod.mk.injEq,
    wf.keyOf?_eq_some_iff]
  constructor
  · rintro ⟨_, ⟨e', opened', own⟩, _, opened, rfl, rfl⟩
    cases opened.symm.trans opened'
    exact ⟨opened, own⟩
  · rintro ⟨opened, own⟩
    exact ⟨k, ⟨e, opened, own⟩, e, opened, rfl, rfl⟩

theorem WellFormed.keyed?_of_get? (wf : r.WellFormed) (opened : r.get? k = some e) :
    r.keyed? e.descriptor = some (k, e) := wf.keyed?_eq_some_iff.mpr ⟨opened, rfl⟩

theorem WellFormed.find?_eq_keyed? (wf : r.WellFormed) : r.find? fd = (r.keyed? fd).map (·.2) := by
  ext e
  simp only [wf.find?_eq_some_iff, Option.map_eq_some_iff, Prod.exists, wf.keyed?_eq_some_iff,
    exists_eq_right]

theorem Inserted.keyed? (ins : Inserted r e k r') (wf : r.WellFormed) (fd : Descriptor) :
    r'.keyed? fd = if fd = e.descriptor then some (k, e) else r.keyed? fd := by
  by_cases same : fd = e.descriptor
  · rw [if_pos same, same, (ins.wellFormed wf).keyed?_of_get? ins.get?_self]
  · ext ⟨k', e'⟩
    rw [if_neg same, (ins.wellFormed wf).keyed?_eq_some_iff, wf.keyed?_eq_some_iff, ins.get?]
    refine and_congr_left fun own => ?_
    by_cases new : k' = k
    · rw [if_pos new, new, ins.get?_key_eq_none]
      refine iff_of_false (fun placed => same ?_) nofun
      cases placed
      exact own.symm
    · rw [if_neg new]

theorem Removed.keyed? (rem : Removed r e k r') (wf : r.WellFormed) (fd : Descriptor) :
    r'.keyed? fd = if fd = e.descriptor then none else r.keyed? fd := by
  by_cases same : fd = e.descriptor
  · rw [if_pos same, keyed?_of_keyOf?_eq_none]
    rw [Registry.keyOf?, rem.index, same, Std.TreeMap.getElem?_erase_self, Option.bind_none]
  · ext ⟨k', e'⟩
    rw [if_neg same, (rem.wellFormed wf).keyed?_eq_some_iff, wf.keyed?_eq_some_iff, rem.get?]
    refine and_congr_left fun own => ?_
    by_cases void : k' = k
    · rw [if_pos void, void, rem.opened]
      refine iff_of_false (Option.some_ne_none _).symm fun opened => same ?_
      cases opened
      exact own.symm
    · rw [if_neg void]

theorem Rekeyed.keyed? (rek : Rekeyed r e k k' r') (wf : r.WellFormed) (fd : Descriptor) :
    r'.keyed? fd = if fd = e.descriptor then some (k', e) else r.keyed? fd := by
  by_cases same : fd = e.descriptor
  · rw [if_pos same, same, (rek.wellFormed wf).keyed?_of_get? rek.get?_self]
  · ext ⟨k'', e''⟩
    rw [if_neg same, (rek.wellFormed wf).keyed?_eq_some_iff, wf.keyed?_eq_some_iff, rek.get?]
    refine and_congr_left fun own => ?_
    have other : some e ≠ some e'' := by
      rintro ⟨⟩
      exact same own.symm
    by_cases new : k'' = k'
    · rw [if_pos new, new, rek.get?_key_eq_none]
      exact iff_of_false other nofun
    · rw [if_neg new]
      by_cases void : k'' = k
      · rw [if_pos void, void, rek.opened]
        exact iff_of_false nofun other
      · rw [if_neg void]

theorem keyed?_modify (f : Registration → Registration) :
    (r.modify k f).keyed? fd =
      (r.keyed? fd).map fun (k', e) => (k', if k' = k then f e else e) := by
  simp only [keyed?, keyOf?_modify, get?_modify]
  cases r.keyOf? fd with
  | none => rfl
  | some k' =>
      simp only [Option.bind_some]
      by_cases own : k' = k
      · subst own
        simp only [if_true, Option.map_map, Function.comp_def]
      · simp only [if_neg own, Option.map_map, Function.comp_def]

theorem WellFormed.keyed?_modify_self (wf : r.WellFormed) (opened : r.get? k = some e)
    (f : Registration → Registration) : (r.modify k f).keyed? e.descriptor = some (k, f e) := by
  rw [keyed?_modify, wf.keyed?_of_get? opened, Option.map_some]
  exact congrArg (fun e' => some (k, e')) (if_pos rfl)

theorem WellFormed.keyed?_modify_other (wf : r.WellFormed) (opened : r.get? k = some e)
    (other : fd ≠ e.descriptor) (f : Registration → Registration) :
    (r.modify k f).keyed? fd = r.keyed? fd := by
  rw [keyed?_modify]
  refine (Option.map_congr fun pair found => ?_).trans Option.map_id'
  obtain ⟨k', e'⟩ := pair
  obtain ⟨opened', own⟩ := wf.keyed?_eq_some_iff.mp found
  have void : k' ≠ k := by
    rintro rfl
    cases opened.symm.trans opened'
    exact other own.symm
  exact congrArg (k', ·) (if_neg void)

/-- Taking back an insertion leaves what there was. -/
theorem Inserted.keyed?_discard (ins : Inserted r e k r') (wf : r.WellFormed) (fd : Descriptor) :
    (r'.discard e.descriptor).keyed? fd = r.keyed? fd := by
  rw [(ins.discard wf).keyed? (ins.wellFormed wf), ins.keyed? wf]
  by_cases same : fd = e.descriptor
  · have absent : r.keyOf? fd = none := by
      rw [same, Registry.keyOf?, ins.absent, Option.bind_none]
    rw [if_pos same, keyed?_of_keyOf?_eq_none absent]
  · rw [if_neg same, if_neg same]

/-! ### Whom a key stands for -/

/-- The key opens a registration of the descriptor, with this token. -/
def Holds (r : Registry) (k : Key) (fd : Descriptor) (token : Token) : Prop :=
  ∃ e, r.get? k = some e ∧ e.descriptor = fd ∧ e.token = token

variable {token : Token}

theorem Holds.keyOf? (holds : r.Holds k fd token) (wf : r.WellFormed) : r.keyOf? fd = some k := by
  obtain ⟨e, opened, rfl, -⟩ := holds
  exact wf.keyOf?_of_get? opened

theorem Holds.generation (holds : r.Holds k fd token) : r.generation k.index = k.generation := by
  obtain ⟨e, opened, -⟩ := holds
  exact generation_of_get? opened

theorem Inserted.ne_of_holds (ins : Inserted r e k r') (holds : r.Holds k' fd token) : k' ≠ k := by
  obtain ⟨e', opened, -⟩ := holds
  rintro rfl
  cases ins.get?_key_eq_none.symm.trans opened

theorem Inserted.holds (ins : Inserted r e k r') (holds : r.Holds k' fd token) :
    r'.Holds k' fd token := by
  have other := ins.ne_of_holds holds
  obtain ⟨e', opened, named⟩ := holds
  exact ⟨e', by rw [ins.get?, if_neg other, opened], named⟩

theorem Removed.holds (rem : Removed r e k r') (other : k' ≠ k) (holds : r.Holds k' fd token) :
    r'.Holds k' fd token := by
  obtain ⟨e', opened, named⟩ := holds
  exact ⟨e', by rw [rem.get?, if_neg other, opened], named⟩

theorem Rekeyed.holds (rek : Rekeyed r e k k' r') {k'' : Key} (other : k'' ≠ k)
    (holds : r.Holds k'' fd token) : r'.Holds k'' fd token := by
  obtain ⟨e', opened, named⟩ := holds
  have old : k'' ≠ k' := by
    rintro rfl
    cases rek.get?_key_eq_none.symm.trans opened
  exact ⟨e', by rw [rek.get?, if_neg old, if_neg other, opened], named⟩

theorem Holds.modify (holds : r.Holds k fd token) (k' : Key) {f : Registration → Registration}
    (keeps : ∀ e, (f e).descriptor = e.descriptor ∧ (f e).token = e.token) :
    (r.modify k' f).Holds k fd token := by
  obtain ⟨e, opened, rfl, rfl⟩ := holds
  by_cases same : k = k'
  · exact ⟨f e, by rw [get?_modify, if_pos same, opened, Option.map_some], keeps e⟩
  · exact ⟨e, by rw [get?_modify, if_neg same, opened], rfl, rfl⟩

theorem Reflagged.holds (ref : Reflagged r r') (holds : r.Holds k fd token) :
    r'.Holds k fd token := by
  induction ref with
  | refl => exact holds
  | flag k' _ _ ih => exact ih.modify k' fun _ => ⟨rfl, rfl⟩

end Multiplexer.Registry

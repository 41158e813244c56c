import Multiplexer.Proofs.Registry.Commands
import Multiplexer.Proofs.Registry.Keyed

/-! How long keys stay void. A removal and a rekeying move one slot to its next generation, and no
other command moves any. Generations are numbers of 32 bits, so how often its slot has been retired
since a key was issued tells whether the key opens the slot. -/
namespace Multiplexer

/-- The generations of one slot repeat after this many turns. -/
def generations : Nat := 4294967296

theorem add_ofNat_eq_self_iff {g : UInt32} {n : Nat} :
    g + UInt32.ofNat n = g ↔ generations ∣ n := by
  have small := g.toNat_lt
  rw [← UInt32.toNat_inj, UInt32.toNat_add, UInt32.toNat_ofNat', generations]
  omega

namespace Registry

/-- With this reply the command has taken out the registration in slot `i`, or has given it another
key. -/
def retires (r : Registry) (i : UInt32) : Command → Reply → Bool
  | .remove fd, .removed _ => r.index[fd]? == some i
  | .rekey fd, .issued _ => r.index[fd]? == some i
  | _, _ => false

def retirements (r : Registry) (i : UInt32) : List Command → Nat
  | [] => 0
  | c :: cs => (r.retires i c (r.serve c).1).toNat + retirements (r.serve c).2 i cs

variable {r r' : Registry} {c d : Command} {reply : Reply} {i : UInt32} {k k' : Key}
  {fd : Descriptor} {token : Token} {e : Registration} {b : Nat}

/-! ### One command -/

theorem WellFormed.index_of_get? (wf : r.WellFormed) (opened : r.get? k = some e) :
    r.index[e.descriptor]? = some k.index := by
  obtain ⟨s, slot, -, entry⟩ := get?_eq_some_iff.mp opened
  exact wf.indexed slot entry

theorem WellFormed.next_generation (wf : r.WellFormed) (opened : r.get? k = some e) (i : UInt32) :
    (if i = k.index then r.generation i + 1 else r.generation i) =
      r.generation i + UInt32.ofNat (r.index[e.descriptor]? == some i).toNat := by
  rw [wf.index_of_get? opened]
  by_cases own : i = k.index
  · rw [if_pos own, own, beq_self_eq_true]
    rfl
  · rw [if_neg own, beq_false_of_ne fun same => own (Option.some.inj same).symm]
    exact (UInt32.add_zero _).symm

/-- A slot moves to its next generation when it is retired, and only then. -/
theorem Served.generation_eq (served : Served r c reply r') (wf : r.WellFormed) (i : UInt32) :
    r'.generation i = r.generation i + UInt32.ofNat (r.retires i c reply).toNat := by
  cases served with
  | duplicate => exact (UInt32.add_zero _).symm
  | inserted ins => exact (ins.generation_eq i).trans (UInt32.add_zero _).symm
  | unremoved => exact (UInt32.add_zero _).symm
  | removed rem => exact (rem.generation_eq i).trans (wf.next_generation rem.opened i)
  | unrekeyed => exact (UInt32.add_zero _).symm
  | rekeyed rek => exact (rek.generation_eq i).trans (wf.next_generation rek.opened i)
  | updated => exact (generation_modify _).trans (UInt32.add_zero _).symm
  | missed => exact (UInt32.add_zero _).symm
  | updatedOf => exact (generation_modify _).trans (UInt32.add_zero _).symm

/-- A key stands for its registration until its slot is retired. -/
theorem Served.holds (served : Served r c reply r') (wf : r.WellFormed)
    (holds : r.Holds k fd token) (kept : r.retires k.index c reply = false) :
    r'.Holds k fd token := by
  cases served with
  | duplicate => exact holds
  | inserted ins => exact ins.holds holds
  | unremoved => exact holds
  | removed rem =>
      refine rem.holds ?_ holds
      rintro rfl
      rw [retires, wf.index_of_get? rem.opened, beq_self_eq_true] at kept
      cases kept
  | unrekeyed => exact holds
  | rekeyed rek =>
      refine rek.holds ?_ holds
      rintro rfl
      rw [retires, wf.index_of_get? rek.opened, beq_self_eq_true] at kept
      cases kept
  | updated => exact holds.modify _ fun _ => ⟨rfl, rfl⟩
  | missed => exact holds
  | updatedOf => exact holds.modify _ fun _ => ⟨rfl, rfl⟩

/-- The command asks for a key of this registration. -/
def Command.Requests (c : Command) (fd : Descriptor) (token : Token) : Prop :=
  c = .rekey fd ∨ ∃ interest, c = .insert fd interest token

theorem Served.issued (served : Served r c (.issued k) r') :
    ∃ fd token, c.Requests fd token ∧ r'.Holds k fd token := by
  cases served with
  | inserted ins => exact ⟨_, _, .inr ⟨_, rfl⟩, _, ins.get?_self, rfl, rfl⟩
  | rekeyed rek => exact ⟨_, _, .inl rfl, _, rek.get?_self, rfl, rfl⟩

/-- While a key stands for a registration, another key for its slot comes from retiring it only. -/
theorem Served.retires_of_issued (served : Served r c (.issued k') r') (wf : r.WellFormed)
    (holds : r.Holds k fd token) (same : k'.index = k.index) :
    r.retires k.index c (.issued k') = true := by
  cases served with
  | inserted ins =>
      obtain ⟨e, opened, -⟩ := holds
      obtain ⟨s, slot, -, entry⟩ := get?_eq_some_iff.mp opened
      cases (ins.unfilled (same ▸ slot)).symm.trans entry
  | rekeyed rek =>
      have own : k'.index = _ := congrArg Key.index rek.key
      rw [retires, wf.index_of_get? rek.opened, ← own, same, beq_self_eq_true]

/-! ### Any number of commands -/

theorem retirements_append (r : Registry) (i : UInt32) (cs ds : List Command) :
    r.retirements i (cs ++ ds) = r.retirements i cs + (r.after cs).retirements i ds := by
  induction cs generalizing r with
  | nil => exact (Nat.zero_add _).symm
  | cons c cs ih => rw [List.cons_append, retirements, ih, retirements, after_cons, Nat.add_assoc]

theorem WellFormed.generation_after (wf : r.WellFormed) (i : UInt32) (cs : List Command) :
    (r.after cs).generation i = r.generation i + UInt32.ofNat (r.retirements i cs) := by
  induction cs generalizing r with
  | nil => exact (UInt32.add_zero _).symm
  | cons c cs ih =>
      have served := wf.serve_served c
      rw [after_cons, ih (served.wellFormed wf), served.generation_eq wf, retirements,
        UInt32.ofNat_add, UInt32.add_assoc]

theorem WellFormed.holds_after (wf : r.WellFormed) (holds : r.Holds k fd token)
    {cs : List Command} (kept : r.retirements k.index cs = 0) : (r.after cs).Holds k fd token := by
  induction cs generalizing r with
  | nil => exact holds
  | cons c cs ih =>
      obtain ⟨first, rest⟩ := Nat.add_eq_zero_iff.mp kept
      have served := wf.serve_served c
      exact ih (served.wellFormed wf)
        (served.holds wf holds (Bool.toNat_eq_zero.mp first)) rest

/-- A key opens what its slot holds whenever the slot is back at the generation of the key. -/
theorem get?_iff_of_generation (moved : r.generation k.index = k.generation + UInt32.ofNat b) :
    r.get? k = some e ↔
      generations ∣ b ∧ ∃ s, r.slot? k.index = some s ∧ s.entry = some e := by
  rw [get?_eq_some_iff]
  constructor
  · rintro ⟨s, slot, same, entry⟩
    rw [generation_of_slot? slot, same] at moved
    exact ⟨add_ofNat_eq_self_iff.mp moved.symm, s, slot, entry⟩
  · rintro ⟨back, s, slot, entry⟩
    rw [generation_of_slot? slot, add_ofNat_eq_self_iff.mpr back] at moved
    exact ⟨s, slot, moved, entry⟩

/-- A key that is issued while fewer retirements than there are generations lie behind another key
for the same slot is not that key. -/
theorem WellFormed.issued_ne (wf : r.WellFormed) (holds : r.Holds k fd token) {ds : List Command}
    (issued : ((r.after ds).serve d).1 = .issued k')
    (near : k'.index = k.index → r.retirements k.index (ds ++ [d]) < generations) : k' ≠ k := by
  rintro rfl
  have wf' := wf.after ds
  have served := wf'.serve_served d
  rw [issued] at served
  have count : r.retirements k'.index (ds ++ [d]) = r.retirements k'.index ds +
      ((r.after ds).retires k'.index d (.issued k')).toNat := by
    rw [retirements_append, retirements, issued]
    rfl
  -- The slot is back at the generation that it had.
  obtain ⟨_, _, -, holds'⟩ := served.issued
  have back := holds'.generation
  rw [served.generation_eq wf', wf.generation_after, UInt32.add_assoc, ← UInt32.ofNat_add, ← count,
    holds.generation, add_ofNat_eq_self_iff] at back
  have none := Nat.eq_zero_of_dvd_of_lt back (near rfl)
  rw [count, Nat.add_eq_zero_iff] at none
  have retired := served.retires_of_issued wf' (wf.holds_after holds none.1) rfl
  rw [retired] at none
  cases none.2

/-- A key that some command has issued opens, after any further commands, exactly the registration
that its slot holds then, provided the generations of the slot have come round since; if the slot
was never retired that is the registration it was issued for. So the key of a retired registration
is void until they have come round, and up to then differs from every key issued. -/
theorem keys_go_stale (cs : List Command) (c : Command) (k : Key)
    (issued : ((empty.after cs).serve c).1 = .issued k) (ds : List Command) :
    let issuing := ((empty.after cs).serve c).2
    let r := issuing.after ds
    let b := issuing.retirements k.index ds
    (∀ e, r.get? k = some e ↔
      generations ∣ b ∧ ∃ s, r.slot? k.index = some s ∧ s.entry = some e) ∧
    (b = 0 → ∃ fd token, c.Requests fd token ∧ issuing.Holds k fd token ∧ r.Holds k fd token) ∧
    (0 < b → b < generations → r.get? k = none) ∧
    ∀ d k', (r.serve d).1 = .issued k' →
      (k'.index = k.index → issuing.retirements k.index (ds ++ [d]) < generations) →
      k'.pack ≠ k.pack := by
  intro issuing r b
  have before := wellFormed_empty.after cs
  have served := before.serve_served c
  rw [issued] at served
  have wf : issuing.WellFormed := served.wellFormed before
  obtain ⟨fd, token, requested, holds⟩ := served.issued
  have moved : r.generation k.index = k.generation + UInt32.ofNat b := by
    rw [wf.generation_after, holds.generation]
  refine ⟨fun e => get?_iff_of_generation moved, ?_, ?_, ?_⟩
  · intro kept
    exact ⟨fd, token, requested, holds, wf.holds_after holds kept⟩
  · intro retired few
    rw [Option.eq_none_iff_forall_ne_some]
    intro e opened
    have back := ((get?_iff_of_generation moved).mp opened).1
    exact absurd (Nat.le_of_dvd retired back) (Nat.not_le_of_lt few)
  · intro d k' again near same
    exact wf.issued_ne holds again near (Key.pack_injective same)

/-- The slot of a removed registration is recycled and rekeyed; the first key stays void. -/
theorem recycled_slot_rejects_key :
    ((empty.after [.insert 5 { read := true } 0]).serve (.insert 7 { read := true } 1)).1 =
      .issued ⟨1, 0⟩ ∧
    let r := empty.after [.insert 5 { read := true } 0, .insert 7 { read := true } 1, .remove 7,
      .insert 8 { write := true } 2, .rekey 8]
    r.keyOf? 8 = some ⟨1, 2⟩ ∧ r.get? ⟨1, 0⟩ = none ∧
      (r.serve (.rekey 8)).1 = .issued ⟨1, 3⟩ ∧ Key.pack ⟨1, 3⟩ ≠ Key.pack ⟨1, 0⟩ := by
  obtain ⟨-, -, void, distinct⟩ := keys_go_stale [.insert 5 { read := true } 0]
    (.insert 7 { read := true } 1) ⟨1, 0⟩ (by decide)
    [.remove 7, .insert 8 { write := true } 2, .rekey 8]
  exact ⟨by decide, by decide, void (by decide) (by decide), by decide,
    distinct (.rekey 8) ⟨1, 3⟩ (by decide) fun _ => by decide⟩

end Registry
end Multiplexer

import Multiplexer.Proofs.History.Generations

/-! To whom a key was issued. On every facility that leaves registrations under their keys, a key
issued to a descriptor opens the registration of that descriptor until it is removed, and nothing
from then on; until generations repeat it is never issued to another descriptor. -/
namespace Multiplexer

/-- The key was issued to the descriptor: it still opens its registration, or the slot has moved on
since. -/
def Registry.Issued (r : Registry) (k : Key) (fd : Descriptor) : Prop :=
  (∃ token, r.Holds k fd token) ∨ k.generation.toNat < (r.generation k.index).toNat

def Exchange.Removes (x : Exchange) (fd : Descriptor) : Prop :=
  x.operation = .remove fd ∧ x.answer = .returned (.ok ())

instance (answer : Answer) : Decidable (answer = .returned (.ok ())) :=
  match answer with
  | .returned (.ok ()) => isTrue rfl
  | .returned (.error _) => isFalse nofun
  | .polled _ => isFalse nofun

instance (x : Exchange) (fd : Descriptor) : Decidable (x.Removes fd) := instDecidableAnd

namespace Registry

variable {r r' : Registry} {k : Key} {fd : Descriptor} {token : Token} {e : Registration}

theorem Issued.descriptor_eq (issued : r.Issued k fd) (opened : r.get? k = some e) :
    e.descriptor = fd := by
  rcases issued with ⟨_, e', opened', same, -⟩ | passed
  · cases opened.symm.trans opened'
    exact same
  · rw [generation_of_get? opened] at passed
    exact absurd passed (Nat.lt_irrefl _)

/-- A key that is issued now was not issued before. -/
theorem Inserted.not_issued (ins : Inserted r e k r') : ¬ r.Issued k fd := by
  rintro (⟨_, e', opened, -⟩ | passed)
  · cases ins.get?_key_eq_none.symm.trans opened
  · rw [ins.generation] at passed
    exact absurd passed (Nat.lt_irrefl _)

end Registry

section

variable {b c : Backend} {t : Transcript} {op : Operation} {answer : Answer} {r : Registry}
  {k : Key} {fd : Descriptor} {token : Token} {x : Exchange} {xs : List Exchange}

theorem turns_le_append (i : UInt32) (xs ys : List Exchange) :
    turns i xs ≤ turns i (xs ++ ys) := by
  rw [turns_append]
  exact Nat.le_add_right _ _

/-- A registration stays under its key until it is removed. -/
theorem Effect.holds (h : Effect b t op answer r) (wf : b.registry.WellFormed)
    (settled : b.facility ≠ .ring) (holds : b.registry.Holds k fd token) :
    (op = .remove fd ∧ answer = .returned (.ok ())) ∨ r.Holds k fd token := by
  cases h with
  | refused => exact .inr holds
  | rolledBack hins =>
      have ins := wf.insert_inserted hins
      exact .inr ((ins.discard wf).holds (ins.ne_of_holds holds) (ins.holds holds))
  | added hins => exact .inr ((wf.insert_inserted hins).holds holds)
  | unmodified => exact .inr holds
  | modifyFailed => exact .inr holds
  | modified => exact .inr (holds.modify _ fun _ => ⟨rfl, rfl⟩)
  | rekeyed ring => exact absurd ring settled
  | unremoved => exact .inr holds
  | removed hrem =>
      obtain ⟨k', rfl, rem⟩ := wf.remove_eq_ok hrem
      by_cases same : k = k'
      · obtain ⟨e, opened, rfl, -⟩ := holds
        rw [same, rem.opened] at opened
        cases opened
        exact .inl ⟨rfl, rfl⟩
      · exact .inr (rem.holds same holds)
  | polled ref => exact .inr (ref.holds holds)
  | posted => exact .inr holds
  | woken => exact .inr holds

theorem Exchange.holds (x : Exchange) (sound : x.before.Sound) (settled : x.before.facility ≠ .ring)
    (holds : x.before.registry.Holds k fd token) :
    x.Removes fd ∨ x.after.registry.Holds k fd token :=
  (x.effect sound.wellFormed).1.holds sound.wellFormed settled holds

theorem Exchange.Removes.retires (removes : x.Removes fd)
    (known : x.before.registry.keyOf? fd = some k) : x.Retires k.pack :=
  .removed removes.1 removes.2 known

/-- An issued key stays with its descriptor, until generations repeat. -/
theorem Exchange.issued (x : Exchange) (sound : x.before.Sound)
    (settled : x.before.facility ≠ .ring)
    (few : (x.before.registry.generation k.index).toNat + turns k.index [x] < generations)
    (issued : x.before.registry.Issued k fd) : x.after.registry.Issued k fd := by
  have moved := x.toNat_generation sound few
  rcases issued with ⟨token, holds⟩ | passed
  · rcases x.holds sound settled holds with removes | kept
    · have retires := removes.retires (holds.keyOf? sound.wellFormed)
      have next := retires.generation sound
      rw [Key.unpack_pack] at next
      rw [turns_eq_one (next.2.trans (congrArg (· + 1) next.1.symm)), next.1] at moved
      exact .inr (by omega)
    · exact .inl ⟨token, kept⟩
  · exact .inr (by omega)

theorem Run.holds (run : Run b xs c) (sound : b.Sound) (settled : b.facility ≠ .ring)
    (unremoved : ∀ x ∈ xs, ¬ x.Removes fd) (holds : b.registry.Holds k fd token) :
    c.registry.Holds k fd token := by
  induction run with
  | start => exact holds
  | @step xs x before ih =>
      have still : x.before.facility ≠ .ring := (before.facility_eq sound).trans_ne settled
      have kept := ih fun y mem => unremoved y (List.mem_append_left _ mem)
      rcases x.holds (before.sound sound) still kept with removes | kept
      · exact absurd removes (unremoved x (List.mem_append_right _ (List.mem_singleton_self x)))
      · exact kept

end

end Multiplexer

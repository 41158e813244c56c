import Mathlib.Order.Bounds.Basic
import Multiplexer.Proofs.Registry.Registrations
import Multiplexer.Proofs.Registry.Staleness
import Multiplexer.Proofs.Ring.Operations

/-! How many slots a registry has. A slot is added only when all are filled, so there are as many as
there have been registrations at once, however many came and went. Keys name slots, so the data that
facilities keep for their own requests are no keys unless nearly all descriptors are registered at
once. -/
namespace Multiplexer

namespace Registry

/-- The numbers of descriptors that are registered at one time or another, on the way through the
commands. -/
def crowds (r : Registry) (cs : List Command) : Set Nat :=
  {n | ∃ ds, ds <+: cs ∧ (r.after ds).size = n}

/-- The commands hand out a key: a reply issues it, or a listing on the way shows it. -/
inductive HandsOut (r : Registry) (cs : List Command) (k : Key) : Prop
  | issued {ds d} : ds ++ [d] <+: cs → ((r.after ds).serve d).1 = .issued k → HandsOut r cs k
  | listed {ds e} : ds <+: cs → (k, e) ∈ (r.after ds).entries → HandsOut r cs k

variable {r r' : Registry} {c : Command} {reply : Reply} {k : Key} {e : Registration}

/-! ### One command -/

theorem WellFormed.size_le_slots (wf : r.WellFormed) : r.size ≤ r.slots.size := by
  have count := wf.size_slots
  unfold size
  omega

/-- A slot comes to those that are there only if it is needed. -/
theorem Inserted.size_slots_eq (ins : Inserted r e k r') (wf : r.WellFormed) :
    r'.slots.size = max r.slots.size r'.size := by
  have before := wf.size_slots
  have after := ins.size_slots
  cases ins.grown with
  | inl full =>
      have full' : r'.free = [] := by
        apply List.eq_nil_iff_forall_not_mem.mpr
        intro j mem
        have old := ((ins.free j).mp mem).1
        rw [full] at old
        cases old
      have more := size_insert_index ins.absent k.index
      rw [← ins.index] at more
      simp only [full, full', List.length_nil] at before after
      unfold size
      omega
  | inr same =>
      unfold size
      omega

theorem Served.size_slots_eq (served : Served r c reply r') (wf : r.WellFormed) :
    r'.slots.size = max r.slots.size r'.size := by
  have few := (served.wellFormed wf).size_le_slots
  have kept : r'.slots.size = r.slots.size → r'.slots.size = max r.slots.size r'.size := by
    intro same
    omega
  cases served with
  | duplicate => exact kept rfl
  | inserted ins => exact ins.size_slots_eq wf
  | unremoved => exact kept rfl
  | removed rem => exact kept rem.size_slots
  | unrekeyed => exact kept rfl
  | rekeyed rek => exact kept rek.size_slots
  | updated => exact kept (size_slots_modify _)
  | missed => exact kept rfl
  | updatedOf => exact kept (size_slots_modify _)

/-! ### Any number of commands -/

theorem after_snoc (r : Registry) (cs : List Command) (c : Command) :
    r.after (cs ++ [c]) = ((r.after cs).serve c).2 := List.foldl_concat ..

theorem crowds_nil (r : Registry) : r.crowds [] = {r.size} := by
  ext n
  simp [crowds, after, eq_comm]

theorem crowds_snoc (r : Registry) (cs : List Command) (c : Command) :
    r.crowds (cs ++ [c]) = Insert.insert (r.after (cs ++ [c])).size (r.crowds cs) := by
  ext n
  simp only [crowds, Set.mem_ofPred_eq, Set.mem_insert_iff, List.prefix_concat_iff, or_and_right,
    exists_or, exists_eq_left, eq_comm]

theorem crowds_mono {cs ds : List Command} (pre : ds <+: cs) : r.crowds ds ⊆ r.crowds cs := by
  intro n mem
  obtain ⟨es, pre', count⟩ := mem
  exact ⟨es, pre'.trans pre, count⟩

/-- A registry that starts with its slots filled has as many as were ever filled at once. -/
theorem WellFormed.slots_isGreatest (wf : r.WellFormed) (full : r.slots.size = r.size)
    (cs : List Command) : IsGreatest (r.crowds cs) (r.after cs).slots.size := by
  induction cs using List.reverseRecOn with
  | nil =>
      rw [crowds_nil, ← full]
      exact isGreatest_singleton
  | append_singleton cs c ih =>
      have wf' := wf.after cs
      rw [crowds_snoc, after_snoc, (wf'.serve_served c).size_slots_eq wf', max_comm]
      exact ih.insert _

/-- A key that was handed out names a slot that was there on the way. -/
theorem WellFormed.index_lt_of_handsOut (wf : r.WellFormed) {cs : List Command}
    (out : r.HandsOut cs k) : ∃ ds, ds <+: cs ∧ k.index.toNat < (r.after ds).slots.size := by
  cases out with
  | @issued ds d pre issued =>
      refine ⟨ds ++ [d], pre, ?_⟩
      have served := (wf.after ds).serve_served d
      rw [issued] at served
      obtain ⟨_, _, -, _, opened, -⟩ := served.issued
      rw [after_snoc]
      exact index_lt_of_get? opened
  | @listed ds e pre mem =>
      exact ⟨ds, pre, index_lt_of_get? ((wf.after ds).mem_entries.mp mem)⟩

/-- However many commands there are, the slots are as many as the descriptors that have been
registered at once. So as long as these are no more than there are slot numbers besides the reserved
ones, no key that is issued or listed packs into the data of a facility's own requests, whatever the
generations. -/
theorem slots_count_peak (cs : List Command) :
    IsGreatest (empty.crowds cs) (empty.after cs).slots.size ∧
      ((∀ n ∈ empty.crowds cs, n ≤ maxSlots - 3) →
        ∀ k, empty.HandsOut cs k → ¬ Ring.Reserved k.pack) := by
  have greatest := wellFormed_empty.slots_isGreatest rfl
  refine ⟨greatest cs, ?_⟩
  intro few k out
  obtain ⟨ds, pre, low⟩ := wellFormed_empty.index_lt_of_handsOut out
  have most := few _ (crowds_mono pre (greatest ds).1)
  exact Key.not_reserved_of_index_lt (low.trans_le most)

/-- Three registrations on two slots, and a key that was issued for the second slot again. -/
theorem recycled_slots_count_peak :
    let cs := [.insert 5 { read := true } 0, .insert 7 { read := true } 1, .remove 7,
      .insert 8 { write := true } 2, .rekey 8, .remove 5]
    (empty.after cs).slots.size = 2 ∧ (empty.after cs).size = 1 ∧
      (∀ n ∈ empty.crowds cs, n ≤ maxSlots - 3) ∧ empty.HandsOut cs ⟨1, 2⟩ ∧
      ¬ Ring.Reserved (Key.pack ⟨1, 2⟩) := by
  intro cs
  obtain ⟨greatest, unreserved⟩ := slots_count_peak cs
  have two : (empty.after cs).slots.size = 2 := by decide
  have few : ∀ n ∈ empty.crowds cs, n ≤ maxSlots - 3 := by
    intro n mem
    have most := greatest.2 mem
    unfold maxSlots
    omega
  have rekeyed : cs.take 4 ++ [.rekey 8] <+: cs := ⟨[.remove 5], rfl⟩
  have out : empty.HandsOut cs ⟨1, 2⟩ := .issued rekeyed (by decide)
  exact ⟨two, by decide, few, out, unreserved few _ out⟩

end Registry
end Multiplexer

import Mathlib.Order.Bounds.Basic
import Multiplexer.Proofs.Registry.Operations
import Multiplexer.Proofs.Registry.Registrations
import Multiplexer.Proofs.Select.Calls

/-! The sets of a select beside the registrations. A registered descriptor is in the sets of its
interest and nobody else is in any, but for the wakeup pipe's reader; the largest descriptor is kept
along, and found anew only when it leaves. -/
namespace Multiplexer

/-- What a set is for. -/
inductive Condition where
  | read
  | write
  | error
  deriving DecidableEq, Repr

def FdSets.of (s : FdSets) : Condition → FdSet
  | .read => s.read
  | .write => s.write
  | .error => s.error

def Interest.asks (i : Interest) : Condition → Bool
  | .read => i.read
  | .write => i.write
  | .error => i.error

theorem Interest.none_asks (c : Condition) : Interest.none.asks c = false := by
  cases c <;> rfl

variable {fd d w : Descriptor} {interest : Interest} {c : Condition}

/-- A descriptor is put into the sets of its interest and taken out of the others; the rest of each
set stays. -/
theorem FdSets.mem_apply {s : FdSets} :
    d ∈ (s.apply fd interest).of c ↔ if d = fd then interest.asks c = true else d ∈ s.of c := by
  have placed : ∀ {set : FdSet} {held : Bool},
      d ∈ (if held then set.insert fd else set.erase fd) ↔
        if d = fd then held = true else d ∈ set := by
    intro set held
    cases held with
    | true =>
        simp only [if_true, Std.TreeSet.mem_insert, Std.LawfulEqCmp.compare_eq_iff_eq]
        by_cases same : d = fd
        · simp only [same, true_or, if_true]
        · simp only [Ne.symm same, same, false_or, if_false]
    | false =>
        simp only [Bool.false_eq_true, if_false, Std.TreeSet.mem_erase,
          ne_eq, Std.LawfulEqCmp.compare_eq_iff_eq]
        by_cases same : d = fd
        · simp only [same, not_true, false_and, if_true]
        · simp only [Ne.symm same, same, not_false_iff, true_and, if_false]
  cases c with
  | read => exact placed
  | write => exact placed
  | error => exact placed

namespace BitmapSelect

variable {p p' : BitmapSelect} {r r' : Registry} {op : Operation} {t : Transcript} {answer : Answer}

/-- The descriptors that a wait is about. -/
def inUse (wakeup : Pipe) (r : Registry) : Set Descriptor :=
  {fd | fd = wakeup.reader ∨ r.contains fd = true}

/-- The sets and the largest descriptor are those of the registrations. Of the reader of the wakeup
pipe in the read set nothing is said. -/
structure Coherent (p : BitmapSelect) : Prop where
  mem_iff : ∀ {fd c}, ¬ (fd = p.wakeup.reader ∧ c = .read) →
    (fd ∈ p.watched.of c ↔ ∃ e, p.registry.find? fd = some e ∧ e.interest.asks c = true)
  top : IsGreatest (inUse p.wakeup p.registry) p.top
  reader : fitsFdSet p.wakeup.reader = true

theorem max_isGreatest {s : Set Descriptor} {a b : Descriptor} (h : IsGreatest s a) :
    IsGreatest (insert b s) (max a b) := by
  change IsGreatest _ (if a ≤ b then b else a)
  split
  · rename_i le
    refine ⟨Set.mem_insert b s, ?_⟩
    rintro d (rfl | mem)
    · exact Int32.le_refl d
    · exact Int32.le_trans (h.2 mem) le
  · rename_i lt
    refine ⟨Set.mem_insert_of_mem b h.1, ?_⟩
    rintro d (rfl | mem)
    · exact (Int32.le_total a d).resolve_left lt
    · exact h.2 mem

theorem le_max (a b : Descriptor) : a ≤ max a b := by
  have single : IsGreatest {a} a := ⟨rfl, fun d same => same ▸ Int32.le_refl d⟩
  exact (max_isGreatest single).2 (Set.mem_insert_of_mem b rfl)

theorem mem_inUse {wakeup : Pipe} :
    d ∈ inUse wakeup r ↔ d = wakeup.reader ∨ r.contains d = true := Iff.rfl

theorem topOf_isGreatest (wakeup : Pipe) (wf : r.WellFormed) :
    IsGreatest (inUse wakeup r) (topOf wakeup r) := by
  have scanned : ∀ entries : List (Key × Registration),
      IsGreatest (insert wakeup.reader {fd | ∃ entry ∈ entries, entry.2.descriptor = fd})
        (entries.foldl (fun top entry => max top entry.2.descriptor) wakeup.reader) := by
    intro entries
    induction entries using List.reverseRecOn with
    | nil => simp [IsGreatest, upperBounds]
    | append_singleton entries entry ih =>
        have more : {fd | ∃ other ∈ entries ++ [entry], other.2.descriptor = fd} =
            insert entry.2.descriptor {fd | ∃ other ∈ entries, other.2.descriptor = fd} := by
          ext d
          simp [or_and_right, exists_or, or_comm, eq_comm]
        rw [List.foldl_append, more, Set.insert_comm]
        exact max_isGreatest ih
  have found : inUse wakeup r =
      insert wakeup.reader {fd | ∃ entry ∈ r.entries, entry.2.descriptor = fd} := by
    ext d
    rw [mem_inUse, Set.mem_insert_iff, wf.contains_iff]
    simp [wf.keyOf?_eq_some_iff, wf.mem_entries]
  rw [found]
  exact scanned r.entries

theorem inUse_inserted {wakeup : Pipe} {e : Registration} {k : Key} (ins : r.Inserted e k r')
    (wf : r.WellFormed) : inUse wakeup r' = insert e.descriptor (inUse wakeup r) := by
  ext d
  rw [Set.mem_insert_iff, mem_inUse, mem_inUse, (ins.wellFormed wf).contains_eq_isSome,
    wf.contains_eq_isSome, ins.find? wf]
  by_cases same : d = e.descriptor
  · rw [if_pos same]
    exact iff_of_true (.inr rfl) (.inl same)
  · rw [if_neg same, or_iff_right same]

theorem mem_inUse_removed {wakeup : Pipe} {e : Registration} {k : Key} (rem : r.Removed e k r')
    (wf : r.WellFormed) : d ∈ inUse wakeup r' ↔
      d = wakeup.reader ∨ (d ≠ e.descriptor ∧ r.contains d = true) := by
  rw [mem_inUse, (rem.wellFormed wf).contains_eq_isSome, wf.contains_eq_isSome, rem.find? wf]
  by_cases same : d = e.descriptor
  · rw [if_pos same]
    exact or_congr_right (iff_of_false nofun fun other => other.1 same)
  · rw [if_neg same, and_iff_right same]

theorem Coherent.added (coherent : p.Coherent) (wf : p.registry.WellFormed) {e : Registration}
    {k : Key} (ins : p.registry.Inserted e k r') :
    Coherent { p with
      registry := r'
      watched := p.watched.apply e.descriptor e.interest
      top := max p.top e.descriptor } where
  mem_iff := by
    intro fd c other
    rw [FdSets.mem_apply, ins.find? wf]
    by_cases same : fd = e.descriptor
    · simp only [if_pos same, Option.some.injEq, exists_eq_left']
    · rw [if_neg same, if_neg same, coherent.mem_iff other]
  top := inUse_inserted ins wf ▸ max_isGreatest coherent.top
  reader := coherent.reader

theorem Coherent.modified (coherent : p.Coherent) (wf : p.registry.WellFormed) {k : Key}
    (known : p.registry.keyOf? fd = some k) :
    Coherent { p with
      registry := p.registry.modify k ({ · with interest })
      watched := p.watched.apply fd interest } where
  mem_iff := by
    intro d c other
    rw [FdSets.mem_apply, wf.find?_modify_of_keyOf? known]
    by_cases same : d = fd
    · subst same
      obtain ⟨e, opened, rfl⟩ := wf.keyOf?_eq_some_iff.mp known
      simp only [if_true, wf.find?_of_get? opened, Option.map_some, Option.some.injEq,
        exists_eq_left']
    · rw [if_neg same, if_neg same, coherent.mem_iff other]
  top := coherent.top
  reader := coherent.reader

theorem Coherent.removed (coherent : p.Coherent) (wf : p.registry.WellFormed) {e : Registration}
    {k : Key} (rem : p.registry.Removed e k r') :
    Coherent { p with
      registry := r'
      watched := p.watched.apply e.descriptor .none
      top := if e.descriptor = p.top then topOf p.wakeup r' else p.top } where
  mem_iff := by
    intro d c other
    rw [FdSets.mem_apply, rem.find? wf]
    by_cases same : d = e.descriptor
    · simp only [if_pos same, Interest.none_asks, Bool.false_eq_true, reduceCtorEq, false_and,
        exists_false]
    · rw [if_neg same, if_neg same, coherent.mem_iff other]
  top := by
    dsimp only
    split
    · exact topOf_isGreatest p.wakeup (rem.wellFormed wf)
    · rename_i kept
      refine ⟨(mem_inUse_removed rem wf).mpr ?_, fun d mem => coherent.top.2 ?_⟩
      · exact coherent.top.1.imp_right fun present => ⟨Ne.symm kept, present⟩
      · exact ((mem_inUse_removed rem wf).mp mem).imp_right And.right
  reader := coherent.reader

theorem Served.coherent (served : p.Served op t answer p') (wf : p.registry.WellFormed)
    (coherent : p.Coherent) : p'.Coherent := by
  cases served with
  | added _ placed => exact coherent.added wf (wf.insert_inserted placed)
  | modified known => exact coherent.modified wf known
  | removed taken =>
      obtain ⟨k, rfl, removed⟩ := wf.remove_eq_ok taken
      exact coherent.removed wf removed
  | answered => exact ⟨coherent.mem_iff, coherent.top, coherent.reader⟩
  | _ => exact coherent

end BitmapSelect
end Multiplexer

import Multiplexer.Proofs.Registry.Operations
import Multiplexer.Proofs.Registry.Registrations

/-! The registrations that wait for rearming, as a list. A change of one registration changes what the
list says of that one and of no other. -/
namespace Multiplexer.Registry

variable {r r' rest : Registry} {k k' : Key} {e e' : Registration}

def waiting (r : Registry) : List (Key × Registration) := r.entries.filter (·.2.rearm)

def waitingAt (k : Key) (e : Registration) : List (Key × Registration) :=
  if e.rearm then [(k, e)] else []

theorem WellFormed.nodup_entries (wf : r.WellFormed) : r.entries.Nodup := by
  refine wf.entries_ordered.imp ?_
  rintro a _ below rfl
  exact absurd below (Nat.lt_irrefl _)

/-- A registry with one registration more lists it besides all the others. -/
theorem WellFormed.entries_perm (wf : r.WellFormed) (wf' : rest.WellFormed)
    (found : ∀ i, r.get? i = if i = k then some e else rest.get? i) (absent : rest.get? k = none) :
    r.entries.Perm ((k, e) :: rest.entries) := by
  have fresh : (k, e) ∉ rest.entries := by
    rw [wf'.mem_entries, absent]
    exact nofun
  refine (List.perm_ext_iff_of_nodup wf.nodup_entries
    (List.nodup_cons.mpr ⟨fresh, wf'.nodup_entries⟩)).mpr ?_
  rintro ⟨i, e'⟩
  rw [List.mem_cons, wf.mem_entries, wf'.mem_entries, found, Prod.mk.injEq]
  by_cases same : i = k
  · simp only [same, if_true, true_and, absent, reduceCtorEq, or_false, Option.some.injEq, eq_comm]
  · simp only [same, if_false, false_and, false_or]

theorem WellFormed.waiting_perm (wf : r.WellFormed) (wf' : rest.WellFormed)
    (found : ∀ i, r.get? i = if i = k then some e else rest.get? i) (absent : rest.get? k = none) :
    r.waiting.Perm (waitingAt k e ++ rest.waiting) := by
  refine ((wf.entries_perm wf' found absent).filter _).trans (List.Perm.of_eq ?_)
  rw [List.filter_cons, waitingAt]
  split <;> rfl

theorem Inserted.waiting_perm (ins : Inserted r e k r') (wf : r.WellFormed) :
    r'.waiting.Perm (waitingAt k e ++ r.waiting) :=
  (ins.wellFormed wf).waiting_perm wf ins.get? ins.get?_key_eq_none

theorem Removed.waiting_perm (rem : Removed r e k r') (wf : r.WellFormed) :
    r.waiting.Perm (waitingAt k e ++ r'.waiting) := by
  refine wf.waiting_perm (rem.wellFormed wf) (fun i => ?_) ?_
  · rw [rem.get?]
    by_cases same : i = k
    · rw [if_pos same, same, rem.opened]
    · rw [if_neg same, if_neg same]
  · rw [rem.get?, if_pos rfl]

/-- A registration that is changed, and perhaps moved to another key, leaves the others as they
were. -/
theorem WellFormed.waiting_moved (wf : r.WellFormed) (opened : r.get? k = some e)
    (wf' : r'.WellFormed)
    (found : ∀ i, r'.get? i = if i = k' then some e' else if i = k then none else r.get? i)
    (vacant : k' ≠ k → r.get? k' = none) :
    ∃ others, r.waiting.Perm (waitingAt k e ++ others) ∧
      r'.waiting.Perm (waitingAt k' e' ++ others) := by
  obtain ⟨rest, -, rem⟩ := wf.remove_of_get? opened
  refine ⟨rest.waiting, rem.waiting_perm wf, wf'.waiting_perm (rem.wellFormed wf) (fun i => ?_) ?_⟩
  · rw [found, rem.get?]
  · rw [rem.get?]
    by_cases same : k' = k
    · rw [if_pos same]
    · rw [if_neg same, vacant same]

theorem WellFormed.waiting_modify (wf : r.WellFormed) (opened : r.get? k = some e)
    {f : Registration → Registration} (keeps : ∀ e, (f e).descriptor = e.descriptor) :
    ∃ others, r.waiting.Perm (waitingAt k e ++ others) ∧
      (r.modify k f).waiting.Perm (waitingAt k (f e) ++ others) := by
  refine wf.waiting_moved opened (wf.modify k keeps) (fun i => ?_) fun other => absurd rfl other
  rw [get?_modify]
  by_cases same : i = k
  · rw [if_pos same, if_pos same, same, opened, Option.map_some]
  · rw [if_neg same, if_neg same, if_neg same]

theorem Rekeyed.waiting_modify (rek : Rekeyed r e k k' r') (wf : r.WellFormed)
    {f : Registration → Registration} (keeps : ∀ e, (f e).descriptor = e.descriptor) :
    ∃ others, r.waiting.Perm (waitingAt k e ++ others) ∧
      (r'.modify k' f).waiting.Perm (waitingAt k' (f e) ++ others) := by
  refine wf.waiting_moved rek.opened ((rek.wellFormed wf).modify k' keeps) (fun i => ?_) fun other => ?_
  · rw [get?_modify, rek.get?]
    by_cases same : i = k'
    · rw [if_pos same, if_pos same, if_pos same, Option.map_some]
    · rw [if_neg same, if_neg same, if_neg same]
  · cases opened : r.get? k' with
    | none => rfl
    | some e' =>
        refine absurd ?_ other
        have generation := (generation_of_get? opened).symm
        rw [rek.key] at generation ⊢
        exact congrArg (Key.mk k.index) (generation.trans (generation_of_get? rek.opened))

end Multiplexer.Registry

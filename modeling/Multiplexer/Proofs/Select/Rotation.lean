import Mathlib.Data.List.TakeWhile
import Multiplexer.Proofs.Registry.Registrations
import Multiplexer.Proofs.Waits

/-! How batches go round the registrations. From the cursor on, positions are counted as distances
that only end where the cursor is; a batch takes the nearest candidates, so whoever is left over is
nearer by a whole batch when the next one starts. -/
namespace Multiplexer

/-- The registered descriptors that are ready, slot by slot. -/
def Registry.readyIn (r : Registry) (found : Descriptor → Interest) : List Descriptor :=
  (r.registrations.map (·.1)).filter fun fd => !(found fd).isEmpty

/-- The ready ones after so many registrations, and then those before. -/
def Registry.readyPast (r : Registry) (skipped : Nat) (found : Descriptor → Interest) :
    List Descriptor :=
  let all := r.registrations.map (·.1)
  (all.drop skipped ++ all.take skipped).filter fun fd => !(found fd).isEmpty

namespace Select

variable {r : Registry} {found : Descriptor → Interest} {cs : List Candidate} {x y : Candidate}
  {batch cursor total : Nat}

/-! ### Candidates -/

/-- The candidates among registrations that stand from `start` on. -/
def candidatesFrom (start : Nat) (entries : List (Key × Registration))
    (found : Descriptor → Interest) : List Candidate :=
  (entries.zipIdx start).filterMap fun ((_, entry), position) =>
    let ready := found entry.descriptor
    if ready.isEmpty then none
    else some ⟨position, entry.descriptor, entry.token, .readiness ready⟩

theorem candidates_eq (r : Registry) (found : Descriptor → Interest) :
    candidates r found = candidatesFrom 0 r.entries found := rfl

theorem candidatesFrom_append (start : Nat) (earlier later : List (Key × Registration))
    (found : Descriptor → Interest) : candidatesFrom start (earlier ++ later) found =
      candidatesFrom start earlier found ++ candidatesFrom (start + earlier.length) later found := by
  rw [candidatesFrom, List.zipIdx_append, List.filterMap_append]
  rfl

/-- A candidate stands where its registration does. -/
theorem mem_candidatesFrom {start : Nat} {entries : List (Key × Registration)} :
    x ∈ candidatesFrom start entries found ↔ start ≤ x.position ∧
      ∃ k e, entries[x.position - start]? = some (k, e) ∧ (found e.descriptor).isEmpty = false ∧
        x.event = ⟨e.descriptor, e.token, .readiness (found e.descriptor)⟩ := by
  obtain ⟨position, event⟩ := x
  simp only [candidatesFrom, List.mem_filterMap, Prod.exists, List.mk_mem_zipIdx_iff_le_and_getElem?_sub]
  constructor
  · rintro ⟨k, e, i, ⟨reached, listed⟩, shown⟩
    split at shown
    · cases shown
    · rename_i some
      cases shown
      exact ⟨reached, k, e, listed, Bool.eq_false_iff.mpr some, rfl⟩
  · rintro ⟨reached, k, e, listed, some, rfl⟩
    refine ⟨k, e, position, ⟨reached, listed⟩, ?_⟩
    rw [some]
    rfl

theorem position_lt {start : Nat} {entries : List (Key × Registration)}
    (h : x ∈ candidatesFrom start entries found) : x.position < start + entries.length := by
  obtain ⟨reached, k, e, listed, -⟩ := mem_candidatesFrom.mp h
  have within := (List.getElem?_eq_some_iff.mp listed).1
  omega

theorem candidatesFrom_ordered (start : Nat) (entries : List (Key × Registration))
    (found : Descriptor → Interest) :
    (candidatesFrom start entries found).Pairwise (·.position < ·.position) := by
  induction entries using List.reverseRecOn with
  | nil => exact .nil
  | append_singleton entries entry ih =>
      rw [candidatesFrom_append, List.pairwise_append]
      refine ⟨ih, ?_, ?_⟩
      · cases empty : (found entry.2.descriptor).isEmpty <;> simp [candidatesFrom, empty]
      · intro x hx y hy
        exact (position_lt hx).trans_le (mem_candidatesFrom.mp hy).1

/-- There is one candidate for each descriptor that is ready. -/
theorem descriptors_candidatesFrom (start : Nat) (entries : List (Key × Registration))
    (found : Descriptor → Interest) :
    (candidatesFrom start entries found).map (·.event.descriptor) =
      (entries.map (·.2.descriptor)).filter fun fd => !(found fd).isEmpty := by
  induction entries generalizing start with
  | nil => rfl
  | cons entry entries ih =>
      have rest := ih (start + 1)
      rw [candidatesFrom] at rest ⊢
      cases empty : (found entry.2.descriptor).isEmpty with
      | true => simpa [empty] using rest
      | false => simpa [empty] using rest

theorem descriptors_candidates (r : Registry) (found : Descriptor → Interest) :
    (candidates r found).map (·.event.descriptor) = r.readyIn found := by
  rw [Registry.readyIn, Registry.registrations, List.map_map]
  exact descriptors_candidatesFrom 0 r.entries found

theorem length_candidates (r : Registry) (found : Descriptor → Interest) :
    (candidates r found).length = (r.readyIn found).length := by
  rw [← descriptors_candidates, List.length_map]

theorem candidates_within (h : x ∈ candidates r found) : x.position < r.entries.length := by
  have within := position_lt h
  omega

/-! ### The scan from the cursor on -/

theorem rotate_append {front back : List Candidate} (early : ∀ x ∈ front, x.position < cursor)
    (late : ∀ x ∈ back, cursor ≤ x.position) : rotate cursor (front ++ back) = back ++ front := by
  have none : back.takeWhile (fun x => decide (x.position < cursor)) = [] := by
    simp only [List.takeWhile_eq_nil_iff, decide_eq_true_eq, Nat.not_lt]
    exact fun inside => late _ (List.get_mem back ⟨0, inside⟩)
  have all : back.dropWhile (fun x => decide (x.position < cursor)) = back := by
    simp only [List.dropWhile_eq_self_iff, decide_eq_true_eq, Nat.not_lt]
    exact fun inside => late _ (List.getElem_mem inside)
  have early' : ∀ x ∈ front, decide (x.position < cursor) = true :=
    fun x hx => decide_eq_true (early x hx)
  rw [rotate, List.dropWhile_append_of_pos early', List.takeWhile_append_of_pos early', none, all,
    List.append_nil]

/-- The scan begins with the registrations from the cursor on. -/
theorem exists_rotate (cursor : Nat) (r : Registry) (found : Descriptor → Interest) :
    ∃ front back, candidates r found = front ++ back ∧
      rotate cursor (candidates r found) = back ++ front ∧
      (∀ x ∈ front, x.position < cursor) ∧ (∀ x ∈ back, cursor ≤ x.position) ∧
      front = candidatesFrom 0 (r.entries.take cursor) found ∧
      back = candidatesFrom (r.entries.take cursor).length (r.entries.drop cursor) found := by
  have split : candidates r found = candidatesFrom 0 (r.entries.take cursor) found ++
      candidatesFrom (r.entries.take cursor).length (r.entries.drop cursor) found := by
    have whole := candidatesFrom_append 0 (r.entries.take cursor) (r.entries.drop cursor) found
    rw [List.take_append_drop, Nat.zero_add] at whole
    exact whole
  have early : ∀ x ∈ candidatesFrom 0 (r.entries.take cursor) found, x.position < cursor := by
    intro x hx
    have within := position_lt hx
    rw [List.length_take] at within
    omega
  have late : ∀ x ∈ candidatesFrom (r.entries.take cursor).length (r.entries.drop cursor) found,
      cursor ≤ x.position := by
    intro x hx
    have within := position_lt hx
    have reached := (mem_candidatesFrom.mp hx).1
    rw [List.length_take, List.length_drop] at within
    rw [List.length_take] at reached
    omega
  exact ⟨_, _, split, split ▸ rotate_append early late, early, late, rfl, rfl⟩

theorem rotate_perm (cursor : Nat) (cs : List Candidate) : (rotate cursor cs).Perm cs := by
  have whole := List.takeWhile_append_dropWhile (p := fun x => x.position < cursor) (l := cs)
  exact List.perm_append_comm.trans (List.Perm.of_eq whole)

theorem descriptors_rotate (cursor : Nat) (r : Registry) (found : Descriptor → Interest) :
    (rotate cursor (candidates r found)).map (·.event.descriptor) = r.readyPast cursor found := by
  obtain ⟨front, back, -, scan, -, -, rfl, rfl⟩ := exists_rotate cursor r found
  rw [scan, List.map_append, descriptors_candidatesFrom, descriptors_candidatesFrom,
    ← List.filter_append, Registry.readyPast, Registry.registrations]
  simp only [List.map_map, List.map_take, List.map_drop, Function.comp_def]

/-- How far a position is ahead of the cursor, around the end. A cursor past the end counts as being
at the end. -/
def distance (total cursor position : Nat) : Nat :=
  if cursor ≤ position then position - cursor else position + (total - cursor)

theorem distance_lt {position : Nat} (within : position < total) :
    distance total cursor position < total := by
  unfold distance
  split <;> omega

/-- The scan comes to the nearest first. -/
theorem rotate_ordered (cursor : Nat) (r : Registry) (found : Descriptor → Interest) :
    (rotate cursor (candidates r found)).Pairwise fun x y =>
      distance r.entries.length cursor x.position < distance r.entries.length cursor y.position := by
  have ordered := candidatesFrom_ordered 0 r.entries found
  have within : ∀ x ∈ candidates r found, x.position < r.entries.length :=
    fun _ => candidates_within
  obtain ⟨front, back, split, scan, early, late, -, -⟩ := exists_rotate cursor r found
  rw [← candidates_eq, split, List.pairwise_append] at ordered
  rw [split, List.forall_mem_append] at within
  rw [scan, List.pairwise_append]
  refine ⟨?_, ?_, ?_⟩
  · apply ordered.2.1.imp_of_mem
    intro x y hx hy below
    rw [distance, distance, if_pos (late x hx), if_pos (late y hy)]
    have reached := late x hx
    omega
  · apply ordered.1.imp_of_mem
    intro x y hx hy below
    rw [distance, distance, if_neg (Nat.not_le_of_lt (early x hx)),
      if_neg (Nat.not_le_of_lt (early y hy))]
    omega
  · intro x hx y hy
    have inside := within.2 x hx
    have reached := late x hx
    rw [distance, distance, if_pos reached, if_neg (Nat.not_le_of_lt (early y hy))]
    omega

/-! ### Batches -/

theorem turn_events : (turn batch cursor cs).1 = (chosen batch cursor cs).map (·.event) :=
  rfl

theorem events_turn : (turn batch cursor (candidates r found)).1.map (·.descriptor) =
    (r.readyPast cursor found).take batch := by
  rw [turn_events, List.map_map, chosen, ← descriptors_rotate, List.map_take]
  rfl

theorem readyPast_perm (cursor : Nat) (r : Registry) (found : Descriptor → Interest) :
    (r.readyPast cursor found).Perm (r.readyIn found) := by
  rw [← descriptors_rotate, ← descriptors_candidates]
  exact (rotate_perm cursor _).map _

/-- A batch tells of different descriptors that are registered and ready. -/
theorem descriptors_turn (wf : r.WellFormed) (batch cursor : Nat)
    (found : Descriptor → Interest) :
    ((turn batch cursor (candidates r found)).1.map (·.descriptor)).Nodup ∧
    ∀ event ∈ (turn batch cursor (candidates r found)).1, event.descriptor ∈ r.readyIn found := by
  constructor
  · rw [events_turn]
    apply List.Nodup.sublist (List.take_sublist _ _)
    apply (readyPast_perm cursor r found).nodup_iff.mpr
    exact wf.nodup_descriptors.filter _
  · intro event mem
    apply (readyPast_perm cursor r found).mem_iff.mp
    have taken := List.mem_map_of_mem (f := (·.descriptor)) mem
    rw [events_turn] at taken
    exact List.mem_of_mem_take taken

/-- A full batch goes on behind its last candidate. -/
theorem cursor_of_full {earlier : List Candidate} (full : (chosen batch cursor cs).length = batch)
    (last : chosen batch cursor cs = earlier ++ [x]) :
    (turn batch cursor cs).2 = x.position + 1 := by
  have whole : ¬ (chosen batch cursor cs).length < batch := Nat.not_lt_of_le full.ge
  refine (if_neg whole).trans ?_
  change (((chosen batch cursor cs).getLast?.map (·.position + 1)).getD cursor) = _
  rw [last, List.getLast?_concat]
  rfl

/-- Whatever is not in a batch is left over because the batch is full. -/
theorem full_of_not_mem_chosen (mem : x ∈ cs) (left : x ∉ chosen batch cursor cs) :
    (chosen batch cursor cs).length = batch := by
  have few : batch ≤ cs.length := by
    by_contra more
    apply left
    rw [chosen, List.take_of_length_le (by rw [length_rotate]; omega)]
    exact (rotate_perm cursor cs).mem_iff.mpr mem
  rw [length_chosen, Nat.min_eq_left few]

/-- In a list that rises, a member is at least as high as its place. -/
theorem le_of_rising {height : Candidate → Nat}
    (rising : cs.Pairwise fun x y => height x < height y) {i : Nat} (hi : i < cs.length) :
    i ≤ height cs[i] := by
  induction i with
  | zero => exact Nat.zero_le _
  | succ i ih =>
      have below := List.pairwise_iff_getElem.mp rising i (i + 1) (Nat.lt_of_succ_lt hi) hi (by omega)
      have before := ih (Nat.lt_of_succ_lt hi)
      omega

/-- A candidate that is left over is nearer by a batch when the next batch starts. -/
theorem distance_of_left (positive : 0 < batch) (mem : x ∈ candidates r found)
    (left : x ∉ chosen batch cursor (candidates r found)) :
    distance r.entries.length (turn batch cursor (candidates r found)).2 x.position + batch ≤
      distance r.entries.length cursor x.position := by
  have full := full_of_not_mem_chosen mem left
  have nonempty : chosen batch cursor (candidates r found) ≠ [] := by
    intro none
    rw [none] at full
    exact absurd full positive.ne
  obtain ⟨earlier, last, split⟩ := (List.eq_nil_or_concat' _).resolve_left nonempty
  have rising := rotate_ordered cursor r found
  rw [← List.take_append_drop batch (rotate cursor (candidates r found)),
    List.pairwise_append] at rising
  obtain ⟨front, -, apart⟩ := rising
  change (chosen batch cursor (candidates r found)).Pairwise _ at front
  have later : x ∈ (rotate cursor (candidates r found)).drop batch := by
    have somewhere := (rotate_perm cursor _).mem_iff.mpr mem
    rw [← List.take_append_drop batch (rotate cursor (candidates r found)),
      List.mem_append] at somewhere
    exact somewhere.resolve_left left
  have isLast : last ∈ chosen batch cursor (candidates r found) := by
    rw [split]
    exact List.mem_append_right _ (List.mem_singleton_self _)
  have nearer := apart last isLast x later
  -- the last of the batch has the others of it nearer to the cursor
  have far : batch ≤ distance r.entries.length cursor last.position + 1 := by
    have size : earlier.length + 1 = batch := by
      rw [← full, split, List.length_append, List.length_singleton]
    have place : earlier.length < (chosen batch cursor (candidates r found)).length := by omega
    have own : (chosen batch cursor (candidates r found))[earlier.length] = last := by
      simp only [split, List.getElem_concat_length]
    have least := le_of_rising front place
    rw [own] at least
    omega
  have inside : last.position < r.entries.length :=
    candidates_within ((rotate_perm cursor _).mem_iff.mp (List.mem_of_mem_take isLast))
  have inside' := candidates_within mem
  rw [cursor_of_full full split]
  unfold distance at nearer far ⊢
  split_ifs at nearer far ⊢ <;> omega

end Select
end Multiplexer

import Multiplexer.Proofs.Select.Roster
import Multiplexer.Proofs.History.Rehearsal
import Multiplexer.Proofs.History.Watchlist

/-! Fairness of the selects. As long as nobody comes or goes, a registration that is ready again and
again gets its event within as many polls as it takes to go round once, wherever the first batch
starts and whoever else is ready. Its distance from the cursor is the measure: it falls by a whole
batch with every poll that leaves the registration out. -/
namespace Multiplexer
open Select

/-- A call that may bring in a registration or take one out. -/
def Operation.enrols : Operation → Bool
  | .add .. | .remove _ => true
  | _ => false

/-- A select that found something counts it. -/
def Transcript.Counted (t : Transcript) : Prop :=
  ∀ selected, t.selected? = some selected → selected.count = 0 →
    ∀ fd, (selected.sets fd).isEmpty = true

/-! ### One call -/

namespace Select.Roster

variable {r r' : Roster} {op : Operation} {t : Transcript} {answer : Answer}
  {selected : Selected (Descriptor → Interest)} {fd : Descriptor} {position : Nat}

/-- Wherever the cursor is: as many events as there are ready descriptors, or as fit into a batch, and
each for another one of them. -/
structure Dispatches (r : Roster) (found : Descriptor → Interest) (answer : Answer) : Prop where
  count : answer.count? = some (min r.batch (r.registry.readyIn found).length)
  length : answer.events.length = min r.batch (r.registry.readyIn found).length
  distinct : (answer.events.map (·.descriptor)).Nodup
  ready : ∀ event ∈ answer.events, event.descriptor ∈ r.registry.readyIn found

theorem Served.dispatches (served : r.Served op t answer r') (wf : r.registry.WellFormed)
    (counted : t.Counted) (found : t.selected? = some selected) :
    r.Dispatches selected.sets answer := by
  cases served with
  | kept none | added none | modified none | removed none =>
      rw [none] at found
      cases found
  | unready found' none =>
      cases found.symm.trans found'
      have nobody : r.registry.readyIn selected.sets = [] := by
        rw [Registry.readyIn, List.filter_eq_nil_iff]
        intro fd _
        rw [counted _ found none fd]
        decide
      have zero : min r.batch (r.registry.readyIn selected.sets).length = 0 := by
        rw [nobody]
        exact Nat.min_zero _
      exact ⟨by rw [zero]; rfl, zero.symm, List.nodup_nil, List.forall_mem_nil _⟩
  | answered found' =>
      cases found.symm.trans found'
      have length : (r.taken selected.sets).1.length =
          min r.batch (r.registry.readyIn selected.sets).length := by
        rw [taken, length_turn, length_candidates]
      have descriptors := descriptors_turn wf r.batch r.cursor selected.sets
      exact ⟨congrArg some length, length, descriptors.1, descriptors.2⟩

/-- The same registrations at the same places, taken in batches of the same size. -/
structure Steady (r r' : Roster) : Prop where
  batch : r'.batch = r.batch
  wellFormed : r.registry.WellFormed → r'.registry.WellFormed
  places : r'.registry.registrations.map (·.1) = r.registry.registrations.map (·.1)

theorem Steady.refl (r : Roster) : r.Steady r := ⟨rfl, id, rfl⟩

theorem Steady.trans {r'' : Roster} (h : r.Steady r') (h' : r'.Steady r'') : r.Steady r'' :=
  ⟨h'.batch.trans h.batch, h'.wellFormed ∘ h.wellFormed, h'.places.trans h.places⟩

theorem Served.steady (served : r.Served op t answer r') (stays : op.enrols = false) :
    r.Steady r' := by
  cases served with
  | added | removed => cases stays
  | modified =>
      exact ⟨rfl, fun wf => wf.modify _ fun _ => rfl, r.registry.descriptors_modify _ fun _ => rfl⟩
  | kept | unready => exact .refl r
  | answered => exact ⟨rfl, id, rfl⟩

theorem length_entries (r : Registry) :
    r.entries.length = (r.registrations.map (·.1)).length := by
  rw [List.length_map, Registry.registrations, List.length_map]

/-- A poll that leaves out a descriptor which is ready comes nearer to it by a batch; no other call
moves away from it. -/
theorem Served.nearer (served : r.Served op t answer r') (positive : 0 < r.batch)
    (place : (r.registry.registrations.map (·.1))[position]? = some fd)
    (counted : t.Counted) (missed : ∀ event ∈ answer.events, event.descriptor ≠ fd)
    (ready : ∀ selected, t.selected? = some selected → (selected.sets fd).isEmpty = false) :
    distance r.registry.entries.length r'.cursor position +
        (if t.selected?.isSome then r.batch else 0) ≤
      distance r.registry.entries.length r.cursor position := by
  cases served with
  | kept none | added none | modified none | removed none =>
      rw [none]
      exact Nat.le_refl _
  | @unready _ _ selected found none =>
      have empty := counted _ found none fd
      rw [ready _ found] at empty
      cases empty
  | @answered _ _ selected found =>
      rw [found]
      obtain ⟨⟨k, e⟩, listed, rfl⟩ : ∃ entry, r.registry.entries[position]? = some entry ∧
          entry.2.descriptor = fd := by
        rw [Registry.registrations, List.map_map, List.getElem?_map] at place
        exact Option.map_eq_some_iff.mp place
      have candidate : ⟨position, e.descriptor, e.token, .readiness (selected.sets e.descriptor)⟩ ∈
          candidates r.registry selected.sets :=
        mem_candidatesFrom.mpr ⟨Nat.zero_le _, k, e, listed, ready _ found, rfl⟩
      apply distance_of_left positive candidate
      intro chosen
      exact missed _ (List.mem_map_of_mem chosen) rfl

end Select.Roster

/-! ### Runs -/

section

variable {b c : Backend} {xs : List Exchange} {r : Roster} {fd : Descriptor} {position : Nat}

theorem Run.steady (run : Run b xs c) (select : b.roster? = some r)
    (stays : ∀ x ∈ xs, x.operation.enrols = false) :
    ∃ r', c.roster? = some r' ∧ r.Steady r' := by
  induction run with
  | start => exact ⟨r, select, .refl r⟩
  | @step xs x _ ih =>
      obtain ⟨earlier, last⟩ := List.forall_mem_append.mp stays
      obtain ⟨r', before, steady⟩ := ih earlier
      obtain ⟨r'', after, served⟩ := x.roster_served before
      exact ⟨r'', after, steady.trans (served.steady (last x (List.mem_singleton_self x)))⟩

/-- How many polls had a select that succeeded. -/
def selections (xs : List Exchange) : Nat := xs.countP fun x => x.transcript.selected?.isSome

/-- As long as a descriptor that is always ready gets no event, all batches together do not come round
to it. -/
theorem Run.distance_of_missed (run : Run b xs c) (select : b.roster? = some r)
    (positive : 0 < r.batch) (stays : ∀ x ∈ xs, x.operation.enrols = false)
    (counted : ∀ x ∈ xs, x.transcript.Counted)
    (place : (r.registry.registrations.map (·.1))[position]? = some fd)
    (missed : ∀ x ∈ xs, ∀ event ∈ x.answer.events, event.descriptor ≠ fd)
    (ready : ∀ x ∈ xs, ∀ selected, x.transcript.selected? = some selected →
      (selected.sets fd).isEmpty = false) :
    ∃ r', c.roster? = some r' ∧ distance r.registry.entries.length r'.cursor position +
      selections xs * r.batch < r.registry.entries.length := by
  induction run with
  | start =>
      have within := (List.getElem?_eq_some_iff.mp place).1
      rw [← Roster.length_entries] at within
      refine ⟨r, select, ?_⟩
      rw [selections, List.countP_nil, Nat.zero_mul]
      exact distance_lt within
  | @step xs x before ih =>
      rw [List.forall_mem_append] at stays counted missed ready
      have own := List.mem_singleton_self x
      obtain ⟨r', known, least⟩ := ih stays.1 counted.1 missed.1 ready.1
      obtain ⟨r₁, known', steady⟩ := before.steady select stays.1
      cases known.symm.trans known'
      obtain ⟨r'', after, served⟩ := x.roster_served known
      have size : r'.registry.entries.length = r.registry.entries.length := by
        rw [Roster.length_entries, Roster.length_entries, steady.places]
      have nearer := served.nearer (steady.batch ▸ positive) (steady.places ▸ place)
        (counted.2 x own) (missed.2 x own) (ready.2 x own)
      rw [steady.batch, size] at nearer
      refine ⟨r'', after, ?_⟩
      rw [selections, List.countP_append, ← selections, List.countP_singleton, Nat.add_mul]
      cases selected : x.transcript.selected?.isSome with
      | true =>
          simp only [selected, if_true] at nearer ⊢
          omega
      | false =>
          simp only [selected, Bool.false_eq_true, if_false] at nearer ⊢
          omega

/-- Whatever the registrations of a select, wherever its cursor is and however small its batches: while
nobody comes or goes, each poll whose select succeeds dispatches as many events as there are ready
descriptors, or as fit into a batch, all to different ones of them; and a descriptor that is ready
each time gets one within as many of these polls as batches that it takes to hold all the
registrations. -/
theorem Run.select_fair (run : Run b xs c) (select : b.roster? = some r)
    (wf : r.registry.WellFormed) (positive : 0 < r.batch)
    (stays : ∀ x ∈ xs, x.operation.enrols = false) (counted : ∀ x ∈ xs, x.transcript.Counted) :
    (∀ x ∈ xs, ∀ selected, x.transcript.selected? = some selected →
      ∃ r', x.before.roster? = some r' ∧ r'.batch = r.batch ∧
        r'.registry.registrations.map (·.1) = r.registry.registrations.map (·.1) ∧
        r'.Dispatches selected.sets x.answer) ∧
    ∀ fd, r.registry.contains fd = true →
      (∀ x ∈ xs, ∀ selected, x.transcript.selected? = some selected →
        (selected.sets fd).isEmpty = false) →
      (r.registry.size + r.batch - 1) / r.batch ≤ selections xs →
      ∃ x ∈ xs, ∃ event ∈ x.answer.events, event.descriptor = fd := by
  constructor
  · intro x mem selected found
    obtain ⟨es, fs, rfl⟩ := List.append_of_mem mem
    obtain ⟨m, before, after⟩ := Run.append_iff.mp run
    obtain ⟨rfl, -⟩ := Run.cons_iff.mp after
    obtain ⟨r', known, steady⟩ := before.steady select fun y hy =>
      stays y (List.mem_append_left _ hy)
    obtain ⟨r'', -, served⟩ := x.roster_served known
    exact ⟨r', known, steady.batch, steady.places,
      served.dispatches (steady.wellFormed wf) (counted x mem) found⟩
  · intro fd present ready enough
    by_contra never
    have missed : ∀ x ∈ xs, ∀ event ∈ x.answer.events, event.descriptor ≠ fd :=
      fun x hx event he same => never ⟨x, hx, event, he, same⟩
    obtain ⟨position, place⟩ : ∃ position : Nat,
        (r.registry.registrations.map (·.1))[position]? = some fd := by
      rw [wf.contains_iff] at present
      obtain ⟨k, known⟩ := present
      obtain ⟨e, opened, rfl⟩ := wf.keyOf?_eq_some_iff.mp known
      apply List.mem_iff_getElem?.mp
      rw [Registry.registrations, List.map_map]
      exact List.mem_map.mpr ⟨(k, e), wf.mem_entries.mpr opened, rfl⟩
    obtain ⟨r', -, short⟩ := run.distance_of_missed select positive stays counted place missed ready
    have total : r.registry.entries.length = r.registry.size := by
      rw [wf.size_eq, Registry.registrations, List.length_map]
    rw [total] at short
    -- so many batches hold all the registrations
    have round : r.registry.size ≤ selections xs * r.batch := by
      have whole := (Nat.div_le_iff_le_mul_add_pred positive).mp enough
      rw [Nat.mul_comm] at whole
      omega
    omega

end

/-- Five registrations in batches of two, the cursor in the middle. One of those behind it is always
ready, but first come the others. -/
def roundTrips : List (Option History) :=
  let selecting (sets : SocketSets) : Script.Stage :=
    { Script.Stage.initial with script := Script.empty.put .select [some (.ok sets)] }
  let called (h : History) : Option History := do
    let h ← h.rehearse ([5, 6, 7, 8, 9].map fun fd => (.add fd { read := true } 1, .initial))
    h.rehearse [(.poll none, selecting ⟨[5, 6], [], []⟩),
      (.poll none, selecting ⟨[5, 6, 7, 8, 9], [], []⟩), (.modify 6 { write := true }, .initial),
      (.poll none, selecting ⟨[5, 9], [6], []⟩), (.poll none, selecting ⟨[7, 8], [6], []⟩)]
  [History.rehearseOpening BitmapSelect.create .bitmap .bitmap { maxBatch := 2 } .initial >>= called,
    History.rehearseOpening SocketSelect.create .socket .socket { maxBatch := 2 } .initial >>= called]

theorem round_trips_fair :
    roundTrips.map (·.map (·.start.facility)) = [some .bitmap, some .socket] ∧
    ∀ rehearsal ∈ roundTrips, ∃ h ∈ rehearsal, ∃ (es xs : List Exchange) (m : Backend) (r : Roster),
      h.exchanges = es ++ xs ∧ Run m xs h.finish ∧ m.roster? = some r ∧
      (r.batch = 2 ∧ r.cursor = 2 ∧ r.registry.size = 5 ∧ selections xs = 3) ∧
      (∀ x ∈ xs, x.operation.enrols = false) ∧ (∀ x ∈ xs, x.transcript.Counted) ∧
      (∀ x ∈ xs, ∀ selected, x.transcript.selected? = some selected →
        (selected.sets 6).isEmpty = false) ∧
      ∃ x ∈ xs, ∃ event ∈ x.answer.events, event.descriptor = 6 := by
  have computed : ∀ rehearsal ∈ roundTrips, ∃ h ∈ rehearsal,
      ((h.exchanges.drop 6).head?.bind (·.before.roster?)).map (fun r =>
        (r.batch, r.cursor, r.registry.size, r.registry.contains 6)) = some (2, 2, 5, true) ∧
      selections (h.exchanges.drop 6) = 3 ∧
      (h.exchanges.drop 6).all (fun x => !x.operation.enrols &&
        x.transcript.selected?.all fun s => s.count != 0 && !(s.sets 6).isEmpty) = true := by
    decide +kernel
  refine ⟨by decide +kernel, ?_⟩
  intro rehearsal mem
  obtain ⟨h, rehearsed, start, turns, found⟩ := computed rehearsal mem
  simp only [List.all_eq_true, Bool.and_eq_true, Bool.not_eq_true', Option.all_eq_true,
    bne_iff_ne] at found
  have split := (List.take_append_drop 6 h.exchanges).symm
  obtain ⟨r, known, facts⟩ := Option.map_eq_some_iff.mp start
  obtain ⟨x, first, before⟩ := Option.bind_eq_some_iff.mp known
  obtain ⟨later, rest⟩ := List.head?_eq_some_iff.mp first
  obtain ⟨batch, cursor, size, present⟩ : _ ∧ _ ∧ _ ∧ _ := by
    simpa only [Prod.mk.injEq] using facts
  have run : Run x.before (h.exchanges.drop 6) h.finish := rest ▸ h.run_from (rest ▸ split)
  have wf : r.registry.WellFormed := by
    rw [← Backend.registry_of_roster? before]
    exact (h.upTo (rest ▸ split)).sound.wellFormed
  have counted : ∀ x ∈ h.exchanges.drop 6, x.transcript.Counted :=
    fun x hx selected selects none => absurd none ((found x hx).2 selected selects).1
  have ready : ∀ x ∈ h.exchanges.drop 6, ∀ selected, x.transcript.selected? = some selected →
      (selected.sets 6).isEmpty = false :=
    fun x hx selected selects => ((found x hx).2 selected selects).2
  have stays : ∀ x ∈ h.exchanges.drop 6, x.operation.enrols = false := fun x hx => (found x hx).1
  have served := (run.select_fair before wf (by rw [batch]; decide) stays counted).2 6 present ready
    (by rw [batch, size, turns])
  exact ⟨h, rehearsed, _, _, _, r, split, run, before, ⟨batch, cursor, size, turns⟩, stays, counted,
    ready, served⟩

end Multiplexer

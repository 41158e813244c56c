import Multiplexer.Proofs.History.Batches
import Multiplexer.Proofs.History.Rehearsal
import Multiplexer.Proofs.Select.Roster

/-! Where a select goes on after a full batch. It remembers how many registrations there were up to
the last one it told of, and not which one that was; so when registrations come and go before the
next batch, that batch starts elsewhere, and can leave out what was next. -/
namespace Multiplexer
open Select

namespace Registry

variable {r : Registry} {found : Descriptor → Interest} {k : Key} {e : Registration} {s : UInt32}

/-! ### Slots and places -/

/-- How many registrations there are up to a slot. -/
def upTo (r : Registry) (s : UInt32) : Nat := r.entries.countP fun (k, _) => k.index ≤ s

/-- The ready ones behind a slot, and then those up to it. -/
def readyAfter (r : Registry) (s : UInt32) (found : Descriptor → Interest) : List Descriptor :=
  let behind := r.entries.filter fun (k, _) => s < k.index
  let others := r.entries.filter fun (k, _) => k.index ≤ s
  ((behind ++ others).map fun (_, e) => e.descriptor).filter fun fd => !(found fd).isEmpty

/-- A list that rises falls apart at any height. -/
theorem filter_of_rising {entries : List (Key × Registration)}
    (rising : entries.Pairwise fun a b => a.1.index.toNat < b.1.index.toNat) (s : UInt32) :
    (entries.filter fun (k, _) => k.index ≤ s) =
      entries.take (entries.countP fun (k, _) => k.index ≤ s) ∧
    (entries.filter fun (k, _) => s < k.index) =
      entries.drop (entries.countP fun (k, _) => k.index ≤ s) := by
  induction rising with
  | nil => exact ⟨rfl, rfl⟩
  | @cons entry entries above _ ih =>
      by_cases low : entry.1.index ≤ s
      · have low' : ¬ s < entry.1.index := UInt32.not_lt.mpr low
        simp [low, low', ih.1, ih.2]
      · have high : s < entry.1.index := UInt32.not_le.mp low
        have highs : ∀ other ∈ entries, s < other.1.index := by
          intro other mem
          have next := above other mem
          rw [UInt32.lt_iff_toNat_lt] at high ⊢
          omega
        have none : (entries.countP fun (k, _) => k.index ≤ s) = 0 := by
          simp only [List.countP_eq_zero, decide_eq_true_eq, UInt32.not_le]
          exact highs
        rw [none] at ih
        simp [low, high, ih.1, ih.2, none]

theorem WellFormed.readyAfter_eq (wf : r.WellFormed) :
    r.readyAfter s found = r.readyPast (r.upTo s) found := by
  obtain ⟨low, high⟩ := filter_of_rising wf.entries_ordered s
  rw [readyAfter, readyPast, registrations, upTo]
  simp only [low, high, List.map_append, List.map_map, List.map_take, List.map_drop,
    Function.comp_def]

/-- The registrations up to the one at a place are it and those before it. -/
theorem WellFormed.upTo_of_getElem? (wf : r.WellFormed) {position : Nat}
    (listed : r.entries[position]? = some (k, e)) : r.upTo k.index = position + 1 := by
  obtain ⟨within, own⟩ := List.getElem?_eq_some_iff.mp listed
  have split : r.entries = r.entries.take position ++ (k, e) :: r.entries.drop (position + 1) := by
    rw [← own, List.getElem_cons_drop, List.take_append_drop]
  have rising := wf.entries_ordered
  rw [split, List.pairwise_append, List.pairwise_cons] at rising
  obtain ⟨-, ⟨above, -⟩, below⟩ := rising
  have all : (r.entries.take position).countP (fun (j, _) => j.index ≤ k.index) = position := by
    rw [List.countP_eq_length.mpr, List.length_take, Nat.min_eq_left (Nat.le_of_lt within)]
    intro entry mem
    have next := below entry mem (k, e) List.mem_cons_self
    exact decide_eq_true (UInt32.le_iff_toNat_le.mpr (Nat.le_of_lt next))
  have none : (r.entries.drop (position + 1)).countP (fun (j, _) => j.index ≤ k.index) = 0 := by
    simp only [List.countP_eq_zero, decide_eq_true_eq, UInt32.not_le, UInt32.lt_iff_toNat_lt]
    exact above
  rw [upTo, split, List.countP_append, List.countP_cons, all, none]
  simp

/-! ### Scans from two places -/

def between (r : Registry) (m n : Nat) : List Descriptor :=
  ((r.registrations.map (·.1)).take (max m n)).drop (min m n)

theorem head?_append_comm_iff {front back : List Descriptor} (apart : ∀ fd ∈ front, fd ∉ back) :
    (front ++ back).head? = (back ++ front).head? ↔ front = [] ∨ back = [] := by
  cases front with
  | nil => simp
  | cons fd front =>
      cases back with
      | nil => simp
      | cons fd' back =>
          simp only [List.cons_append, List.head?_cons, Option.some.injEq, reduceCtorEq, or_self,
            iff_false]
          rintro rfl
          exact apart fd List.mem_cons_self List.mem_cons_self

/-- What stands before two places, between them and behind them. -/
theorem cut_twice {m n : Nat} (ordered : m ≤ n) (all : List Descriptor) :
    ∃ front middle back, all = front ++ (middle ++ back) ∧ (all.take n).drop m = middle ∧
      (all.take m = front ∧ all.drop m = middle ++ back) ∧
      (all.take n = front ++ middle ∧ all.drop n = back) := by
  have behind : all.drop m = (all.take n).drop m ++ all.drop n := by
    have whole := List.take_append_drop (n - m) (all.drop m)
    rw [List.drop_drop, Nat.add_sub_cancel' ordered, ← List.drop_take] at whole
    exact whole.symm
  have before : all.take n = all.take m ++ (all.take n).drop m := by
    have whole := List.take_append_drop m (all.take n)
    rw [List.take_take, Nat.min_eq_left ordered] at whole
    exact whole.symm
  refine ⟨_, _, _, ?_, rfl, ⟨rfl, behind⟩, before, rfl⟩
  rw [← behind, List.take_append_drop]

/-- Scans from two places begin with the same descriptor exactly if none that is ready stands between
the two, or all that are. -/
theorem WellFormed.head?_readyPast_eq_iff (wf : r.WellFormed) (m n : Nat) :
    (r.readyPast m found).head? = (r.readyPast n found).head? ↔
      (∀ fd ∈ r.between m n, (found fd).isEmpty = true) ∨
        ∀ fd ∈ r.readyIn found, fd ∈ r.between m n := by
  wlog ordered : m ≤ n generalizing m n
  · have swapped := this n m (Nat.le_of_not_le ordered)
    rw [between, Nat.max_comm, Nat.min_comm, ← between, eq_comm, swapped]
  have distinct := wf.nodup_descriptors
  rw [between, Nat.max_eq_right ordered, Nat.min_eq_left ordered]
  simp only [readyPast, readyIn]
  generalize r.registrations.map (·.1) = all at distinct ⊢
  obtain ⟨front, middle, back, whole, inside, ⟨first, second⟩, third, fourth⟩ :=
    cut_twice ordered all
  rw [inside, first, second, third, fourth]
  rw [whole] at distinct ⊢
  have outside : ∀ fd ∈ middle, fd ∉ back ++ front := by
    intro fd mem other
    rw [List.nodup_append, List.nodup_append] at distinct
    obtain ⟨-, ⟨-, -, later⟩, earlier⟩ := distinct
    rcases List.mem_append.mp other with mem' | mem'
    · exact later fd mem fd mem' rfl
    · exact earlier fd mem' fd (List.mem_append_left _ mem) rfl
  have apart : ∀ fd ∈ middle.filter (fun fd => !(found fd).isEmpty),
      fd ∉ (back ++ front).filter fun fd => !(found fd).isEmpty := fun fd mem mem' =>
    outside fd (List.mem_of_mem_filter mem) (List.mem_of_mem_filter mem')
  have scans := head?_append_comm_iff apart
  simp only [← List.filter_append, ← List.append_assoc] at scans ⊢
  rw [scans, List.filter_eq_nil_iff, List.filter_eq_nil_iff]
  simp only [Bool.not_eq_true', Bool.not_eq_false, List.mem_filter, List.mem_append]
  apply or_congr_right
  constructor
  · rintro none fd ⟨(mem | mem) | mem, ready⟩
    · cases ready.symm.trans (none fd (.inr mem))
    · exact mem
    · cases ready.symm.trans (none fd (.inl mem))
  · intro all fd mem
    by_contra ready
    have listed : (fd ∈ front ∨ fd ∈ middle) ∨ fd ∈ back := mem.elim .inr fun mem => .inl (.inl mem)
    exact outside fd (all fd ⟨listed, Bool.eq_false_iff.mpr ready⟩) (List.mem_append.mpr mem)

end Registry

/-! ### One call -/

namespace Select.Roster

variable {r r' : Roster} {op : Operation} {t : Transcript} {answer : Answer}
  {selected : Selected (Descriptor → Interest)} {event : Event}

/-- A call in which no select finds anything leaves the cursor where it is. -/
theorem Served.cursor_eq (served : r.Served op t answer r')
    (idle : ∀ selected, t.selected? = some selected → selected.count = 0) : r'.cursor = r.cursor := by
  cases served with
  | answered found some => exact absurd (idle _ found) some
  | _ => rfl

theorem Served.batch_eq (served : r.Served op t answer r') : r'.batch = r.batch := by
  cases served <;> rfl

/-- A poll that found something tells of the ready ones from the cursor on. -/
theorem Served.events_of_found (served : r.Served op t answer r')
    (found : t.selected? = some selected) (some : selected.count ≠ 0) :
    answer.events.map (·.descriptor) =
      (r.registry.readyPast r.cursor selected.sets).take r.batch := by
  cases served with
  | kept none | added none | modified none | removed none => cases none.symm.trans found
  | unready found' none =>
      cases found.symm.trans found'
      exact absurd none some
  | answered found' =>
      cases found.symm.trans found'
      exact events_turn

/-- A full batch leaves the cursor at the number of registrations up to its last one. -/
theorem Served.cursor_of_last (served : r.Served op t answer r') (wf : r.registry.WellFormed)
    (full : answer.events.length = r.batch) (last : answer.events.getLast? = some event) :
    ∃ k, r.registry.keyOf? event.descriptor = some k ∧ r'.cursor = r.registry.upTo k.index := by
  cases served with
  | kept _ nothing =>
      rw [nothing] at last
      cases last
  | added | modified | removed | unready => cases last
  | @answered _ _ selected found =>
      change ((chosen _ _ _).map (·.event)).length = r.batch at full
      change ((chosen _ _ _).map (·.event)).getLast? = some event at last
      rw [List.length_map] at full
      rw [List.getLast?_map] at last
      obtain ⟨x, final, rfl⟩ := Option.map_eq_some_iff.mp last
      obtain ⟨earlier, split⟩ := List.getLast?_eq_some_iff.mp final
      have mem : x ∈ candidates r.registry selected.sets := by
        apply (rotate_perm r.cursor _).mem_iff.mp
        apply List.mem_of_mem_take (i := r.batch)
        change x ∈ chosen _ _ _
        rw [split]
        exact List.mem_append_right _ (List.mem_singleton_self x)
      obtain ⟨-, k, e, listed, -, own⟩ := mem_candidatesFrom.mp mem
      have opened := wf.mem_entries.mp (List.mem_of_getElem? listed)
      rw [own]
      refine ⟨k, wf.keyOf?_of_get? opened, ?_⟩
      rw [wf.upTo_of_getElem? listed]
      exact cursor_of_full full split

end Select.Roster

/-! ### Whole histories -/

/-- As long as no select finds anything, the cursor stays where it is. -/
theorem Run.cursor_eq {b c : Backend} {xs : List Exchange} {r : Roster} (run : Run b xs c)
    (select : b.roster? = some r)
    (idle : ∀ x ∈ xs, ∀ selected, x.transcript.selected? = some selected → selected.count = 0) :
    ∃ r', c.roster? = some r' ∧ r'.cursor = r.cursor ∧ r'.batch = r.batch := by
  induction run with
  | start => exact ⟨r, select, rfl, rfl⟩
  | @step xs x _ ih =>
      rw [List.forall_mem_append] at idle
      obtain ⟨r', before, cursor, batch⟩ := ih idle.1
      obtain ⟨r'', after, served⟩ := x.roster_served before
      have same := served.cursor_eq (idle.2 x (List.mem_singleton_self x))
      exact ⟨r'', after, same.trans cursor, served.batch_eq.trans batch⟩

theorem Backend.exists_roster {b : Backend} (select : b.facility = .bitmap ∨ b.facility = .socket) :
    ∃ r, b.roster? = some r := by
  rcases select with bitmap | socket
  · obtain ⟨p, rfl⟩ := eq_bitmap bitmap
    exact ⟨_, rfl⟩
  · obtain ⟨p, rfl⟩ := eq_socket socket
    exact ⟨_, rfl⟩

def Operation.enlists : Operation → Bool
  | .add .. | .modify .. | .remove _ => true
  | _ => false

namespace History

/-- Whatever is registered, changed and removed after a full batch, the next one begins with the first
ready registration behind the slot of the last of it, or with the lowest one. -/
def Resumes (h : History) : Prop :=
  ∀ {es mid fs x y event k found}, h.exchanges = es ++ x :: (mid ++ y :: fs) →
    x.answer.events.length = h.config.batchSize → x.answer.events.getLast? = some event →
    x.before.registry.keyOf? event.descriptor = some k →
    (∀ z ∈ mid, z.operation.enlists = true) →
    y.transcript.selected? = some found → found.count ≠ 0 →
    (y.answer.events.map (·.descriptor)).head? =
      (y.before.registry.readyAfter k.index found.sets).head?

variable (h : History) {es mid fs : List Exchange} {x y : Exchange} {event : Event}
  {found : Selected (Descriptor → Interest)}

/-- After a full batch the next one skips as many registrations as there were up to the last of it,
whichever they are by then, and takes the ready ones behind them and around the end. So it begins
with the first ready one behind the slot of that last one, or the lowest, exactly if of the places
between that number and the number of registrations that there are up to the slot now either no
one is ready, or only they are. -/
theorem resumes_by_count (select : h.start.facility = .bitmap ∨ h.start.facility = .socket)
    (split : h.exchanges = es ++ x :: (mid ++ y :: fs))
    (full : x.answer.events.length = h.config.batchSize)
    (last : x.answer.events.getLast? = some event)
    (idle : ∀ z ∈ mid, ∀ selected, z.transcript.selected? = some selected → selected.count = 0)
    (selects : y.transcript.selected? = some found) (something : found.count ≠ 0) :
    ∃ k, x.before.registry.keyOf? event.descriptor = some k ∧
      (let past := x.before.registry.upTo k.index
      y.answer.events.map (·.descriptor) =
        (y.before.registry.readyPast past found.sets).take h.config.batchSize ∧
      ((y.answer.events.map (·.descriptor)).head? =
          (y.before.registry.readyAfter k.index found.sets).head? ↔
        let places := y.before.registry.between past (y.before.registry.upTo k.index)
        (∀ fd ∈ places, (found.sets fd).isEmpty = true) ∨
          ∀ fd ∈ y.before.registry.readyIn found.sets, fd ∈ places)) := by
  have later : h.exchanges = (es ++ x :: mid) ++ y :: fs := by
    rw [split, List.append_assoc, List.cons_append]
  have kind : x.before.facility = h.start.facility := (h.upTo split).run.facility_eq h.opened.sound
  obtain ⟨r, before⟩ := Backend.exists_roster (kind ▸ select)
  have batch : r.batch = h.config.batchSize :=
    (Backend.batch_of_roster? before).symm.trans (h.upTo split).batch_kept
  have wf : x.before.registry.WellFormed := (h.upTo split).sound.wellFormed
  have wf' : y.before.registry.WellFormed := (h.upTo later).sound.wellFormed
  rw [Backend.registry_of_roster? before] at wf ⊢
  obtain ⟨r₁, after, served⟩ := x.roster_served before
  obtain ⟨k, known, cursor⟩ := served.cursor_of_last wf (full.trans batch.symm) last
  have run : Run x.after mid y.before := (Run.cons_iff.mp ((h.upTo later).run_from rfl)).2
  obtain ⟨r₂, before', same, batch'⟩ := run.cursor_eq after idle
  obtain ⟨r₃, -, served'⟩ := y.roster_served before'
  have events := served'.events_of_found selects something
  rw [same, cursor, batch', served.batch_eq, batch] at events
  rw [Backend.registry_of_roster? before'] at wf' ⊢
  refine ⟨k, known, events, ?_⟩
  rw [events, wf'.readyAfter_eq, ← wf'.head?_readyPast_eq_iff, List.head?_take,
    if_neg h.config.batchSize_pos.ne']

end History

/-- A full batch that ends with the second of four registrations; then come other calls and a wait that
finds these. -/
def churnedSelects (calls : List (Operation × Script.Stage)) (found : List Descriptor) :
    List (Option History) :=
  let selecting (read : List Descriptor) : Script.Stage :=
    { Script.Stage.initial with script := Script.empty.put .select [some (.ok ⟨read, [], []⟩)] }
  let called (h : History) : Option History := do
    let h ← h.rehearse ([5, 6, 7, 8].map fun fd => (.add fd { read := true } 1, .initial))
    h.rehearse ((.poll none, selecting [5, 6, 7, 8]) :: calls ++ [(.poll none, selecting found)])
  [History.rehearseOpening BitmapSelect.create .bitmap .bitmap { maxBatch := 2 } .initial >>= called,
    History.rehearseOpening SocketSelect.create .socket .socket { maxBatch := 2 } .initial >>= called]

/-- A call, what it told, how much its select counted if it succeeded, and which descriptors of those
were due, from behind a slot on. -/
structure Turn where
  operation : Operation
  told : List Descriptor
  counted : Option Nat
  due : List Descriptor
  deriving DecidableEq

def Exchange.turn (x : Exchange) (s : UInt32) : Turn where
  operation := x.operation
  told := x.answer.events.map (·.descriptor)
  counted := x.transcript.selected?.map (·.count)
  due := x.transcript.selected?.elim [] fun found => x.before.registry.readyAfter s found.sets

namespace Exchange

variable {x : Exchange} {s : UInt32} {op : Operation} {told due : List Descriptor} {n : Nat}

theorem events_of_turn {counted : Option Nat} (h : x.turn s = ⟨op, told, counted, due⟩) :
    x.operation = op ∧ x.answer.events.map (·.descriptor) = told :=
  ⟨congrArg Turn.operation h, congrArg Turn.told h⟩

theorem found_of_turn (h : x.turn s = ⟨op, told, some n, due⟩) : ∃ found,
    x.transcript.selected? = some found ∧ found.count = n ∧
      x.before.registry.readyAfter s found.sets = due := by
  obtain ⟨found, selects, counts⟩ := Option.map_eq_some_iff.mp (congrArg Turn.counted h)
  have own := congrArg Turn.due h
  rw [turn, selects] at own
  exact ⟨found, selects, counts, own⟩

theorem unselected_of_turn (h : x.turn s = ⟨op, told, none, due⟩) :
    ∀ selected, x.transcript.selected? = some selected → selected.count = 0 := by
  intro selected selects
  have none := congrArg Turn.counted h
  rw [turn, selects] at none
  cases none

end Exchange

/-- With the one in the first slot gone, the next batch begins with the fourth registration; the third,
which is ready and was next, is left out. -/
theorem removal_skips_ready :
    (churnedSelects [(.remove 5, .initial)] [6, 7, 8]).map (·.map (·.start.facility)) =
      [some .bitmap, some .socket] ∧
    ∀ rehearsal ∈ churnedSelects [(.remove 5, .initial)] [6, 7, 8], ∃ h ∈ rehearsal, ¬ h.Resumes := by
  have computed : ∀ rehearsal ∈ churnedSelects [(.remove 5, .initial)] [6, 7, 8], ∃ h ∈ rehearsal,
      h.config.batchSize = 2 ∧
      (h.exchanges.drop 4).map (·.before.registry.keyOf? 6) = List.replicate 3 (some ⟨1, 0⟩) ∧
      (h.exchanges.drop 4).map (·.turn 1) =
        [⟨.poll none, [5, 6], some 4, [7, 8, 5, 6]⟩, ⟨.remove 5, [], none, []⟩,
          ⟨.poll none, [8, 6], some 3, [7, 8, 6]⟩] := by
    decide +kernel
  refine ⟨by decide +kernel, ?_⟩
  intro rehearsal mem
  obtain ⟨h, rehearsed, batch, keys, turns⟩ := computed rehearsal mem
  refine ⟨h, rehearsed, fun resumes => ?_⟩
  have whole := (List.take_append_drop 4 h.exchanges).symm
  generalize h.exchanges.drop 4 = rest at keys turns whole
  obtain ⟨x, rest, rfl, first, turns⟩ := List.map_eq_cons_iff.mp turns
  obtain ⟨z, rest, rfl, second, turns⟩ := List.map_eq_cons_iff.mp turns
  obtain ⟨y, rfl, third⟩ := List.map_eq_singleton_iff.mp turns
  obtain ⟨e, others, events, -, last⟩ := List.map_eq_cons_iff.mp (Exchange.events_of_turn first).2
  obtain ⟨event, rfl, own⟩ := List.map_eq_singleton_iff.mp last
  obtain ⟨found, selects, counts, due⟩ := Exchange.found_of_turn third
  have key : x.before.registry.keyOf? event.descriptor = some ⟨1, 0⟩ := by
    rw [own]
    exact (List.cons.inj keys).1
  have removes := (Exchange.events_of_turn second).1
  have next := resumes whole (by rw [events, batch]; rfl) (by rw [events]; rfl) key
    (List.forall_mem_singleton.mpr (by rw [removes]; rfl)) selects (by rw [counts]; decide)
  rw [(Exchange.events_of_turn third).2, due] at next
  cases next

/-- When another one comes in the place of the one that has gone, as many stand up to the slot as
before, and the next batch begins with the third registration. -/
theorem replacement_resumes :
    (churnedSelects [(.remove 5, .initial), (.add 9 { read := true } 1, .initial)]
      [6, 7, 8, 9]).map (·.map (·.start.facility)) = [some .bitmap, some .socket] ∧
    ∀ rehearsal ∈ churnedSelects [(.remove 5, .initial), (.add 9 { read := true } 1, .initial)]
      [6, 7, 8, 9], ∃ h ∈ rehearsal, ∃ (es mid : List Exchange) (x y : Exchange) (event : Event)
        (found : Selected (Descriptor → Interest)) (k : Key),
      (h.start.facility = .bitmap ∨ h.start.facility = .socket) ∧
      h.exchanges = es ++ x :: (mid ++ [y]) ∧ x.answer.events.length = h.config.batchSize ∧
      x.answer.events.getLast? = some event ∧
      (∀ z ∈ mid, ∀ selected, z.transcript.selected? = some selected → selected.count = 0) ∧
      (y.transcript.selected? = some found ∧ found.count ≠ 0) ∧
      x.before.registry.keyOf? event.descriptor = some k ∧
      y.answer.events.map (·.descriptor) = [7, 8] ∧
      (y.before.registry.readyAfter k.index found.sets).head? = some 7 := by
  have computed : ∀ rehearsal ∈ churnedSelects
      [(.remove 5, .initial), (.add 9 { read := true } 1, .initial)] [6, 7, 8, 9],
      ∃ h ∈ rehearsal, (h.start.facility = .bitmap ∨ h.start.facility = .socket) ∧
      h.config.batchSize = 2 ∧
      (h.exchanges.drop 4).map (fun x => (x.before.registry.upTo 1, x.before.registry.keyOf? 6)) =
        [(2, some ⟨1, 0⟩), (2, some ⟨1, 0⟩), (1, some ⟨1, 0⟩), (2, some ⟨1, 0⟩)] ∧
      (h.exchanges.drop 4).map (·.turn 1) =
        [⟨.poll none, [5, 6], some 4, [7, 8, 5, 6]⟩, ⟨.remove 5, [], none, []⟩,
          ⟨.add 9 { read := true } 1, [], none, []⟩, ⟨.poll none, [7, 8], some 4, [7, 8, 9, 6]⟩] := by
    decide +kernel
  refine ⟨by decide +kernel, ?_⟩
  intro rehearsal mem
  obtain ⟨h, rehearsed, select, batch, places, turns⟩ := computed rehearsal mem
  have whole := (List.take_append_drop 4 h.exchanges).symm
  generalize h.exchanges.drop 4 = rest at places turns whole
  obtain ⟨x, rest, rfl, first, turns⟩ := List.map_eq_cons_iff.mp turns
  obtain ⟨z, rest, rfl, second, turns⟩ := List.map_eq_cons_iff.mp turns
  obtain ⟨z', rest, rfl, third, turns⟩ := List.map_eq_cons_iff.mp turns
  obtain ⟨y, rfl, fourth⟩ := List.map_eq_singleton_iff.mp turns
  have split : h.exchanges = h.exchanges.take 4 ++ x :: ([z, z'] ++ y :: []) := whole
  obtain ⟨e, others, events, -, last⟩ := List.map_eq_cons_iff.mp (Exchange.events_of_turn first).2
  obtain ⟨event, rfl, own⟩ := List.map_eq_singleton_iff.mp last
  obtain ⟨found, selects, counts, -⟩ := Exchange.found_of_turn fourth
  have full : x.answer.events.length = h.config.batchSize := by
    rw [events, batch]
    rfl
  have final : x.answer.events.getLast? = some event := by
    rw [events]
    rfl
  have idle : ∀ w ∈ [z, z'], ∀ selected, w.transcript.selected? = some selected →
      selected.count = 0 :=
    List.forall_mem_cons.mpr ⟨Exchange.unselected_of_turn second,
      List.forall_mem_singleton.mpr (Exchange.unselected_of_turn third)⟩
  have something : found.count ≠ 0 := by
    rw [counts]
    decide
  obtain ⟨k, known, -, begins⟩ :=
    h.resumes_by_count select split full final idle selects something
  simp only [List.map_cons, List.map_nil, List.cons.injEq, Prod.mk.injEq] at places
  obtain ⟨⟨before, key⟩, -, -, ⟨after, -⟩, -⟩ := places
  have slot : k = ⟨1, 0⟩ := by
    rw [own, key] at known
    exact (Option.some.inj known).symm
  have nobody : y.before.registry.between 2 2 = [] := by simp [Registry.between]
  subst slot
  dsimp only at begins
  rw [before, after, nobody] at begins
  have head := begins.mpr (.inl (List.forall_mem_nil _))
  rw [(Exchange.events_of_turn fourth).2] at head
  exact ⟨h, rehearsed, _, [z, z'], x, y, event, found, _, select, whole, full, final, idle,
    ⟨selects, something⟩, known, (Exchange.events_of_turn fourth).2, head.symm⟩

end Multiplexer

import Mathlib.Data.List.Induction
import Multiplexer.Kqueue
import Multiplexer.Proofs.Dialogue
import Multiplexer.Proofs.Registry.WellFormed

/-! How the records of one wait come together. As a list the tally is simple: a record joins the
event of the same data, or starts one at the end. `Shows` says that table and array stand for such
a list, and `events_eq_joined` says which list it is for all the records of a wait. -/
namespace Multiplexer

/-! ### Lists -/

/-- Only the first of equal elements stays. -/
theorem eraseDups_snoc {α : Type} [DecidableEq α] (l : List α) (a : α) :
    (l ++ [a]).eraseDups =
      if a ∈ l.eraseDups then l.eraseDups else l.eraseDups ++ [a] := by
  rw [List.eraseDups_append, List.removeAll, List.filter_singleton]
  by_cases old : a ∈ l
  · rw [if_pos (List.mem_eraseDups.mpr old), List.elem_eq_true_of_mem old]
    exact List.append_nil _
  · have new : l.elem a = false := Bool.eq_false_iff.mpr (mt List.mem_of_elem_eq_true old)
    rw [if_neg (mt List.mem_eraseDups.mp old), new]
    rfl

theorem nodup_eraseDups {α : Type} [DecidableEq α] (l : List α) : l.eraseDups.Nodup := by
  induction l using List.reverseRecOn with
  | nil => exact List.nodup_nil
  | append_singleton l a ih =>
      rw [eraseDups_snoc]
      split
      · exact ih
      · rename_i new
        rw [← List.concat_eq_append]
        exact ih.concat new

theorem map_modify {α β : Type} (f : α → α) (g : α → β) (f' : β → β)
    (comm : ∀ a, g (f a) = f' (g a)) (l : List α) (i : Nat) :
    (l.modify i f).map g = (l.map g).modify i f' := by
  induction l generalizing i with
  | nil => rw [List.modify_nil, List.map_nil, List.modify_nil]
  | cons a l ih =>
      cases i with
      | zero => exact congrArg (· :: l.map g) (comm a)
      | succ i => exact congrArg (g a :: ·) (ih i)

namespace Kqueue

/-- What has been gathered for one registration during a wait. -/
structure Merged where
  data : UInt64
  descriptor : Descriptor
  token : Token
  ready : Interest
  deriving DecidableEq, Repr

def Merged.event (m : Merged) : Event := ⟨m.descriptor, m.token, .readiness m.ready⟩

/-- Joins a record to the event of the same data, or starts one at the end. -/
def merge (data : UInt64) (entry : Registration) (ready : Interest) : List Merged → List Merged
  | [] => [⟨data, entry.descriptor, entry.token, ready⟩]
  | m :: rest =>
    if m.data = data then { m with ready := m.ready ∪ ready } :: rest
    else m :: merge data entry ready rest

variable {data : UInt64} {e : Registration} {ready : Interest} {merged : List Merged}

theorem merge_new (new : ∀ m ∈ merged, m.data ≠ data) :
    merge data e ready merged = merged ++ [⟨data, e.descriptor, e.token, ready⟩] := by
  induction merged with
  | nil => rfl
  | cons m rest ih =>
      obtain ⟨other, others⟩ := List.forall_mem_cons.mp new
      rw [merge, if_neg other, ih others]
      rfl

/-- Where no two events have the same data, joining changes the one with the data of the record. -/
theorem merge_old (distinct : (merged.map (·.data)).Nodup) (old : ∃ m ∈ merged, m.data = data) :
    merge data e ready merged =
      merged.map fun m => if m.data = data then { m with ready := m.ready ∪ ready } else m := by
  induction merged with
  | nil =>
      obtain ⟨m, mem, -⟩ := old
      cases mem
  | cons m rest ih =>
      obtain ⟨fresh, distinct⟩ := List.nodup_cons.mp distinct
      rw [merge, List.map_cons]
      by_cases own : m.data = data
      · have others : ∀ m' ∈ rest, m'.data ≠ data := fun m' mem same =>
          fresh (List.mem_map.mpr ⟨m', mem, same.trans own.symm⟩)
        rw [if_pos own, if_pos own, List.map_congr_left fun m' mem => if_neg (others m' mem),
          List.map_id']
      · rw [if_neg own, if_neg own, ih distinct]
        obtain ⟨m', mem, same⟩ := old
        rcases List.mem_cons.mp mem with rfl | mem
        · exact absurd same own
        · exact ⟨m', mem, same⟩

theorem merge_of_findIdx? {i : Nat} (found : merged.findIdx? (·.data == data) = some i) :
    merge data e ready merged = merged.modify i fun m => { m with ready := m.ready ∪ ready } := by
  induction merged generalizing i with
  | nil => cases found
  | cons m rest ih =>
      rw [List.findIdx?_cons] at found
      rw [merge]
      by_cases own : m.data = data
      · rw [if_pos (beq_iff_eq.mpr own)] at found
        cases found
        rw [if_pos own]
        rfl
      · rw [if_neg (mt beq_iff_eq.mp own)] at found
        obtain ⟨j, later, rfl⟩ := Option.map_eq_some_iff.mp found
        rw [if_neg own, ih later]
        rfl

/-- Looking for data does not depend on what else changes. -/
theorem findIdx?_modify {f : Merged → Merged} (keeps : ∀ m, (f m).data = m.data) {i : Nat} :
    (merged.modify i f).findIdx? (·.data == data) = merged.findIdx? (·.data == data) := by
  have through : ∀ l : List Merged,
      l.findIdx? (·.data == data) = (l.map Merged.data).findIdx? (· == data) :=
    fun l => (List.findIdx?_map (p := (· == data)) (f := Merged.data) (l := l)).symm
  rw [through, through, map_modify f Merged.data id keeps, List.modify_id]

/-! ### The tally -/

/-- The table and the array stand for these events. -/
structure Shows (t : Tally) (merged : List Merged) : Prop where
  events : t.events.toList = merged.map fun m => (m.descriptor, m.token, m.ready)
  positions : ∀ data, t.positions[data]? = merged.findIdx? (·.data == data)

namespace Shows

variable {t : Tally}

theorem clear (t : Tally) : Shows t.clear [] where
  events := rfl
  positions _ := Std.TreeMap.getElem?_emptyc

theorem size_eq (shows : Shows t merged) : t.events.size = merged.length := by
  rw [← Array.length_toList, shows.events, List.length_map]

/-- The table leads each record to the event that it is to join. -/
theorem add (shows : Shows t merged) : Shows (t.add data e ready) (merge data e ready merged) := by
  have found := shows.positions data
  unfold Tally.add
  rw [found]
  cases position : merged.findIdx? (·.data == data) with
  | none =>
      have new := fun m mem => beq_eq_false_iff_ne.mp (List.findIdx?_eq_none_iff.mp position m mem)
      rw [merge_new new]
      refine ⟨?_, fun data' => ?_⟩
      · rw [Array.toList_push, shows.events, List.map_append]
        rfl
      · rw [Std.TreeMap.getElem?_insert, List.findIdx?_append, shows.positions, shows.size_eq]
        by_cases same : data = data'
        · subst same
          rw [if_pos Std.ReflCmp.compare_self, position, List.findIdx?_cons,
            if_pos (beq_self_eq_true data), Option.none_or, Option.map_some, Nat.zero_add]
        · rw [if_neg (mt Std.LawfulEqCmp.compare_eq_iff_eq.mp same), List.findIdx?_cons,
            if_neg (mt beq_iff_eq.mp same)]
          exact (Option.or_none).symm
  | some i =>
      rw [merge_of_findIdx? position]
      refine ⟨?_, fun data' => ?_⟩
      · rw [Array.toList_modify, shows.events]
        exact (map_modify (fun m : Merged => { m with ready := m.ready ∪ ready })
          (fun m => (m.descriptor, m.token, m.ready)) _ (fun _ => rfl) merged i).symm
      · rw [shows.positions, findIdx?_modify]
        exact fun _ => rfl

/-- The size of the array is the number of the events. -/
theorem dispatched (shows : Shows t merged) : t.dispatched = .of (merged.map Merged.event) := by
  rw [Tally.dispatched, shows.events, shows.size_eq, List.map_map, Dispatched.of, List.length_map]
  rfl

end Shows

/-! ### All records of a wait -/

/-- What a record makes of what was gathered before it. The wakeup pipe adds nothing, and neither
does a key that opens nothing. -/
def gathered (p : Kqueue) (merged : List Merged) (record : FilterRecord) : List Merged :=
  if record.data = wakeKey then merged
  else (p.registry.get? (.unpack record.data)).elim merged fun e =>
    merge record.data e record.ready merged

def events (p : Kqueue) (records : List FilterRecord) : List Event :=
  (records.foldl p.gathered []).map Merged.event

/-- The data are not the wakeup pipe's and lead to a registration. -/
def resolves (p : Kqueue) (data : UInt64) : Bool :=
  data != wakeKey && (p.registry.get? (.unpack data)).isSome

def union (records : List FilterRecord) (data : UInt64) : Interest :=
  (records.filter (·.data == data)).foldl (fun ready record => ready ∪ record.ready) .none

/-- One event for all the records with these data. -/
def joint (p : Kqueue) (records : List FilterRecord) (data : UInt64) : Option Event :=
  (p.registry.get? (.unpack data)).map fun e =>
    ⟨e.descriptor, e.token, .readiness (union records data)⟩

/-- One event for each of the data that lead to a registration, in the order in which the first
records with them come. -/
def joined (p : Kqueue) (records : List FilterRecord) : List Event :=
  ((records.map (·.data)).filter p.resolves).eraseDups.filterMap (p.joint records)

variable {p : Kqueue} {record : FilterRecord} {records : List FilterRecord}

theorem gathered_of_wakeup (reserved : record.data = wakeKey) : p.gathered merged record = merged :=
  if_pos reserved

theorem gathered_of_unknown (unreserved : record.data ≠ wakeKey)
    (unknown : p.registry.get? (.unpack record.data) = none) :
    p.gathered merged record = merged := by
  rw [gathered, if_neg unreserved, unknown, Option.elim_none]

theorem gathered_of_known (unreserved : record.data ≠ wakeKey) {e : Registration}
    (known : p.registry.get? (.unpack record.data) = some e) :
    p.gathered merged record = merge record.data e record.ready merged := by
  rw [gathered, if_neg unreserved, known, Option.elim_some]

theorem gathered_of_unresolved (unresolved : p.resolves record.data = false) :
    p.gathered merged record = merged := by
  by_cases reserved : record.data = wakeKey
  · exact gathered_of_wakeup reserved
  · rw [resolves, bne_iff_ne.mpr reserved, Bool.true_and, Option.isSome_eq_false_iff,
      Option.isNone_iff_eq_none] at unresolved
    exact gathered_of_unknown reserved unresolved

theorem union_snoc (records : List FilterRecord) (record : FilterRecord) (data : UInt64) :
    union (records ++ [record]) data =
      if record.data = data then union records data ∪ record.ready else union records data := by
  rw [union, List.filter_append, List.foldl_append, List.filter_singleton]
  by_cases own : record.data = data
  · rw [if_pos own, beq_iff_eq.mpr own]
    rfl
  · rw [if_neg own, beq_eq_false_iff_ne.mpr own]
    rfl

/-- The event for the data while it is being gathered. -/
def group (p : Kqueue) (records : List FilterRecord) (data : UInt64) : Option Merged :=
  (p.registry.get? (.unpack data)).map fun e =>
    ⟨data, e.descriptor, e.token, union records data⟩

/-- The data of the records so far that lead to registrations. -/
def heard (p : Kqueue) (records : List FilterRecord) : List UInt64 :=
  ((records.map (·.data)).filter p.resolves).eraseDups

def groups (p : Kqueue) (records : List FilterRecord) : List Merged :=
  (p.heard records).filterMap (p.group records)

theorem resolves_iff {data : UInt64} : p.resolves data = true ↔
    data ≠ wakeKey ∧ ∃ e, p.registry.get? (.unpack data) = some e := by
  rw [resolves, Bool.and_eq_true, bne_iff_ne, Option.isSome_iff_exists]

theorem heard_snoc (p : Kqueue) (records : List FilterRecord) (record : FilterRecord) :
    p.heard (records ++ [record]) =
      if p.resolves record.data = true ∧ record.data ∉ p.heard records
      then p.heard records ++ [record.data] else p.heard records := by
  rw [heard, List.map_append, List.filter_append, List.map_singleton, List.filter_singleton]
  cases resolved : p.resolves record.data with
  | false => rw [if_neg (fun h => Bool.false_ne_true h.1), Bool.cond_false, List.append_nil, heard]
  | true =>
      rw [Bool.cond_true, eraseDups_snoc, ← heard]
      by_cases old : record.data ∈ p.heard records
      · rw [if_pos old, if_neg fun h => h.2 old]
      · rw [if_neg old, if_pos ⟨rfl, old⟩]

theorem resolves_of_mem_heard {data : UInt64} (mem : data ∈ p.heard records) :
    p.resolves data = true := (List.mem_filter.mp (List.mem_eraseDups.mp mem)).2

theorem data_groups (p : Kqueue) (records : List FilterRecord) :
    (p.groups records).map (·.data) = p.heard records := by
  rw [groups, List.map_filterMap]
  refine (List.filterMap_congr fun data mem => ?_).trans List.filterMap_some
  obtain ⟨-, e, known⟩ := resolves_iff.mp (resolves_of_mem_heard mem)
  rw [group, known]
  rfl

theorem union_of_not_heard {data : UInt64} (resolved : p.resolves data = true)
    (new : data ∉ p.heard records) : union records data = .none := by
  have none : records.filter (·.data == data) = [] := by
    refine List.filter_eq_nil_iff.mpr fun record mem same => new ?_
    have named := List.mem_map.mpr ⟨record, mem, beq_iff_eq.mp same⟩
    exact List.mem_eraseDups.mpr (List.mem_filter.mpr ⟨named, resolved⟩)
  rw [union, none, List.foldl_nil]

theorem group_snoc_other {data : UInt64} (other : record.data ≠ data) :
    p.group (records ++ [record]) data = p.group records data := by
  rw [group, group, union_snoc, if_neg other]

/-- The events gathered so far are one for each of the data heard so far, with all that the records
with these data report. -/
theorem gathered_groups (p : Kqueue) (records : List FilterRecord) (record : FilterRecord) :
    p.gathered (p.groups records) record = p.groups (records ++ [record]) := by
  have others : ∀ {ds : List UInt64}, record.data ∉ ds →
      ds.filterMap (p.group (records ++ [record])) = ds.filterMap (p.group records) := by
    refine fun fresh => List.filterMap_congr fun data mem => group_snoc_other ?_
    rintro rfl
    exact fresh mem
  rw [groups, groups, heard_snoc]
  cases resolved : p.resolves record.data with
  | false =>
      rw [if_neg fun h => Bool.false_ne_true h.1, others, gathered_of_unresolved resolved]
      intro mem
      rw [resolves_of_mem_heard mem] at resolved
      cases resolved
  | true =>
      obtain ⟨unreserved, e, known⟩ := resolves_iff.mp resolved
      rw [gathered_of_known unreserved known]
      by_cases old : record.data ∈ p.heard records
      -- The record joins the event that there is for its data, or it is the first with them.
      · rw [if_neg fun h => h.2 old, ← groups, merge_old, groups, List.map_filterMap]
        · refine List.filterMap_congr fun data _ => ?_
          rw [group, group, union_snoc, Option.map_map]
          refine Option.map_congr fun e' _ => ?_
          by_cases own : record.data = data
          · rw [if_pos own, Function.comp_apply, if_pos own.symm]
          · rw [if_neg own, Function.comp_apply, if_neg (Ne.symm own)]
        · rw [data_groups]
          exact nodup_eraseDups _
        · rwa [← data_groups, List.mem_map] at old
      · have begun : p.group (records ++ [record]) record.data =
            some ⟨record.data, e.descriptor, e.token, record.ready⟩ := by
          rw [group, known, union_snoc, if_pos rfl, union_of_not_heard resolved old]
          rfl
        rw [if_pos ⟨rfl, old⟩, ← groups, merge_new, List.filterMap_append, others old, ← groups,
          List.filterMap_cons_some begun, List.filterMap_nil]
        intro m mem own
        exact old (own ▸ data_groups p records ▸ List.mem_map_of_mem mem)

theorem foldl_gathered (p : Kqueue) (records : List FilterRecord) :
    records.foldl p.gathered [] = p.groups records := by
  induction records using List.reverseRecOn with
  | nil => rfl
  | append_singleton records record ih =>
      rw [List.foldl_append, ih]
      exact p.gathered_groups records record

theorem length_events (p : Kqueue) (records : List FilterRecord) :
    (p.events records).length = (p.heard records).length := by
  rw [events, foldl_gathered, List.length_map, ← data_groups, List.length_map]

/-- The events of a wait. -/
theorem events_eq_joined (p : Kqueue) (records : List FilterRecord) :
    p.events records = p.joined records := by
  rw [events, foldl_gathered, groups, List.map_filterMap, joined, ← heard]
  refine List.filterMap_congr fun data _ => ?_
  rw [group, joint, Option.map_map]
  rfl

/-- No two events are for the same descriptor. -/
theorem nodup_joined (p : Kqueue) (wf : p.registry.WellFormed) (records : List FilterRecord) :
    ((p.joined records).map (·.descriptor)).Nodup := by
  have opened : ∀ {data fd}, (p.joint records data).map (·.descriptor) = some fd →
      ∃ e, p.registry.get? (.unpack data) = some e ∧ e.descriptor = fd := by
    intro data fd named
    rw [joint, Option.map_map] at named
    exact Option.map_eq_some_iff.mp named
  rw [joined, List.map_filterMap, List.Nodup, List.pairwise_filterMap]
  refine (nodup_eraseDups _).imp fun {data data'} other fd named fd' named' same => other ?_
  obtain ⟨e, known, rfl⟩ := opened named
  obtain ⟨e', known', rfl⟩ := opened named'
  rw [← Key.pack_unpack data, wf.key_unique known known' same, Key.pack_unpack]

end Kqueue
end Multiplexer

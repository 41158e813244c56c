import Mathlib.Data.List.Induction
import Multiplexer.Backend
import Multiplexer.Proofs.Pipe.Bytes

/-! Wakes through a pipe that race with each other and with the poller. Any number of parties put
their steps together in any order; each party's own steps are a transcript of what it runs, and the
number of bytes in the pipe goes along with all of them. A wait finds the pipe readable exactly if
there is something in it. -/
namespace Multiplexer
open Dialogue

/-- A wakeup pipe, and the queue of the kernel that its poller has listed it in, if any. -/
structure Station where
  pipe : Pipe
  queue : Option Descriptor
  deriving DecidableEq, Repr

def Backend.station? : Backend → Option Station
  | epoll p => some ⟨p.wakeup, some p.queue⟩
  | kqueue p => some ⟨p.wakeup, some p.queue⟩
  | bitmap p => some ⟨p.wakeup, none⟩
  | _ => none

namespace Station

/-- What a report says about the pipe. If the wakeup is missing from it, that says something only if
it would have been in it. -/
def heard (complete woken : Bool) : Option Bool :=
  if woken then some true else if complete then some false else none

/-- Whether a wait found the pipe readable, as far as the step is one and says so. A queue reports
no more than there is room for, and a select reports on what it was told to watch. -/
def told? (w : Station) : Step → Option Bool
  | .asked (.epollWait queue room _) (.ok records) =>
    if w.queue = some queue then
      heard (records.length < room) (records.any (·.data == wakeKey))
    else none
  | .asked (.kqueueWait queue room _) (.ok records) =>
    if w.queue = some queue then
      heard (records.length < room) (records.any (·.data == wakeKey))
    else none
  | .asked (.selectFds _ watched _) (.ok selected) =>
    heard (watched.read.contains w.pipe.reader)
      (selected.count != 0 && selected.sets.read.contains w.pipe.reader)
  | _ => none

/-- How many bytes are in the pipe after a step, if it can go like that: a wait tells the truth. -/
def after? (w : Station) (capacity bytes : Nat) (s : Step) : Option Nat :=
  if (w.told? s).all (· == decide (0 < bytes)) then
    (w.pipe.traffic? s).elim (some bytes) (Traffic.after? capacity bytes)
  else none

def level? (w : Station) (capacity bytes : Nat) (t : Transcript) : Option Nat :=
  t.foldlM (w.after? capacity) bytes

variable {w : Station} {capacity b c n : Nat} {s : Step} {t u : Transcript}

theorem level?_nil : w.level? capacity b [] = some c ↔ c = b := by
  rw [level?, List.foldlM_nil]
  exact ⟨fun same => (Option.some.inj same).symm, fun same => congrArg some same.symm⟩

theorem level?_cons : w.level? capacity b (s :: t) = some c ↔
    ∃ m, w.after? capacity b s = some m ∧ w.level? capacity m t = some c := by
  rw [level?, List.foldlM_cons]
  exact Option.bind_eq_some_iff

theorem level?_append : w.level? capacity b (t ++ u) = some c ↔
    ∃ m, w.level? capacity b t = some m ∧ w.level? capacity m u = some c := by
  rw [level?, List.foldlM_append]
  exact Option.bind_eq_some_iff

theorem level?_single : w.level? capacity b [s] = some c ↔ w.after? capacity b s = some c := by
  rw [level?_cons]
  constructor
  · rintro ⟨m, after, last⟩
    rwa [level?_nil.mp last]
  · exact fun after => ⟨c, after, level?_nil.mpr rfl⟩

theorem told_eq (h : w.after? capacity b s = some c) {told : Bool} (said : w.told? s = some told) :
    told = decide (0 < b) := by
  obtain ⟨true, -⟩ := Option.ite_none_right_eq_some.mp h
  rw [said] at true
  exact beq_iff_eq.mp true

/-- A request to the pipe does what the pipe does. -/
theorem traffic_after (h : w.after? capacity b s = some c) {a : Traffic}
    (request : w.pipe.traffic? s = some a) : a.after? capacity b = some c := by
  obtain ⟨-, same⟩ := Option.ite_none_right_eq_some.mp h
  rwa [request] at same

/-- Other steps do nothing to it. -/
theorem after_aside (h : w.after? capacity b s = some c) (aside : w.pipe.traffic? s = none) :
    c = b := by
  obtain ⟨-, same⟩ := Option.ite_none_right_eq_some.mp h
  rw [aside] at same
  exact (Option.some.inj same).symm

/-- Of all that is said, only the requests to the pipe count. -/
theorem traffic_level (h : w.level? capacity b t = some c) :
    Traffic.level? capacity b (w.pipe.traffic t) = some c := by
  induction t generalizing b with
  | nil => exact h
  | cons s t ih =>
      obtain ⟨m, first, rest⟩ := level?_cons.mp h
      cases request : w.pipe.traffic? s with
      | none =>
          cases after_aside first request
          rw [Pipe.traffic, List.filterMap_cons_none request]
          exact ih rest
      | some a =>
          rw [Pipe.traffic, List.filterMap_cons_some request]
          exact Traffic.level?_cons.mpr ⟨m, traffic_after first request, ih rest⟩

end Station

/-! ### Parties -/

section
variable {ι : Type}

def merged (acts : List (ι × Step)) : Transcript := acts.map (·.2)

theorem merged_append (acts rest : List (ι × Step)) :
    merged (acts ++ rest) = merged acts ++ merged rest := List.map_append

variable [DecidableEq ι]

def own (i : ι) (acts : List (ι × Step)) : Transcript := merged (acts.filter (·.1 = i))

theorem own_snoc (i : ι) (acts : List (ι × Step)) (s : Step) :
    own i (acts ++ [(i, s)]) = own i acts ++ [s] := by
  simp [own, merged]

theorem own_snoc_other {i j : ι} (other : j ≠ i) (acts : List (ι × Step)) (s : Step) :
    own i (acts ++ [(j, s)]) = own i acts := by
  simp [own, merged, other]

/-- The last step of a party is somewhere among all steps, and from then on it has none. -/
theorem exists_last_own {i : ι} {acts : List (ι × Step)} {u : Transcript} {s : Step}
    (h : own i acts = u ++ [s]) :
    ∃ past rest, acts = past ++ (i, s) :: rest ∧ own i rest = [] := by
  induction acts using List.reverseRecOn with
  | nil => exact absurd h.symm (List.append_ne_nil_of_right_ne_nil u (List.cons_ne_nil s []))
  | append_singleton acts a ih =>
      obtain ⟨j, r⟩ := a
      by_cases mine : j = i
      · subst mine
        rw [own_snoc] at h
        obtain ⟨-, same⟩ := List.append_inj' h rfl
        cases same
        exact ⟨acts, [], rfl, rfl⟩
      · rw [own_snoc_other mine] at h
        obtain ⟨past, rest, rfl, none⟩ := ih h
        refine ⟨past, rest ++ [(j, r)], List.append_assoc _ _ _, ?_⟩
        rw [own_snoc_other mine, none]

theorem own_sublist (i : ι) (acts : List (ι × Step)) : (own i acts).Sublist (merged acts) :=
  List.filter_sublist.map _

end

namespace Station

variable {w : Station} {capacity : Nat}

/-- Once a wake has succeeded there is something in the pipe, until something is taken out again: so
the next wait that says anything finds it readable. -/
def KeepsWakes (w : Station) (capacity : Nat) : Prop :=
  ∀ {ι : Type} [DecidableEq ι] {i : ι} {past rest : List (ι × Step)} {s : Step}
    {earlier t : Transcript} {n b c : Nat},
    Follows (w.pipe.wake n) t (.ok (.ok ())) →
    own i (past ++ [(i, s)]) = earlier ++ t →
    w.level? capacity b (merged (past ++ (i, s) :: rest)) = some c →
    (∀ a ∈ w.pipe.traffic (merged rest), a.takes = false) →
    0 < c ∧ ∀ r ∈ merged rest, ∀ told, w.told? r = some told → told = true

/-- The most reads that a drain repeats: those that come back full, of the bytes in the pipe and of
those put there meanwhile, and those that are interrupted. -/
def rereads (w : Station) (bytes : Nat) (all mine : Transcript) : Nat :=
  (bytes + (w.pipe.traffic all).countP Traffic.puts) / Pipe.drainSize +
    (w.pipe.traffic mine).countP Traffic.stutters

/-- A drain reads no more often than that and one last time. With so much patience it comes to its
end, and its last read leaves the pipe empty, whatever was put into the pipe since it began. -/
def EndsDrains (w : Station) (capacity : Nat) : Prop :=
  ∀ {ι : Type} [DecidableEq ι] {i : ι} {acts : List (ι × Step)} {n b c : Nat}
    {o : Except Halt Unit},
    Follows (w.pipe.drain n) (own i acts) o →
    w.level? capacity b (merged acts) = some c →
    (own i acts).length ≤ w.rereads b (merged acts) (own i acts) + 1 ∧
      (w.rereads b (merged acts) (own i acts) < n → o = .ok ()) ∧
      (o = .ok () → ∃ (past : List (ι × Step)) (s : Step) (rest : List (ι × Step)),
        acts = past ++ (i, s) :: rest ∧ own i rest = [] ∧
        w.level? capacity b (merged (past ++ [(i, s)])) = some 0)

/-- As long as nothing is taken out, every wait hears of what is in the pipe. -/
theorem hears_unless_read {b c : Nat} {t : Transcript} (filled : 0 < b)
    (run : w.level? capacity b t = some c) (unread : ∀ a ∈ w.pipe.traffic t, a.takes = false) :
    0 < c ∧ ∀ r ∈ t, ∀ told, w.told? r = some told → told = true := by
  induction t generalizing b with
  | nil => exact ⟨level?_nil.mp run ▸ filled, List.forall_mem_nil _⟩
  | cons s t ih =>
      obtain ⟨m, first, rest⟩ := level?_cons.mp run
      have kept : 0 < m ∧ ∀ a ∈ w.pipe.traffic t, a.takes = false := by
        cases request : w.pipe.traffic? s with
        | none =>
            cases after_aside first request
            rw [Pipe.traffic, List.filterMap_cons_none request] at unread
            exact ⟨filled, unread⟩
        | some a =>
            rw [Pipe.traffic, List.filterMap_cons_some request] at unread
            obtain ⟨keeps, others⟩ := List.forall_mem_cons.mp unread
            have more := Traffic.after?_le (traffic_after first request) keeps
            exact ⟨filled.trans_le more, others⟩
      obtain ⟨more, later⟩ := ih kept.1 rest kept.2
      refine ⟨more, List.forall_mem_cons.mpr ⟨fun told said => ?_, later⟩⟩
      rw [told_eq first said]
      exact decide_eq_true filled

theorem keepsWakes (w : Station) (room : 0 < capacity) : w.KeepsWakes capacity := by
  intro ι _ i past rest s earlier t n b c woke last run unread
  have signals : w.pipe.Signals s := by
    obtain ⟨u, s', rfl, signals⟩ := w.pipe.wake_signals woke rfl
    rw [own_snoc, ← List.append_assoc] at last
    obtain ⟨-, same⟩ := List.append_inj' last rfl
    cases same
    exact signals
  obtain ⟨a, request, fills⟩ := signals.pos room
  rw [merged_append, level?_append] at run
  obtain ⟨_, -, run⟩ := run
  obtain ⟨m, first, later⟩ := level?_cons.mp run
  exact hears_unless_read (fills (traffic_after first request)) later unread

/-- The last read of a drain leaves the pipe empty. -/
theorem ends_empty {b c : Nat} {s : Step} (ends : w.pipe.Ends s)
    (after : w.after? capacity b s = some c) : c = 0 := by
  obtain ⟨a, request, empties⟩ := ends.empties
  exact empties (traffic_after after request)

theorem endsDrains (w : Station) (capacity : Nat) : w.EndsDrains capacity := by
  intro ι _ i acts n b c o drains run
  have full : (w.pipe.traffic (own i acts)).countP Traffic.gulps ≤
      (b + (w.pipe.traffic (merged acts)).countP Traffic.puts) / Pipe.drainSize := by
    have books := Traffic.level?_balance (traffic_level run)
    have mine := ((own_sublist i acts).filterMap w.pipe.traffic?).countP_le (p := Traffic.gulps)
    refine (Nat.le_div_iff_mul_le (by decide)).mpr ?_
    refine (Nat.mul_le_mul_right _ mine).trans ?_
    rw [Nat.mul_comm]
    exact (Nat.le_add_right _ c).trans books
  obtain ⟨most, halted⟩ := Pipe.length_of_drain drains
  unfold rereads
  refine ⟨by omega, fun patient => ?_, fun ok => ?_⟩
  · by_contra unfinished
    have short := halted unfinished
    omega
  · subst ok
    rcases w.pipe.drain_reads_on drains with ⟨-, u, s, reads, -, ends⟩ | ⟨halted, -⟩
    · obtain ⟨past, rest, rfl, none⟩ := exists_last_own reads
      refine ⟨past, s, rest, rfl, none, ?_⟩
      rw [List.append_cons, merged_append, level?_append] at run
      obtain ⟨m, sofar, -⟩ := run
      rw [merged_append] at sofar
      obtain ⟨_, -, last⟩ := level?_append.mp sofar
      rw [merged_append, sofar, ends_empty ends (level?_single.mp last)]
    · exact absurd rfl halted

end Station
end Multiplexer

import Mathlib.Order.Nat
import Mathlib.Tactic.SplitIfs
import Multiplexer.Proofs.Dialogue
import Multiplexer.Wakeup

/-! The bytes in a wakeup pipe. A pipe is a bounded queue of bytes of which only the number counts:
a write adds one unless the pipe is full, and a read takes as many as there are and as it has room
for. Writers and readers come in any order, so what is known of the number of bytes is proved of one
request, and then of every sequence of requests. -/
namespace Multiplexer
open Dialogue

/-- A request to one end of a pipe, with the reply. -/
inductive Traffic where
  | write (length : Nat) (reply : Except Errno Nat)
  | read (room : Nat) (reply : Except Errno Nat)

namespace Traffic

/-- How many bytes are in the pipe afterwards, if the pipe can reply like that. Only single bytes
are written, and either end can be interrupted. -/
def after? (capacity bytes : Nat) : Traffic → Option Nat
  | write length (.ok written) =>
    if length = 1 ∧ written = 1 ∧ bytes < capacity then some (bytes + 1) else none
  | write _ (.error e) =>
    if e = .interrupted ∨ e = .wouldBlock ∧ capacity ≤ bytes then some bytes else none
  | read room (.ok taken) =>
    if 0 < bytes ∧ taken = min room bytes then some (bytes - taken) else none
  | read _ (.error e) =>
    if e = .interrupted ∨ e = .wouldBlock ∧ bytes = 0 then some bytes else none

def level? (capacity bytes : Nat) (as : List Traffic) : Option Nat :=
  as.foldlM (after? capacity) bytes

def puts : Traffic → Bool
  | write _ (.ok _) => true
  | _ => false

def takes : Traffic → Bool
  | read _ (.ok _) => true
  | _ => false

/-- As many bytes were taken as one read of a drain takes. -/
def gulps : Traffic → Bool
  | read _ (.ok taken) => taken == Pipe.drainSize
  | _ => false

def stutters : Traffic → Bool
  | read _ (.error e) => e == .interrupted
  | _ => false

variable {capacity b c : Nat} {a : Traffic} {as bs : List Traffic}

theorem level?_cons : level? capacity b (a :: as) = some c ↔
    ∃ m, a.after? capacity b = some m ∧ level? capacity m as = some c := by
  rw [level?, List.foldlM_cons]
  exact Option.bind_eq_some_iff

/-! ### What one request does, and many -/

/-- A request takes bytes out, puts one in, or leaves the pipe as it is. -/
theorem after?_cases (h : a.after? capacity b = some c) :
    (a.takes = true ∧ a.puts = false ∧ c ≤ b ∧ (a.gulps = true → Pipe.drainSize + c = b)) ∨
      (a.takes = false ∧ a.gulps = false ∧ a.puts = true ∧ c = b + 1) ∨
        (a.takes = false ∧ a.gulps = false ∧ a.puts = false ∧ c = b) := by
  cases a with
  | write length reply =>
      cases reply with
      | ok written =>
          obtain ⟨-, same⟩ := Option.ite_none_right_eq_some.mp h
          exact .inr (.inl ⟨rfl, rfl, rfl, (Option.some.inj same).symm⟩)
      | error e =>
          obtain ⟨-, same⟩ := Option.ite_none_right_eq_some.mp h
          exact .inr (.inr ⟨rfl, rfl, rfl, (Option.some.inj same).symm⟩)
  | read room reply =>
      cases reply with
      | ok taken =>
          obtain ⟨⟨-, most⟩, same⟩ := Option.ite_none_right_eq_some.mp h
          have left := Option.some.inj same
          refine .inl ⟨rfl, rfl, left ▸ Nat.sub_le b taken, fun gulp => ?_⟩
          have enough : taken = Pipe.drainSize := beq_iff_eq.mp gulp
          omega
      | error e =>
          obtain ⟨-, same⟩ := Option.ite_none_right_eq_some.mp h
          exact .inr (.inr ⟨rfl, rfl, rfl, (Option.some.inj same).symm⟩)

/-- Unless bytes are taken out, none get lost. -/
theorem after?_le (h : a.after? capacity b = some c) (kept : a.takes = false) : b ≤ c := by
  rcases after?_cases h with ⟨takes, -⟩ | ⟨-, -, -, more⟩ | ⟨-, -, -, same⟩
  · cases takes.symm.trans kept
  · exact more ▸ Nat.le_succ b
  · exact same.ge

theorem after?_balance (h : a.after? capacity b = some c) :
    Pipe.drainSize * (if a.gulps = true then 1 else 0) + c ≤
      b + if a.puts = true then 1 else 0 := by
  rcases after?_cases h with ⟨-, none, less, gulped⟩ | ⟨-, none, one, more⟩ | ⟨-, none, none', same⟩
  · rw [if_neg (ne_true_of_eq_false none), Nat.add_zero]
    split
    · rename_i gulp
      rw [Nat.mul_one]
      exact (gulped gulp).le
    · rwa [Nat.mul_zero, Nat.zero_add]
  · rw [if_neg (ne_true_of_eq_false none), if_pos one, more]
    exact (Nat.zero_add _).le
  · rw [if_neg (ne_true_of_eq_false none), if_neg (ne_true_of_eq_false none'), same]
    exact (Nat.zero_add _).le

/-- What was taken in full reads had been in the pipe, or was put there meanwhile. -/
theorem level?_balance (h : level? capacity b as = some c) :
    Pipe.drainSize * as.countP gulps + c ≤ b + as.countP puts := by
  induction as generalizing b with
  | nil =>
      cases h
      exact (Nat.zero_add _).le
  | cons a as ih =>
      obtain ⟨m, first, rest⟩ := level?_cons.mp h
      have own := after?_balance first
      have others := ih rest
      rw [List.countP_cons, List.countP_cons, Nat.mul_add]
      omega

end Traffic

namespace Pipe

variable {p : Pipe} {capacity b c n : Nat} {t : Transcript}

/-- A step as a request to this pipe, if it is one. -/
def traffic? (p : Pipe) : Step → Option Traffic
  | .asked (.write fd length) reply => if fd = p.writer then some (.write length reply) else none
  | .asked (.read fd room) reply => if fd = p.reader then some (.read room reply) else none
  | _ => none

def traffic (p : Pipe) (t : Transcript) : List Traffic := t.filterMap p.traffic?

theorem traffic?_write {length : Nat} {reply : Except Errno Nat} :
    p.traffic? (.asked (.write p.writer length) reply) = some (.write length reply) := if_pos rfl

theorem traffic?_read {room : Nat} {reply : Except Errno Nat} :
    p.traffic? (.asked (.read p.reader room) reply) = some (.read room reply) := if_pos rfl

/-! ### Wakes -/

/-- The last write of a wake that succeeds finds the pipe full, or puts a byte into it. -/
inductive Signals (p : Pipe) : Step → Prop
  | put {written} : Signals p (.asked (.write p.writer 1) (.ok written))
  | full : Signals p (.asked (.write p.writer 1) (.error .wouldBlock))

theorem wake_signals (p : Pipe) : Yields (p.wake n) fun t result =>
    result = .ok () → ∃ u s, t = u ++ [s] ∧ p.Signals s := by
  unfold wake
  induction n with
  | zero => exact yields_halt.mpr trivial
  | succ n ih =>
      refine yields_ask.mpr ?_
      rintro (e | written)
      · dsimp only
        split_ifs with full interrupted
        · subst full
          exact yields_done.mpr fun _ => ⟨[], _, rfl, .full⟩
        · refine ih.mono fun t result signals ok => ?_
          obtain ⟨u, s, rfl, last⟩ := signals ok
          exact ⟨_ :: u, s, rfl, last⟩
        · exact yields_done.mpr nofun
      · exact yields_done.mpr fun _ => ⟨[], _, rfl, .put⟩

/-- After such a write there is something in the pipe. -/
theorem Signals.pos {s : Step} (h : p.Signals s) (room : 0 < capacity) :
    ∃ a, p.traffic? s = some a ∧ ∀ {b c}, a.after? capacity b = some c → 0 < c := by
  cases h with
  | put =>
      refine ⟨_, traffic?_write, fun after => ?_⟩
      obtain ⟨-, same⟩ := Option.ite_none_right_eq_some.mp after
      exact Option.some.inj same ▸ Nat.succ_pos _
  | full =>
      refine ⟨_, traffic?_write, fun after => ?_⟩
      obtain ⟨full, same⟩ := Option.ite_none_right_eq_some.mp after
      rcases full with other | ⟨-, full⟩
      · cases other
      · exact Option.some.inj same ▸ room.trans_le full

/-! ### Drains -/

/-- A read after which a drain goes on. -/
def GoesOn (p : Pipe) (s : Step) : Prop :=
  ∃ a, p.traffic? s = some a ∧ (a.gulps = true ∨ a.stutters = true)

/-- A read that ends a drain. -/
def Ends (p : Pipe) (s : Step) : Prop :=
  ∃ reply, s = .asked (.read p.reader drainSize) reply ∧ reply ≠ .ok drainSize ∧
    reply ≠ .error .interrupted

/-- A drain reads on until a read ends it, or as long as it has patience. -/
theorem drain_reads_on (p : Pipe) : Meets (p.drain n) fun t o =>
    (o = .ok () ∧ ∃ u s, t = u ++ [s] ∧ (∀ r ∈ u, p.GoesOn r) ∧ p.Ends s) ∨
      (o ≠ .ok () ∧ t.length = n ∧ ∀ r ∈ t, p.GoesOn r) := by
  unfold drain
  induction n with
  | zero => exact meets_halt.mpr (.inr ⟨nofun, rfl, List.forall_mem_nil _⟩)
  | succ n ih =>
      have again : ∀ {reply : Except Errno Nat},
          p.GoesOn (.asked (.read p.reader drainSize) reply) →
          Meets (p.drainWithin n) fun t o =>
            (o = .ok () ∧ ∃ u s, .asked (.read p.reader drainSize) reply :: t = u ++ [s] ∧
              (∀ r ∈ u, p.GoesOn r) ∧ p.Ends s) ∨
            (o ≠ .ok () ∧ (Step.asked (.read p.reader drainSize) reply :: t).length = n + 1 ∧
              ∀ r ∈ .asked (.read p.reader drainSize) reply :: t, p.GoesOn r) := by
        intro reply first
        refine ih.mono fun t o rest => ?_
        rcases rest with ⟨ok, u, s, rfl, reads, ends⟩ | ⟨halted, long, reads⟩
        · exact .inl ⟨ok, _ :: u, s, rfl, List.forall_mem_cons.mpr ⟨first, reads⟩, ends⟩
        · exact .inr ⟨halted, congrArg (· + 1) long, List.forall_mem_cons.mpr ⟨first, reads⟩⟩
      refine meets_ask.mpr ?_
      rintro (e | taken)
      · dsimp only
        split_ifs with interrupted
        · exact again ⟨_, traffic?_read, .inr (beq_iff_eq.mpr interrupted)⟩
        · refine meets_done.mpr (.inl ⟨rfl, [], _, rfl, List.forall_mem_nil _, _, rfl, nofun, ?_⟩)
          exact fun same => interrupted (Except.error.inj same)
      · dsimp only
        split_ifs with whole
        · exact again ⟨_, traffic?_read, .inl (beq_iff_eq.mpr whole)⟩
        · refine meets_done.mpr (.inl ⟨rfl, [], _, rfl, List.forall_mem_nil _, _, rfl, ?_, nofun⟩)
          exact fun same => whole (Except.ok.inj same)

/-- The read that ends a drain leaves the pipe empty, whatever was put into it meanwhile. -/
theorem Ends.empties {s : Step} (h : p.Ends s) :
    ∃ a, p.traffic? s = some a ∧ ∀ {b c}, a.after? capacity b = some c → c = 0 := by
  obtain ⟨reply, rfl, short, through⟩ := h
  refine ⟨_, traffic?_read, fun {b c} after => ?_⟩
  cases reply with
  | ok taken =>
      obtain ⟨⟨-, most⟩, same⟩ := Option.ite_none_right_eq_some.mp after
      have left := Option.some.inj same
      have fewer : taken ≠ drainSize := fun same => short (congrArg _ same)
      omega
  | error e =>
      obtain ⟨fits, same⟩ := Option.ite_none_right_eq_some.mp after
      rcases fits with interrupted | ⟨-, empty⟩
      · exact absurd (congrArg _ interrupted) through
      · exact (Option.some.inj same).symm.trans empty

/-- A drain reads once for every full read, once for every interruption, and once more. -/
theorem length_of_drain {o : Except Halt Unit} (follows : Follows (p.drain n) t o) :
    t.length ≤ (p.traffic t).countP Traffic.gulps + (p.traffic t).countP Traffic.stutters + 1 ∧
      (o ≠ .ok () →
        n ≤ (p.traffic t).countP Traffic.gulps + (p.traffic t).countP Traffic.stutters) := by
  have counted : ∀ u : Transcript, (∀ r ∈ u, p.GoesOn r) →
      u.length ≤ (p.traffic u).countP Traffic.gulps + (p.traffic u).countP Traffic.stutters := by
    intro u
    induction u with
    | nil => exact fun _ => Nat.zero_le _
    | cons r u ih =>
        intro reads
        obtain ⟨⟨a, same, goes⟩, rest⟩ := List.forall_mem_cons.mp reads
        have others := ih rest
        rw [traffic, List.filterMap_cons_some same, ← traffic, List.countP_cons, List.countP_cons,
          List.length_cons]
        rcases goes with gulp | stutter
        · rw [if_pos gulp]
          omega
        · rw [if_pos stutter]
          omega
  rcases p.drain_reads_on follows with ⟨rfl, u, s, rfl, reads, -⟩ | ⟨-, rfl, reads⟩
  · refine ⟨?_, fun halted => absurd rfl halted⟩
    have most := counted u reads
    rw [traffic, List.filterMap_append, ← traffic, List.countP_append, List.countP_append,
      List.length_append, List.length_singleton]
    omega
  · have most := counted t reads
    exact ⟨most.trans (Nat.le_succ _), fun _ => most⟩

end Pipe
end Multiplexer

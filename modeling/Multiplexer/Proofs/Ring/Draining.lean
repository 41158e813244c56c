import Multiplexer.Proofs.Ring.Moves
import Multiplexer.System.Script

/-! Passes over the completions of a ring, one after the other. Where a pass stops, the next goes on:
cutting a pass in two changes nothing of what is dispatched, asked and recorded, nor of the ring that
is left behind. -/
namespace Multiplexer

/-- What follows a dialogue matters only for the values that it can end with. -/
theorem Dialogue.Yields.bind_congr {α β : Type} {p : Dialogue α} {f g : α → Dialogue β}
    (h : Yields p fun _ a => f a = g a) : p.bind f = p.bind g := by
  induction p with
  | done a => exact yields_done.mp h
  | ask call next ih =>
      exact congrArg (Dialogue.ask call) (funext fun reply => ih reply (yields_ask.mp h reply))
  | note record next ih => exact congrArg (Dialogue.note record) (ih (yields_note.mp h))
  | halt why => rfl

theorem Sys.bind_congr {α β : Type} {p : Sys α} {f g : α → Sys β}
    (h : ∀ n, Dialogue.Yields (p n) fun _ a => f a = g a) : p >>= f = p >>= g :=
  funext fun n => ((h n).mono fun _ _ same => congrFun same n).bind_congr

namespace Ring

namespace Drained

theorem nothing_append (d : Drained) : nothing.append d = d := by
  rw [nothing, append, Dispatched.none_append, Bool.false_or]

theorem append_assoc (a b c : Drained) : (a.append b).append c = a.append (b.append c) := by
  simp only [append, Dispatched.append_assoc, Bool.or_assoc]

end Drained

/-! ### One after the other -/

/-- What is drained at first, and then more from the ring that this left. -/
def andThen (first : Sys (Drained × Ring)) (next : Ring → Sys (Drained × Ring)) :
    Sys (Drained × Ring) := do
  let (early, r) ← first
  let (late, r) ← next r
  pure (early.append late, r)

def takeAll : List Completion → Ring → Sys (Drained × Ring)
  | [], r => pure (.nothing, r)
  | c :: rest, r => andThen (r.takeCompletion c) (takeAll rest)

def drainTimes (limit : Nat) : Nat → Ring → Sys (Drained × Ring)
  | 0, r => pure (.nothing, r)
  | passes + 1, r => andThen (r.drain limit) (drainTimes limit passes)

variable {r : Ring}

theorem nothing_andThen (next : Ring → Sys (Drained × Ring)) :
    andThen (pure (.nothing, r)) next = next r := by
  simp only [andThen, pure_bind, Drained.nothing_append]
  exact bind_pure (next r)

theorem map_andThen (first : Sys (Drained × Ring)) (f : Ring → Ring)
    (next : Ring → Sys (Drained × Ring)) :
    Prod.map id f <$> andThen first next = andThen first fun r => Prod.map id f <$> next r := by
  simp only [andThen, map_bind, bind_map_left, map_pure, Prod.map_apply, Prod.map_fst, Prod.map_snd,
    id]

/-! ### The completions still in the queue do not matter -/

theorem noteInternal_facing (cs : List Completion) (c : Completion) :
    (r.facing cs).noteInternal c = (·.facing cs) <$> r.noteInternal c := by
  unfold noteInternal
  rw [show (r.facing cs).rejects c = r.rejects c from rfl]
  split
  · simp only [map_bind, map_pure]
    rfl
  · rw [map_pure]

theorem takeEntry_facing (cs : List Completion) (key : Key) (e : Registration) (c : Completion) :
    (r.facing cs).takeEntry key e c = Prod.map id (·.facing cs) <$> r.takeEntry key e c := by
  unfold takeEntry
  rw [show (r.facing cs).rejects c = r.rejects c from rfl]
  split
  · simp only [map_bind, map_pure]
    rfl
  · split
    · rw [map_pure]
      rfl
    · split
      · simp only [map_bind, map_pure]
        rfl
      · rw [map_pure]
        split <;> rfl

/-- Taking a completion neither looks at the others nor touches them. -/
theorem takeCompletion_facing (cs : List Completion) (c : Completion) :
    (r.facing cs).takeCompletion c = Prod.map id (·.facing cs) <$> r.takeCompletion c := by
  unfold takeCompletion
  split
  · simp only [noteInternal_facing, bind_map_left, map_bind, map_pure]
    rfl
  · split
    · simp only [noteInternal_facing, bind_map_left, map_bind, map_pure]
      rfl
    · split
      · rw [map_pure]
        rfl
      · rw [show (r.facing cs).registry = r.registry from rfl]
        split
        · simp only [map_bind, map_pure]
          rfl
        · exact takeEntry_facing cs _ _ c

theorem drainFrom_facing (rest cs : List Completion) (limit : Nat) :
    drainFrom rest limit (r.facing cs) = drainFrom rest limit r := by
  induction rest generalizing limit r with
  | nil => rfl
  | cons c rest ih =>
      unfold drainFrom
      split
      · rfl
      · rw [takeCompletion_facing, bind_map_left]
        simp only [Prod.map_fst, Prod.map_snd, id, ih]

/-! ### Cutting a pass in two -/

/-- No completion is worth more than one event. -/
theorem takeCompletion_single (c : Completion) (n : Nat) :
    Dialogue.Yields (r.takeCompletion c n) fun _ result => result.1.count ≤ 1 :=
  (takeCompletion_taken r c).mono fun _ _ ⟨counted, taken⟩ =>
    Nat.le_trans (Nat.le_of_eq (congrArg Dispatched.count counted)) taken.length_le

theorem drainFrom_add (cs : List Completion) (a b : Nat) :
    andThen (drainFrom cs a r) (·.drain b) = drainFrom cs (a + b) r := by
  induction cs generalizing a r with
  | nil => exact nothing_andThen _
  | cons c rest ih =>
      cases a with
      | zero =>
          rw [Nat.zero_add]
          exact (nothing_andThen _).trans (drainFrom_facing _ _ _)
      | succ a =>
          have room : a + 1 + b ≠ 0 := by omega
          simp only [drainFrom, andThen, Nat.add_one_ne_zero, room, if_false, bind_assoc, pure_bind]
          refine Sys.bind_congr fun n => (takeCompletion_single c n).mono fun _ result single => ?_
          have left : a + 1 + b - result.1.count = a + 1 - result.1.count + b := by omega
          rw [left, ← ih]
          simp only [andThen, bind_assoc, pure_bind, Drained.append_assoc]

theorem drain_zero : r.drain 0 = pure (.nothing, r) := by
  obtain ⟨⟨capacity, requests, completions⟩, _⟩ := r
  cases completions <;> rfl

theorem drainTimes_eq (limit passes : Nat) :
    drainTimes limit passes r = r.drain (passes * limit) := by
  induction passes generalizing r with
  | zero =>
      rw [Nat.zero_mul, drain_zero]
      rfl
  | succ passes ih =>
      have next : drainTimes limit passes = (·.drain (passes * limit)) := funext fun _ => ih
      rw [drainTimes, next, Nat.succ_mul, Nat.add_comm]
      exact drainFrom_add _ _ _

/-- A pass with room for all that could be dispatched takes everything. -/
theorem drainFrom_eq_takeAll {cs : List Completion} {limit : Nat} (room : cs.length ≤ limit) :
    drainFrom cs limit r = Prod.map id (·.facing []) <$> takeAll cs r := by
  induction cs generalizing limit r with
  | nil =>
      rw [takeAll, map_pure]
      rfl
  | cons c rest ih =>
      rw [List.length_cons] at room
      rw [takeAll, map_andThen, drainFrom, if_neg (by omega)]
      refine Sys.bind_congr fun n => (takeCompletion_single c n).mono fun _ ⟨first, r'⟩ single => ?_
      have left : rest.length ≤ limit - first.count := by
        dsimp only at single
        omega
      dsimp only
      rw [ih left]

/-- A pass that may dispatch `a + b` events does what two passes do that may dispatch `a` and `b`. So
passes with any limit, once they are enough, take every completion once and in its order. -/
theorem passes_compose (r : Ring) :
    (∀ a b, andThen (r.drain a) (·.drain b) = r.drain (a + b)) ∧
    ∀ limit passes, r.queues.completions.length ≤ passes * limit →
      drainTimes limit passes r =
        Prod.map id (·.facing []) <$> takeAll r.queues.completions r :=
  ⟨drainFrom_add _, fun limit passes enough =>
    (drainTimes_eq limit passes).trans (drainFrom_eq_takeAll enough)⟩

/-- Two registrations polled for as multishot polls, and what their polls and others came to. -/
def mixedQueue : Ring where
  queues :=
    { capacity := 8
      requests := []
      completions := [⟨0, 1, 2⟩, ⟨wakeKey, 1, 2⟩, ⟨7, 1, 0⟩, ⟨1, -22, 0⟩, ⟨cancelKey, 0, 0⟩,
        ⟨0, -22, 0⟩, ⟨timerKey, 1, 0⟩, ⟨0, -125, 0⟩, ⟨0, 4, 0⟩] }
  registry :=
    { slots := #[⟨0, some { descriptor := 5, interest := { read := true }, token := 50 }⟩,
        ⟨0, some { descriptor := 6, interest := { read := true }, token := 60 }⟩]
      free := []
      index := .ofList [((5 : Descriptor), (0 : UInt32)), (6, 1)] }
  waker := ⟨101⟩
  timer := ⟨102⟩
  multishot := true
  rearm := []
  cancels := []
  rearmWaker := false
  rearmTimer := false
  batch := 2

/-- Passes that dispatch one event each. The second hears the wakeup, and the first rejection in it
makes the next one an error. -/
theorem mixed_queue_drained :
    mixedQueue.queues.completions.length ≤ 9 * 1 ∧
    drainTimes 1 9 mixedQueue =
      Prod.map id (·.facing []) <$> takeAll mixedQueue.queues.completions mixedQueue ∧
    ((drainTimes 1 9 mixedQueue 0).perform Script.Stage.respond .initial).result.toOption.map (·.1) =
      some ⟨⟨[⟨5, 50, .readiness { read := true }⟩, ⟨5, 50, .readiness { error := true }⟩,
        ⟨5, 50, .readiness { write := true }⟩], 3⟩, true⟩ :=
  ⟨by decide, (passes_compose mixedQueue).2 1 9 (by decide), by decide +kernel⟩

end Ring
end Multiplexer

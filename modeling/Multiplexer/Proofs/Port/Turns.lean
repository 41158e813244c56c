import Multiplexer.Proofs.Port.Waking

/-! Wakes and polls that take turns: none begins before the one before it has returned. Each of them
is a party's steps in a row, so what holds of the steps in any order holds of the calls themselves,
and as no other wake can be joined halfway, none is lost. -/
namespace Multiplexer.Waking
open Dialogue

/-- A whole call, or a packet of something else. -/
inductive Turn (ι : Type) where
  | wake (i : ι) (result : Except Error Unit)
  /-- The wait of the poll handed over these packets. -/
  | poll (packets : List Packet)
  | arrive (packet : Packet)

variable {ι : Type}

/-- Calls one after the other. The queue takes in what the port accepts, and gives out what a wait
hands over. -/
inductive Turns (signal : PortSignal) (queue : List Packet) :
    List (Turn ι) → PortSignal → List Packet → Prop
  | start : Turns signal queue [] signal queue
  | wake {ts s ahead i n t result s'} : Turns signal queue ts s ahead →
      Follows (PortSignal.wake s n) t (.ok (result, s')) →
      Turns signal queue (ts ++ [.wake i result]) s' (ahead ++ t.accepted)
  | poll {ts rest timeout n t polled p'} {p : CompletionPort} :
      Turns signal queue ts p.signal (t.received ++ rest) →
      Follows (p.poll timeout n) t (.ok (polled, p')) →
      Turns signal queue (ts ++ [.poll t.received]) p'.signal rest
  | arrive {ts s ahead packet} : Turns signal queue ts s ahead → packet.wakes = false →
      Turns signal queue (ts ++ [.arrive packet]) s (ahead ++ [packet])

/-- The steps that such calls are made of. -/
inductive Spells : List (Turn ι) → List (Action ι) → Prop
  | nil : Spells [] []
  | wake {ts as i bs result} : Spells ts as → Wakes i bs result →
      Spells (ts ++ [.wake i result]) (as ++ bs)
  | poll {ts as packets} : Spells ts as →
      Spells (ts ++ [.poll packets])
        (as ++ .call :: .take packets :: (packets.map .handle ++ [.finish]))
  | arrive {ts as packet} : Spells ts as →
      Spells (ts ++ [.arrive packet]) (as ++ [.arrive packet])

variable {signal : PortSignal} {queue : List Packet} {ts : List (Turn ι)} {n : Nat}

/-! ### Calls as steps -/

section

variable [DecidableEq ι] {s u : State ι} {as : List (Action ι)}

theorem Turns.run (turns : Turns s.signal s.queue ts signal queue) (quiet : s.Quiet) :
    ∃ as, Spells ts as ∧ Run s as { s with signal, queue } := by
  induction turns with
  | start => exact ⟨[], .nil, .start⟩
  | @wake _ s' ahead i _ _ _ _ _ follows ih =>
      obtain ⟨as, spells, run⟩ := ih
      obtain ⟨bs, wakes, steps⟩ :=
        wake_steps { s with signal := s', queue := ahead } (quiet.1 i) follows
      exact ⟨as ++ bs, spells.wake wakes, Run.append_iff.mpr ⟨_, run, steps⟩⟩
  | @poll _ rest _ _ t _ _ p _ follows ih =>
      obtain ⟨as, spells, run⟩ := ih
      have steps := poll_steps p (s := { s with signal := p.signal, queue := t.received ++ rest }) rfl
        quiet.2 follows rest rfl
      exact ⟨_, spells.poll, Run.append_iff.mpr ⟨_, run, steps⟩⟩
  | arrive _ silent ih =>
      obtain ⟨as, spells, run⟩ := ih
      exact ⟨_, spells.arrive, run.step (.arrived silent)⟩

theorem Spells.turns (spells : Spells ts as) (run : Run s as u) :
    Turns s.signal s.queue ts u.signal u.queue := by
  induction spells generalizing u with
  | nil =>
      cases Run.nil_iff.mp run
      exact .start
  | wake _ wakes ih =>
      obtain ⟨m, before, steps⟩ := Run.append_iff.mp run
      obtain ⟨t, follows, same⟩ := wake_of_steps wakes steps 0
      rw [same]
      exact (ih before).wake follows
  | poll _ ih =>
      obtain ⟨m, before, steps⟩ := Run.append_iff.mp run
      obtain ⟨split, t, rfl, follows⟩ := poll_of_steps ⟨m.signal, 1, .empty, []⟩ rfl steps none 0
      have turns := ih before
      rw [split] at turns
      exact turns.poll (p := ⟨m.signal, 1, .empty, []⟩) follows
  | arrive _ ih =>
      obtain ⟨m, before, last⟩ := Run.snoc_iff.mp run
      cases last with
      | arrived silent => exact (ih before).arrive silent

/-- Calls that take turns are exactly the runs in which every party takes all the steps of a call in a
row. -/
theorem turns_iff (quiet : s.Quiet) : Turns s.signal s.queue ts signal queue ↔
    ∃ as, Spells ts as ∧ Run s as { s with signal, queue } :=
  ⟨fun turns => turns.run quiet, fun ⟨_, spells, run⟩ => spells.turns run⟩

end

/-! ### No wakeup is lost -/

/-- A wake that succeeds leaves the flag up, and no wake lowers it for another one. -/
theorem wake_notifies (signal : PortSignal) : Yields (signal.wake n) fun _ r =>
    (r.1 = .ok () → r.2.notified = true) ∧ (signal.notified = true → r.2.notified = true) := by
  unfold PortSignal.wake
  split
  · rename_i up
    exact Sys.yields_pure.mpr ⟨fun _ => up, id⟩
  · rename_i down
    simp only [Sys.yields_bind, Sys.yields_ask]
    rintro (e | ⟨⟩)
    · refine Sys.yields_pure.mpr ⟨fun succeeded => ?_, fun up => absurd up down⟩
      cases succeeded
    · exact Sys.yields_pure.mpr ⟨fun _ => rfl, fun _ => rfl⟩

/-- A wake has succeeded, and nobody has polled since. -/
def Woke (ts : List (Turn ι)) : Prop :=
  ∃ before i after, ts = before ++ .wake i (.ok ()) :: after ∧ ∀ packets, .poll packets ∉ after

theorem not_woke_nil : ¬ Woke ([] : List (Turn ι)) := by
  rintro ⟨before, i, after, split, -⟩
  exact absurd split.symm (List.append_ne_nil_of_right_ne_nil _ (List.cons_ne_nil _ _))

theorem Woke.of_snoc {turn : Turn ι} (woke : Woke (ts ++ [turn])) :
    (∃ i, turn = .wake i (.ok ())) ∨ Woke ts ∧ ∀ packets, turn ≠ .poll packets := by
  obtain ⟨before, i, after, split, unpolled⟩ := woke
  rcases cut_of_snoc split with ⟨rfl, rfl, rfl⟩ | ⟨after, rfl, rfl⟩
  · exact .inl ⟨i, rfl⟩
  · refine .inr ⟨⟨before, i, after, rfl, fun packets mem => ?_⟩, fun packets same => ?_⟩
    · exact unpolled packets (List.mem_append_left _ mem)
    · exact unpolled packets (same ▸ List.mem_append_right _ (List.mem_singleton_self _))

theorem Turns.notified {first : PortSignal} {start : List Packet}
    (turns : Turns first start ts signal queue) (woke : Woke ts) : signal.notified = true := by
  induction turns with
  | start => exact absurd woke not_woke_nil
  | wake _ follows ih =>
      obtain ⟨succeeds, keeps⟩ := wake_notifies _ follows
      rcases woke.of_snoc with ⟨_, same⟩ | ⟨before, -⟩
      · cases same
        exact succeeds rfl
      · exact keeps (ih before)
  | poll =>
      rcases woke.of_snoc with ⟨_, same⟩ | ⟨-, other⟩
      · cases same
      · exact absurd rfl (other _)
  | arrive _ _ ih =>
      rcases woke.of_snoc with ⟨_, same⟩ | ⟨before, -⟩
      · cases same
      · exact ih before

/-- Calls that take turns coalesce their wakes and lose none: the flag is up exactly if a wakeup is
queued, there is never a second one, and once a wake has succeeded there is one until the next poll. -/
theorem Turns.wakeup_queued [Fintype ι] [DecidableEq ι] {port : Handle}
    (turns : Turns ⟨port, false⟩ [] ts signal queue) :
    (queue.countP Packet.wakes = if signal.notified then 1 else 0) ∧
    (Woke ts → ∃ packet ∈ queue, packet.wakes = true) := by
  have quiet : (State.opened port : State ι).Quiet := ⟨fun _ => rfl, rfl⟩
  obtain ⟨as, -, run⟩ := Turns.run (s := State.opened port) turns quiet
  have balanced := run.balanced balanced_opened
  exact ⟨balanced.of_quiet quiet, fun woke => (balanced.notified_iff quiet).mp (turns.notified woke)⟩

end Multiplexer.Waking

import Multiplexer.Dialogue.Basic

/-! Reasoning about dialogues. `Yields` speaks of every value that a dialogue can end with, whatever
the system replies, `Returns` says that it does end with one, and `Meets` speaks of every outcome.
They follow the construction of the dialogue, so a dialogue is gone through by the rules below and
never by its transcripts. -/
namespace Multiplexer
namespace Dialogue

variable {α β : Type}

/-- A value that the dialogue ends with has the property, together with the transcript. -/
def Yields (p : Dialogue α) (Q : Transcript → α → Prop) : Prop :=
  ∀ ⦃t a⦄, Follows p t (.ok a) → Q t a

def Returns (p : Dialogue α) : Prop := ∀ ⦃t o⦄, Follows p t o → ∃ a, o = .ok a

@[simp] theorem yields_done {a : α} {Q : Transcript → α → Prop} :
    Yields (.done a) Q ↔ Q [] a := by
  constructor
  · intro h
    exact h (.done a)
  · intro h t b hb
    cases hb
    exact h

@[simp] theorem yields_ask {call : Call} {next : call.Reply → Dialogue α}
    {Q : Transcript → α → Prop} :
    Yields (.ask call next) Q ↔
      ∀ reply, Yields (next reply) fun t a => Q (.asked call reply :: t) a := by
  constructor
  · intro h reply t a ha
    exact h (.ask reply ha)
  · intro h t a ha
    cases ha with
    | ask reply ha => exact h reply ha

@[simp] theorem yields_note {record : Record} {next : Dialogue α} {Q : Transcript → α → Prop} :
    Yields (.note record next) Q ↔ Yields next fun t a => Q (.noted record :: t) a := by
  constructor
  · intro h t a ha
    exact h (.note ha)
  · intro h t a ha
    cases ha with
    | note ha => exact h ha

@[simp] theorem yields_halt {why : Halt} {Q : Transcript → α → Prop} :
    Yields (.halt why) Q ↔ True := by
  refine ⟨fun _ => trivial, ?_⟩
  intro _ t a ha
  cases ha

@[simp] theorem yields_bind {p : Dialogue α} {f : α → Dialogue β} {Q : Transcript → β → Prop} :
    Yields (p.bind f) Q ↔ Yields p fun t a => Yields (f a) fun u b => Q (t ++ u) b := by
  constructor
  · intro h t a ha u b hb
    exact h (ha.bind hb)
  · intro h t b hb
    obtain ⟨a, u, v, rfl, hu, hv⟩ := hb.of_bind
    exact h hu hv

theorem Yields.mono {p : Dialogue α} {Q R : Transcript → α → Prop} (h : Yields p Q)
    (imp : ∀ t a, Q t a → R t a) : Yields p R := fun _ _ ha => imp _ _ (h ha)

/-- The same for dialogues that end with two values. -/
theorem Yields.mono₂ {p : Dialogue (α × β)} {Q R : Transcript → α × β → Prop} (h : Yields p Q)
    (imp : ∀ t a b, Q t (a, b) → R t (a, b)) : Yields p R := h.mono fun t r => imp t r.1 r.2

@[simp] theorem returns_done {a : α} : Returns (.done a) := by
  intro t o ho
  cases ho
  exact ⟨a, rfl⟩

@[simp] theorem returns_ask {call : Call} {next : call.Reply → Dialogue α} :
    Returns (.ask call next) ↔ ∀ reply, Returns (next reply) := by
  constructor
  · intro h reply t o ho
    exact h (.ask reply ho)
  · intro h t o ho
    cases ho with
    | ask reply ho => exact h reply ho

@[simp] theorem returns_note {record : Record} {next : Dialogue α} :
    Returns (.note record next) ↔ Returns next := by
  constructor
  · intro h t o ho
    exact h (.note ho)
  · intro h t o ho
    cases ho with
    | note ho => exact h ho

theorem Returns.bind {p : Dialogue α} {f : α → Dialogue β} (hp : Returns p)
    (hf : ∀ a, Returns (f a)) : Returns (p.bind f) := by
  induction p with
  | done a => exact hf a
  | ask call next ih =>
      simp only [Dialogue.bind, returns_ask] at hp ⊢
      exact fun reply => ih reply (hp reply)
  | note record next ih =>
      simp only [Dialogue.bind, returns_note] at hp ⊢
      exact ih hp
  | halt why =>
      obtain ⟨a, ha⟩ := hp (.halt why)
      cases ha

/-- Every outcome has the property, together with the transcript, also when the dialogue stops. -/
def Meets (p : Dialogue α) (Q : Transcript → Except Halt α → Prop) : Prop :=
  ∀ ⦃t o⦄, Follows p t o → Q t o

theorem meets_done {a : α} {Q : Transcript → Except Halt α → Prop} :
    Meets (.done a) Q ↔ Q [] (.ok a) := by
  constructor
  · intro h
    exact h (.done a)
  · intro h t o ho
    cases ho
    exact h

theorem meets_ask {call : Call} {next : call.Reply → Dialogue α}
    {Q : Transcript → Except Halt α → Prop} :
    Meets (.ask call next) Q ↔
      ∀ reply, Meets (next reply) fun t o => Q (.asked call reply :: t) o := by
  constructor
  · intro h reply t o ho
    exact h (.ask reply ho)
  · intro h t o ho
    cases ho with
    | ask reply ho => exact h reply ho

theorem meets_note {record : Record} {next : Dialogue α} {Q : Transcript → Except Halt α → Prop} :
    Meets (.note record next) Q ↔ Meets next fun t o => Q (.noted record :: t) o := by
  constructor
  · intro h t o ho
    exact h (.note ho)
  · intro h t o ho
    cases ho with
    | note ho => exact h ho

theorem meets_halt {why : Halt} {Q : Transcript → Except Halt α → Prop} :
    Meets (.halt why) Q ↔ Q [] (.error why) := by
  constructor
  · intro h
    exact h (.halt why)
  · intro h t o ho
    cases ho
    exact h

/-- What follows a dialogue that stopped is nothing. -/
theorem meets_bind {p : Dialogue α} {f : α → Dialogue β} {Q : Transcript → Except Halt β → Prop} :
    Meets (p.bind f) Q ↔ Meets p fun t o => match o with
      | .ok a => Meets (f a) fun u o => Q (t ++ u) o
      | .error why => Q t (.error why) := by
  induction p generalizing Q with
  | done a =>
      rw [meets_done]
      rfl
  | ask call next ih =>
      simp only [Dialogue.bind, meets_ask]
      exact forall_congr' fun reply => ih reply
  | note record next ih =>
      simp only [Dialogue.bind, meets_note]
      exact ih
  | halt why =>
      rw [Dialogue.bind, meets_halt, meets_halt]

theorem Meets.mono {p : Dialogue α} {Q R : Transcript → Except Halt α → Prop} (h : Meets p Q)
    (imp : ∀ t o, Q t o → R t o) : Meets p R := fun _ _ ho => imp _ _ (h ho)

/-- A dialogue that asks first, and then does as every reply makes it do. -/
theorem meets_ask_first {call : Call} {next : call.Reply → Dialogue α} {Q : Transcript → Prop}
    (h : ∀ reply, Meets (next reply) fun t _ => Q t) :
    Meets (.ask call next) fun t _ => ∃ reply rest, t = .asked call reply :: rest ∧ Q rest :=
  meets_ask.mpr fun reply => (h reply).mono fun t _ after => ⟨reply, t, rfl, after⟩

/-- A dialogue that always ends goes on as its values tell. -/
theorem Returns.meets_bind {p : Dialogue α} {f : α → Dialogue β}
    {Q : Transcript → Except Halt β → Prop} (hp : Returns p)
    (h : Yields p fun t a => Meets (f a) fun u o => Q (t ++ u) o) : Meets (p.bind f) Q := by
  refine Dialogue.meets_bind.mpr fun t o ho => ?_
  obtain ⟨a, rfl⟩ := hp ho
  exact h ho

end Dialogue

/-! The same rules for dialogues that are told their patience. -/
namespace Sys
open Dialogue

variable {α β : Type} {n : Nat}

@[simp] theorem yields_pure {a : α} {Q : Transcript → α → Prop} :
    Yields ((pure a : Sys α) n) Q ↔ Q [] a := yields_done

@[simp] theorem yields_bind {p : Sys α} {f : α → Sys β} {Q : Transcript → β → Prop} :
    Yields ((p >>= f) n) Q ↔ Yields (p n) fun t a => Yields (f a n) fun u b => Q (t ++ u) b :=
  Dialogue.yields_bind

@[simp] theorem yields_map {p : Sys α} {f : α → β} {Q : Transcript → β → Prop} :
    Yields ((f <$> p) n) Q ↔ Yields (p n) fun t a => Q t (f a) := by
  change Yields ((p n).bind fun a => .done (f a)) Q ↔ _
  simp only [Dialogue.yields_bind, yields_done, List.append_nil]

@[simp] theorem yields_ask {call : Call} {Q : Transcript → call.Reply → Prop} :
    Yields (ask call n) Q ↔ ∀ reply, Q [.asked call reply] reply := by
  change Yields (.ask call .done) Q ↔ _
  simp only [Dialogue.yields_ask, yields_done]

@[simp] theorem yields_note {record : Record} {Q : Transcript → Unit → Prop} :
    Yields (note record n) Q ↔ Q [.noted record] () := by
  change Yields (.note record (.done ())) Q ↔ _
  simp only [Dialogue.yields_note, yields_done]

@[simp] theorem returns_pure {a : α} : Returns ((pure a : Sys α) n) := returns_done

@[simp] theorem returns_ask {call : Call} : Returns (ask call n) :=
  Dialogue.returns_ask.mpr fun _ => returns_done

@[simp] theorem returns_note {record : Record} : Returns (note record n) :=
  Dialogue.returns_note.mpr returns_done

theorem returns_bind {p : Sys α} {f : α → Sys β} (hp : Returns (p n))
    (hf : ∀ a, Returns (f a n)) : Returns ((p >>= f) n) := hp.bind hf

theorem returns_map {p : Sys α} {f : α → β} (hp : Returns (p n)) : Returns ((f <$> p) n) :=
  hp.bind fun _ => returns_done

/-! Dialogues that can fail. -/

variable {ε : Type}

/-- A value that the dialogue succeeds with has the property, together with the transcript. -/
def Gives (p : ExceptT ε Sys α) (n : Nat) (Q : Transcript → α → Prop) : Prop :=
  Yields (p.run n) fun t r => ∀ a, r = .ok a → Q t a

theorem gives_pure {a : α} {Q : Transcript → α → Prop} :
    Gives (pure a : ExceptT ε Sys α) n Q ↔ Q [] a := by
  unfold Gives
  rw [ExceptT.run_pure, yields_pure]
  exact ⟨fun h => h a rfl, fun h b hb => Except.ok.inj hb ▸ h⟩

theorem gives_throw {e : ε} {Q : Transcript → α → Prop} :
    Gives (throw e : ExceptT ε Sys α) n Q := by
  unfold Gives
  rw [ExceptT.run_throw, yields_pure]
  exact nofun

theorem gives_bind {p : ExceptT ε Sys α} {f : α → ExceptT ε Sys β} {Q : Transcript → β → Prop} :
    Gives (p >>= f) n Q ↔ Gives p n fun t a => Gives (f a) n fun u b => Q (t ++ u) b := by
  unfold Gives
  rw [ExceptT.run_bind, yields_bind]
  refine forall_congr' fun t => forall_congr' fun r => imp_congr_right fun _ => ?_
  cases r with
  | error e => simp only [yields_pure, reduceCtorEq, false_imp_iff, implies_true]
  | ok a => simp only [Except.ok.injEq, forall_eq']

theorem Gives.mono {p : ExceptT ε Sys α} {Q R : Transcript → α → Prop} (h : Gives p n Q)
    (imp : ∀ t a, Q t a → R t a) : Gives p n R :=
  Yields.mono h fun t _ given a ha => imp t a (given a ha)

/-- What holds of every last step holds of the whole. -/
theorem gives_last {p : ExceptT ε Sys α} {f : α → ExceptT ε Sys β} {P : β → Prop}
    (h : ∀ a, Gives (f a) n fun _ => P) : Gives (p >>= f) n fun _ => P :=
  gives_bind.mpr fun _ _ _ a _ => h a

theorem gives_lift {p : Sys α} {Q : Transcript → α → Prop} :
    Gives (liftM p : ExceptT ε Sys α) n Q ↔ Yields (p n) Q := by
  unfold Gives
  change Yields ((Except.ok <$> p) n) _ ↔ _
  rw [yields_map]
  refine forall_congr' fun t => forall_congr' fun a => imp_congr_right fun _ => ?_
  exact ⟨fun h => h a rfl, fun h b hb => Except.ok.inj hb ▸ h⟩

theorem gives_require {refusal : Errno → Error} {p : Sys (Except Errno α)}
    {Q : Transcript → α → Prop} :
    Gives (require refusal p) n Q ↔ Yields (p n) fun t r => ∀ a, r = .ok a → Q t a := by
  unfold Gives require
  rw [ExceptT.run_mk, yields_bind]
  refine forall_congr' fun t => forall_congr' fun r => imp_congr_right fun _ => ?_
  cases r with
  | error e => simp only [yields_pure, reduceCtorEq, false_imp_iff, implies_true]
  | ok a => simp only [yields_pure, List.append_nil, Except.ok.injEq, forall_eq']

end Sys

/-! ### Cutting what has grown by a step -/

/-- A cut of a list with one more at its end is at the new member or before it. -/
theorem cut_of_snoc {α : Type} {xs past rest : List α} {x y : α}
    (split : xs ++ [y] = past ++ x :: rest) :
    (past = xs ∧ x = y ∧ rest = []) ∨ ∃ front, xs = past ++ x :: front ∧ rest = front ++ [y] := by
  rcases List.eq_nil_or_concat rest with rfl | ⟨front, last, rfl⟩
  · obtain ⟨rfl, same⟩ := List.append_inj' split rfl
    exact .inl ⟨rfl, (List.singleton_inj.mp same).symm, rfl⟩
  · rw [List.concat_eq_append, ← List.cons_append, ← List.append_assoc] at split
    obtain ⟨rfl, same⟩ := List.append_inj' split rfl
    rw [same]
    exact .inr ⟨front, rfl, List.concat_eq_append⟩

/-! ### Counting what is dispatched -/

namespace Dispatched

/-- Events with their true number. -/
def of (events : List Event) : Dispatched := ⟨events, events.length⟩

theorem of_append (events more : List Event) :
    (of events).append (of more) = of (events ++ more) := by
  rw [of, of, of, append, List.length_append]

theorem none_append (d : Dispatched) : none.append d = d := by
  rw [none, append, List.nil_append, Nat.zero_add]

theorem append_assoc (d e f : Dispatched) : (d.append e).append f = d.append (e.append f) := by
  rw [append, append, append, append, List.append_assoc, Nat.add_assoc]

end Dispatched

/-- A poll that dispatched these events and returned their number. -/
def Polled.ready (events : List Event) : Polled := ended (.of events)

end Multiplexer

import Multiplexer.Dialogue.Call
import Multiplexer.Dialogue.Record

/-! Dialogues with the operating system. A dialogue is a tree: it ends with a value, asks the system
and goes on from any reply, records something in the log, or stops for good. `Follows` says which
transcripts a dialogue can have, whatever the system replies; `perform` holds it with a given
system. Code that may ask over and over spends a patience given from outside, so every dialogue is
finite; what it does within its patience does not depend on how much there is. -/
namespace Multiplexer

inductive Halt where
  /-- The system kept it asking beyond its patience. -/
  | patience
  /-- A deadline lies beyond what the clock can show. -/
  | deadline
  deriving DecidableEq, Repr

def Halt.message : Halt → String
  | .patience => "the operating system did not let a loop end"
  | .deadline => "overflow when adding duration to instant"

inductive Dialogue (α : Type) where
  | done (a : α)
  | ask (call : Call) (next : call.Reply → Dialogue α)
  | note (record : Record) (next : Dialogue α)
  | halt (why : Halt)

inductive Step where
  | asked (call : Call) (reply : call.Reply)
  | noted (record : Record)

abbrev Transcript := List Step

namespace Dialogue

variable {α β σ : Type}

def bind : Dialogue α → (α → Dialogue β) → Dialogue β
  | done a, f => f a
  | ask call next, f => ask call fun reply => (next reply).bind f
  | note record next, f => note record (next.bind f)
  | halt why, _ => halt why

instance : Monad Dialogue where
  pure := done
  bind := bind

theorem bind_done (p : Dialogue α) : p.bind done = p := by
  induction p with
  | done a => rfl
  | ask call next ih => exact congrArg (ask call) (funext ih)
  | note record next ih => exact congrArg (note record) ih
  | halt why => rfl

theorem bind_assoc {γ : Type} (p : Dialogue α) (f : α → Dialogue β) (g : β → Dialogue γ) :
    (p.bind f).bind g = p.bind fun a => (f a).bind g := by
  induction p with
  | done a => rfl
  | ask call next ih => exact congrArg (ask call) (funext ih)
  | note record next ih => exact congrArg (note record) ih
  | halt why => rfl

instance : LawfulMonad Dialogue := LawfulMonad.mk' Dialogue bind_done (fun _ _ => rfl) bind_assoc

/-- The dialogue can have this transcript and this outcome. -/
inductive Follows : Dialogue α → Transcript → Except Halt α → Prop
  | done (a : α) : Follows (done a) [] (.ok a)
  | ask {call : Call} {next : call.Reply → Dialogue α} (reply : call.Reply) {t o} :
      Follows (next reply) t o → Follows (ask call next) (.asked call reply :: t) o
  | note {record : Record} {next : Dialogue α} {t o} :
      Follows next t o → Follows (note record next) (.noted record :: t) o
  | halt (why : Halt) : Follows (halt why) [] (.error why)

theorem Follows.bind {p : Dialogue α} {f : α → Dialogue β} {t u : Transcript} {a : α}
    {o : Except Halt β} (hp : Follows p t (.ok a)) (hf : Follows (f a) u o) :
    Follows (p.bind f) (t ++ u) o := by
  generalize ho : (Except.ok a : Except Halt α) = oa at hp
  induction hp with
  | done b => cases ho; exact hf
  | ask reply _ ih => exact .ask reply (ih ho)
  | note _ ih => exact .note (ih ho)
  | halt why => cases ho

/-- A transcript of two dialogues in a row falls apart into one of each. -/
theorem Follows.of_bind {p : Dialogue α} {f : α → Dialogue β} {t : Transcript} {b : β}
    (h : Follows (p.bind f) t (.ok b)) :
    ∃ a u v, t = u ++ v ∧ Follows p u (.ok a) ∧ Follows (f a) v (.ok b) := by
  induction p generalizing t with
  | done a => exact ⟨a, [], t, rfl, .done a, h⟩
  | ask call next ih =>
    cases h with
    | ask reply h =>
      obtain ⟨a, u, v, rfl, hu, hv⟩ := ih reply h
      exact ⟨a, _ :: u, v, rfl, .ask reply hu, hv⟩
  | note record next ih =>
    cases h with
    | note h =>
      obtain ⟨a, u, v, rfl, hu, hv⟩ := ih h
      exact ⟨a, _ :: u, v, rfl, .note hu, hv⟩
  | halt why => cases h

structure Outcome (σ α : Type) where
  transcript : Transcript
  result : Except Halt α
  system : σ

/-- Holds the dialogue with a system given by its replies. -/
def perform (system : (call : Call) → σ → call.Reply × σ) : Dialogue α → σ → Outcome σ α
  | done a, s => ⟨[], .ok a, s⟩
  | ask call next, s =>
    let (reply, s') := system call s
    let rest := (next reply).perform system s'
    { rest with transcript := .asked call reply :: rest.transcript }
  | note record next, s =>
    let rest := next.perform system s
    { rest with transcript := .noted record :: rest.transcript }
  | halt why, s => ⟨[], .error why, s⟩

theorem follows_perform (system : (call : Call) → σ → call.Reply × σ) (p : Dialogue α) (s : σ) :
    Follows p (p.perform system s).transcript (p.perform system s).result := by
  induction p generalizing s with
  | done a => exact .done a
  | ask call next ih => exact .ask _ (ih _ _)
  | note record next ih => exact .note (ih s)
  | halt why => exact .halt why

end Dialogue

/-- Dialogues that are told their patience. -/
abbrev Sys := ReaderT Nat Dialogue

def ask (call : Call) : Sys call.Reply := fun _ => .ask call .done

def note (record : Record) : Sys Unit := fun _ => .note record (.done ())

def stop {α : Type} (why : Halt) : Sys α := fun _ => .halt why

/-- Asks for something that must not be refused, and otherwise fails as `refusal` says. -/
def require {α : Type} (refusal : Errno → Error) (p : Sys (Except Errno α)) :
    ExceptT Error Sys α :=
  ExceptT.mk do
    match ← p with
    | .ok a => pure (.ok a)
    | .error e => pure (.error (refusal e))

/-- The events a poll has handed to its caller so far, and its own count of them. -/
structure Dispatched where
  events : List Event
  count : Nat
  deriving DecidableEq, Repr

namespace Dispatched

def none : Dispatched := ⟨[], 0⟩

def cons (event : Event) (d : Dispatched) : Dispatched := ⟨event :: d.events, d.count + 1⟩

def append (d d' : Dispatched) : Dispatched := ⟨d.events ++ d'.events, d.count + d'.count⟩

end Dispatched

/-- What a poll dispatched, and the count or the error it returned. -/
structure Polled where
  events : List Event
  result : Except Error Nat
  deriving Repr

namespace Polled

def ended (d : Dispatched) : Polled := ⟨d.events, .ok d.count⟩

/-- A poll that failed with all this dispatched already. -/
def brokenOff (d : Dispatched) (e : Error) : Polled := ⟨d.events, .error e⟩

def idle : Polled := ended .none

def failed (e : Error) : Polled := brokenOff .none e

end Polled
end Multiplexer

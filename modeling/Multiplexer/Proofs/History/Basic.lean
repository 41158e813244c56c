import Mathlib.Data.List.Induction
import Multiplexer.Opening
import Multiplexer.Proofs.Dialogue

/-! Histories: a facility is opened and then serves one call after the other. An exchange is one call
together with everything said to the system during it; the system may have replied anything. -/
namespace Multiplexer

/-- What the owner of a poller can call for. -/
inductive Operation where
  | add (fd : Descriptor) (interest : Interest) (token : Token)
  | modify (fd : Descriptor) (interest : Interest)
  | remove (fd : Descriptor)
  | poll (timeout : Timeout)
  | post (fd : Descriptor) (marker : Marker) (bytes : UInt32)
  | wakeup
  deriving DecidableEq, Repr

inductive Answer where
  | returned (result : Except Error Unit)
  | polled (polled : Polled)

/-- The poll dispatched as many events as it says, no more than fit in a batch, or it failed and
dispatched none. -/
structure Polled.Within (batch : Nat) (p : Polled) : Prop where
  counted : ∀ count, p.result = .ok count → p.events.length = count ∧ count ≤ batch
  silent : ∀ e, p.result = .error e → p.events = []

theorem Polled.Within.ready {batch : Nat} {events : List Event} (fits : events.length ≤ batch) :
    Within batch (.ready events) where
  counted := by
    rintro _ ⟨⟩
    exact ⟨rfl, fits⟩
  silent := nofun

theorem Polled.Within.failed {batch : Nat} {e : Error} : Within batch (.failed e) :=
  ⟨nofun, fun _ _ => rfl⟩

def Answer.events : Answer → List Event
  | returned _ => []
  | polled p => p.events

def Answer.error? : Answer → Option Error
  | returned (.error e) | polled ⟨_, .error e⟩ => some e
  | _ => none

def Answer.count? : Answer → Option Nat
  | polled ⟨_, .ok n⟩ => some n
  | _ => none

theorem Answer.count?_polled {p : Polled} {n : Nat} :
    (polled p).count? = some n ↔ p.result = .ok n := by
  obtain ⟨events, e | n'⟩ := p
  · exact ⟨nofun, nofun⟩
  · exact ⟨fun same => congrArg _ (Option.some.inj same), fun same => congrArg _ (Except.ok.inj same)⟩

inductive Facility where
  | epoll
  | kqueue
  | bitmap
  | socket
  | port
  | ring
  deriving DecidableEq, Repr

namespace Backend

def facility : Backend → Facility
  | epoll _ => .epoll
  | kqueue _ => .kqueue
  | bitmap _ => .bitmap
  | socket _ => .socket
  | port _ => .port
  | ring _ => .ring

def serve (b : Backend) : Operation → Sys (Answer × Backend)
  | .add fd interest token => Prod.map .returned id <$> b.add fd interest token
  | .modify fd interest => Prod.map .returned id <$> b.modify fd interest
  | .remove fd => Prod.map .returned id <$> b.remove fd
  | .poll timeout => Prod.map .polled id <$> b.poll timeout
  | .post fd marker bytes => (.returned ·, b) <$> b.post fd marker bytes
  | .wakeup => Prod.map .returned id <$> b.wakeup

/-- The backend can be what opening its facility gave, with this transcript. -/
inductive Opened (config : Config) (t : Transcript) : Backend → Prop
  | epoll {p n} : Dialogue.Follows ((Epoll.create config).run n) t (.ok (.ok p)) →
      Opened config t (epoll p)
  | kqueue {p n} : Dialogue.Follows ((Kqueue.create config).run n) t (.ok (.ok p)) →
      Opened config t (kqueue p)
  | bitmap {p n} : Dialogue.Follows ((BitmapSelect.create config).run n) t (.ok (.ok p)) →
      Opened config t (bitmap p)
  | socket {p n} : Dialogue.Follows ((SocketSelect.create config).run n) t (.ok (.ok p)) →
      Opened config t (socket p)
  | port {p n} : Dialogue.Follows ((CompletionPort.create config).run n) t (.ok (.ok p)) →
      Opened config t (port p)
  | ring {p n} : Dialogue.Follows ((Ring.create config).run n) t (.ok (.ok p)) →
      Opened config t (ring p)

end Backend

structure Exchange where
  before : Backend
  operation : Operation
  transcript : Transcript
  answer : Answer
  after : Backend
  served : ∃ patience,
    Dialogue.Follows (before.serve operation patience) transcript (.ok (answer, after))

inductive Run : Backend → List Exchange → Backend → Prop
  | start (b : Backend) : Run b [] b
  | step {b : Backend} {xs : List Exchange} {x : Exchange} :
      Run b xs x.before → Run b (xs ++ [x]) x.after

namespace Run

variable {b c d : Backend} {xs ys : List Exchange} {x : Exchange}

theorem nil_iff : Run b [] c ↔ c = b := by
  constructor
  · intro h
    generalize hn : ([] : List Exchange) = ys at h
    cases h with
    | start => rfl
    | step => exact absurd hn.symm (List.append_ne_nil_of_right_ne_nil _ (List.cons_ne_nil _ _))
  · rintro rfl
    exact .start c

theorem snoc_iff : Run b (xs ++ [x]) c ↔ Run b xs x.before ∧ c = x.after := by
  constructor
  · intro h
    generalize hn : xs ++ [x] = ys at h
    cases h with
    | start => exact absurd hn (List.append_ne_nil_of_right_ne_nil _ (List.cons_ne_nil _ _))
    | step h =>
        obtain ⟨rfl, same⟩ := List.append_inj' hn rfl
        cases same
        exact ⟨h, rfl⟩
  · rintro ⟨h, rfl⟩
    exact .step h

theorem append_iff : Run b (xs ++ ys) c ↔ ∃ m, Run b xs m ∧ Run m ys c := by
  induction ys using List.reverseRecOn generalizing c with
  | nil => simp only [List.append_nil, nil_iff, exists_eq_right']
  | append_singleton ys y ih =>
      rw [← List.append_assoc]
      simp only [snoc_iff, ih]
      constructor
      · rintro ⟨⟨m, hx, hy⟩, rfl⟩
        exact ⟨m, hx, hy, rfl⟩
      · rintro ⟨m, hx, hy, rfl⟩
        exact ⟨⟨m, hx, hy⟩, rfl⟩

theorem cons_iff : Run b (x :: xs) c ↔ b = x.before ∧ Run x.after xs c := by
  have single : ∀ {m}, Run b [x] m ↔ b = x.before ∧ m = x.after := by
    intro m
    rw [← List.nil_append [x], snoc_iff, nil_iff, eq_comm]
  rw [← List.singleton_append, append_iff]
  simp only [single]
  constructor
  · rintro ⟨m, ⟨rfl, rfl⟩, h⟩
    exact ⟨rfl, h⟩
  · rintro ⟨rfl, h⟩
    exact ⟨x.after, ⟨rfl, rfl⟩, h⟩

end Run

/-- A facility from its opening on. -/
structure History where
  config : Config
  opening : Transcript
  start : Backend
  exchanges : List Exchange
  finish : Backend
  opened : start.Opened config opening
  run : Run start exchanges finish

namespace History

def transcript (h : History) : Transcript := h.opening ++ h.exchanges.flatMap (·.transcript)

end History
end Multiplexer

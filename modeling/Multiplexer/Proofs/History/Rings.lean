import Multiplexer.Proofs.History.Watchlist
import Multiplexer.Proofs.Ring.Ledger

/-! Rings in histories: what a call comes to when the facility is a ring, and which requests were
pushed and which completions taken during it. -/
namespace Multiplexer

def Backend.ring? : Backend → Option Ring
  | ring r => some r
  | _ => none

theorem Backend.eq_ring_of_ring? {b : Backend} {r : Ring} (h : b.ring? = some r) : b = .ring r := by
  cases b with
  | ring => exact congrArg Backend.ring (Option.some.inj h)
  | _ => cases h

theorem Backend.eq_ring {b : Backend} (h : b.facility = .ring) : ∃ r, b = .ring r := by
  cases b with
  | ring r => exact ⟨r, rfl⟩
  | _ => cases h

theorem Exchange.ring_served (x : Exchange) {r : Ring} (h : x.before = .ring r)
    (wf : r.registry.WellFormed) :
    ∃ r', x.after = .ring r' ∧ r.Served x.operation x.transcript x.answer r' := by
  obtain ⟨_, follows⟩ := x.served
  rw [h] at follows
  exact r.serve_served wf x.operation follows

def Backend.queues : Backend → Ring.Queues
  | ring r => r.queues
  | _ => .empty 0

namespace Exchange

def pushed (x : Exchange) : List Ring.Request :=
  (x.transcript.taken ++ x.after.queues.requests).drop x.before.queues.requests.length

def consumed (x : Exchange) : List Ring.Completion :=
  let arrived := x.before.queues.completions ++ x.transcript.posted
  arrived.take (arrived.length - x.after.queues.completions.length)

open Multiplexer.Ring

variable {x : Exchange} {r r' : Ring} {requests : List Request} {completions : List Completion}

theorem pushed_eq (before : x.before = .ring r) (after : x.after = .ring r')
    (balanced : Balanced r.queues x.transcript requests completions r'.queues) :
    x.pushed = requests := by
  rw [pushed, before, after]
  exact balanced.pushed_eq

theorem consumed_eq (before : x.before = .ring r) (after : x.after = .ring r')
    (balanced : Balanced r.queues x.transcript requests completions r'.queues) :
    x.consumed = completions := by
  rw [consumed, before, after]
  exact balanced.consumed_eq

end Exchange

/-- A history that ends on a ring began by opening it. -/
theorem History.opened_ring (h : History) {r : Ring} (ring : h.finish = .ring r) :
    ∃ r₀ n, h.start = .ring r₀ ∧
      Dialogue.Follows ((Ring.create h.config).run n) h.opening (.ok (.ok r₀)) := by
  have kind := h.run.facility_eq h.opened.sound
  have opened := h.opened
  rw [ring] at kind
  generalize h.start = start at kind opened ⊢
  cases opened with
  | ring follows => exact ⟨_, _, rfl, follows⟩
  | _ => cases kind

end Multiplexer

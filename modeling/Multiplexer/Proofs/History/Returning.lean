import Multiplexer.Proofs.History.Basic

/-! Which calls always come back. Adding, modifying, removing and posting ask the system a bounded
number of times and never wait, so they end with a result whatever the system replies. -/
namespace Multiplexer
open Dialogue Sys

variable {n : Nat} {fd : Descriptor} {interest : Interest} {token : Token}

namespace Epoll

theorem add_returns (p : Epoll) : Returns (p.add fd interest token n) := by
  unfold add
  cases p.registry.insert fd interest token with
  | error e => exact returns_pure
  | ok placed =>
      refine returns_bind returns_ask ?_
      rintro (e | ⟨⟩)
      · exact returns_pure
      · exact returns_bind returns_note fun _ => returns_pure

theorem modify_returns (p : Epoll) : Returns (p.modify fd interest n) := by
  unfold modify
  cases p.registry.keyOf? fd with
  | none => exact returns_pure
  | some k =>
      refine returns_bind returns_ask ?_
      rintro (e | ⟨⟩) <;> exact returns_pure

theorem remove_returns (p : Epoll) : Returns (p.remove fd n) := by
  unfold remove
  cases p.registry.remove fd with
  | error e => exact returns_pure
  | ok taken =>
      refine returns_bind returns_ask ?_
      rintro (e | ⟨⟩)
      · dsimp only
        split <;> exact returns_bind returns_note fun _ => returns_pure
      · exact returns_bind returns_note fun _ => returns_pure

end Epoll

namespace Kqueue

theorem submit_returns {queue : Descriptor} {ignored : List Errno} {changes : List FilterChange} :
    Returns (submit queue ignored changes n) := by
  unfold submit
  split
  · exact returns_pure
  · refine returns_bind returns_ask ?_
    rintro (e | receipts) <;> exact returns_pure

theorem add_returns (p : Kqueue) : Returns (p.add fd interest token n) := by
  unfold add
  cases p.registry.insert fd interest token with
  | error e => exact returns_pure
  | ok placed =>
      refine returns_bind submit_returns ?_
      rintro (e | ⟨⟩)
      · exact returns_bind submit_returns fun _ => returns_pure
      · exact returns_bind returns_note fun _ => returns_pure

theorem modify_returns (p : Kqueue) : Returns (p.modify fd interest n) := by
  unfold modify
  cases p.registry.keyOf? fd with
  | none => exact returns_pure
  | some k =>
      refine returns_bind submit_returns ?_
      rintro (e | ⟨⟩) <;> exact returns_pure

theorem remove_returns (p : Kqueue) : Returns (p.remove fd n) := by
  unfold remove
  cases p.registry.remove fd with
  | error e => exact returns_pure
  | ok taken =>
      refine returns_bind submit_returns ?_
      rintro (e | ⟨⟩)
      · dsimp only
        split <;> exact returns_bind returns_note fun _ => returns_pure
      · exact returns_bind returns_note fun _ => returns_pure

end Kqueue

namespace BitmapSelect

theorem add_returns (p : BitmapSelect) : Returns (p.add fd interest token n) := by
  unfold add
  split
  · exact returns_pure
  · refine returns_bind returns_ask ?_
    rintro (e | ⟨⟩)
    · exact returns_pure
    · cases p.registry.insert fd interest token with
      | error e => exact returns_pure
      | ok placed => exact returns_bind returns_note fun _ => returns_pure

theorem remove_returns (p : BitmapSelect) : Returns (p.remove fd n) := by
  unfold remove
  cases p.registry.remove fd with
  | error e => exact returns_pure
  | ok taken => exact returns_bind returns_note fun _ => returns_pure

end BitmapSelect

namespace SocketSelect

theorem add_returns (p : SocketSelect) : Returns (p.add fd interest token n) := by
  unfold add
  split
  · exact returns_pure
  · refine returns_bind returns_ask ?_
    rintro (e | ⟨⟩)
    · exact returns_pure
    · cases p.registry.insert fd interest token with
      | error e => exact returns_pure
      | ok placed => exact returns_bind returns_note fun _ => returns_pure

theorem remove_returns (p : SocketSelect) : Returns (p.remove fd n) := by
  unfold remove
  cases p.registry.remove fd with
  | error e => exact returns_pure
  | ok taken => exact returns_bind returns_note fun _ => returns_pure

end SocketSelect

namespace CompletionPort

theorem add_returns (p : CompletionPort) : Returns (p.add fd interest token n) := by
  unfold add
  cases p.registry.insert fd interest token with
  | error e => exact returns_pure
  | ok placed =>
      refine returns_bind returns_ask ?_
      rintro (e | ⟨⟩)
      · dsimp only
        split
        · exact returns_bind returns_note fun _ => returns_bind returns_note fun _ => returns_pure
        · exact returns_pure
      · exact returns_bind returns_note fun _ => returns_pure

theorem remove_returns (p : CompletionPort) : Returns (p.remove fd n) := by
  unfold remove
  cases p.registry.remove fd with
  | error e => exact returns_pure
  | ok taken => exact returns_bind returns_note fun _ => returns_pure

theorem post_returns (p : CompletionPort) {marker : Marker} {bytes : UInt32} :
    Returns (p.post fd marker bytes n) := by
  unfold post
  cases p.registry.keyOf? fd with
  | none => exact returns_pure
  | some k =>
      refine returns_bind returns_ask ?_
      rintro (e | ⟨⟩) <;> exact returns_pure

end CompletionPort

namespace Ring

theorem push_returns {queues : Queues} {request : Request} : Returns (push queues request n) := by
  unfold push
  split
  · exact returns_bind returns_ask fun _ => returns_pure
  · exact returns_pure

theorem add_returns (r : Ring) : Returns (r.add fd interest token n) := by
  unfold add
  refine returns_bind returns_ask ?_
  rintro (e | ⟨⟩)
  · exact returns_pure
  · cases r.registry.insert fd interest token with
    | error e => exact returns_pure
    | ok placed =>
        refine returns_bind push_returns ?_
        rintro ⟨c | ⟨⟩, queues⟩
        · exact returns_pure
        · exact returns_bind returns_note fun _ => returns_pure

theorem modify_returns (r : Ring) : Returns (r.modify fd interest n) := by
  unfold modify
  rcases r.registry.keyOf? fd with _ | k
  · exact returns_pure
  · rcases r.registry.rekey fd with e | moved
    · exact returns_pure
    · exact returns_bind returns_note fun _ => returns_pure

theorem remove_returns (r : Ring) : Returns (r.remove fd n) := by
  unfold remove
  rcases r.registry.keyOf? fd with _ | k
  · exact returns_pure
  · rcases r.registry.remove fd with e | taken
    · exact returns_pure
    · exact returns_bind returns_note fun _ => returns_pure

end Ring

/-- Neither waits for descriptors nor signals those who wait. -/
def Operation.prompt : Operation → Bool
  | add .. | modify .. | remove .. | post .. => true
  | poll .. | wakeup => false

theorem Backend.serve_returns (b : Backend) {op : Operation} (prompt : op.prompt = true) :
    Returns (b.serve op n) := by
  cases op with
  | add =>
      refine returns_map ?_
      cases b with
      | epoll p => exact returns_map p.add_returns
      | kqueue p => exact returns_map p.add_returns
      | bitmap p => exact returns_map p.add_returns
      | socket p => exact returns_map p.add_returns
      | port p => exact returns_map p.add_returns
      | ring p => exact returns_map p.add_returns
  | modify =>
      refine returns_map ?_
      cases b with
      | epoll p => exact returns_map p.modify_returns
      | kqueue p => exact returns_map p.modify_returns
      | bitmap p => exact returns_pure
      | socket p => exact returns_pure
      | port p => exact returns_pure
      | ring p => exact returns_map p.modify_returns
  | remove =>
      refine returns_map ?_
      cases b with
      | epoll p => exact returns_map p.remove_returns
      | kqueue p => exact returns_map p.remove_returns
      | bitmap p => exact returns_map p.remove_returns
      | socket p => exact returns_map p.remove_returns
      | port p => exact returns_map p.remove_returns
      | ring p => exact returns_map p.remove_returns
  | poll => cases prompt
  | post =>
      refine returns_map ?_
      cases b with
      | port p => exact p.post_returns
      | epoll p => exact returns_pure
      | kqueue p => exact returns_pure
      | bitmap p => exact returns_pure
      | socket p => exact returns_pure
      | ring p => exact returns_pure
  | wakeup => cases prompt

end Multiplexer

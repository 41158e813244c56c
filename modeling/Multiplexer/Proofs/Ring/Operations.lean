import Multiplexer.Proofs.Registry.Operations
import Multiplexer.Proofs.Ring.Rounds

/-! What adding, modifying and removing come to on a ring: every way a call can go, with the request
it pushed. Only an addition pushes; the others leave their requests to the next poll, which in turn
changes nothing in the registry but which registrations wait for rearming. -/
namespace Multiplexer

/-- The low half of the data is the slot of the key that packs into them. -/
theorem Key.index_of_pack {k : Key} {data : UInt64} (same : k.pack = data) :
    k.index = (Key.unpack data).index := by
  rw [← same, Key.unpack_pack]

/-- The reserved data have the three largest slot numbers. -/
theorem Key.not_reserved_of_index_lt {k : Key} (low : k.index.toNat < Registry.maxSlots - 3) :
    ¬ Ring.Reserved k.pack := by
  intro reserved
  cases reserved with
  | inl same => exact absurd (Key.index_of_pack same ▸ low) (by decide)
  | inr other =>
      cases other with
      | inl same => exact absurd (Key.index_of_pack same ▸ low) (by decide)
      | inr same => exact absurd (Key.index_of_pack same ▸ low) (by decide)

namespace Ring
open Dialogue

inductive Added (r : Ring) (fd : Descriptor) (interest : Interest) (token : Token) :
    Transcript → Except Error Unit × Ring → Prop
  | closed {e : Errno} :
      Added r fd interest token [.asked (.getFlags fd) (.error e)]
        (.error (if r.registry.contains fd then .alreadyRegistered fd
          else .unsupported fd (.os e)), r)
  | duplicate {e : Error} : r.registry.insert fd interest token = .error e →
      Added r fd interest token [.asked (.getFlags fd) (.ok ())] (.error e, r)
  | unpushed {k placed t c queues} : r.registry.insert fd interest token = .ok (k, placed) →
      Pushed r.queues (r.watch fd interest.pollMask k.pack) t (.error c, queues) →
      Added r fd interest token (.asked (.getFlags fd) (.ok ()) :: t)
        (.error (.facility c), { r with queues, registry := placed.discard fd })
  | added {k placed t queues} : r.registry.insert fd interest token = .ok (k, placed) →
      Pushed r.queues (r.watch fd interest.pollMask k.pack) t (.ok (), queues) →
      Added r fd interest token
        (.asked (.getFlags fd) (.ok ()) :: t ++ [.noted (.pollSubmitted fd interest)])
        (.ok (), { r with queues, registry := placed })

inductive Modified (r : Ring) (fd : Descriptor) (interest : Interest) :
    Transcript → Except Error Unit × Ring → Prop
  | unknown : r.registry.contains fd = false →
      Modified r fd interest [] (.error (.notRegistered fd), r)
  | rekeyed {k k' e moved} : r.registry.rekey fd = .ok (k', moved) → e.descriptor = fd →
      Registry.Rekeyed r.registry e k k' moved →
      Modified r fd interest [.noted (.resubmissionQueued fd interest)] (.ok (), { r with
        registry := moved.modify k' ({ · with interest, rearm := true })
        cancels := if e.rearm then r.cancels else k.pack :: r.cancels
        rearm := k' :: r.rearm })

inductive Removed (r : Ring) (fd : Descriptor) : Transcript → Except Error Unit × Ring → Prop
  | unknown : r.registry.contains fd = false → Removed r fd [] (.error (.notRegistered fd), r)
  | removed {k e rest} : r.registry.remove fd = .ok (e, rest) → e.descriptor = fd →
      Registry.Removed r.registry e k rest →
      Removed r fd [.noted (.deregistered .ioUring fd)] (.ok (), { r with
        registry := rest
        cancels := if e.rearm then r.cancels else k.pack :: r.cancels })

/-- The key of a registration is never one of the reserved data. -/
theorem not_reserved {registry : Registry} {k : Key} {e : Registration} (narrow : registry.Narrow)
    (opened : registry.get? k = some e) : ¬ Reserved k.pack :=
  Key.not_reserved_of_index_lt ((narrow.index_lt opened).trans_le (by decide))

variable {n : Nat} {fd : Descriptor} {interest : Interest} {token : Token}

theorem add_added (r : Ring) : Yields (r.add fd interest token n) (Added r fd interest token) := by
  simp only [add, Sys.yields_bind, Sys.yields_ask]
  rintro (e | ⟨⟩)
  · simp only [Sys.yields_pure]
    exact .closed
  · cases hins : r.registry.insert fd interest token with
    | error e =>
        simp only [Sys.yields_pure]
        exact .duplicate hins
    | ok placed =>
        simp only [Sys.yields_bind]
        refine (push_pushed _ _).mono₂ fun t result queues pushed => ?_
        cases result with
        | error c =>
            simp only [Sys.yields_pure, List.append_nil]
            exact .unpushed hins pushed
        | ok =>
            simp only [Sys.yields_bind, Sys.yields_note, Sys.yields_pure]
            exact .added hins pushed

theorem modify_modified (r : Ring) (wf : r.registry.WellFormed) :
    Yields (r.modify fd interest n) (Modified r fd interest) := by
  unfold modify
  cases present : r.registry.contains fd with
  | false =>
      simp only [Registry.keyOf?_eq_none present, Sys.yields_pure]
      exact .unknown present
  | true =>
      obtain ⟨k, hk⟩ := wf.contains_iff.mp present
      obtain ⟨e, he, rfl⟩ := wf.keyOf?_eq_some_iff.mp hk
      obtain ⟨moved, hmoved, spec⟩ := wf.rekey_of_get? he
      simp only [hk, hmoved, he, Option.map_some, Option.getD_some, Sys.yields_bind,
        Sys.yields_note, Sys.yields_pure]
      exact .rekeyed hmoved rfl spec

theorem remove_removed (r : Ring) (wf : r.registry.WellFormed) :
    Yields (r.remove fd n) (Removed r fd) := by
  unfold remove
  cases present : r.registry.contains fd with
  | false =>
      simp only [Registry.keyOf?_eq_none present, Sys.yields_pure]
      exact .unknown present
  | true =>
      obtain ⟨k, hk⟩ := wf.contains_iff.mp present
      obtain ⟨e, he, rfl⟩ := wf.keyOf?_eq_some_iff.mp hk
      obtain ⟨rest, hrest, spec⟩ := wf.remove_of_get? he
      simp only [hk, hrest, Sys.yields_bind, Sys.yields_note, Sys.yields_pure]
      exact .removed hrest rfl spec

/-! ### Moves and the registry -/

variable {r r' : Ring} {t : Transcript}

theorem Taken.reflagged {c : Completion} {events : List Event} (h : Taken r c t events r') :
    r.registry.Reflagged r'.registry := by
  cases h with
  | wakeup => exact .refl
  | timer => exact .refl
  | withdrawal => exact .refl
  | stale => exact .refl
  | rejected => exact .flag _ _ .refl
  | cancelled => exact .flag _ _ .refl
  | failed => exact .refl
  | ready =>
      split
      · exact .refl
      · exact .flag _ _ .refl

theorem Move.reflagged {log : Log} (h : Move r t log r') :
    r.registry.Reflagged r'.registry := by
  cases h with
  | aside => exact .refl
  | submit => exact .refl
  | wait => exact .refl
  | cancel => exact .refl
  | waker => exact .refl
  | timer => exact .refl
  | skip => exact .refl
  | rearm => exact .flag _ _ .refl
  | take _ taken => exact taken.reflagged

theorem Moves.reflagged {log : Log} (h : Moves r t log r') : r.registry.Reflagged r'.registry := by
  induction h with
  | rest => exact .refl
  | step _ move ih => exact ih.trans move.reflagged

end Ring
end Multiplexer

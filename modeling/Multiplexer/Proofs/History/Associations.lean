import Multiplexer.Proofs.History.Watchlist
import Multiplexer.Proofs.Port.Calls

/-! The associations of a completion port, read off what was said to the system. The table keeps for
every handle the key of its last successful association, and no other key. -/
namespace Multiplexer
open Dialogue

def Step.associated (known : List (UInt64 × Descriptor)) : Step → List (UInt64 × Descriptor)
  | .asked (.portAssociate fd _ key) (.ok ()) => CompletionPort.associate known key fd
  | _ => known

/-- The key under which the handle last joined a port. -/
def Transcript.lastAssociation (t : Transcript) (fd : Descriptor) : Option UInt64 :=
  t.foldl (fun last s => match s with
    | .asked (.portAssociate handle _ key) (.ok ()) => if handle = fd then some key else last
    | _ => last) none

namespace Transcript

def associations (t : Transcript) (known : List (UInt64 × Descriptor)) :
    List (UInt64 × Descriptor) :=
  t.foldl Step.associated known

def Unassociating (t : Transcript) : Prop := ∀ s ∈ t, ∀ known, Step.associated known s = known

variable {t u : Transcript} {known : List (UInt64 × Descriptor)}

theorem unassociating_nil : Unassociating [] := fun _ mem => nomatch mem

theorem unassociating_cons {s : Step} (hs : ∀ known, Step.associated known s = known)
    (ht : t.Unassociating) : Unassociating (s :: t) := by
  intro s' mem known
  rcases List.mem_cons.mp mem with rfl | mem
  · exact hs known
  · exact ht s' mem known

theorem Unassociating.associations_eq (h : t.Unassociating) : t.associations known = known := by
  induction t with
  | nil => rfl
  | cons s t ih =>
      rw [associations, List.foldl_cons, h s List.mem_cons_self]
      exact ih fun s' mem => h s' (List.mem_cons_of_mem _ mem)

theorem lastAssociation_of_mem {key : UInt64} {fd : Descriptor}
    (h : (key, fd) ∈ associations t []) : t.lastAssociation fd = some key := by
  induction t using List.reverseRecOn with
  | nil => cases h
  | append_singleton t s ih =>
      rw [associations, List.foldl_append] at h
      rw [lastAssociation, List.foldl_append]
      change (key, fd) ∈ Step.associated (associations t []) s at h
      unfold Step.associated at h
      split at h
      · rename_i joined _ joinedKey
        change (if joined = fd then some joinedKey else lastAssociation t fd) = some key
        rcases List.mem_cons.mp h with same | kept
        · cases same
          exact if_pos rfl
        · obtain ⟨kept, others⟩ := List.mem_filter.mp kept
          simp only [Bool.and_eq_true, bne_iff_ne] at others
          rw [if_neg fun same => others.1 same.symm]
          exact ih kept
      · rename_i other
        dsimp only [List.foldl_cons, List.foldl_nil]
        split
        · exact absurd rfl (other _ _ _)
        · exact ih h

end Transcript

namespace CompletionPort

theorem remarks_unassociating (p : CompletionPort) (packets : List Packet) :
    (p.remarks packets).Unassociating := by
  intro s mem known
  obtain ⟨record, -, rfl⟩ := List.mem_map.mp mem
  rfl

/-- The table of the port afterwards is what the transcript makes of the table before. -/
theorem Served.associations_eq {p p' : CompletionPort} {op : Operation} {t : Transcript}
    {answer : Answer} (h : p.Served op t answer p') :
    p'.associations = t.associations p.associations := by
  cases h with
  | answered =>
      refine (Transcript.Unassociating.associations_eq ?_).symm
      exact Transcript.unassociating_cons (fun _ => rfl) (p.remarks_unassociating _)
  | _ => rfl

end CompletionPort

open Sys in
theorem CompletionPort.create_associations {config : Config} {n : Nat} :
    Gives (CompletionPort.create config) n fun _ p => p.associations = [] :=
  gives_last fun _ => gives_last fun _ => gives_pure.mpr rfl

/-- A call that leaves a completion port was made to one. -/
theorem Exchange.port_outcome (x : Exchange) (wf : x.before.registry.WellFormed)
    {p' : CompletionPort} (after : x.after = .port p') :
    ∃ p, x.before = .port p ∧ p.Served x.operation x.transcript x.answer p' := by
  cases same : x.before with
  | port p =>
      obtain ⟨p'', left, outcome⟩ := x.port_served same
      rw [after] at left
      cases left
      exact ⟨p, rfl, outcome⟩
  | _ =>
      have facility := (x.effect wf).2
      rw [after, same] at facility
      cases facility

/-- The table of a port says what the history says. -/
theorem History.associations_eq (h : History) {p : CompletionPort} (port : h.finish = .port p) :
    p.associations = Transcript.associations (h.exchanges.flatMap (·.transcript)) [] := by
  obtain ⟨config, opening, start, exchanges, finish, opened, run⟩ := h
  dsimp only at port ⊢
  induction run generalizing p with
  | start =>
      subst port
      cases opened with
      | port follows => exact CompletionPort.create_associations follows _ rfl
  | @step xs x before ih =>
      obtain ⟨q, same, outcome⟩ := x.port_outcome (before.sound opened.sound).wellFormed port
      rw [outcome.associations_eq, ih same, List.flatMap_append, List.flatMap_singleton,
        Transcript.associations, Transcript.associations, Transcript.associations,
        List.foldl_append]

end Multiplexer

import Mathlib.Logic.Function.Basic
import Multiplexer.Proofs.Registry.Commands
import Multiplexer.Proofs.Registry.Keyed
import Multiplexer.Proofs.Registry.Registrations

/-! Registries as directories. A directory says under which key each descriptor is registered, and
as what; it is told by the commands and their replies alone. A registry that was empty at first
answers every call, and lists its registrations, as the directory of its log has them. -/
namespace Multiplexer.Registry

abbrev Directory := Descriptor → Option (Key × Registration)

namespace Directory

def empty : Directory := fun _ => none

def after (d : Directory) : Command × Reply → Directory
  | (.insert fd interest token, .issued key) =>
    Function.update d fd (some (key, { descriptor := fd, interest, token }))
  | (.rekey fd, .issued key) => Function.update d fd ((d fd).map fun (_, e) => (key, e))
  | (.remove fd, .removed _) => Function.update d fd none
  | (.update key interest rearm, .opened _) => fun fd =>
    (d fd).map fun (k, e) => (k, if k = key then { e with interest, rearm } else e)
  | (.updateOf fd interest rearm, .opened _) =>
    Function.update d fd ((d fd).map fun (k, e) => (k, { e with interest, rearm }))
  | _ => d

def replay (log : List (Command × Reply)) : Directory := log.foldl after empty

end Directory

/-- Every call of the registry answers as the directory has it. -/
structure Answers (r : Registry) (d : Directory) : Prop where
  contains_eq : ∀ fd, r.contains fd = (d fd).isSome
  keyOf?_eq : ∀ fd, r.keyOf? fd = (d fd).map (·.1)
  find?_eq : ∀ fd, r.find? fd = (d fd).map (·.2)
  descriptor_eq : ∀ {fd k e}, d fd = some (k, e) → e.descriptor = fd
  opens_iff : ∀ {k e}, r.get? k = some e ↔ d e.descriptor = some (k, e)
  insert_fails : ∀ {fd interest token f},
    r.insert fd interest token = .error f ↔ (d fd).isSome ∧ f = .alreadyRegistered fd
  rekey_fails : ∀ {fd f}, r.rekey fd = .error f ↔ d fd = none ∧ f = .notRegistered fd
  remove_fails : ∀ {fd f}, r.remove fd = .error f ↔ d fd = none ∧ f = .notRegistered fd
  removed : ∀ {fd k e}, d fd = some (k, e) → ∃ rest, r.remove fd = .ok (e, rest)
  /-- A call that fails has changed nothing. -/
  unchanged : ∀ {c f}, (r.serve c).1 = .failed f → (r.serve c).2 = r

/-- The registrations are listed as the directory has them. -/
structure Enumerates (r : Registry) (d : Directory) : Prop where
  mem_iff : ∀ {k e}, (k, e) ∈ r.entries ↔ d e.descriptor = some (k, e)
  once : (r.entries.map fun entry => entry.2.descriptor).Nodup
  ordered : r.entries.Pairwise fun a b => a.1.index.toNat < b.1.index.toNat
  resolved : ∀ {k e}, (k, e) ∈ r.entries → r.get? k = some e
  length_eq : r.entries.length = r.size

variable {r r' : Registry} {c : Command} {reply : Reply} {fd : Descriptor} {k : Key}
  {e : Registration}

/-! ### One command -/

theorem update_keyed? (r : Registry) (fd : Descriptor) (v : Option (Key × Registration)) :
    Function.update r.keyed? fd v = fun fd' => if fd' = fd then v else r.keyed? fd' :=
  funext fun fd' => Function.update_apply r.keyed? fd v fd'

/-- The registry and its directory change alike. -/
theorem Served.keyed?_eq (served : Served r c reply r') (wf : r.WellFormed) :
    r'.keyed? = Directory.after r.keyed? (c, reply) := by
  cases served with
  | duplicate => rfl
  | inserted ins => exact (funext (ins.keyed? wf)).trans (update_keyed? ..).symm
  | unremoved => rfl
  | removed rem => exact (funext (rem.keyed? wf)).trans (update_keyed? ..).symm
  | unrekeyed => rfl
  | rekeyed rek =>
      refine (funext (rek.keyed? wf)).trans ?_
      rw [Directory.after, wf.keyed?_of_get? rek.opened]
      exact (update_keyed? ..).symm
  | updated => exact funext fun fd => keyed?_modify _
  | missed absent =>
      have unknown := keyed?_of_keyOf?_eq_none (keyOf?_eq_none absent)
      rw [Directory.after, unknown]
      exact (Function.update_eq_self_iff.mpr unknown.symm).symm
  | @updatedOf k e interest rearm opened =>
      funext fd
      rw [Directory.after, wf.keyed?_of_get? opened, Option.map_some, Function.update_apply]
      by_cases own : fd = e.descriptor
      · rw [if_pos own, own]
        exact wf.keyed?_modify_self opened _
      · rw [if_neg own]
        exact wf.keyed?_modify_other opened own _

theorem Served.unchanged {f : Error} (served : Served r c (.failed f) r') : r' = r := by
  cases served <;> rfl

/-! ### Well-formed registries -/

theorem WellFormed.contains_eq_keyed? (wf : r.WellFormed) (fd : Descriptor) :
    r.contains fd = (r.keyed? fd).isSome := by
  rw [wf.contains_eq_isSome, wf.find?_eq_keyed?, Option.isSome_map]

theorem WellFormed.contains_eq_false_iff_keyed? (wf : r.WellFormed) :
    r.contains fd = false ↔ r.keyed? fd = none := by
  rw [wf.contains_eq_keyed?, Option.isSome_eq_false_iff, Option.isNone_iff_eq_none]

theorem WellFormed.keyOf?_eq_keyed? (wf : r.WellFormed) (fd : Descriptor) :
    r.keyOf? fd = (r.keyed? fd).map (·.1) := by
  ext k
  simp only [wf.keyOf?_eq_some_iff, Option.map_eq_some_iff, Prod.exists, wf.keyed?_eq_some_iff,
    exists_and_right, exists_eq_right]

theorem WellFormed.rekey_eq_error_iff (wf : r.WellFormed) {f : Error} :
    r.rekey fd = .error f ↔ r.contains fd = false ∧ f = .notRegistered fd := by
  rcases wf.registered_or_absent fd with absent | ⟨k, e, opened, rfl⟩
  · simp only [rekey_of_absent absent, Except.error.injEq, absent, true_and, eq_comm]
  · obtain ⟨r', done, -⟩ := wf.rekey_of_get? opened
    simp only [done, wf.contains_of_get? opened, reduceCtorEq, false_and]

theorem WellFormed.answers (wf : r.WellFormed) : r.Answers r.keyed? where
  contains_eq := wf.contains_eq_keyed?
  keyOf?_eq := wf.keyOf?_eq_keyed?
  find?_eq _ := wf.find?_eq_keyed?
  descriptor_eq known := (wf.keyed?_eq_some_iff.mp known).2
  opens_iff := by
    intro k e
    rw [wf.keyed?_eq_some_iff]
    exact (and_iff_left rfl).symm
  insert_fails := by
    intro fd interest token f
    rw [← wf.contains_eq_keyed?]
    exact insert_eq_error_iff
  rekey_fails := by
    intro fd f
    rw [← wf.contains_eq_false_iff_keyed?]
    exact wf.rekey_eq_error_iff
  remove_fails := by
    intro fd f
    rw [← wf.contains_eq_false_iff_keyed?]
    exact wf.remove_eq_error_iff
  removed := by
    intro fd k e known
    obtain ⟨opened, rfl⟩ := wf.keyed?_eq_some_iff.mp known
    obtain ⟨rest, done, -⟩ := wf.remove_of_get? opened
    exact ⟨rest, done⟩
  unchanged := by
    intro c f failed
    have served := wf.serve_served c
    rw [failed] at served
    exact served.unchanged

theorem WellFormed.enumerates (wf : r.WellFormed) : r.Enumerates r.keyed? where
  mem_iff := by
    intro k e
    rw [wf.mem_entries, wf.keyed?_eq_some_iff]
    exact (and_iff_left rfl).symm
  once := by
    have distinct := wf.nodup_descriptors
    rwa [registrations, List.map_map] at distinct
  ordered := wf.entries_ordered
  resolved := wf.mem_entries.mp
  length_eq := by rw [wf.size_eq, registrations, List.length_map]

/-! ### Any number of commands -/

theorem WellFormed.keyed?_after (wf : r.WellFormed) (cs : List Command) :
    (r.after cs).keyed? = (r.log cs).foldl Directory.after r.keyed? := by
  induction cs generalizing r with
  | nil => rfl
  | cons c cs ih =>
      have served := wf.serve_served c
      rw [after_cons, ih (served.wellFormed wf), served.keyed?_eq wf]
      rfl

/-- In every state that commands lead to from an empty registry, the index and the filled slots
match one to one and the free list names the vacant slots, each once. The registry then answers
every call as the directory of its log has it, and lists every registration once, slot by slot. -/
theorem represents_directory (cs : List Command) :
    (empty.after cs).WellFormed ∧
      (empty.after cs).Answers (Directory.replay (empty.log cs)) ∧
      (empty.after cs).Enumerates (Directory.replay (empty.log cs)) := by
  have wf := wellFormed_empty.after cs
  have same : (empty.after cs).keyed? = Directory.replay (empty.log cs) :=
    (wellFormed_empty.keyed?_after cs).trans
      (congrArg (List.foldl Directory.after · _) (funext fun _ => keyed?_empty))
  rw [← same]
  exact ⟨wf, wf.answers, wf.enumerates⟩

example : (empty.after [.insert 7 { read := true } 0, .insert 8 { read := true } 1, .remove 7,
    .insert 9 { write := true } 2, .rekey 8]).entries =
    [(⟨0, 1⟩, { descriptor := 9, interest := { write := true }, token := 2 }),
      (⟨1, 1⟩, { descriptor := 8, interest := { read := true }, token := 1 })] := by decide

end Multiplexer.Registry

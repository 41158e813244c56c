import Multiplexer.Proofs.Isolation
import Multiplexer.Proofs.Registry.Keyed

/-! The list of an epoll beside the registrations. What a call does to the registration of a
descriptor, it does to the descriptor's place in the list; only a removal can leave it behind, when
the kernel refuses to delete it. -/
namespace Multiplexer

/-- What the list is to have for a descriptor: the mask of its interest, under its current key. -/
def Registry.listing? (r : Registry) (fd : Descriptor) : Option (PollMask × UInt64) :=
  (r.keyed? fd).map fun (k, e) => (e.interest.pollMask, k.pack)

namespace Registry

variable {r r' : Registry} {k : Key} {e : Registration} {fd : Descriptor}

theorem listing?_empty : Registry.empty.listing? fd = none := by
  rw [listing?, keyed?_empty, Option.map_none]

theorem listing?_of_keyOf?_eq_none (absent : r.keyOf? fd = none) : r.listing? fd = none := by
  rw [listing?, keyed?_of_keyOf?_eq_none absent, Option.map_none]

theorem Inserted.listing?_self (ins : Inserted r e k r') (wf : r.WellFormed) :
    r'.listing? e.descriptor = some (e.interest.pollMask, k.pack) := by
  rw [listing?, ins.keyed? wf, if_pos rfl, Option.map_some]

theorem Inserted.listing?_other (ins : Inserted r e k r') (wf : r.WellFormed)
    (other : fd ≠ e.descriptor) : r'.listing? fd = r.listing? fd := by
  rw [listing?, ins.keyed? wf, if_neg other, listing?]

theorem Inserted.listing?_discard (ins : Inserted r e k r') (wf : r.WellFormed) :
    (r'.discard e.descriptor).listing? fd = r.listing? fd := by
  rw [listing?, ins.keyed?_discard wf, listing?]

theorem Removed.listing?_self (rem : Removed r e k r') (wf : r.WellFormed) :
    r'.listing? e.descriptor = none := by
  rw [listing?, rem.keyed? wf, if_pos rfl, Option.map_none]

theorem Removed.listing?_other (rem : Removed r e k r') (wf : r.WellFormed)
    (other : fd ≠ e.descriptor) : r'.listing? fd = r.listing? fd := by
  rw [listing?, rem.keyed? wf, if_neg other, listing?]

theorem WellFormed.listing?_modify_self (wf : r.WellFormed) (known : r.keyOf? fd = some k)
    {interest : Interest} :
    (r.modify k ({ · with interest })).listing? fd = some (interest.pollMask, k.pack) := by
  obtain ⟨e, opened, rfl⟩ := wf.keyOf?_eq_some_iff.mp known
  rw [listing?, wf.keyed?_modify_self opened, Option.map_some]

theorem WellFormed.listing?_modify_other (wf : r.WellFormed) {fd' : Descriptor}
    (known : r.keyOf? fd' = some k) (other : fd ≠ fd') (f : Registration → Registration) :
    (r.modify k f).listing? fd = r.listing? fd := by
  obtain ⟨e, opened, rfl⟩ := wf.keyOf?_eq_some_iff.mp known
  rw [listing?, wf.keyed?_modify_other opened other, listing?]

end Registry

/-- The kernel refuses to delete the descriptor from a list. -/
def Step.retains (fd : Descriptor) : Step → Bool
  | .asked (.epollControl _ (.delete gone)) (.error _) => gone == fd
  | _ => false

namespace Transcript

variable {t u : Transcript} {fd : Descriptor} {change : EpollChange}

theorem listed_append_of_relisted (last : u.relisted fd = [change]) :
    (t ++ u).listed fd = change.entry := by
  unfold relisted at last
  rw [listed, relisted, List.flatMap_append, List.filter_append, last, List.getLast?_concat,
    Option.bind_some]

end Transcript

namespace Epoll

variable {p p' : Epoll} {op : Operation} {t : Transcript} {answer : Answer} {fd : Descriptor}

/-- What a call does to the place of a descriptor in the list: no more than to its registration, the
same as to its registration, or nothing although it removes it. -/
inductive Relists (p : Epoll) (op : Operation) (t : Transcript) (p' : Epoll) (fd : Descriptor) :
    Prop
  | kept : t.relisted fd = [] → p'.registry.listing? fd = p.registry.listing? fd →
      (op = .remove fd → p.registry.listing? fd = none) → Relists p op t p' fd
  | followed {change} : t.relisted fd = [change] → p'.registry.listing? fd = change.entry →
      (∀ s ∈ t, s.retains fd = false) → Relists p op t p' fd
  | stranded : op = .remove fd → t.relisted fd = [] → p'.registry.listing? fd = none →
      (∃ s ∈ t, s.retains fd = true) → Relists p op t p' fd

theorem Relists.still (still : t.Still) (other : op ≠ .remove fd) : Relists p op t p fd :=
  .kept still.relisted_eq rfl fun own => absurd own other

theorem Served.relists (served : Served p op t answer p') (wf : p.registry.WellFormed)
    (fd : Descriptor) : Relists p op t p' fd := by
  have noted : ∀ {record}, Transcript.Still [.noted record] := Transcript.still_singleton rfl
  cases served with
  | duplicate => exact .kept rfl rfl nofun
  | unlisted placed =>
      exact .kept rfl ((wf.insert_inserted placed).listing?_discard wf) nofun
  | @listed fd' interest token k placed ins =>
      have inserted := wf.insert_inserted ins
      by_cases same : fd = fd'
      · subst same
        refine .followed noted.relisted_self (inserted.listing?_self wf) ?_
        exact List.forall_mem_cons.mpr ⟨rfl, List.forall_mem_singleton.mpr rfl⟩
      · exact .kept (noted.relisted_other same) (inserted.listing?_other wf same) nofun
  | unmodified => exact .kept rfl rfl nofun
  | unchanged => exact .kept rfl rfl nofun
  | @modified fd' interest k known =>
      by_cases same : fd = fd'
      · subst same
        refine .followed Transcript.still_nil.relisted_self (wf.listing?_modify_self known) ?_
        exact List.forall_mem_singleton.mpr rfl
      · exact .kept (Transcript.still_nil.relisted_other same) (wf.listing?_modify_other known same _) nofun
  | @unremoved fd' e absent =>
      refine .kept rfl rfl fun own => ?_
      cases own
      have missing := (wf.remove_eq_error_iff.mp absent).1
      exact Registry.listing?_of_keyOf?_eq_none (Registry.keyOf?_eq_none missing)
  | @removed fd' entry rest reply record taken =>
      obtain ⟨k, rfl, removed⟩ := wf.remove_eq_ok taken
      by_cases same : fd = entry.descriptor
      · subst same
        cases reply with
        | error =>
            exact .stranded rfl rfl (removed.listing?_self wf)
              ⟨_, List.mem_cons_self, beq_self_eq_true _⟩
        | ok =>
            refine .followed noted.relisted_self (removed.listing?_self wf) ?_
            exact List.forall_mem_cons.mpr ⟨rfl, List.forall_mem_singleton.mpr rfl⟩
      · refine .kept (noted.relisted_other same) (removed.listing?_other wf same) fun own => ?_
        cases own
        exact absurd rfl same
  | unanswered => exact .still (Transcript.still_singleton rfl) nofun
  | answered reads => exact .still (Transcript.still_cons rfl reads.still) nofun
  | post => exact .kept rfl rfl nofun
  | wakeup still => exact .still still nofun

end Epoll
end Multiplexer

import Multiplexer.Proofs.Epoll.Calls
import Multiplexer.Proofs.Kqueue.Calls
import Multiplexer.Proofs.Port.Calls
import Multiplexer.Proofs.Ring.Ledger
import Multiplexer.Proofs.Select.Calls

/-! What a call does to the registry, facility by facility. `Effect` lists every way a call can go,
with its answer; all that is proved of registries over whole histories goes through it. -/
namespace Multiplexer

/-- A kernel's list has the descriptor already. -/
def Transcript.ReportsDuplicate (t : Transcript) (fd : Descriptor) : Prop :=
  ∃ queue mask data,
    .asked (.epollControl queue (.add fd mask data)) (.error .alreadyExists) ∈ t

/-- The data that a step hands to the system, to be carried by what it reports of a descriptor. -/
def Step.issued : Step → List UInt64
  | .asked (.epollControl _ (.add _ _ data)) _ => [data]
  | .asked (.epollControl _ (.modify _ _ data)) _ => [data]
  | .asked (.kqueueChange _ changes) _ => changes.flatMap fun
    | .add _ _ data => [data]
    | .delete .. => []
  | .asked (.portAssociate _ _ key) _ => [key]
  | _ => []

namespace Transcript

def Issues (t : Transcript) (data : UInt64) : Prop := ∃ s ∈ t, data ∈ s.issued

def Mute (t : Transcript) : Prop := ∀ data, ¬ t.Issues data

theorem issues_cons {s : Step} {t : Transcript} {data : UInt64} :
    Issues (s :: t) data ↔ data ∈ s.issued ∨ t.Issues data := by
  simp only [Issues, List.exists_mem_cons_iff]

theorem issues_append {t u : Transcript} {data : UInt64} :
    Issues (t ++ u) data ↔ t.Issues data ∨ u.Issues data := by
  simp only [Issues, List.mem_append, or_and_right, exists_or]

theorem issues_singleton {s : Step} {data : UInt64} : Issues [s] data ↔ data ∈ s.issued := by
  simp only [Issues, List.mem_singleton, exists_eq_left]

theorem mute_nil : Mute [] := fun _ ⟨_, mem, _⟩ => nomatch mem

theorem mute_cons {s : Step} {t : Transcript} (hs : s.issued = []) (ht : t.Mute) :
    Mute (s :: t) := by
  intro data h
  rcases issues_cons.mp h with h | h
  · rw [hs] at h
    cases h
  · exact ht data h

end Transcript

/-- The registry after a call, by what was called for, what was said to the system and what was
answered. -/
inductive Effect (b : Backend) (t : Transcript) : Operation → Answer → Registry → Prop
  | refused {fd interest token e} :
      (b.registry.contains fd = true →
        e = .alreadyRegistered fd ∨ b.facility = .bitmap ∧ fitsFdSet fd = false) →
      (b.registry.contains fd = false → ∀ other, e ≠ .alreadyRegistered other) →
      t.Mute →
      Effect b t (.add fd interest token) (.returned (.error e)) b.registry
  | rolledBack {fd interest token e k placed} :
      b.registry.insert fd interest token = .ok (k, placed) →
      (∀ other, e = .alreadyRegistered other →
        other = fd ∧ b.facility = .epoll ∧ t.ReportsDuplicate fd) →
      (∀ data, t.Issues data → data = k.pack) →
      Effect b t (.add fd interest token) (.returned (.error e)) (placed.discard fd)
  | added {fd interest token k placed} :
      b.registry.insert fd interest token = .ok (k, placed) →
      (b.facility = .bitmap → fitsFdSet fd = true) →
      Effect b t (.add fd interest token) (.returned (.ok ())) placed
  | unmodified {fd interest} : b.registry.contains fd = false →
      Effect b t (.modify fd interest) (.returned (.error (.notRegistered fd))) b.registry
  | modifyFailed {fd interest k e} : b.registry.keyOf? fd = some k →
      (∀ other, e ≠ .notRegistered other) →
      Effect b t (.modify fd interest) (.returned (.error e)) b.registry
  | modified {fd interest k} : b.facility ≠ .ring → b.registry.keyOf? fd = some k →
      Effect b t (.modify fd interest) (.returned (.ok ()))
        (b.registry.modify k ({ · with interest }))
  | rekeyed {fd interest k moved} : b.facility = .ring →
      b.registry.rekey fd = .ok (k, moved) →
      Effect b t (.modify fd interest) (.returned (.ok ()))
        (moved.modify k ({ · with interest, rearm := true }))
  | unremoved {fd} : b.registry.contains fd = false →
      Effect b t (.remove fd) (.returned (.error (.notRegistered fd))) b.registry
  | removed {fd entry rest} : b.registry.remove fd = .ok (entry, rest) →
      Effect b t (.remove fd) (.returned (.ok ())) rest
  | polled {timeout p r} : b.registry.Reflagged r → Effect b t (.poll timeout) (.polled p) r
  | posted {fd marker bytes result} :
      Effect b t (.post fd marker bytes) (.returned result) b.registry
  | woken {result} : Effect b t .wakeup (.returned result) b.registry

/-- The call has one of these effects, and leaves the facility what it is. -/
def Backend.Served (b : Backend) (op : Operation) (t : Transcript) (r : Answer × Backend) : Prop :=
  Effect b t op r.1 r.2.registry ∧ r.2.facility = b.facility

open Dialogue

variable {n : Nat} {fd : Descriptor} {interest : Interest} {token : Token}

/-- Trying to insert a descriptor that is registered already. -/
theorem Effect.duplicate {b : Backend} {t : Transcript} {e : Error}
    (h : b.registry.insert fd interest token = .error e) (mute : t.Mute) :
    Effect b t (.add fd interest token) (.returned (.error e)) b.registry := by
  obtain ⟨present, rfl⟩ := Registry.insert_eq_error_iff.mp h
  refine .refused (fun _ => .inl rfl) ?_ mute
  rw [present]
  exact nofun

/-- A check before the insertion has failed. -/
theorem Effect.unsupported {b : Backend} {t : Transcript} {cause : Cause} (mute : t.Mute) :
    Effect b t (.add fd interest token)
      (.returned (.error (if b.registry.contains fd then .alreadyRegistered fd
        else .unsupported fd cause))) b.registry := by
  refine .refused ?_ ?_ mute
  · intro present
    rw [if_pos present]
    exact .inl rfl
  · intro absent other
    rw [if_neg (Bool.eq_false_iff.mp absent)]
    exact nofun

theorem Effect.unknown {b : Backend} {t : Transcript} (wf : b.registry.WellFormed)
    (h : b.registry.keyOf? fd = none) :
    Effect b t (.modify fd interest) (.returned (.error (.notRegistered fd))) b.registry :=
  .unmodified (wf.contains_of_keyOf?_eq_none h)

theorem Effect.absent {b : Backend} {t : Transcript} (wf : b.registry.WellFormed) {e : Error}
    (h : b.registry.remove fd = .error e) :
    Effect b t (.remove fd) (.returned (.error e)) b.registry := by
  obtain ⟨missing, rfl⟩ := wf.remove_eq_error_iff.mp h
  exact .unremoved missing

/-! ### Facility by facility -/

namespace Epoll

theorem refusal_eq_alreadyRegistered {e : Errno} {other : Descriptor}
    (h : refusal fd e = .alreadyRegistered other) : other = fd ∧ e = .alreadyExists := by
  unfold refusal at h
  split_ifs at h with _ he
  cases h
  exact ⟨rfl, he⟩

theorem Served.effect {p p' : Epoll} {op : Operation} {t : Transcript} {answer : Answer}
    (served : p.Served op t answer p') (wf : (Backend.epoll p).registry.WellFormed) :
    Effect (.epoll p) t op answer p'.registry := by
  cases served with
  | duplicate hins => exact .duplicate hins Transcript.mute_nil
  | unlisted hins =>
      refine .rolledBack hins (fun other same => ?_) fun data issued => ?_
      · obtain ⟨rfl, rfl⟩ := refusal_eq_alreadyRegistered same
        exact ⟨rfl, rfl, _, _, _, List.mem_cons_self⟩
      · exact List.mem_singleton.mp (Transcript.issues_singleton.mp issued)
  | listed hins => exact .added hins fun bitmap => by cases bitmap
  | unmodified absent => exact .unknown wf absent
  | unchanged hk => exact .modifyFailed hk fun _ same => by cases same
  | modified hk => exact .modified (fun ring => by cases ring) hk
  | unremoved hrem => exact .absent wf hrem
  | removed hrem => exact .removed hrem
  | unanswered => exact .polled .refl
  | answered => exact .polled .refl
  | post => exact .posted
  | wakeup => exact .woken

end Epoll

theorem Interest.mem_filters {α : Type} {i : Interest} {change : Filter → α} {a : α}
    (h : a ∈ i.filters change) : ∃ filter, a = change filter := by
  unfold Interest.filters at h
  rcases List.mem_append.mp h with h | h
  · split at h
    · exact ⟨.read, List.mem_singleton.mp h⟩
    · cases h
  · split at h
    · exact ⟨.write, List.mem_singleton.mp h⟩
    · cases h

namespace Kqueue

theorem refusal_ne_alreadyRegistered (e : Errno) (other : Descriptor) :
    refusal fd e ≠ .alreadyRegistered other := by
  unfold refusal
  split_ifs <;> exact nofun

theorem Submitted.issues {queue : Descriptor} {ignored : List Errno} {changes : List FilterChange}
    {t : Transcript} {result : Except Errno Unit} {data : UInt64}
    (submitted : Submitted queue ignored changes t result) (issued : t.Issues data) :
    ∃ fd filter, .add fd filter data ∈ changes := by
  have handed : ∀ reply, Transcript.Issues [.asked (.kqueueChange queue changes) reply] data →
      ∃ fd filter, .add fd filter data ∈ changes := by
    intro reply issued
    obtain ⟨change, mem, same⟩ := List.mem_flatMap.mp (Transcript.issues_singleton.mp issued)
    cases change with
    | add fd filter other =>
        cases List.mem_singleton.mp same
        exact ⟨fd, filter, mem⟩
    | delete => cases same
  cases submitted with
  | idle => exact absurd issued (Transcript.mute_nil data)
  | refused => exact handed _ issued
  | failed => exact handed _ issued
  | done => exact handed _ issued

theorem Added.effect {p p' : Kqueue} {t : Transcript} {result : Except Error Unit}
    (added : Added p fd interest token t (result, p')) :
    Effect (.kqueue p) t (.add fd interest token) (.returned result) p'.registry := by
  cases added with
  | duplicate hins => exact .duplicate hins Transcript.mute_nil
  | @undone k _ _ e _ _ hins added undone =>
      refine .rolledBack hins (fun other same => ?_) fun data issued => ?_
      · exact absurd same (refusal_ne_alreadyRegistered e other)
      · rcases Transcript.issues_append.mp issued with issued | issued
        · obtain ⟨_, _, mem⟩ := added.issues issued
          obtain ⟨_, same⟩ := Interest.mem_filters mem
          cases same
          rfl
        · obtain ⟨_, _, mem⟩ := undone.issues issued
          obtain ⟨_, same⟩ := Interest.mem_filters mem
          cases same
  | added hins => exact .added hins fun bitmap => by cases bitmap

theorem Modified.effect {p p' : Kqueue} {t : Transcript} {result : Except Error Unit}
    (modified : Modified p fd interest t (result, p')) (wf : p.registry.WellFormed) :
    Effect (.kqueue p) t (.modify fd interest) (.returned result) p'.registry := by
  cases modified with
  | unknown absent => exact .unmodified absent
  | failed opened own =>
      exact .modifyFailed (own ▸ wf.keyOf?_of_get? opened) fun _ same => by cases same
  | modified opened own =>
      exact .modified (fun ring => by cases ring) (own ▸ wf.keyOf?_of_get? opened)

/-- `Removed` says of what is left only which slots it has, so this goes through the call again. -/
theorem remove_effect (p : Kqueue) (wf : (Backend.kqueue p).registry.WellFormed) :
    Yields (p.remove fd n) fun t r =>
      Effect (.kqueue p) t (.remove fd) (.returned r.1) r.2.registry := by
  unfold remove
  cases hrem : p.registry.remove fd with
  | error e =>
      rw [Sys.yields_pure]
      exact .absent wf hrem
  | ok taken =>
      simp only [Sys.yields_bind]
      intro t result _
      cases result with
      | error e =>
          dsimp only
          split <;> simp only [Sys.yields_bind, Sys.yields_note, Sys.yields_pure] <;>
            exact .removed hrem
      | ok =>
          simp only [Sys.yields_bind, Sys.yields_note, Sys.yields_pure]
          exact .removed hrem

theorem Served.effect {p p' : Kqueue} {op : Operation} {t : Transcript} {answer : Answer}
    (served : p.Served op t answer p') (wf : p.registry.WellFormed)
    (other : ∀ fd, op ≠ .remove fd) : Effect (.kqueue p) t op answer p'.registry := by
  cases served with
  | add added => exact added.effect
  | modify modified => exact modified.effect wf
  | remove => exact absurd rfl (other _)
  | poll => exact .polled .refl
  | post => exact .posted
  | wakeup => exact .woken

theorem serve_effect (p : Kqueue) (wf : p.registry.WellFormed) (op : Operation) :
    Yields ((Backend.kqueue p).serve op n) fun t r =>
      ∃ p', r.2 = .kqueue p' ∧ Effect (.kqueue p) t op r.1 p'.registry := by
  by_cases removal : ∃ fd, op = .remove fd
  · obtain ⟨fd, rfl⟩ := removal
    simp only [Backend.serve, Backend.remove, Sys.yields_map]
    exact (p.remove_effect wf).mono₂ fun _ _ p' effect => ⟨p', rfl, effect⟩
  · refine (p.serve_served wf op).mono fun t r served => ?_
    obtain ⟨p', same, served⟩ := served
    exact ⟨p', same, served.effect wf fun fd same => removal ⟨fd, same⟩⟩

end Kqueue

theorem BitmapSelect.Served.effect {p p' : BitmapSelect} {op : Operation} {t : Transcript}
    {answer : Answer} (served : p.Served op t answer p')
    (wf : (Backend.bitmap p).registry.WellFormed) :
    Effect (.bitmap p) t op answer p'.registry := by
  cases served with
  | unfit unfit =>
      exact .refused (fun _ => .inr ⟨rfl, unfit⟩) (fun _ _ same => by cases same)
        Transcript.mute_nil
  | closed => exact .unsupported (Transcript.mute_cons rfl Transcript.mute_nil)
  | duplicate hins => exact .duplicate hins (Transcript.mute_cons rfl Transcript.mute_nil)
  | added fits hins => exact .added hins fun _ => fits
  | unmodified absent => exact .unknown wf absent
  | modified hk => exact .modified (fun ring => by cases ring) hk
  | unremoved hrem => exact .absent wf hrem
  | removed hrem => exact .removed hrem
  | unanswered => exact .polled .refl
  | unready => exact .polled .refl
  | answered => exact .polled .refl
  | post => exact .posted
  | wakeup => exact .woken

theorem SocketSelect.Served.effect {p p' : SocketSelect} {op : Operation} {t : Transcript}
    {answer : Answer} (served : p.Served op t answer p')
    (wf : (Backend.socket p).registry.WellFormed) :
    Effect (.socket p) t op answer p'.registry := by
  cases served with
  | full absent =>
      refine .refused (fun present => ?_) (fun _ _ same => by cases same) Transcript.mute_nil
      exact absurd present (Bool.eq_false_iff.mp absent)
  | closed => exact .unsupported (Transcript.mute_cons rfl Transcript.mute_nil)
  | duplicate hins => exact .duplicate hins (Transcript.mute_cons rfl Transcript.mute_nil)
  | added hins => exact .added hins fun bitmap => by cases bitmap
  | unmodified absent => exact .unknown wf absent
  | modified hk => exact .modified (fun ring => by cases ring) hk
  | unremoved hrem => exact .absent wf hrem
  | removed hrem => exact .removed hrem
  | unanswered => exact .polled .refl
  | unready => exact .polled .refl
  | answered => exact .polled .refl
  | post => exact .posted
  | wakeup => exact .woken

theorem CompletionPort.Served.effect {p p' : CompletionPort} {op : Operation} {t : Transcript}
    {answer : Answer} (served : p.Served op t answer p')
    (wf : (Backend.port p).registry.WellFormed) :
    Effect (.port p) t op answer p'.registry := by
  cases served with
  | duplicate hins => exact .duplicate hins Transcript.mute_nil
  | associated hins => exact .added hins fun bitmap => by cases bitmap
  | reassociated hins => exact .added hins fun bitmap => by cases bitmap
  | unassociated hins =>
      refine .rolledBack hins (fun _ same => by cases same) fun data issued => ?_
      exact List.mem_singleton.mp (Transcript.issues_singleton.mp issued)
  | unmodified absent => exact .unknown wf absent
  | modified hk => exact .modified (fun ring => by cases ring) hk
  | unremoved hrem => exact .absent wf hrem
  | removed hrem => exact .removed hrem
  | unanswered => exact .polled .refl
  | answered => exact .polled .refl
  | unposted => exact .posted
  | posted => exact .posted
  | refused => exact .posted
  | coalesced => exact .woken
  | woken => exact .woken
  | unwoken => exact .woken

namespace Ring

theorem Pushed.mute {q : Queues} {request : Request} {t : Transcript}
    {result : Except Cause Unit × Queues} (h : Pushed q request t result) : t.Mute := by
  cases h with
  | room => exact Transcript.mute_nil
  | _ => exact Transcript.mute_cons rfl Transcript.mute_nil

theorem Added.effect {r r' : Ring} {t : Transcript} {result : Except Error Unit}
    (added : Added r fd interest token t (result, r')) :
    Effect (.ring r) t (.add fd interest token) (.returned result) r'.registry := by
  cases added with
  | closed => exact .unsupported (Transcript.mute_cons rfl Transcript.mute_nil)
  | duplicate hins => exact .duplicate hins (Transcript.mute_cons rfl Transcript.mute_nil)
  | unpushed hins pushed =>
      refine .rolledBack hins (fun _ same => by cases same) fun data issued => absurd issued ?_
      exact Transcript.mute_cons rfl pushed.mute data
  | added hins => exact .added hins fun bitmap => by cases bitmap

theorem Served.effect {r r' : Ring} {op : Operation} {t : Transcript} {answer : Answer}
    (served : r.Served op t answer r') : Effect (.ring r) t op answer r'.registry := by
  cases served with
  | add added => exact added.effect
  | modify modified =>
      cases modified with
      | unknown absent => exact .unmodified absent
      | rekeyed hrek => exact .rekeyed rfl hrek
  | remove removed =>
      cases removed with
      | unknown absent => exact .unremoved absent
      | removed hrem => exact .removed hrem
  | poll moves => exact .polled moves.reflagged
  | post => exact .posted
  | wakeup => exact .woken

end Ring

/-! ### All calls -/

/-- The facility stays what it is when it serves a call. -/
theorem Backend.Served.of_after {b b' : Backend} {op : Operation} {t : Transcript}
    {r : Answer × Backend} (same : r.2 = b') (facility : b'.facility = b.facility)
    (effect : Effect b t op r.1 b'.registry) : b.Served op t r := by
  rw [Backend.Served, same]
  exact ⟨effect, facility⟩

/-- Whatever the system replies, a call has one of the effects listed. -/
theorem Backend.serve_served (b : Backend) (wf : b.registry.WellFormed) (op : Operation) :
    Yields (b.serve op n) (b.Served op) := by
  cases b with
  | epoll p =>
      exact (p.serve_outcome op).mono fun _ _ ⟨_, same, served⟩ =>
        .of_after same rfl (served.effect wf)
  | kqueue p =>
      exact (p.serve_effect wf op).mono fun _ _ ⟨_, same, effect⟩ => .of_after same rfl effect
  | bitmap p =>
      exact (p.serve_outcome op).mono fun _ _ ⟨_, same, served⟩ =>
        .of_after same rfl (served.effect wf)
  | socket p =>
      exact (p.serve_outcome op).mono fun _ _ ⟨_, same, served⟩ =>
        .of_after same rfl (served.effect wf)
  | port p =>
      exact (p.serve_outcome op).mono fun _ _ ⟨_, same, served⟩ =>
        .of_after same rfl (served.effect wf)
  | ring r =>
      exact (r.serve_served wf op).mono fun _ _ ⟨_, same, served⟩ =>
        .of_after same rfl served.effect

theorem Exchange.effect (x : Exchange) (wf : x.before.registry.WellFormed) :
    Effect x.before x.transcript x.operation x.answer x.after.registry ∧
      x.after.facility = x.before.facility := by
  obtain ⟨_, follows⟩ := x.served
  exact x.before.serve_served wf x.operation follows

end Multiplexer

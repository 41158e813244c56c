import Multiplexer.Proofs.Epoll.Calls
import Multiplexer.Proofs.Kqueue.Filters
import Multiplexer.Proofs.Ring.Internal
import Multiplexer.Proofs.Select.Sets

/-! How the wakeup channel of each facility is watched, and what a call leaves of that when its
descriptor is not registered. Only adding the descriptor can take the channel out of the facility's
hands: the other calls fail on a descriptor that is not registered. -/
namespace Multiplexer
open Dialogue

def Operation.added? : Operation → Option Descriptor
  | add fd _ _ => some fd
  | _ => none

variable {w fd : Descriptor} {interest : Interest} {token : Token} {t u : Transcript}
  {op : Operation} {answer : Answer}

/-! ### The list of an epoll -/

/-- What a change leaves in the list for its descriptor. -/
def EpollChange.entry : EpollChange → Option (PollMask × UInt64)
  | add _ mask data | modify _ mask data => some (mask, data)
  | delete _ => none

/-- A change that is refused has no effect. -/
def Step.relisted : Step → List EpollChange
  | .asked (.epollControl _ change) (.ok ()) => [change]
  | _ => []

def Transcript.relisted (t : Transcript) (fd : Descriptor) : List EpollChange :=
  (t.flatMap Step.relisted).filter (·.descriptor = fd)

/-- What the list has for a descriptor after all that was said. -/
def Transcript.listed (t : Transcript) (fd : Descriptor) : Option (PollMask × UInt64) :=
  (t.relisted fd).getLast?.bind EpollChange.entry

/-- The list takes the descriptor on. -/
def Step.enlists (w : Descriptor) : Step → Bool
  | .asked (.epollControl _ (.add fd _ _)) (.ok ()) => fd == w
  | _ => false

theorem Transcript.listed_append (none : u.relisted fd = []) : (t ++ u).listed fd = t.listed fd := by
  unfold relisted at none
  rw [listed, relisted, List.flatMap_append, List.filter_append, none, List.append_nil, listed,
    relisted]

theorem Transcript.Still.relisted_eq (still : t.Still) : t.relisted fd = [] := by
  rw [relisted, List.flatMap_eq_nil_iff.mpr, List.filter_nil]
  intro s hs
  have quiet := still s hs
  unfold Step.relisted
  split
  · cases quiet
  · rfl

theorem Transcript.Still.relisted_cons (quiet : u.Still) {s : Step} :
    Transcript.relisted (s :: u) fd = Transcript.relisted [s] fd := by
  have none : Transcript.relisted u fd = [] := quiet.relisted_eq
  unfold relisted at none
  rw [relisted, List.flatMap_cons, List.filter_append, none, relisted, List.flatMap_singleton,
    List.append_nil]

theorem Transcript.Still.relisted_other (quiet : u.Still) {change : EpollChange}
    (other : fd ≠ change.descriptor) {queue : Descriptor} {reply : Except Errno Unit} :
    Transcript.relisted (.asked (.epollControl queue change) reply :: u) fd = [] := by
  rw [quiet.relisted_cons]
  cases reply with
  | error => rfl
  | ok => exact List.filter_cons_of_neg (decide_eq_true_iff.not.mpr (Ne.symm other))

theorem Transcript.Still.relisted_self (quiet : u.Still) {change : EpollChange} {queue : Descriptor} :
    Transcript.relisted (.asked (.epollControl queue change) (.ok ()) :: u) change.descriptor =
      [change] := by
  rw [quiet.relisted_cons]
  exact List.filter_cons_of_pos (decide_eq_true_iff.mpr rfl)

namespace Epoll

variable {p p' : Epoll}

/-- The wakeup pipe and what the list has for a descriptor are left alone. -/
def Leaves (p : Epoll) (w : Descriptor) (t : Transcript) (p' : Epoll) : Prop :=
  p'.wakeup = p.wakeup ∧ t.relisted w = []

/-- Only what the list takes on is added. -/
theorem Served.enlists (served : p.Served (.add fd interest token) t answer p')
    (done : answer.error? = none) : ∃ s ∈ t, s.enlists fd = true := by
  cases served with
  | duplicate => cases done
  | unlisted => cases done
  | listed => exact ⟨_, List.mem_cons_self, beq_self_eq_true fd⟩

/-- Unless it adds the descriptor, a call leaves it alone. -/
theorem Served.leaves (served : p.Served op t answer p') (wf : p.registry.WellFormed)
    (absent : p.registry.contains w = false)
    (refused : op.added? = some w → answer.error? ≠ none) : p.Leaves w t p' := by
  have noted : ∀ {record}, Transcript.Still [.noted record] := Transcript.still_singleton rfl
  cases served with
  | @listed fd =>
      have other : w ≠ fd := fun same => refused (congrArg some same.symm) rfl
      exact ⟨rfl, noted.relisted_other other⟩
  | modified known =>
      have other := Registry.ne_of_keyOf? absent known
      exact ⟨rfl, Transcript.still_nil.relisted_other other.symm⟩
  | removed taken =>
      obtain ⟨k, own, removed⟩ := wf.remove_eq_ok taken
      have other := own ▸ wf.descriptor_ne absent removed.opened
      exact ⟨rfl, noted.relisted_other other.symm⟩
  | answered reads => exact ⟨rfl, (Transcript.still_cons rfl reads.still).relisted_eq⟩
  | wakeup still => exact ⟨rfl, still.relisted_eq⟩
  | _ => exact ⟨rfl, rfl⟩

end Epoll

/-! ### The filters of a kqueue -/

namespace Kqueue

variable {p p' : Kqueue} {f : Filter}

/-- Nobody else than an addition touches the filters of a descriptor that is not registered. -/
theorem Served.leaves (served : Served p op t answer p') (absent : p.registry.contains w = false)
    (wf : p.registry.WellFormed) (other : op.added? ≠ some w) :
    p'.wakeup = p.wakeup ∧ t.changes w f = [] := by
  cases served with
  | @add fd _ _ _ _ _ added =>
      have apart {interest : Interest} : ¬(fd = w ∧ interest.has f = true) :=
        fun h => other (congrArg some h.1)
      cases added with
      | duplicate => exact ⟨rfl, rfl⟩
      | undone _ adding deleting =>
          rw [Transcript.changes_append, adding.changes_of_not (fun _ => rfl) apart,
            deleting.changes_of_not (fun _ => rfl) apart]
          exact ⟨rfl, rfl⟩
      | added _ adding =>
          rw [Transcript.changes_append, adding.changes_of_not (fun _ => rfl) apart,
            Transcript.Still.changes_eq (Transcript.still_singleton rfl)]
          exact ⟨rfl, rfl⟩
  | modify modified =>
      cases modified with
      | unknown => exact ⟨rfl, rfl⟩
      | failed opened own changing =>
          exact ⟨rfl, changing.changes_eq_nil
            (transition_filter.trans (if_neg (own ▸ wf.descriptor_ne absent opened)))⟩
      | modified opened own changing =>
          exact ⟨rfl, changing.changes_eq_nil
            (transition_filter.trans (if_neg (own ▸ wf.descriptor_ne absent opened)))⟩
  | remove removed =>
      cases removed with
      | unknown => exact ⟨rfl, rfl⟩
      | removed own rem deleting =>
          have apart := own ▸ wf.descriptor_ne absent rem.opened
          rw [Transcript.changes_append, deleting.changes_of_not (fun _ => rfl) fun h => apart h.1,
            Transcript.Still.changes_eq (Transcript.still_singleton rfl)]
          exact ⟨rfl, rfl⟩
  | poll still => exact ⟨rfl, still.changes_eq⟩
  | post => exact ⟨rfl, rfl⟩
  | wakeup still => exact ⟨rfl, still.changes_eq⟩

end Kqueue

/-! ### The sets of a select -/

/-- If the step is a wait that brings sets along, the descriptor is among those to be read. -/
def Step.Watches (w : Descriptor) : Step → Prop
  | .asked (.selectFds bound watched _) _ => w ∈ watched.read ∧ w.toInt < bound
  | .asked (.selectSockets watched _) _ => w ∈ watched.read
  | _ => True

/-- So does every wait. -/
def Transcript.Watches (t : Transcript) (w : Descriptor) : Prop := ∀ s ∈ t, s.Watches w

theorem Transcript.Still.watches (still : t.Still) : t.Watches w := by
  intro s hs
  have quiet := still s hs
  unfold Step.Watches
  split
  · cases quiet
  · cases quiet
  · trivial

theorem Transcript.Watches.append (ht : t.Watches w) (hu : u.Watches w) : (t ++ u).Watches w :=
  List.forall_mem_append.mpr ⟨ht, hu⟩

namespace BitmapSelect

variable {p p' : BitmapSelect}

/-- The wakeup pipe's reader is in the read set, and waits reach up to it. -/
structure Guards (p : BitmapSelect) (w : Descriptor) : Prop where
  reader : p.wakeup.reader = w
  mem : w ∈ p.watched.read
  le : w ≤ p.top

/-- A call leaves the pipe guarded and only waits with it. -/
def Keeps (w : Descriptor) (t : Transcript) (p : BitmapSelect) : Prop := p.Guards w ∧ t.Watches w

/-- Unless it adds the reader, a call keeps it guarded. -/
theorem Served.keeps (served : p.Served op t answer p') (wf : p.registry.WellFormed)
    (absent : p.registry.contains w = false) (guards : p.Guards w)
    (refused : op.added? = some w → answer.error? ≠ none) : Keeps w t p' := by
  have quiet : ∀ {s : Step}, s.rewatches = false → Transcript.Watches [s] w := fun still =>
    (Transcript.still_singleton still).watches
  have waited : ∀ {timeout reply u}, Transcript.Reads u →
      Transcript.Watches (.asked (p.wait timeout) reply :: u) w := fun reads =>
    List.forall_mem_cons.mpr
      ⟨⟨guards.mem, Int.lt_add_one_iff.mpr (Int32.le_iff_toInt_le.mp guards.le)⟩,
        reads.still.watches⟩
  have applied : ∀ {fd interest}, w ≠ fd → w ∈ (p.watched.apply fd interest).read := fun other =>
    (FdSets.mem_apply (c := .read)).mpr ((if_neg other).mpr guards.mem)
  cases served with
  | unfit | unmodified | unremoved | post => exact ⟨guards, Transcript.still_nil.watches⟩
  | closed | duplicate => exact ⟨guards, quiet rfl⟩
  | @added fd =>
      have other : w ≠ fd := fun same => refused (congrArg some same.symm) rfl
      refine ⟨⟨guards.reader, applied other, ?_⟩, (quiet rfl).append (quiet rfl)⟩
      exact Int32.le_trans guards.le (le_max p.top fd)
  | modified known =>
      have other := Registry.ne_of_keyOf? absent known
      exact ⟨⟨guards.reader, applied other.symm, guards.le⟩, Transcript.still_nil.watches⟩
  | removed taken =>
      obtain ⟨k, own, removed⟩ := wf.remove_eq_ok taken
      have other := own ▸ wf.descriptor_ne absent removed.opened
      refine ⟨⟨guards.reader, applied other.symm, ?_⟩, quiet rfl⟩
      dsimp only
      split
      · exact (topOf_isGreatest p.wakeup (removed.wellFormed wf)).2 (.inl guards.reader.symm)
      · exact guards.le
  | unanswered => exact ⟨guards, waited Transcript.reads_nil⟩
  | unready => exact ⟨guards, waited Transcript.reads_nil⟩
  | answered _ reads => exact ⟨⟨guards.reader, guards.mem, guards.le⟩, waited reads⟩
  | wakeup still => exact ⟨guards, still.watches⟩

end BitmapSelect

namespace SocketSelect

theorem mem_put {sockets : List Descriptor} (mem : w ∈ sockets) : w ∈ SocketSets.put sockets fd := by
  unfold SocketSets.put
  split
  · exact List.mem_append_left _ mem
  · exact mem

/-- The wakeup socket is in the list of every wait. -/
theorem reader_mem_watched (p : SocketSelect) : p.wakeup.reader ∈ p.watched.read := by
  unfold watched
  refine List.foldlRecOn (motive := fun s : SocketSets => p.wakeup.reader ∈ s.read) _ _
    List.mem_cons_self fun s mem _ _ => ?_
  unfold SocketSets.watch
  dsimp only
  split
  · exact mem_put mem
  · exact mem

/-- The pair stays what it is, and every wait is for its reading end too. -/
def Keeps (w : Descriptor) (t : Transcript) (p : SocketSelect) : Prop :=
  p.wakeup.reader = w ∧ t.Watches w

theorem Served.keeps {p p' : SocketSelect} (served : p.Served op t answer p') :
    Keeps p.wakeup.reader t p' := by
  have quiet : ∀ {s : Step}, s.rewatches = false → Transcript.Watches [s] p.wakeup.reader :=
    fun still => (Transcript.still_singleton still).watches
  have waited : ∀ {timeout reply u}, Transcript.Reads u →
      Transcript.Watches (.asked (p.wait timeout) reply :: u) p.wakeup.reader := fun reads =>
    List.forall_mem_cons.mpr ⟨p.reader_mem_watched, reads.still.watches⟩
  cases served with
  | full | unmodified | modified | unremoved | post => exact ⟨rfl, Transcript.still_nil.watches⟩
  | closed | duplicate | removed => exact ⟨rfl, quiet rfl⟩
  | added => exact ⟨rfl, (quiet rfl).append (quiet rfl)⟩
  | unanswered => exact ⟨rfl, waited Transcript.reads_nil⟩
  | unready => exact ⟨rfl, waited Transcript.reads_nil⟩
  | answered _ reads => exact ⟨rfl, waited reads⟩
  | wakeup still => exact ⟨rfl, still.watches⟩

end SocketSelect

end Multiplexer

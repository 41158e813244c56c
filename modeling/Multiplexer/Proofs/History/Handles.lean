import Mathlib.Logic.Function.Basic
import Multiplexer.Proofs.History.Routing

/-! What the values of handles name. The system takes objects into a completion port, and the same
value can name one object now and another one later. The table of a port goes by values, so adding a
handle that cannot join can succeed for the sake of an object that the value named before. -/
namespace Multiplexer

structure Joining where
  handle : Descriptor
  port : Handle
  result : Except Errno Unit
  deriving DecidableEq

def Step.joining? : Step → Option Joining
  | .asked (.portAssociate fd port _) result => some ⟨fd, port, result⟩
  | _ => none

namespace Transcript

def joinings (t : Transcript) : List Joining := t.filterMap Step.joining?

/-- A handle in the table was there before, or has joined since. -/
theorem mem_associations {t : Transcript} {known : List (UInt64 × Descriptor)} {key : UInt64}
    {fd : Descriptor} (h : (key, fd) ∈ t.associations known) :
    (key, fd) ∈ known ∨ ∃ port, ⟨fd, port, .ok ()⟩ ∈ t.joinings := by
  induction t generalizing known with
  | nil => exact .inl h
  | cons s t ih =>
      rcases ih h with table | ⟨port, later⟩
      · unfold Step.associated at table
        split at table
        · rcases List.mem_cons.mp table with same | kept
          · cases same
            exact .inr ⟨_, List.mem_cons_self⟩
          · exact .inl (List.mem_filter.mp kept).1
        · exact .inl table
      · exact .inr ⟨port, ((List.sublist_cons_self s t).filterMap _).mem later⟩

end Transcript

def Exchange.Joins (x : Exchange) (fd : Descriptor) : Prop :=
  ∃ port, ⟨fd, port, .ok ()⟩ ∈ x.transcript.joinings

/-! ### Objects and the values that name them -/

/-- What can be taken into a port. -/
abbrev Object := Nat

structure Handles where
  /-- What the value of a handle names, absent if it names nothing. -/
  object : Descriptor → Option Object
  /-- The port that an object has joined; it never leaves it. -/
  port : Object → Option Handle

namespace Handles

def Joined (s : Handles) (fd : Descriptor) (port : Handle) : Prop :=
  ∃ o, s.object fd = some o ∧ s.port o = some port

/-- The system answers a port that asks for a handle: an object joins unless it has joined already or
cannot join at all, which one and the same error says. It may fail in other ways. -/
inductive Answers (joinable : Object → Bool) (s : Handles) : Joining → Handles → Prop
  | joined {fd port o} : s.object fd = some o → joinable o = true → s.port o = none →
      Answers joinable s ⟨fd, port, .ok ()⟩
        { s with port := Function.update s.port o (some port) }
  | barred {fd port o} : s.object fd = some o → joinable o = false ∨ s.port o ≠ none →
      Answers joinable s ⟨fd, port, .error .invalidParameter⟩ s
  | failed {fd port e} : e ≠ .invalidParameter → Answers joinable s ⟨fd, port, .error e⟩ s

inductive Replies (joinable : Object → Bool) : Handles → List Joining → Handles → Prop
  | none {s} : Replies joinable s [] s
  | next {s j s' js s''} : Answers joinable s j s' → Replies joinable s' js s'' →
      Replies joinable s (j :: js) s''

variable {joinable : Object → Bool} {s s' : Handles} {fd : Descriptor} {port : Handle}

theorem Joined.update (h : s.Joined fd port) {o : Object} {other : Handle} (free : s.port o = none) :
    Joined { s with port := Function.update s.port o (some other) } fd port := by
  obtain ⟨o', names, joined⟩ := h
  refine ⟨o', names, ?_⟩
  have different : o' ≠ o := by
    rintro rfl
    cases free.symm.trans joined
  exact (Function.update_of_ne different _ _).trans joined

theorem Joined.answers (h : s.Joined fd port) {j : Joining} (answers : Answers joinable s j s') :
    s'.Joined fd port := by
  cases answers with
  | joined _ _ free => exact h.update free
  | barred => exact h
  | failed => exact h

theorem Joined.replies (h : s.Joined fd port) {js : List Joining}
    (replies : Replies joinable s js s') : s'.Joined fd port := by
  induction replies with
  | none => exact h
  | next answers _ ih => exact ih (h.answers answers)

/-- A handle that joins names an object of the port. -/
theorem Answers.joined_of_ok (answers : Answers joinable s ⟨fd, port, .ok ()⟩ s') :
    s'.Joined fd port := by
  cases answers with
  | joined names _ _ => exact ⟨_, names, Function.update_self _ _ _⟩

theorem Replies.joined_of_mem {js : List Joining} (replies : Replies joinable s js s')
    (mem : ⟨fd, port, .ok ()⟩ ∈ js) : s'.Joined fd port := by
  induction replies with
  | none => cases mem
  | next answers rest ih =>
      rcases List.mem_cons.mp mem with same | later
      · subst same
        exact answers.joined_of_ok.replies rest
      · exact ih later

theorem Replies.of_nil {js : List Joining} (quiet : js = []) : Replies joinable s js s := by
  subst quiet
  exact .none

theorem Replies.of_singleton {j : Joining} (replies : Replies joinable s [j] s') :
    Answers joinable s j s' := by
  cases replies with
  | next answers rest =>
      cases rest
      exact answers

end Handles

/-- What happens to the handles of a process: the poller is called, a value is closed or given to an
object, and an object joins a port by other ways. -/
inductive Happening where
  | call (x : Exchange)
  | renamed (fd : Descriptor) (o : Option Object)
  | joined (o : Object) (port : Handle)

namespace Happening

def call? : Happening → Option Exchange
  | call x => some x
  | _ => none

def calls (es : List Happening) : List Exchange := es.filterMap call?

/-- The value has been closed, or given to another object, since it last joined. -/
def Reused (es : List Happening) (fd : Descriptor) : Prop :=
  ∃ before x after, es = before ++ .call x :: after ∧ x.Joins fd ∧
    (∃ o, .renamed fd o ∈ after) ∧ ∀ y ∈ calls after, ¬ y.Joins fd

open Handles in
inductive Course (joinable : Object → Bool) : Handles → List Happening → Handles → Prop
  | still {s} : Course joinable s [] s
  | call {s x s' es s''} : Replies joinable s x.transcript.joinings s' →
      Course joinable s' es s'' → Course joinable s (.call x :: es) s''
  | renamed {s fd o es s'} :
      Course joinable { s with object := Function.update s.object fd o } es s' →
      Course joinable s (.renamed fd o :: es) s'
  | joined {s o port es s'} : s.port o = none →
      Course joinable { s with port := Function.update s.port o (some port) } es s' →
      Course joinable s (.joined o port :: es) s'

variable {joinable : Object → Bool} {s s' s'' : Handles} {es fs : List Happening}
  {fd : Descriptor} {port : Handle}

theorem Course.append_inv (course : Course joinable s (es ++ fs) s'') :
    ∃ s', Course joinable s es s' ∧ Course joinable s' fs s'' := by
  induction es generalizing s with
  | nil => exact ⟨s, .still, course⟩
  | cons e es ih =>
      cases course with
      | call replies rest =>
          obtain ⟨s', front, back⟩ := ih rest
          exact ⟨s', .call replies front, back⟩
      | renamed rest =>
          obtain ⟨s', front, back⟩ := ih rest
          exact ⟨s', .renamed front, back⟩
      | joined free rest =>
          obtain ⟨s', front, back⟩ := ih rest
          exact ⟨s', .joined free front, back⟩

/-- An object never leaves its port, so a value that still names it still names an object of it. -/
theorem Course.keeps_joined (course : Course joinable s es s') (kept : ∀ o, .renamed fd o ∉ es)
    (h : s.Joined fd port) : s'.Joined fd port := by
  induction course with
  | still => exact h
  | call replies _ ih =>
      exact ih (fun o mem => kept o (List.mem_cons_of_mem _ mem)) (h.replies replies)
  | @renamed s handle o es s' _ ih =>
      refine ih (fun o' mem => kept o' (List.mem_cons_of_mem _ mem)) ?_
      obtain ⟨o', names, joined⟩ := h
      have different : fd ≠ handle := by
        rintro rfl
        exact kept o List.mem_cons_self
      exact ⟨o', (Function.update_of_ne different _ _).trans names, joined⟩
  | joined free _ ih =>
      exact ih (fun o mem => kept o (List.mem_cons_of_mem _ mem)) (h.update free)

/-- The last call during which the handle joined. -/
theorem exists_last_joins (joined : ∃ x ∈ calls es, x.Joins fd) :
    ∃ before x after, es = before ++ .call x :: after ∧ x.Joins fd ∧
      ∀ y ∈ calls after, ¬ y.Joins fd := by
  induction es with
  | nil =>
      obtain ⟨x, mem, -⟩ := joined
      cases mem
  | cons e es ih =>
      by_cases later : ∃ x ∈ calls es, x.Joins fd
      · obtain ⟨before, x, after, rfl, joins, last⟩ := ih later
        exact ⟨e :: before, x, after, rfl, joins, last⟩
      · obtain ⟨x, mem, joins⟩ := joined
        have none : ∀ y ∈ calls es, ¬ y.Joins fd := fun y hy joins => later ⟨y, hy, joins⟩
        obtain ⟨e', front, called⟩ := List.mem_filterMap.mp mem
        rcases List.mem_cons.mp front with rfl | back
        · cases e' with
          | call x' =>
              cases called
              exact ⟨[], _, es, rfl, joins, none⟩
          | renamed => cases called
          | joined => cases called
        · exact absurd joins (none x (List.mem_filterMap.mpr ⟨e', back, called⟩))

end Happening

/-! ### Handles of a completion port -/

namespace CompletionPort

variable {p p' : CompletionPort} {op : Operation} {t : Transcript} {answer : Answer}

theorem remarks_joinings (p : CompletionPort) (packets : List Packet) :
    (p.remarks packets).joinings = [] := by
  refine List.filterMap_eq_nil_iff.mpr fun s mem => ?_
  obtain ⟨record, -, rfl⟩ := List.mem_map.mp mem
  rfl

/-- A port stays the same one, and no other one is asked to take a handle in. -/
theorem Served.own_port (h : p.Served op t answer p') :
    p'.signal.port = p.signal.port ∧ ∀ j ∈ t.joinings, j.port = p.signal.port := by
  cases h with
  | answered =>
      refine ⟨rfl, ?_⟩
      change ∀ j ∈ (p.remarks _).joinings, _
      rw [p.remarks_joinings]
      exact List.forall_mem_nil _
  | associated | reassociated | unassociated => exact ⟨rfl, List.forall_mem_singleton.mpr rfl⟩
  | _ => exact ⟨rfl, List.forall_mem_nil _⟩

end CompletionPort

/-- All that a history of a port has to do with is that one port. -/
theorem History.own_port (h : History) {p : CompletionPort} (port : h.finish = .port p) :
    ∀ x ∈ h.exchanges, ∀ j ∈ x.transcript.joinings, j.port = p.signal.port := by
  obtain ⟨config, opening, start, exchanges, finish, opened, run⟩ := h
  dsimp only at port ⊢
  induction run generalizing p with
  | start => exact List.forall_mem_nil _
  | @step xs x before ih =>
      obtain ⟨q, same, served⟩ := x.port_outcome (before.sound opened.sound).wellFormed port
      obtain ⟨kept, own⟩ := served.own_port
      rw [kept]
      exact List.forall_mem_append.mpr ⟨ih same, List.forall_mem_singleton.mpr own⟩

/-- A handle in the table of a port has joined it during a call. -/
theorem History.joined_of_isAssociated (h : History) {p : CompletionPort} {fd : Descriptor}
    (port : h.finish = .port p) (known : p.isAssociated fd = true) :
    ∃ x ∈ h.exchanges, x.Joins fd := by
  obtain ⟨⟨key, handle⟩, mem, same⟩ := List.any_eq_true.mp known
  obtain rfl := beq_iff_eq.mp same
  rw [h.associations_eq port] at mem
  rcases Transcript.mem_associations mem with none | ⟨port', joined⟩
  · cases none
  · obtain ⟨s, mem, said⟩ := List.mem_filterMap.mp joined
    obtain ⟨x, called, within⟩ := List.mem_flatMap.mp mem
    exact ⟨x, called, port', List.mem_filterMap.mpr ⟨s, within, said⟩⟩

open Happening

/-- If the handle joined during a call, and its value has not been reused since, the object that it
names belongs to the port. -/
theorem History.joined_of_not_reused (h : History) {p : CompletionPort} {fd : Descriptor}
    {joinable : Object → Bool} {s₀ s : Handles} {es : List Happening} (port : h.finish = .port p)
    (called : h.exchanges = calls es) (course : Course joinable s₀ es s)
    (joined : ∃ x ∈ calls es, x.Joins fd) (kept : ¬ Reused es fd) : s.Joined fd p.signal.port := by
  -- Whatever the value named when it joined for the last time, it still names.
  obtain ⟨before, x, after, rfl, ⟨port', joins⟩, last⟩ := exists_last_joins joined
  obtain ⟨s₁, -, rest⟩ := course.append_inv
  cases rest with
  | call replies rest =>
      have mem : x ∈ h.exchanges := by
        rw [called, calls, List.filterMap_append]
        exact List.mem_append_right _ List.mem_cons_self
      obtain rfl : port' = p.signal.port := h.own_port port x mem _ joins
      refine rest.keeps_joined (fun o renamed => kept ?_) (replies.joined_of_mem joins)
      exact ⟨before, x, after, rfl, ⟨_, joins⟩, ⟨o, renamed⟩, last⟩

/-- The answer to adding a handle says whether the object that it names belongs to the port: if the
handle was accepted, then it does, and if it does not, then the handle was turned down as unsupported
and is not registered. -/
structure Answer.Truthful (answer : Answer) (fd : Descriptor) (port : Handle) (s : Handles)
    (registry : Registry) : Prop where
  accepted : answer = .returned (.ok ()) → s.Joined fd port
  rejected : ¬ s.Joined fd port → (∃ e, answer = .returned (.error (.unsupported fd (.os e)))) ∧
    registry.contains fd = false

/-- The answer to adding a handle is false in one case only: the system does not let the handle join,
and the table of the port takes it for one that has joined already. -/
theorem CompletionPort.Served.truthful_iff {p p' : CompletionPort} {t : Transcript}
    {answer : Answer} {fd : Descriptor} {interest : Interest} {token : Token}
    {joinable : Object → Bool} {s s' : Handles}
    (served : p.Served (.add fd interest token) t answer p') (wf : p.registry.WellFormed)
    (unregistered : p.registry.contains fd = false) (replies : s.Replies joinable t.joinings s') :
    answer.Truthful fd p.signal.port s' p'.registry ↔
      ¬ (p.isAssociated fd = true ∧ ⟨fd, p.signal.port, .error .invalidParameter⟩ ∈ t.joinings ∧
        ¬ s.Joined fd p.signal.port) := by
  cases served with
  | duplicate refused =>
      obtain ⟨present, -⟩ := Registry.insert_eq_error_iff.mp refused
      cases unregistered.symm.trans present
  | associated placed =>
      have joined := replies.joined_of_mem List.mem_cons_self
      refine iff_of_true ⟨fun _ => joined, absurd joined⟩ ?_
      rintro ⟨-, barred, -⟩
      cases List.mem_singleton.mp barred
  | reassociated placed known =>
      have same : s' = s := by
        cases replies.of_singleton <;> rfl
      subst same
      constructor
      · rintro truthful ⟨-, -, apart⟩
        exact apart (truthful.accepted rfl)
      · intro fine
        have joined : s'.Joined fd p.signal.port := by
          by_contra apart
          exact fine ⟨known, List.mem_cons_self, apart⟩
        exact ⟨fun _ => joined, absurd joined⟩
  | @unassociated _ _ _ _ _ e placed unknown =>
      refine iff_of_true ⟨nofun, fun _ => ⟨⟨e, rfl⟩, ?_⟩⟩ ?_
      · exact (wf.insert_inserted placed).contains_discard wf
      · rintro ⟨known, barred, -⟩
        cases List.mem_singleton.mp barred
        exact unknown ⟨rfl, known⟩

/-- Handles join a completion port and their values are reused, in any order. The answer to adding a
handle that is not registered is true, unless the object that it names now may not join and does not
belong to the port, but its value is in the table; and then the value has been reused since it last
joined. -/
theorem History.add_truthful_iff (h : History) {joinable : Object → Bool} {s₀ s s' : Handles}
    {es : List Happening} {x : Exchange} {later : List Exchange} {p : CompletionPort}
    {fd : Descriptor} {interest : Interest} {token : Token}
    (split : h.exchanges = calls es ++ x :: later) (course : Course joinable s₀ es s)
    (replies : s.Replies joinable x.transcript.joinings s') (before : x.before = .port p)
    (op : x.operation = .add fd interest token) (unregistered : p.registry.contains fd = false) :
    (x.answer.Truthful fd p.signal.port s' x.after.registry ↔
      ¬ (p.isAssociated fd = true ∧
        ⟨fd, p.signal.port, .error .invalidParameter⟩ ∈ x.transcript.joinings ∧
        ¬ s.Joined fd p.signal.port)) ∧
    (¬ x.answer.Truthful fd p.signal.port s' x.after.registry → Reused es fd) := by
  obtain ⟨p', after, served⟩ := x.port_served before
  rw [op] at served
  have wf := (h.upTo split).sound.port_wellFormed before
  have falls := served.truthful_iff wf unregistered replies
  rw [after]
  refine ⟨falls, fun false_answer => ?_⟩
  obtain ⟨known, -, apart⟩ := not_not.mp (mt falls.mpr false_answer)
  by_contra kept
  have joined := (h.upTo split).joined_of_isAssociated before known
  exact apart ((h.upTo split).joined_of_not_reused before rfl course joined kept)

def Answer.accepts : Answer → Bool
  | .returned (.ok ()) => true
  | _ => false

theorem Answer.eq_of_accepts {answer : Answer} (h : answer.accepts = true) :
    answer = .returned (.ok ()) := by
  unfold accepts at h
  split at h
  · rfl
  · cases h

/-- A call for a handle: what the port knew about it, whether it was to join, and whether the call
succeeded. -/
structure Application where
  operation : Operation
  registered : Bool
  associated : Bool
  joinings : List Joining
  accepted : Bool
  deriving DecidableEq

/-- What a call was for a handle, if it was made to this port. -/
def Exchange.application? (x : Exchange) (port : Handle) (fd : Descriptor) : Option Application := do
  let p ← x.before.port?
  if p.signal.port = port then
    some ⟨x.operation, p.registry.contains fd, p.isAssociated fd, x.transcript.joinings,
      x.answer.accepts⟩
  else none

theorem Exchange.of_application? {x : Exchange} {port : Handle} {fd : Descriptor} {a : Application}
    (h : x.application? port fd = some a) : ∃ p, x.before = .port p ∧ p.signal.port = port ∧
      x.operation = a.operation ∧ p.registry.contains fd = a.registered ∧
      p.isAssociated fd = a.associated ∧ x.transcript.joinings = a.joinings ∧
      x.answer.accepts = a.accepted := by
  obtain ⟨p, before, own⟩ := Option.bind_eq_some_iff.mp h
  split at own
  · rename_i same
    cases own
    exact ⟨p, Backend.eq_port_of_port? before, same, rfl, rfl, rfl, rfl, rfl⟩
  · cases own

/-- A handle is added, removed, and added again when the system says that it cannot join. -/
def readded : Option History := do
  let h ← History.rehearseOpening CompletionPort.create .port .port {} .initial
  h.rehearse [(.add 5 { read := true } 1, .initial), (.remove 5, .initial),
    (.add 5 { read := true } 2, joinedAlready)]

theorem readded_exchanges : ∃ (h : History) (a b x : Exchange) (p : CompletionPort),
    h.exchanges = [a, b, x] ∧ a.transcript.joinings = [⟨5, 100, .ok ()⟩] ∧
    b.transcript.joinings = [] ∧ x.before = .port p ∧ p.signal.port = 100 ∧
    x.operation = .add 5 { read := true } 2 ∧ p.registry.contains 5 = false ∧
    p.isAssociated 5 = true ∧ x.transcript.joinings = [⟨5, 100, .error .invalidParameter⟩] ∧
    x.answer.accepts = true := by
  have computed : ∃ h ∈ readded, h.exchanges.map (·.application? 100 5) =
      [some ⟨.add 5 { read := true } 1, false, false, [⟨5, 100, .ok ()⟩], true⟩,
        some ⟨.remove 5, true, true, [], true⟩,
        some ⟨.add 5 { read := true } 2, false, true, [⟨5, 100, .error .invalidParameter⟩],
          true⟩] := by
    decide +kernel
  obtain ⟨h, -, applications⟩ := computed
  obtain ⟨a, rest, split, first, applications⟩ := List.map_eq_cons_iff.mp applications
  obtain ⟨b, rest, rfl, second, applications⟩ := List.map_eq_cons_iff.mp applications
  obtain ⟨x, rfl, third⟩ := List.map_eq_singleton_iff.mp applications
  obtain ⟨-, -, -, -, -, -, joins, -⟩ := Exchange.of_application? first
  obtain ⟨-, -, -, -, -, -, quiet, -⟩ := Exchange.of_application? second
  obtain ⟨p, before⟩ := Exchange.of_application? third
  exact ⟨h, a, b, x, p, split, joins, quiet, before⟩

/-- Every value names the first object, and nothing has joined a port. -/
def Handles.initial : Handles := ⟨fun _ => some 1, fun _ => none⟩

def Handles.firstJoined : Handles :=
  { Handles.initial with port := Function.update Handles.initial.port 1 (some 100) }

theorem Handles.replies_firstJoined {t : Transcript} (joins : t.joinings = [⟨5, 100, .ok ()⟩]) :
    Handles.initial.Replies (· == 1) t.joinings .firstJoined := by
  rw [joins]
  exact .next (.joined rfl rfl rfl) .none

/-- A value is given to another object, but it is not the one that is added again. -/
theorem readded_object_truthful : ∃ (h : History) (a b x : Exchange) (p : CompletionPort)
    (s : Handles),
    h.exchanges = calls [.call a, .renamed 6 (some 2), .call b] ++ [x] ∧
    Course (· == 1) .initial [.call a, .renamed 6 (some 2), .call b] s ∧
    s.Replies (· == 1) x.transcript.joinings s ∧ x.before = .port p ∧
    x.operation = .add 5 { read := true } 2 ∧ p.registry.contains 5 = false ∧
    x.answer = .returned (.ok ()) ∧
    x.answer.Truthful 5 p.signal.port s x.after.registry := by
  obtain ⟨h, a, b, x, p, split, joins, quiet, before, own, op, unregistered, -, barred, accepted⟩ :=
    readded_exchanges
  let s : Handles :=
    { Handles.firstJoined with
      object := Function.update Handles.firstJoined.object 6 (some 2) }
  have course : Course (· == 1) .initial [.call a, .renamed 6 (some 2), .call b] s :=
    .call (Handles.replies_firstJoined joins) (.renamed (.call (.of_nil quiet) .still))
  have replies : s.Replies (· == 1) x.transcript.joinings s := by
    rw [barred]
    exact .next (.barred (o := 1) rfl (.inr nofun)) .none
  have joined : s.Joined 5 p.signal.port := own ▸ ⟨1, rfl, rfl⟩
  have split' : h.exchanges = calls [.call a, .renamed 6 (some 2), .call b] ++ x :: [] := split
  have truthful := (h.add_truthful_iff split' course replies before op unregistered).1
  exact ⟨h, a, b, x, p, s, split, course, replies, before, op, unregistered,
    Answer.eq_of_accepts accepted, truthful.mpr fun lie => lie.2.2 joined⟩

/-- The value that is added again names another object by now, which cannot join, and the handle is
accepted for all that. -/
theorem reused_value_accepted : ∃ (h : History) (a b x : Exchange) (p : CompletionPort)
    (s : Handles),
    h.exchanges = calls [.call a, .call b, .renamed 5 (some 2)] ++ [x] ∧
    Course (· == 1) .initial [.call a, .call b, .renamed 5 (some 2)] s ∧
    s.Replies (· == 1) x.transcript.joinings s ∧ x.before = .port p ∧
    x.operation = .add 5 { read := true } 2 ∧ p.registry.contains 5 = false ∧
    s.object 5 = some 2 ∧ s.port 2 = none ∧ x.answer = .returned (.ok ()) ∧
    ¬ x.answer.Truthful 5 p.signal.port s x.after.registry := by
  obtain ⟨h, a, b, x, p, split, joins, quiet, before, own, op, unregistered, -, barred, accepted⟩ :=
    readded_exchanges
  let s : Handles :=
    { Handles.firstJoined with
      object := Function.update Handles.firstJoined.object 5 (some 2) }
  have course : Course (· == 1) .initial [.call a, .call b, .renamed 5 (some 2)] s :=
    .call (Handles.replies_firstJoined joins) (.call (.of_nil quiet) (.renamed .still))
  have replies : s.Replies (· == 1) x.transcript.joinings s := by
    rw [barred]
    exact .next (.barred (o := 2) rfl (.inl rfl)) .none
  have success := Answer.eq_of_accepts accepted
  refine ⟨h, a, b, x, p, s, split, course, replies, before, op, unregistered, rfl, rfl, success, ?_⟩
  intro truthful
  obtain ⟨o, names, joined⟩ := truthful.accepted success
  cases (show some 2 = some o from names)
  cases joined

end Multiplexer

import Multiplexer.Opening
import Multiplexer.Proofs.Dialogue

/-! Which kinds are opened when a poller is opened. The transcripts of a selection are described from
outside: it calls the opener for the candidates in order, writes one record for each that fails, and
goes no further than the first that opens. -/
namespace Multiplexer
open Dialogue

/-- A dialogue that stops leaves no room for another. -/
theorem Dialogue.Follows.halted {α β : Type} {p : Dialogue α} {f : α → Dialogue β} {t : Transcript}
    {why : Halt} (h : Follows p t (.error why)) : Follows (p.bind f) t (.error why) := by
  generalize ho : (Except.error why : Except Halt α) = o at h
  induction h with
  | done => cases ho
  | ask reply _ ih => exact .ask reply (ih ho)
  | note _ ih => exact .note (ih ho)
  | halt => cases ho; exact .halt _

/-- The outcomes of two dialogues in a row: the first one can stop for both. -/
theorem Dialogue.follows_bind_iff {α β : Type} {p : Dialogue α} {f : α → Dialogue β}
    {t : Transcript} {o : Except Halt β} :
    Follows (p.bind f) t o ↔
      (∃ a u v, t = u ++ v ∧ Follows p u (.ok a) ∧ Follows (f a) v o) ∨
        ∃ why, o = .error why ∧ Follows p t (.error why) := by
  constructor
  · intro h
    have outcomes : Meets (p.bind f) fun t o =>
        (∃ a u v, t = u ++ v ∧ Follows p u (.ok a) ∧ Follows (f a) v o) ∨
          ∃ why, o = .error why ∧ Follows p t (.error why) := by
      refine meets_bind.mpr fun t o ho => ?_
      cases o with
      | ok a => exact fun u o hu => .inl ⟨a, t, u, rfl, ho, hu⟩
      | error why => exact .inr ⟨why, rfl, ho⟩
    exact outcomes h
  · rintro (⟨a, u, v, rfl, hu, hv⟩ | ⟨why, rfl, h⟩)
    · exact hu.bind hv
    · exact h.halted

variable {β : Type} {opener : Opener β} {n : Nat}

structure Failure where
  kind : Kind
  transcript : Transcript
  error : Error

namespace Failure

def Of (opener : Opener β) (n : Nat) (f : Failure) : Prop :=
  Follows (opener f.kind n) f.transcript (.ok (.error f.error))

/-- What the opener said, and the record of falling back. -/
def said (f : Failure) : Transcript := f.transcript ++ [.noted (.fellBack f.kind f.error)]

/-- The error of the last failure; `last` stands for it as long as there is none. -/
def lastError (last : Error) (failures : List Failure) : Error :=
  (failures.getLast?.map error).getD last

theorem lastError_cons {last : Error} {f : Failure} {failures : List Failure} :
    lastError last (f :: failures) = lastError f.error failures := by
  unfold lastError
  rw [List.getLast?_cons]
  cases failures.getLast? with
  | none => rfl
  | some g => rfl

end Failure

/-- How trying the candidates can go, after `attempted` and the failure `last`. -/
inductive Tried (opener : Opener β) (n : Nat) (attempted : List Kind) (last : Error) :
    List Kind → Transcript → Except Halt (Except Error β) → Prop
  /-- All candidates up to this one failed; those behind it are not tried. -/
  | opened {failures : List Failure} {kind : Kind} {rest : List Kind} {t : Transcript} {b : β} :
      (∀ f ∈ failures, f.Of opener n) → Follows (opener kind n) t (.ok (.ok b)) →
      Tried opener n attempted last (failures.map Failure.kind ++ kind :: rest)
        (failures.flatMap Failure.said ++ t) (.ok (.ok b))
  /-- All candidates failed. -/
  | exhausted {failures : List Failure} : (∀ f ∈ failures, f.Of opener n) →
      Tried opener n attempted last (failures.map Failure.kind) (failures.flatMap Failure.said)
        (.ok (.error (.noBackend (attempted ++ failures.map Failure.kind)
          (Failure.lastError last failures))))
  /-- The opener itself did not return. -/
  | halted {failures : List Failure} {kind : Kind} {rest : List Kind} {t : Transcript}
      {why : Halt} :
      (∀ f ∈ failures, f.Of opener n) → Follows (opener kind n) t (.error why) →
      Tried opener n attempted last (failures.map Failure.kind ++ kind :: rest)
        (failures.flatMap Failure.said ++ t) (.error why)

section
variable {attempted candidates : List Kind} {last : Error} {t : Transcript}
  {o : Except Halt (Except Error β)}

/-- One more failure in front. -/
theorem Tried.cons {f : Failure} (failed : f.Of opener n)
    (h : Tried opener n (attempted ++ [f.kind]) f.error candidates t o) :
    Tried opener n attempted last (f.kind :: candidates) (f.said ++ t) o := by
  cases h with
  | @opened failures kind rest t b made opened =>
      rw [← List.append_assoc]
      have made := List.forall_mem_cons.mpr ⟨failed, made⟩
      exact .opened made opened
  | @halted failures kind rest t why made halted =>
      rw [← List.append_assoc]
      have made := List.forall_mem_cons.mpr ⟨failed, made⟩
      exact .halted made halted
  | @exhausted failures made =>
      rw [List.append_assoc, ← Failure.lastError_cons]
      have made := List.forall_mem_cons.mpr ⟨failed, made⟩
      exact .exhausted made

theorem tried_of_follows (h : Follows (selectAmong opener attempted last candidates n) t o) :
    Tried opener n attempted last candidates t o := by
  induction candidates generalizing attempted last t with
  | nil =>
      cases h with
      | done =>
          have none := @Tried.exhausted β opener n attempted last [] nofun
          rwa [List.map_nil, List.append_nil] at none
  | cons kind rest ih =>
      rcases follows_bind_iff.mp h with ⟨result, u, v, rfl, hu, hv⟩ | ⟨why, rfl, hu⟩
      · cases result with
        | ok b =>
            cases hv with
            | done =>
                rw [List.append_nil]
                exact @Tried.opened β opener n attempted last [] kind rest u b nofun hu
        | error e =>
            cases hv with
            | note hv =>
                rw [List.append_cons]
                exact @Tried.cons β opener n attempted rest last _ o ⟨kind, u, e⟩ hu (ih hv)
      · exact @Tried.halted β opener n attempted last [] kind rest t why nofun hu

/-- The candidates that fail are passed over, one record each. -/
theorem follows_of_failures {failures : List Failure} (made : ∀ f ∈ failures, f.Of opener n)
    (h : Follows (selectAmong opener (attempted ++ failures.map Failure.kind)
      (Failure.lastError last failures) candidates n) t o) :
    Follows (selectAmong opener attempted last (failures.map Failure.kind ++ candidates) n)
      (failures.flatMap Failure.said ++ t) o := by
  induction failures generalizing attempted last with
  | nil => rwa [List.map_nil, List.append_nil] at h
  | cons f failures ih =>
      obtain ⟨failed, made⟩ := List.forall_mem_cons.mp made
      rw [Failure.lastError_cons, List.map_cons, List.append_cons] at h
      rw [List.flatMap_cons, Failure.said, List.append_assoc, List.append_assoc]
      exact Follows.bind failed (.note (ih made h))

/-- What is said to be possible is. -/
theorem follows_of_tried (h : Tried opener n attempted last candidates t o) :
    Follows (selectAmong opener attempted last candidates n) t o := by
  cases h with
  | opened made opened =>
      refine follows_of_failures made ?_
      exact follows_bind_iff.mpr (.inl ⟨_, _, [], (List.append_nil _).symm, opened, .done _⟩)
  | halted made halted =>
      refine follows_of_failures made ?_
      exact follows_bind_iff.mpr (.inr ⟨_, rfl, halted⟩)
  | @exhausted failures made =>
      have passed := @follows_of_failures β opener n attempted [] last [] _ failures made (.done _)
      rwa [List.append_nil, List.append_nil] at passed

end

inductive Chosen (opener : Opener Backend) (n : Nat) :
    Kind → Transcript → Except Halt (Except Error Backend) → Prop
  | auto {t o} : Tried opener n [] (.configuration .auto) Kind.fallbackChain t o →
      Chosen opener n .auto t o
  /-- A kind that the platform lacks is refused without asking. -/
  | unsupported {kind} : kind.isSupported = false →
      Chosen opener n kind [] (.ok (.error (.configuration kind)))
  | explicit {kind t o} : kind ≠ .auto → kind.isSupported → Follows (opener kind n) t o →
      Chosen opener n kind t o

/-- A poller that was opened is recorded, and nothing else is. -/
def announcement : Except Halt (Except Error Backend) → Transcript
  | .ok (.ok b) => [.noted (.created b.kind)]
  | _ => []

theorem follows_selectBackend_iff {candidates : List Kind} {t : Transcript}
    {o : Except Halt (Except Error β)} :
    Follows (selectBackend opener candidates n) t o ↔
      Tried opener n [] (.configuration .auto) candidates t o :=
  ⟨tried_of_follows, follows_of_tried⟩

/-- What becomes of a poller once the facility is open, or is not. -/
def announce : Except Error Backend → Sys (Except Error Backend)
  | .ok b => do
    note (.created b.kind)
    pure (.ok b)
  | .error e => pure (.error e)

/-- The facility that a poller of the given kind stands on. -/
def choose (opener : Opener Backend) (kind : Kind) : Sys (Except Error Backend) :=
  if kind = .auto then selectBackend opener Kind.fallbackChain
  else if kind.isSupported then opener kind
  else pure (.error (.configuration kind))

theorem openWith_eq (opener : Opener Backend) (kind : Kind) :
    openWith opener kind = choose opener kind >>= announce := by
  have tail : announce = fun
      | .ok b => do
        note (.created b.kind)
        pure (.ok b)
      | .error e => pure (.error e) := by
    funext opened
    cases opened with
    | error e => rfl
    | ok b => rfl
  unfold openWith choose
  rw [tail]
  split
  · rfl
  · split
    · rfl
    · rfl

section
variable {opener : Opener Backend} {kind : Kind} {t : Transcript}
  {o : Except Halt (Except Error Backend)}

theorem follows_choose_iff : Follows (choose opener kind n) t o ↔ Chosen opener n kind t o := by
  unfold choose
  by_cases auto : kind = .auto
  · subst auto
    rw [if_pos rfl, follows_selectBackend_iff]
    refine ⟨.auto, fun h => ?_⟩
    cases h with
    | auto h => exact h
    | unsupported lacking => cases lacking
    | explicit explicit => exact absurd rfl explicit
  · rw [if_neg auto]
    by_cases supported : kind.isSupported = true
    · rw [if_pos supported]
      refine ⟨.explicit auto supported, fun h => ?_⟩
      cases h with
      | auto => exact absurd rfl auto
      | unsupported lacking => exact absurd (supported.symm.trans lacking) nofun
      | explicit _ _ h => exact h
    · rw [if_neg supported]
      constructor
      · intro h
        cases h
        exact .unsupported (Bool.eq_false_iff.mpr supported)
      · intro h
        cases h with
        | auto => exact absurd rfl auto
        | unsupported => exact .done _
        | explicit _ present => exact absurd present supported

theorem follows_openWith_iff :
    Follows (openWith opener kind n) t o ↔
      ∃ u, Chosen opener n kind u o ∧ t = u ++ announcement o := by
  rw [openWith_eq]
  simp only [← follows_choose_iff]
  refine Iff.trans follows_bind_iff ?_
  constructor
  · rintro (⟨result, u, v, rfl, hu, hv⟩ | ⟨why, rfl, hu⟩)
    · cases result with
      | ok b =>
          cases hv with
          | note hv =>
              cases hv
              exact ⟨u, hu, rfl⟩
      | error e =>
          cases hv
          exact ⟨u, hu, rfl⟩
    · exact ⟨t, hu, (List.append_nil t).symm⟩
  · rintro ⟨u, hu, rfl⟩
    rcases o with why | e | b
    · exact .inr ⟨why, rfl, (List.append_nil u).symm ▸ hu⟩
    · exact .inl ⟨_, u, [], rfl, hu, .done _⟩
    · exact .inl ⟨_, u, _, rfl, hu, .note (.done _)⟩

end

/-- Opening a poller goes exactly like this: a selection calls the opener for the candidates in
order, once each, up to the first that opens, and writes a record for each that failed; an explicit
kind is opened as it is, or refused without a call if the platform lacks it. -/
theorem openers_called (n : Nat) :
    (∀ {β : Type} (opener : Opener β) (candidates : List Kind) (t : Transcript)
      (o : Except Halt (Except Error β)),
      Follows (selectBackend opener candidates n) t o ↔
        Tried opener n [] (.configuration .auto) candidates t o) ∧
    ∀ (opener : Opener Backend) (kind : Kind) (t : Transcript)
      (o : Except Halt (Except Error Backend)),
      Follows (openWith opener kind n) t o ↔
        ∃ u, Chosen opener n kind u o ∧ t = u ++ announcement o := by
  constructor
  · intro β opener candidates t o
    exact follows_selectBackend_iff
  · intro opener kind t o
    exact follows_openWith_iff

end Multiplexer

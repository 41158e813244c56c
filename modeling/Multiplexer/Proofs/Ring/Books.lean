import Multiplexer.Proofs.Ring.Ledger

/-! The books of a ring: all requests pushed and all completions taken so far, and what can be read
off them about the polls under given data. What is taken for granted of the system is said in the same
terms, and can be checked. -/
namespace Multiplexer
namespace Ring

def Request.polls (data : UInt64) : Request → Bool
  | poll _ _ _ d => d == data
  | cancel .. => false

/-- The completion is the last one of a poll. -/
def Completion.ends (data : UInt64) (c : Completion) : Bool := c.data == data && !c.more

structure Books where
  pushed : List Request
  consumed : List Completion

namespace Books

variable {b : Books} {data : UInt64} {request : Request} {c : Completion}

def polls (b : Books) (data : UInt64) : List Request := b.pushed.filter (·.polls data)

def finals (b : Books) (data : UInt64) : Nat := b.consumed.countP (·.ends data)

/-- The polls that were pushed under the data and whose last completion has not been taken. -/
def live (b : Books) (data : UInt64) : List Request := (b.polls data).drop (b.finals data)

/-- A withdrawal was pushed after every poll under the data. -/
def Withdrawn (b : Books) (data : UInt64) : Prop :=
  ∃ before after, b.pushed = before ++ .cancel data cancelKey :: after ∧
    ∀ request ∈ after, request.polls data = false

def push (b : Books) (request : Request) : Books := { b with pushed := b.pushed ++ [request] }

def consume (b : Books) (c : Completion) : Books := { b with consumed := b.consumed ++ [c] }

theorem polls_push (other : request.polls data = false) :
    (b.push request).polls data = b.polls data := by
  simp only [polls, push, List.filter_append, List.filter_cons, other, Bool.false_eq_true, if_false,
    List.filter_nil, List.append_nil]

theorem polls_push_self (same : request.polls data = true) :
    (b.push request).polls data = b.polls data ++ [request] := by
  simp only [polls, push, List.filter_append, List.filter_cons, same, if_true, List.filter_nil]

theorem finals_consume :
    (b.consume c).finals data = b.finals data + if c.ends data then 1 else 0 := by
  simp only [finals, consume, List.countP_append, List.countP_singleton]

theorem live_push (other : request.polls data = false) :
    (b.push request).live data = b.live data := by
  rw [live, polls_push other]
  rfl

theorem live_push_self (same : request.polls data = true) (idle : b.live data = [])
    (counted : b.finals data ≤ (b.polls data).length) :
    (b.push request).live data = [request] := by
  have all : b.finals data = (b.polls data).length :=
    Nat.le_antisymm counted (List.drop_eq_nil_iff.mp idle)
  change ((b.push request).polls data).drop (b.finals data) = [request]
  rw [polls_push_self same, all, List.drop_left]

theorem live_consume (goesOn : c.ends data = false) : (b.consume c).live data = b.live data := by
  change (b.polls data).drop ((b.consume c).finals data) = _
  rw [finals_consume, goesOn]
  rfl

theorem live_consume_final (last : c.ends data = true) :
    (b.consume c).live data = (b.live data).tail := by
  change (b.polls data).drop ((b.consume c).finals data) = _
  rw [finals_consume, last, if_pos rfl, live, List.tail_drop]

theorem live_ne_nil (owes : b.finals data < (b.polls data).length) : b.live data ≠ [] := by
  intro idle
  exact absurd (List.drop_eq_nil_iff.mp idle) (Nat.not_le.mpr owes)

theorem Withdrawn.push (h : b.Withdrawn data) (other : request.polls data = false) :
    (b.push request).Withdrawn data := by
  obtain ⟨before, after, pushed, quiet⟩ := h
  refine ⟨before, after ++ [request], ?_, ?_⟩
  · rw [Books.push, pushed, List.append_assoc, List.cons_append]
  · intro q hq
    rcases List.mem_append.mp hq with hq | hq
    · exact quiet q hq
    · rw [List.mem_singleton.mp hq]
      exact other

theorem withdrawn_push_cancel : (b.push (.cancel data cancelKey)).Withdrawn data :=
  ⟨b.pushed, [], rfl, fun _ h => nomatch h⟩

end Books

/-- Each completion, in turn, finds a poll under its data that still owes its last one, and a failed
poll is over. -/
def Owed (pushed : List Request) : List Completion → List Completion → Prop
  | _, [] => True
  | past, c :: rest =>
    (¬ Reserved c.data → past.countP (·.ends c.data) < (pushed.filter (·.polls c.data)).length ∧
      (c.result < 0 → c.more = false)) ∧ Owed pushed (past ++ [c]) rest

namespace Owed

variable {pushed more : List Request} {past cs cs' : List Completion}

theorem append (h : Owed pushed past cs) (h' : Owed pushed (past ++ cs) cs') :
    Owed pushed past (cs ++ cs') := by
  induction cs generalizing past with
  | nil =>
      rw [List.append_nil] at h'
      exact h'
  | cons c cs ih =>
      refine ⟨h.1, ih h.2 ?_⟩
      rw [List.append_assoc]
      exact h'

theorem push (h : Owed pushed past cs) : Owed (pushed ++ more) past cs := by
  induction cs generalizing past with
  | nil => trivial
  | cons c cs ih =>
      refine ⟨fun plain => ?_, ih h.2⟩
      obtain ⟨owes, last⟩ := h.1 plain
      rw [List.filter_append, List.length_append]
      exact ⟨Nat.lt_add_right _ owes, last⟩

end Owed
end Ring

/-- What is taken for granted of the system. It completes only polls that owe a completion, counting
the polls pushed and the last completions posted until then; a failed poll is over; and no negative
number is an open descriptor. -/
structure Transcript.Lawful (t : Transcript) : Prop where
  owed : ∀ {past future : Transcript} {s : Step} {q : Ring.Queues} {entered : Ring.Entered},
    t = past ++ s :: future → s.entered? = some (q, entered) →
    Ring.Owed (past.taken ++ q.requests) past.posted entered.posted
  descriptors : ∀ {fd : Descriptor}, .asked (.getFlags fd) (.ok ()) ∈ t → 0 ≤ fd

theorem Transcript.Lawful.before {t u : Transcript} (h : Lawful (t ++ u)) : t.Lawful where
  owed := by
    intro past future s q entered split
    exact @owed _ h past (future ++ u) _ _ _ (by rw [split, List.append_assoc, List.cons_append])
  descriptors := fun mem => h.descriptors (List.mem_append_left _ mem)

/-- One more step keeps to it. -/
theorem Transcript.Lawful.snoc {t : Transcript} {s : Step} (h : t.Lawful)
    (owed : ∀ {q entered}, s.entered? = some (q, entered) →
      Ring.Owed (t.taken ++ q.requests) t.posted entered.posted)
    (opened : ∀ {fd}, s = .asked (.getFlags fd) (.ok ()) → 0 ≤ fd) : Lawful (t ++ [s]) where
  owed := by
    intro past future s' q entered split hs
    rcases cut_of_snoc split with ⟨rfl, rfl, rfl⟩ | ⟨future, rfl, rfl⟩
    · exact owed hs
    · exact h.owed rfl hs
  descriptors := by
    intro fd mem
    rcases List.mem_append.mp mem with mem | mem
    · exact h.descriptors mem
    · exact opened (List.mem_singleton.mp mem).symm

/-! ### Checking what is taken for granted -/

namespace Ring

instance {data : UInt64} : Decidable (Reserved data) :=
  inferInstanceAs (Decidable (data = wakeKey ∨ data = timerKey ∨ data = cancelKey))

instance Owed.decide (pushed : List Request) :
    (past cs : List Completion) → Decidable (Owed pushed past cs)
  | _, [] => .isTrue trivial
  | past, c :: rest =>
    have := Owed.decide pushed (past ++ [c]) rest
    inferInstanceAs (Decidable (_ ∧ _))

end Ring

def Step.opened? : Step → Option Descriptor
  | .asked (.getFlags fd) (.ok ()) => some fd
  | _ => none

theorem Step.of_opened {s : Step} {fd : Descriptor} (opened : s.opened? = some fd) :
    s = .asked (.getFlags fd) (.ok ()) := by
  unfold opened? at opened
  split at opened
  · cases opened
    rfl
  · cases opened

namespace Transcript

/-- The steps, after those in the past, keep to what is taken for granted. -/
def Heeds (past : Transcript) : Transcript → Prop
  | [] => True
  | s :: t =>
    ((∀ entry ∈ s.entered?, Ring.Owed (past.taken ++ entry.1.requests) past.posted entry.2.posted) ∧
      s.opened?.all (fun fd => decide (0 ≤ fd)) = true) ∧ Heeds (past ++ [s]) t

instance Heeds.decide : (past t : Transcript) → Decidable (Heeds past t)
  | _, [] => .isTrue trivial
  | past, s :: t =>
    have := Heeds.decide (past ++ [s]) t
    inferInstanceAs (Decidable ((_ ∧ _) ∧ _))

variable {past t u : Transcript}

theorem Heeds.drop (h : Heeds past (u ++ t)) : Heeds (past ++ u) t := by
  induction u generalizing past with
  | nil =>
      rw [List.append_nil]
      exact h
  | cons s u ih =>
      have rest := ih h.2
      rw [List.append_assoc] at rest
      exact rest

theorem Lawful.heeds (h : Lawful (past ++ t)) : Heeds past t := by
  induction t generalizing past with
  | nil => trivial
  | cons s t ih =>
      refine ⟨⟨fun entry entered => h.owed rfl entered, ?_⟩, ih ?_⟩
      · refine (Option.all_eq_true ..).mpr fun fd opened => decide_eq_true ?_
        exact h.descriptors (List.mem_append_right _ (Step.of_opened opened ▸ List.mem_cons_self))
      · rw [List.append_assoc]
        exact h

theorem lawful_iff : t.Lawful ↔ Heeds [] t := by
  refine ⟨@Lawful.heeds [] t, fun h => ⟨?_, ?_⟩⟩
  · rintro past future s q entered rfl hs
    exact h.drop.1.1 (q, entered) hs
  · intro fd mem
    obtain ⟨past, future, rfl⟩ := List.append_of_mem mem
    exact of_decide_eq_true ((Option.all_eq_true ..).mp h.drop.1.2 fd rfl)

instance : Decidable t.Lawful := decidable_of_iff _ lawful_iff.symm

end Transcript
end Multiplexer

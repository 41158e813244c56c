import Multiplexer.Proofs.Ring.Internal
import Multiplexer.System.Kernel.Respond

/-! The accounts of the simulated kernel with a ring. Every poll that it takes owes one last completion:
as long as that has not been posted, the poll is armed or about to be withdrawn. Watches and files do
not enter into this, and the chores that a change leaves for the ring keep it so. -/
namespace Multiplexer

/-! ### Masks that are results -/

namespace PollMask

/-- As a signed number the mask is not negative. -/
def Mild (mask : PollMask) : Prop := mask.toNat < 0x80000000

instance : DecidablePred Mild := fun mask => inferInstanceAs (Decidable (mask.toNat < 0x80000000))

variable {a b : PollMask}

theorem mild_zero : Mild 0 := by decide
theorem mild_input : Mild input := by decide
theorem mild_output : Mild output := by decide

theorem Mild.or (ha : a.Mild) (hb : b.Mild) : (a ||| b).Mild := by
  rw [Mild, UInt32.toNat_or]
  exact Nat.or_lt_two_pow (n := 31) ha hb

theorem Mild.and (ha : a.Mild) : (a &&& b).Mild := by
  rw [Mild, UInt32.toNat_and]
  exact Nat.lt_of_le_of_lt Nat.and_le_left ha

theorem Mild.result (ha : a.Mild) : 0 ≤ a.toInt32 := by
  have low : 2 * a.toBitVec.toNat < 2 ^ 32 := by
    change 2 * a.toNat < 2 ^ 32
    unfold Mild at ha
    omega
  rw [Int32.le_iff_toInt_le]
  change (0 : Int) ≤ a.toBitVec.toInt
  rw [BitVec.toInt_eq_toNat_of_lt low]
  exact Int.natCast_nonneg _

end PollMask

namespace File

theorem mild_flag {bits : PollMask} (mild : bits.Mild) (on : Bool) : (flag bits on).Mild := by
  cases on with
  | false => exact PollMask.mild_zero
  | true => exact mild

theorem mild_conditions (file other : File) : (file.conditions other).Mild := by
  have input := mild_flag PollMask.mild_input
  have output := mild_flag PollMask.mild_output
  have error := @mild_flag .error (by decide)
  have hangup := @mild_flag .hangup (by decide)
  have peerHangup := @mild_flag .peerHangup (by decide)
  cases file with
  | regular => exact PollMask.mild_input.or PollMask.mild_output
  | socket =>
      exact ((((input _).or (output _)).or (peerHangup _)).or (hangup _)).or (error _)
  | pipeReader => exact (input _).or (hangup _)
  | pipeWriter => exact (output _).or (error _)
  | counter => exact (input _).or PollMask.mild_output
  | timer => exact input _
  | facility => exact PollMask.mild_zero
  | closed => exact PollMask.mild_zero

end File

namespace Ring

/-- Every completion but those of withdrawals finds, in turn, a poll under its data that still owes its
last one, and a failed poll is over. -/
def Accounted (pushed : List Request) (cs : List Completion) : Prop :=
  ∀ past c rest, cs = past ++ c :: rest → c.data ≠ cancelKey →
    past.countP (·.ends c.data) < (pushed.filter (·.polls c.data)).length ∧
      (c.result < 0 → c.more = false)

namespace Accounted

variable {pushed more : List Request} {past cs : List Completion} {c : Completion}

theorem nil : Accounted pushed [] := by
  intro past c rest split
  exact absurd split.symm (List.append_ne_nil_of_right_ne_nil _ (List.cons_ne_nil _ _))

theorem push (h : Accounted pushed cs) : Accounted (pushed ++ more) cs := by
  intro past c rest split plain
  obtain ⟨owes, last⟩ := h past c rest split plain
  rw [List.filter_append, List.length_append]
  exact ⟨Nat.lt_add_right _ owes, last⟩

theorem snoc (h : Accounted pushed cs)
    (owes : c.data ≠ cancelKey → cs.countP (·.ends c.data) < (pushed.filter (·.polls c.data)).length)
    (last : c.result < 0 → c.more = false) : Accounted pushed (cs ++ [c]) := by
  intro past d rest split plain
  rcases cut_of_snoc split with ⟨rfl, rfl, rfl⟩ | ⟨rest, rfl, rfl⟩
  · exact ⟨owes plain, last⟩
  · exact h past d rest rfl plain

theorem before (h : Accounted pushed (past ++ cs)) : Accounted pushed past := by
  intro before c rest split
  exact h before c (rest ++ cs) (by rw [split, List.append_assoc, List.cons_append])

theorem owed (h : Accounted pushed (past ++ cs)) : Owed pushed past cs := by
  induction cs generalizing past with
  | nil => trivial
  | cons c cs ih =>
      refine ⟨fun plain => h past c cs rfl fun same => plain (.inr (.inr same)), ih ?_⟩
      rw [List.append_assoc]
      exact h

theorem due (h : Accounted pushed (past ++ cs)) : Due pushed past cs := by
  induction cs generalizing past with
  | nil => trivial
  | cons c cs ih =>
      refine ⟨fun internal => (h past c cs rfl fun same => ?_).1, ih ?_⟩
      · rw [same] at internal
        exact absurd internal (by decide)
      · rw [List.append_assoc]
        exact h

end Accounted
end Ring

/-- The data of a poll that is about to be withdrawn. -/
def Chore.owing? : Chore → Option UInt64
  | .report _ => none
  | .withdrawn p => some p.data

namespace Kernel
open Multiplexer.Ring

def unread (k : Kernel) : List Completion := k.posted ++ k.backlog

/-- The data of the polls that are armed or about to be withdrawn. -/
def owing (k : Kernel) : List UInt64 := k.polls.map (·.data) ++ k.chores.filterMap Chore.owing?

/-- The accounts are in order after these requests have been taken and these completions handed over,
and while last completions under the data in `making` are still to be posted. -/
structure Owes (pushed : List Request) (handed : List Completion) (making : List UInt64)
    (k : Kernel) : Prop where
  few : ∀ data, data ≠ cancelKey →
    (handed ++ k.unread).countP (·.ends data) + (k.owing ++ making).count data ≤
      (pushed.filter (·.polls data)).length
  accounted : Accounted pushed (handed ++ k.unread)
  mild : ∀ p ∈ k.polls, p.noticed.Mild

variable {k k' k'' : Kernel} {pushed more : List Request} {handed : List Completion}
  {making making' : List UInt64} {request : Request} {c : Completion} {p : ArmedPoll}

/-! ### Posting a completion -/

theorem unread_post : (k.post c).unread = k.unread ++ [c] := by
  unfold post
  split
  · rename_i room
    have none : k.backlog = [] := List.isEmpty_iff.mp (Bool.and_eq_true_iff.mp room).1
    simp only [unread, none, List.append_nil]
  · exact (List.append_assoc ..).symm

theorem polls_post : (k.post c).polls = k.polls := by
  unfold post
  split <;> rfl

theorem owing_post : (k.post c).owing = k.owing := by
  unfold post
  split <;> rfl

namespace Owes

/-- Only the numbers of what is in the making matter. -/
theorem perm (h : Owes pushed handed making k) (same : making.Perm making') :
    Owes pushed handed making' k where
  few := by
    intro data plain
    rw [← (same.append_left k.owing).count_eq data]
    exact h.few data plain
  accounted := h.accounted
  mild := h.mild

/-- The last completion under the first data in the making is posted. -/
theorem post_last (h : Owes pushed handed (c.data :: making) k) (last : c.more = false) :
    Owes pushed handed making (k.post c) where
  few := by
    intro data plain
    have few := h.few data plain
    rw [unread_post, owing_post, ← List.append_assoc, List.countP_append, List.countP_singleton]
    simp only [List.count_append, List.count_cons, Completion.ends, last, Bool.not_false,
      Bool.and_true] at few ⊢
    omega
  accounted := by
    rw [unread_post, ← List.append_assoc]
    refine h.accounted.snoc (fun plain => ?_) fun _ => last
    have few := h.few c.data plain
    simp only [List.count_append, List.count_cons_self] at few
    omega
  mild := by
    rw [polls_post]
    exact h.mild

/-- A poll that stays armed reports. -/
theorem post_more (h : Owes pushed handed making k) (owing : c.data ∈ k.owing)
    (goesOn : c.more = true) (result : 0 ≤ c.result) : Owes pushed handed making (k.post c) where
  few := by
    intro data plain
    have few := h.few data plain
    rw [unread_post, owing_post, ← List.append_assoc, List.countP_append, List.countP_singleton]
    simp only [Completion.ends, goesOn, Bool.not_true, Bool.and_false, Bool.false_eq_true, if_false,
      Nat.add_zero] at few ⊢
    exact few
  accounted := by
    rw [unread_post, ← List.append_assoc]
    refine h.accounted.snoc (fun plain => ?_) fun failed => ?_
    · have few := h.few c.data plain
      have armed := List.count_pos_iff.mpr owing
      rw [List.count_append] at few
      omega
    · exact absurd failed (Int32.not_lt.mpr result)
  mild := by
    rw [polls_post]
    exact h.mild

/-- More requests are taken. -/
theorem push (h : Owes pushed handed making k) : Owes (pushed ++ more) handed making k where
  few := by
    intro data plain
    rw [List.filter_append, List.length_append]
    exact Nat.le_add_right_of_le (h.few data plain)
  accounted := h.accounted.push
  mild := h.mild

/-- Reports are left to be made. -/
theorem later {chores : List Chore} (h : Owes pushed handed making k)
    (reports : chores.filterMap Chore.owing? = []) :
    Owes pushed handed making { k with chores := k.chores ++ chores } where
  few := by
    simp only [owing, List.filterMap_append, reports, List.append_nil]
    exact h.few
  accounted := h.accounted
  mild := h.mild

/-- What polls notice and how often is not accounted for. -/
theorem adjust {f : ArmedPoll → ArmedPoll} (h : Owes pushed handed making k)
    (data : ∀ p, (f p).data = p.data) (mild : ∀ p, p.noticed.Mild → (f p).noticed.Mild) :
    Owes pushed handed making { k with polls := k.polls.map f } where
  few := by
    have same : (k.polls.map f).map (·.data) = k.polls.map (·.data) := by
      rw [List.map_map]
      exact List.map_congr_left fun p _ => data p
    simp only [owing, same]
    exact h.few
  accounted := h.accounted
  mild := List.forall_mem_map.mpr fun p armed => mild p (h.mild p armed)

end Owes

/-! ### What does not concern the ring -/

/-- Whatever is in the making, the accounts stay in order. -/
def Keeps (k k' : Kernel) : Prop :=
  ∀ ⦃pushed handed making⦄, Owes pushed handed making k → Owes pushed handed making k'

theorem Keeps.refl (k : Kernel) : Keeps k k := fun _ _ _ h => h

theorem Keeps.trans (h : Keeps k k') (h' : Keeps k' k'') : Keeps k k'' :=
  fun _ _ _ owes => h' (h owes)

theorem Keeps.aside (posted : k'.posted = k.posted) (backlog : k'.backlog = k.backlog)
    (polls : k'.polls = k.polls) (chores : k'.chores = k.chores) : Keeps k k' := by
  intro pushed handed making h
  have unread : k'.unread = k.unread := by rw [unread, unread, posted, backlog]
  have owing : k'.owing = k.owing := by rw [owing, owing, polls, chores]
  exact ⟨unread ▸ owing ▸ h.few, unread ▸ h.accounted, polls ▸ h.mild⟩

theorem Keeps.after (h : Keeps k' k'') (posted : k'.posted = k.posted)
    (backlog : k'.backlog = k.backlog) (polls : k'.polls = k.polls) (chores : k'.chores = k.chores) :
    Keeps k k'' :=
  .trans (.aside posted backlog polls chores) h

theorem Keeps.foldl {α : Type} {f : Kernel → α → Kernel} (step : ∀ k a, Keeps k (f k a))
    (l : List α) : Keeps k (l.foldl f k) := by
  induction l generalizing k with
  | nil => exact .refl k
  | cons a l ih => exact (step k a).trans ih

theorem setFile_keeps (k : Kernel) (id : FileId) (file : File) : Keeps k (k.setFile id file) :=
  .aside rfl rfl rfl rfl

theorem room_keeps (k : Kernel) (room : Nat) : Keeps k { k with room } := .aside rfl rfl rfl rfl

theorem install_keeps (k : Kernel) (file : File) : Keeps k (k.install file).2 :=
  .aside rfl rfl rfl rfl

theorem installPair_keeps (k : Kernel) (first second : FileId → File) :
    Keeps k (k.installPair first second).2 :=
  (install_keeps k _).trans (install_keeps _ _)

/-- A poll that hears of something is as much armed as before. -/
theorem notifyPolls_keeps (k : Kernel) (id : FileId) {conditions : PollMask}
    (mild : conditions.Mild) : Keeps k (k.notifyPolls id conditions) := by
  intro pushed handed making h
  refine Owes.adjust (h.later ?_) (fun p => ?_) fun p noticed => ?_
  · exact List.filterMap_eq_nil_iff.mpr (List.forall_mem_map.mpr fun _ _ => rfl)
  · split <;> rfl
  · split
    · dsimp only [ArmedPoll.hear]
      split
      · exact mild
      · exact noticed
    · exact noticed

theorem notify_keeps (k : Kernel) (id : FileId) {conditions : PollMask} (mild : conditions.Mild) :
    Keeps k (k.notify id conditions) :=
  (notifyPolls_keeps (k.notifyWatches id conditions) id mild).after rfl rfl rfl rfl

theorem leave_keeps (k : Kernel) (id : FileId) (unread : List Piece) :
    Keeps k (k.leave id unread) := by
  unfold leave
  split
  · exact setFile_keeps k id _
  · exact setFile_keeps k id _
  · exact .refl k

theorem release_keeps (k : Kernel) (id : FileId) : Keeps k (k.release id) := by
  unfold release
  dsimp only
  split
  · exact .aside rfl rfl rfl rfl
  · refine .trans ?_ (notify_keeps _ _ PollMask.mild_zero)
    exact (leave_keeps _ _ _).after rfl rfl rfl rfl

theorem releaseIdle_keeps (k : Kernel) (id : FileId) : Keeps k (k.releaseIdle id) := by
  unfold releaseIdle
  split
  · exact .refl k
  · exact release_keeps k id

/-! ### Chores -/

theorem mild_found (k : Kernel) (noticed : p.noticed.Mild) : (k.found p).Mild := by
  unfold found
  split
  · exact noticed.and
  · exact (File.mild_conditions _ _).and

theorem goes_on (data : UInt64) (result : Int32) : (⟨data, result, 2⟩ : Completion).more = true :=
  (by decide : ((2 : UInt32) &&& 2 != 0) = true)

theorem is_last (data : UInt64) (result : Int32) : (⟨data, result, 0⟩ : Completion).more = false :=
  (by decide : ((0 : UInt32) &&& 2 != 0) = false)

/-- A poll that is disarmed leaves its last completion to be made. -/
theorem Owes.disarm (h : Owes pushed handed making k) (armed : p ∈ k.polls) :
    Owes pushed handed (p.data :: making) { k with polls := k.polls.erase p } where
  few := by
    intro data plain
    have data_perm : (k.polls.map (·.data)).Perm (p.data :: (k.polls.erase p).map (·.data)) :=
      (List.perm_cons_erase armed).map _
    have few := h.few data plain
    have count := data_perm.count_eq data
    simp only [owing, unread, List.count_append, List.count_cons] at few count ⊢
    omega
  accounted := h.accounted
  mild := fun q mem => h.mild q (List.mem_of_mem_erase mem)

/-- It is made later, when the withdrawal is done. -/
theorem Owes.schedule (h : Owes pushed handed (p.data :: making) k) :
    Owes pushed handed making { k with chores := k.chores ++ [.withdrawn p] } where
  few := by
    intro data plain
    have few := h.few data plain
    simp only [owing, unread, List.filterMap_append, List.filterMap_cons, List.filterMap_nil,
      Chore.owing?, List.count_append, List.count_cons, List.count_nil] at few ⊢
    omega
  accounted := h.accounted
  mild := h.mild

theorem Owes.report (h : Owes pushed handed making k) (armed : p ∈ k.polls) :
    Owes pushed handed making (k.report p).1 := by
  have result : 0 ≤ (k.found p).toInt32 := (mild_found k (h.mild p armed)).result
  have data (q : ArmedPoll) : (if q.data == p.data then q.quiet else q).data = q.data := by
    split <;> rfl
  have quiet : Owes pushed handed making
      { k with polls := k.polls.map fun q => if q.data == p.data then q.quiet else q } := by
    refine h.adjust data fun q noticed => ?_
    split
    · exact PollMask.mild_zero
    · exact noticed
  unfold Kernel.report
  dsimp only
  split
  · exact quiet
  · split
    · refine quiet.post_more (List.mem_append_left _ ?_) (goes_on _ _) result
      exact List.mem_map.mpr ⟨_, List.mem_map_of_mem armed, data p⟩
    · exact (h.disarm armed).post_last (is_last _ _)

theorem Owes.doAll {cs : List Chore}
    (h : Owes pushed handed (cs.filterMap Chore.owing? ++ making) k) :
    Owes pushed handed making (doAll cs k).1 := by
  induction cs generalizing k with
  | nil => exact h
  | cons chore cs ih =>
      refine ih (k := (k.doChore chore).1) ?_
      cases chore with
      | withdrawn p => exact h.post_last (is_last _ _)
      | report data =>
          dsimp only [doChore]
          split
          · rename_i p found
            exact h.report (List.mem_of_find?_eq_some found)
          · exact h

theorem doChores_keeps (k : Kernel) : Keeps k k.doChores := by
  intro pushed handed making h
  have started : Owes pushed handed (k.chores.filterMap Chore.owing? ++ making)
      { k with chores := [] } := by
    refine ⟨fun data plain => ?_, h.accounted, h.mild⟩
    have few := h.few data plain
    simp only [owing, unread, List.filterMap_nil, List.append_nil, List.append_assoc] at few ⊢
    exact few
  exact Keeps.foldl releaseIdle_keeps _ started.doAll

theorem settle_keeps (k : Kernel) : Keeps k k.settle := by
  have within (n : Nat) : ∀ k, Keeps k (settleWithin n k) := by
    induction n with
    | zero => exact Keeps.refl
    | succ n ih =>
        intro k
        unfold settleWithin
        split
        · exact .refl k
        · exact (doChores_keeps k).trans (ih _)
  exact within _ k

theorem close_keeps (k : Kernel) (fd : Descriptor) : Keeps k (k.close fd) := by
  unfold close
  split
  · exact .refl k
  · refine .trans ?_ (settle_keeps _)
    exact (releaseIdle_keeps _ _).after rfl rfl rfl rfl

end Kernel
end Multiplexer

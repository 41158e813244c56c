import Multiplexer.Proofs.History.Blocking
import Multiplexer.Proofs.History.Fairness
import Multiplexer.Proofs.Timeouts
import Multiplexer.System.Kernel.Respond

/-! What the replies of the simulated kernel are like: its waits bring no more than there is room for,
and something if they have no end, its selects count what they found, and it has no negative number
open. -/
namespace Multiplexer

/-- Where nothing is waited for, nothing is asked of the reply. -/
theorem Step.obliging_of_waitless {s : Step} (waitless : s.wait? = none) : s.obliging = true := by
  unfold obliging
  split
  · cases waitless
  · cases waitless
  · cases waitless
  · cases waitless
  · cases waitless
  · rfl

namespace Kernel

variable {k : Kernel} {call : Call}

/-- No negative number is an open descriptor. -/
theorem nonneg_of_lookup {fd : Descriptor} {id : FileId} (found : k.lookup fd = some id) :
    0 ≤ fd := by
  unfold lookup at found
  split at found
  · cases found
  · rename_i nonneg
    exact Int32.not_lt.mp nonneg

theorem nonneg_of_opened {fd : Descriptor}
    (opened : Step.asked call (respond call k).1 = .asked (.getFlags fd) (.ok ())) : 0 ≤ fd := by
  obtain ⟨rfl, checked⟩ := Step.asked.inj opened
  replace checked : k.check fd = .ok () := eq_of_heq checked
  unfold check at checked
  split at checked
  · rename_i found
    obtain ⟨id, found⟩ := Option.isSome_iff_exists.mp found
    exact nonneg_of_lookup found
  · cases checked

/-- A wait without an end that succeeds has met its condition. -/
theorem met_of_waitFor {met : Kernel → Bool} {k' : Kernel}
    (waited : k.waitFor met none = (.ok (), k')) : met k' = true := by
  obtain ⟨result, rfl⟩ := Prod.mk.inj waited
  split at result
  · rename_i holds
    exact (Bool.or_eq_true_iff.mp holds).resolve_right Bool.false_ne_true
  · cases result

theorem of_epollWait {queue : Descriptor} {room : Nat} {millis : Int} {records : List EpollRecord}
    (ok : (k.epollWait queue room millis).1 = .ok records) :
    ∃ id k', k.waitFor (fun k => (k.queued id).any (k.seen · != 0))
        (if millis < 0 then none else some (k.now + millis.toNat * 1000000)) = (.ok (), k') ∧
      records = (k'.harvest id room).1 := by
  unfold epollWait at ok
  split at ok
  · cases ok
  · rename_i id _
    dsimp only at ok
    split at ok
    · cases ok
    · rename_i k' waited
      cases ok
      exact ⟨id, k', waited, rfl⟩

theorem of_selectWait {bound : Int} {watched : FdSets} {timeout : Option (UInt64 × Nat)}
    {selected : Selected FdSets} (ok : (k.selectWait bound watched timeout).1 = .ok selected) :
    ∃ k', k.waitFor (fun k => (k.selected bound watched).count != 0)
        (timeout.map fun (seconds, micros) =>
          k.now + seconds.toNat * 1000000000 + micros * 1000) = (.ok (), k') ∧
      selected = k'.selected bound watched := by
  unfold selectWait at ok
  split at ok
  · cases ok
  · dsimp only at ok
    split at ok
    · cases ok
    · rename_i k' waited
      cases ok
      exact ⟨k', waited, rfl⟩

/-! ### What an epoll reports -/

theorem length_scan_le (k : Kernel) (room : Nat) (ws : List Watch) :
    (k.scan room ws).1.length ≤ room := by
  induction ws generalizing room with
  | nil => exact Nat.zero_le room
  | cons w ws ih =>
      unfold scan
      split
      · exact Nat.zero_le room
      · split
        · exact ih room
        · have rest := ih (room - 1)
          simp only [List.length_cons]
          omega

theorem scan_ne_nil {room : Nat} {ws : List Watch} (positive : 0 < room)
    (some : ws.any (k.seen · != 0) = true) : (k.scan room ws).1 ≠ [] := by
  induction ws with
  | nil => cases some
  | cons w ws ih =>
      unfold scan
      rw [if_neg (Nat.ne_of_gt positive)]
      split
      · rename_i silent
        rw [List.any_cons, silent] at some
        exact ih some
      · exact List.cons_ne_nil _ _

/-- No wait brings more than there is room for. -/
theorem respond_bounded (call : Call) (k : Kernel) :
    (Step.asked call (respond call k).1).bounded = true := by
  cases call with
  | epollWait queue room millis =>
      cases replied : (k.epollWait queue room millis).1 with
      | error e =>
          dsimp only [respond]
          rw [replied]
          rfl
      | ok records =>
          obtain ⟨id, k', -, rfl⟩ := of_epollWait replied
          dsimp only [respond]
          rw [replied]
          refine decide_eq_true ?_
          rw [harvest, List.length_map]
          exact length_scan_le k' room _
  | _ => rfl

/-! ### What a select reports -/

/-- Only what is watched is found. -/
theorem watched_of_found {bound : Int} {watched : FdSets} {c : Condition} {fd : Descriptor}
    (found : fd ∈ (k.selected bound watched).sets.of c) : fd ∈ watched.of c := by
  cases c with
  | read => exact Std.TreeSet.mem_of_mem_filter found
  | write => exact Std.TreeSet.mem_of_mem_filter found
  | error => exact Std.TreeSet.mem_of_mem_filter found

theorem count_eq_zero_iff {bound : Int} {watched : FdSets} :
    (k.selected bound watched).count = 0 ↔
      ∀ c, ((k.selected bound watched).sets.of c).isEmpty = true := by
  have sizes : (k.selected bound watched).count =
      ((k.selected bound watched).sets.of .read).size +
        ((k.selected bound watched).sets.of .write).size +
        ((k.selected bound watched).sets.of .error).size := rfl
  simp only [Std.TreeSet.isEmpty_eq_size_eq_zero, beq_iff_eq, sizes]
  constructor
  · intro none c
    cases c <;> omega
  · intro none
    have read := none .read
    have write := none .write
    have error := none .error
    omega

/-- A select that counts nothing has found nothing. -/
theorem respond_counted {selected : Selected (Descriptor → Interest)}
    (found : Step.selected? (.asked call (respond call k).1) = some selected)
    (none : selected.count = 0) (fd : Descriptor) : (selected.sets fd).isEmpty = true := by
  cases call with
  | selectFds bound watched timeout =>
      cases replied : (k.selectWait bound watched timeout).1 with
      | error e =>
          dsimp only [respond] at found
          rw [replied] at found
          cases found
      | ok sets =>
          dsimp only [respond] at found
          rw [replied] at found
          obtain ⟨k', -, rfl⟩ := of_selectWait replied
          cases found
          have empty := count_eq_zero_iff.mp none
          have read := Std.TreeSet.contains_of_isEmpty (a := fd) (empty .read)
          have write := Std.TreeSet.contains_of_isEmpty (a := fd) (empty .write)
          have error := Std.TreeSet.contains_of_isEmpty (a := fd) (empty .error)
          dsimp only [FdSets.of] at read write error
          simp only [FdSets.conditions, read, write, error]
          rfl
  | selectSockets => cases found
  | _ => cases found

/-- A wait without an end brings something, if there is room for it. -/
theorem respond_obliging {facility : Facility} (endless : call.wait? = some ⟨facility, none⟩)
    (room : ∀ queue millis, call ≠ .epollWait queue 0 millis) :
    (Step.asked call (respond call k).1).obliging = true := by
  cases call with
  | epollWait queue space millis =>
      have negative : millis < 0 := by
        by_contra nonneg
        rw [Call.wait?, if_neg nonneg] at endless
        cases endless
      have positive : 0 < space := Nat.pos_of_ne_zero fun zero => room queue millis (zero ▸ rfl)
      cases replied : (k.epollWait queue space millis).1 with
      | error e =>
          dsimp only [respond]
          rw [replied]
          rfl
      | ok records =>
          obtain ⟨id, k', waited, rfl⟩ := of_epollWait replied
          rw [if_pos negative] at waited
          dsimp only [respond]
          rw [replied]
          refine bne_iff_ne.mpr fun nothing => ?_
          exact scan_ne_nil positive (met_of_waitFor waited) (List.map_eq_nil_iff.mp nothing)
  | selectFds bound watched timeout =>
      have unlimited : timeout = none := by
        cases timeout with
        | none => rfl
        | some span => cases endless
      subst unlimited
      cases replied : (k.selectWait bound watched none).1 with
      | error e =>
          dsimp only [respond]
          rw [replied]
          rfl
      | ok selected =>
          obtain ⟨k', waited, rfl⟩ := of_selectWait replied
          have some := met_of_waitFor waited
          dsimp only [respond]
          rw [replied]
          refine Bool.and_eq_true_iff.mpr ⟨some, Bool.and_eq_true_iff.mpr ⟨?_, ?_⟩⟩
          · rw [List.any_eq_true]
            by_contra nothing
            refine bne_iff_ne.mp some (count_eq_zero_iff.mpr fun c => ?_)
            rw [← Std.TreeSet.isEmpty_toList]
            by_contra found
            exact nothing ⟨c, Condition.mem_all c, (Bool.not_eq_true' _).mpr (Bool.eq_false_iff.mpr found)⟩
          · refine List.all_eq_true.mpr fun c _ => List.all_eq_true.mpr fun fd mem => ?_
            rw [List.contains_iff_mem, Std.TreeSet.mem_toList]
            exact watched_of_found (Std.TreeSet.mem_toList.mp mem)
  | kqueueWait => rfl
  | selectSockets => rfl
  | portWait => rfl
  | _ => cases endless

end Kernel
end Multiplexer

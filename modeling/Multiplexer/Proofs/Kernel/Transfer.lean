import Multiplexer.Proofs.Kernel.Basic

/-! Reading and writing files, and letting time pass, keep the accounts with the ring in order. -/
namespace Multiplexer.Kernel

theorem notifyRoom_keeps (k : Kernel) (sender : FileId) (inbox : List Piece) (gone : Nat) :
    Keeps k (k.notifyRoom sender inbox gone) := by
  refine Keeps.foldl (fun k i => ?_) _
  split
  · exact notify_keeps k sender PollMask.mild_output
  · exact .refl k

theorem readSocket_keeps (k : Kernel) (id peer : FileId) (inbox : List Piece)
    (finished reset : Bool) (room : Nat) :
    Keeps k (k.readSocket id peer inbox finished reset room).2 := by
  unfold readSocket
  split
  · exact .refl k
  · split
    · split
      · exact setFile_keeps k id _
      · exact .refl k
    · exact (setFile_keeps k id _).trans (notifyRoom_keeps _ _ _ _)

theorem readPipe_keeps (k : Kernel) (id writer : FileId) (pages : List Piece) (room : Nat) :
    Keeps k (k.readPipe id writer pages room).2 := by
  unfold readPipe
  split
  · exact .refl k
  · split
    · exact .refl k
    · dsimp only
      split
      · exact (setFile_keeps k id _).trans (notify_keeps _ _ PollMask.mild_output)
      · exact setFile_keeps k id _

theorem readFile_keeps (k : Kernel) (id : FileId) (room : Nat) : Keeps k (k.readFile id room).2 := by
  unfold readFile
  split
  · exact .refl k
  · exact readSocket_keeps k id _ _ _ _ _
  · exact readPipe_keeps k id _ _ _
  · exact .refl k
  · exact setFile_keeps k id _
  · split
    · exact setFile_keeps k id _
    · exact .refl k
  all_goals exact .refl k

theorem writeSocket_keeps (k : Kernel) (peer : FileId) (finished : Bool) (length : Nat) :
    Keeps k (k.writeSocket peer finished length).2 := by
  unfold writeSocket
  split
  · split
    · exact .refl k
    · refine (setFile_keeps k peer _).trans (Keeps.foldl (fun k _ => ?_) _)
      exact notify_keeps k peer PollMask.mild_input
  · exact .refl k

theorem writePipe_keeps (k : Kernel) (reader : FileId) (length : Nat) :
    Keeps k (k.writePipe reader length).2 := by
  unfold writePipe
  split
  · exact .refl k
  · split
    · exact (setFile_keeps k reader _).trans (notify_keeps _ _ PollMask.mild_input)
    · exact .refl k

theorem writeFile_keeps (k : Kernel) (id : FileId) (length : Nat) :
    Keeps k (k.writeFile id length).2 := by
  unfold writeFile
  split
  · exact writeSocket_keeps k _ _ _
  · exact writePipe_keeps k _ _
  · exact (setFile_keeps k id _).trans (notify_keeps _ id PollMask.mild_input)
  all_goals exact .refl k

theorem read_keeps (k : Kernel) (fd : Descriptor) (room : Nat) : Keeps k (k.read fd room).2 := by
  unfold read
  split
  · exact (readFile_keeps k _ room).trans (settle_keeps _)
  · exact .refl k

theorem write_keeps (k : Kernel) (fd : Descriptor) (length : Nat) :
    Keeps k (k.write fd length).2 := by
  unfold write
  split
  · exact (writeFile_keeps k _ length).trans (settle_keeps _)
  · exact .refl k

theorem finishWriting_keeps (k : Kernel) (fd : Descriptor) : Keeps k (k.finishWriting fd) := by
  unfold finishWriting
  split
  · exact .refl k
  · split
    · refine .trans ?_ (settle_keeps _)
      refine .trans ?_ (notify_keeps _ _ PollMask.mild_zero)
      exact (setFile_keeps k _ _).trans (notify_keeps _ _ PollMask.mild_zero)
    · exact .refl k

/-! ### Time -/

theorem setTimer_keeps (k : Kernel) (fd : Descriptor) (span : Nat) :
    Keeps k (k.setTimer fd span).2 := by
  unfold setTimer
  split
  · exact .refl k
  · split
    · exact setFile_keeps k _ _
    · exact .refl k

theorem writeLater_keeps (k : Kernel) (fd : Descriptor) (length span : Nat) :
    Keeps k (k.writeLater fd length span) := by
  unfold writeLater
  split
  · exact .refl k
  · exact .aside rfl rfl rfl rfl

theorem expire_keeps (k : Kernel) (id : FileId) : Keeps k (k.expire id) := by
  refine .trans ?_ (settle_keeps _)
  exact (setFile_keeps k id _).trans (notify_keeps _ id PollMask.mild_input)

theorem passTo_keeps (k : Kernel) (time : Nat) : Keeps k (k.passTo time) := by
  refine .trans ?_ (Keeps.foldl (fun k w => ?_) _)
  · exact (Keeps.foldl expire_keeps _).after rfl rfl rfl rfl
  · exact (writeFile_keeps k w.file w.length).trans (settle_keeps _)

theorem waitWithin_keeps (met : Kernel → Bool) (limit : Option Nat) (turns : Nat) (k : Kernel) :
    Keeps k (waitWithin met limit turns k) := by
  induction turns generalizing k with
  | zero => exact .refl k
  | succ turns ih =>
      unfold waitWithin
      split
      · exact .refl k
      · split
        · exact (passTo_keeps k _).trans (ih _)
        · exact .aside rfl rfl rfl rfl

theorem waitFor_keeps (k : Kernel) (met : Kernel → Bool) (limit : Option Nat) :
    Keeps k (k.waitFor met limit).2 := waitWithin_keeps met limit _ k

theorem waitFor_keeps_of {met : Kernel → Bool} {limit : Option Nat} {result : Except Errno Unit}
    (waited : k.waitFor met limit = (result, k')) : Keeps k k' := by
  have keeps := waitFor_keeps k met limit
  rw [waited] at keeps
  exact keeps

end Multiplexer.Kernel

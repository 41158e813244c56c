import Multiplexer.Proofs.History.Watchlist
import Multiplexer.Proofs.Registry.Staleness

/-! Keys over whole histories. A slot moves to its next generation when the registration in it ends,
and never back, so until generations repeat no key of an ended registration opens anything. -/
namespace Multiplexer

/-- In how many of the exchanges the slot moved to another generation. -/
def turns (i : UInt32) (xs : List Exchange) : Nat :=
  xs.countP fun x => x.after.registry.generation i != x.before.registry.generation i

/-- The exchange ends what the data were issued for: the registration is removed, it is moved to
another key, or it has not come about. -/
inductive Exchange.Retires (x : Exchange) : UInt64 → Prop
  | removed {fd : Descriptor} {k : Key} : x.operation = .remove fd →
      x.answer = .returned (.ok ()) → x.before.registry.keyOf? fd = some k → Retires x k.pack
  | replaced {fd : Descriptor} {interest : Interest} {k : Key} : x.before.facility = .ring →
      x.operation = .modify fd interest → x.answer = .returned (.ok ()) →
      x.before.registry.keyOf? fd = some k → Retires x k.pack
  | abandoned {fd : Descriptor} {interest : Interest} {token : Token} {e : Error} {data : UInt64} :
      x.operation = .add fd interest token → x.answer = .returned (.error e) →
      x.transcript.Issues data → Retires x data

section

open Registry

variable {b c : Backend} {t : Transcript} {op : Operation} {answer : Answer} {r : Registry}
  {i : UInt32} {xs : List Exchange} {x : Exchange} {data : UInt64}

/-- A call moves a slot by one generation at most. -/
theorem Effect.generation_eq_or (h : Effect b t op answer r) (wf : b.registry.WellFormed)
    (i : UInt32) :
    r.generation i = b.registry.generation i ∨ r.generation i = b.registry.generation i + 1 := by
  cases h with
  | refused => exact .inl rfl
  | rolledBack hins =>
      have ins := wf.insert_inserted hins
      have moved := (ins.discard wf).generation_eq i
      rw [ins.generation_eq] at moved
      split at moved
      · exact .inr moved
      · exact .inl moved
  | added hins => exact .inl ((wf.insert_inserted hins).generation_eq i)
  | unmodified => exact .inl rfl
  | modifyFailed => exact .inl rfl
  | modified => exact .inl (generation_modify _)
  | rekeyed _ hrek =>
      obtain ⟨k, e, -, rek⟩ := wf.rekey_eq_ok hrek
      have moved := rek.generation_eq i
      rw [generation_modify]
      split at moved
      · exact .inr moved
      · exact .inl moved
  | unremoved => exact .inl rfl
  | removed hrem =>
      obtain ⟨k, -, rem⟩ := wf.remove_eq_ok hrem
      have moved := rem.generation_eq i
      split at moved
      · exact .inr moved
      · exact .inl moved
  | polled ref => exact .inl (ref.generation_eq i)
  | posted => exact .inl rfl
  | woken => exact .inl rfl

theorem turns_eq_one
    (next : x.after.registry.generation i = x.before.registry.generation i + 1) :
    turns i [x] = 1 := by
  have other : x.after.registry.generation i ≠ x.before.registry.generation i := by
    rw [next, Ne, ← UInt32.toNat_inj, UInt32.toNat_add, UInt32.toNat_one]
    omega
  rw [turns, List.countP_singleton, if_pos (bne_iff_ne.mpr other)]

theorem turns_append (i : UInt32) (xs ys : List Exchange) :
    turns i (xs ++ ys) = turns i xs + turns i ys := List.countP_append

theorem Exchange.toNat_generation (x : Exchange) (sound : x.before.Sound)
    (few : (x.before.registry.generation i).toNat + turns i [x] < generations) :
    (x.after.registry.generation i).toNat =
      (x.before.registry.generation i).toNat + turns i [x] := by
  unfold generations at few
  rcases (x.effect sound.wellFormed).1.generation_eq_or sound.wellFormed i with same | next
  · have still : turns i [x] = 0 := by
      rw [turns, List.countP_eq_zero]
      simp only [List.mem_singleton, forall_eq, same, bne_self_eq_false, Bool.false_eq_true,
        not_false_eq_true]
    rw [still, same, Nat.add_zero]
  · rw [turns_eq_one next] at few ⊢
    rw [next, UInt32.toNat_add, UInt32.toNat_one]
    omega

/-- Counting the turns of a slot tells its generation, until generations repeat. -/
theorem Run.toNat_generation (run : Run b xs c) (sound : b.Sound)
    (few : (b.registry.generation i).toNat + turns i xs < generations) :
    (c.registry.generation i).toNat = (b.registry.generation i).toNat + turns i xs := by
  induction run with
  | start => rfl
  | @step xs x before ih =>
      rw [turns_append] at few ⊢
      have first := ih (by omega)
      rw [x.toNat_generation (before.sound sound) (by omega), first, Nat.add_assoc]

theorem History.toNat_generation (h : History) (few : turns i h.exchanges < generations) :
    (h.finish.registry.generation i).toNat = turns i h.exchanges := by
  have start : (h.start.registry.generation i).toNat = 0 := by
    rw [h.opened.registry_eq]
    rfl
  rw [h.run.toNat_generation h.opened.sound (by rw [start]; omega), start, Nat.zero_add]

/-- Ending what data were issued for moves the slot on from the generation in the data. -/
theorem Exchange.Retires.generation (h : x.Retires data) (sound : x.before.Sound) :
    x.before.registry.generation (Key.unpack data).index = (Key.unpack data).generation ∧
    x.after.registry.generation (Key.unpack data).index = (Key.unpack data).generation + 1 := by
  have wf := sound.wellFormed
  have effect := (x.effect wf).1
  generalize x.after.registry = after at effect ⊢
  cases h with
  | @removed fd k op answer present =>
      rw [op, answer] at effect
      rw [Key.unpack_pack]
      cases effect with
      | removed hrem =>
          obtain ⟨k', rfl, rem⟩ := wf.remove_eq_ok hrem
          rw [wf.keyOf?_of_get? rem.opened] at present
          cases present
          have current := generation_of_get? rem.opened
          exact ⟨current, by rw [rem.generation_eq, if_pos rfl, current]⟩
  | @replaced fd interest k ring op answer present =>
      rw [op, answer] at effect
      rw [Key.unpack_pack]
      cases effect with
      | modified other => exact absurd ring other
      | rekeyed _ hrek =>
          obtain ⟨k', e, rfl, rek⟩ := wf.rekey_eq_ok hrek
          rw [wf.keyOf?_of_get? rek.opened] at present
          cases present
          have current := generation_of_get? rek.opened
          exact ⟨current, by rw [generation_modify, rek.generation_eq, if_pos rfl, current]⟩
  | @abandoned fd interest token e data op answer issued =>
      rw [op, answer] at effect
      cases effect with
      | refused _ _ mute => exact absurd issued (mute data)
      | rolledBack hins _ only =>
          have ins := wf.insert_inserted hins
          rw [only data issued, Key.unpack_pack]
          refine ⟨ins.generation, ?_⟩
          rw [(ins.discard wf).generation_eq, if_pos rfl, ins.generation_eq, ins.generation]

theorem Exchange.Retires.not_poll (h : x.Retires data) (timeout : Timeout) :
    x.operation ≠ .poll timeout := by
  cases h with
  | removed op => rw [op]; exact nofun
  | replaced _ op => rw [op]; exact nofun
  | abandoned op => rw [op]; exact nofun

/-- What was issued for an ended registration opens nothing any more. -/
theorem History.get?_eq_none_of_retires (h : History)
    (few : ∀ i, turns i h.exchanges < generations) {y : Exchange} (mem : y ∈ h.exchanges)
    (retires : y.Retires data) : h.finish.registry.get? (.unpack data) = none := by
  obtain ⟨es, fs, split⟩ := List.append_of_mem mem
  obtain ⟨current, moved⟩ := retires.generation (h.upTo split).sound
  have counted : turns (Key.unpack data).index h.exchanges =
      turns (Key.unpack data).index es + (1 + turns (Key.unpack data).index fs) := by
    rw [split, turns_append, ← List.singleton_append, turns_append,
      turns_eq_one (by rw [moved, current])]
  have bound := few (Key.unpack data).index
  have before : (y.before.registry.generation (Key.unpack data).index).toNat =
      turns (Key.unpack data).index es := (h.upTo split).toNat_generation (by
    change turns _ es < _
    omega)
  have now := h.toNat_generation bound
  rw [Option.eq_none_iff_forall_ne_some]
  intro e opened
  have meet := congrArg UInt32.toNat ((generation_of_get? opened).trans current.symm)
  omega

end
end Multiplexer

import Multiplexer.Proofs.Ring.Internal

/-! The poll on the waker of a ring is withdrawn by nobody, and nothing else is told under its data, as
long as the waker's descriptor is not registered. It takes all descriptors to use up the slot numbers,
so with that one left out no key is packed into the data of the waker. -/
namespace Multiplexer.Ring

variable {w fd : Descriptor} {t u : Transcript} {b : Books} {r r' : Ring} {log : Log}
  {request : Request} {queues : Queues} {c : Completion} {rest : List Completion}

/-- The request keeps to itself what concerns the waker: its data are used for its poll only, that
poll is not withdrawn, and no registration watches it. -/
def Request.Minds (w : Descriptor) : Request → Prop
  | .poll fd mask _ data =>
    if data = wakeKey then fd = w ∧ mask = .input else data = timerKey ∨ fd ≠ w
  | .cancel target _ => target ≠ wakeKey

instance {w : Descriptor} : DecidablePred (Request.Minds w)
  | .poll .. => inferInstanceAs (Decidable (ite ..))
  | .cancel .. => inferInstanceAs (Decidable (_ ≠ _))

/-- The data of the waker have the largest slot number. -/
theorem pack_ne_wakeKey {registry : Registry} {k : Key} {e : Registration}
    (spares : registry.Spares w) (opened : registry.get? k = some e) : k.pack ≠ wakeKey := by
  intro same
  have low := spares.index_lt opened
  rw [Key.index_of_pack same] at low
  exact absurd low (by decide)

theorem minds_watch (r : Ring) (mask : PollMask) {data : UInt64} (plain : data ≠ wakeKey) (other : fd ≠ w) :
    (r.watch fd mask data).Minds w := by
  rw [watch, Request.Minds, if_neg plain]
  exact .inr other

theorem minds_waker (own : fd = w) : (r.watch fd .input wakeKey).Minds w := by
  rw [watch, Request.Minds, if_pos rfl]
  exact ⟨own, rfl⟩

theorem minds_timer : (r.watch fd .input timerKey).Minds w := by
  rw [watch, Request.Minds, if_neg (by decide)]
  exact .inl rfl

structure Sparing (w : Descriptor) (t : Transcript) (b : Books) (r : Ring) : Prop where
  linked : Balanced (.empty 0) t b.pushed b.consumed r.queues
  minds : ∀ request ∈ b.pushed, request.Minds w
  cancels : wakeKey ∉ r.cancels
  waker : r.waker.descriptor = w
  spares : r.registry.Spares w

namespace Sparing

/-- Before anything is pushed. -/
theorem fresh {capacity : Nat} (silent : t.Silent) (queues : r.queues = .empty capacity)
    (cancels : r.cancels = []) (registry : r.registry = .empty) :
    Sparing r.waker.descriptor t ⟨[], []⟩ r where
  linked := queues ▸ .opened silent
  minds := List.forall_mem_nil _
  cancels := by
    rw [cancels]
    exact List.not_mem_nil
  waker := rfl
  spares := registry ▸ .empty

theorem aside (h : Sparing w t b r) (silent : u.Silent) : Sparing w (t ++ u) b r :=
  ⟨h.linked.then_aside silent, h.minds, h.cancels, h.waker, h.spares⟩

theorem enter (h : Sparing w t b r) {s : Step} {entered : Entered}
    (hs : s.entered? = some (r.queues, entered)) :
    Sparing w (t ++ [s]) b { r with queues := r.queues.after entered } :=
  ⟨h.linked.then_enter hs, h.minds, h.cancels, h.waker, h.spares⟩

theorem push (h : Sparing w t b r) (minds : request.Minds w) :
    Sparing w t (b.push request) { r with queues := r.queues.append request } where
  linked := h.linked.then_push request
  minds := List.forall_mem_append.mpr ⟨h.minds, List.forall_mem_singleton.mpr minds⟩
  cancels := h.cancels
  waker := h.waker
  spares := h.spares

/-- What is left to push does not matter, apart from the withdrawals. -/
theorem flagged (h : Sparing w t b r) {multishot rearmWaker rearmTimer : Bool} {rearm : List Key} :
    Sparing w t b { r with multishot, rearmWaker, rearmTimer, rearm } :=
  ⟨h.linked, h.minds, h.cancels, h.waker, h.spares⟩

theorem registered (h : Sparing w t b r) {registry : Registry} (spares : registry.Spares w) :
    Sparing w t b { r with registry } :=
  ⟨h.linked, h.minds, h.cancels, h.waker, spares⟩

/-- Withdrawing the poll of a registration. -/
theorem withdraw (h : Sparing w t b r) {k : Key} {e : Registration} {idle : Bool}
    (opened : r.registry.get? k = some e) :
    Sparing w t b { r with cancels := if idle then r.cancels else k.pack :: r.cancels } where
  linked := h.linked
  minds := h.minds
  cancels := by
    dsimp only
    split
    · exact h.cancels
    · exact List.not_mem_cons_of_ne_of_not_mem (pack_ne_wakeKey h.spares opened).symm h.cancels
  waker := h.waker
  spares := h.spares

theorem consume (h : Sparing w t b r) (front : r.queues.completions = c :: rest) {r₁ : Ring}
    {events : List Event} (taken : Taken r c u events r₁) :
    Sparing w (t ++ u) (b.consume c) (r₁.facing rest) := by
  have linked : Balanced (.empty 0) (t ++ u) b.pushed (b.consumed ++ [c])
      { r₁.queues with completions := rest } := by
    rw [taken.queues_eq]
    exact (h.linked.then_take front).then_aside taken.silent
  have kept : wakeKey ∉ r₁.cancels ∧ r₁.waker.descriptor = w := by
    cases taken with
    | ready => split <;> exact ⟨h.cancels, h.waker⟩
    | _ => exact ⟨h.cancels, h.waker⟩
  exact ⟨linked, h.minds, kept.1, kept.2, h.spares.reflagged taken.reflagged⟩

/-- Pushing tells the request, or fails without telling it. -/
theorem pushed (h : Sparing w t b r) {result : Except Cause Unit}
    (pushed : Pushed r.queues request u (result, queues)) (minds : request.Minds w) :
    ∃ b', Sparing w (t ++ u) b' { r with queues } := by
  cases pushed with
  | room =>
      rw [List.append_nil]
      exact ⟨_, h.push minds⟩
  | flushed => exact ⟨_, (h.enter rfl).push minds⟩
  | refused => exact ⟨_, h.enter rfl⟩
  | crowded => exact ⟨_, h.enter rfl⟩

end Sparing

theorem Move.sparing (move : Move r u log r') (h : Sparing w t b r) (wf : r.registry.WellFormed) :
    ∃ b', Sparing w (t ++ u) b' r' := by
  cases move with
  | aside silent => exact ⟨b, h.aside silent⟩
  | submit => exact ⟨b, h.enter rfl⟩
  | wait => exact ⟨b, h.enter rfl⟩
  | @cancel data rest waiting =>
      rw [List.append_nil]
      have cancels := h.cancels
      rw [waiting, List.mem_cons, not_or] at cancels
      have minds : (Request.cancel data cancelKey).Minds w := Ne.symm cancels.1
      have told := h.push minds
      exact ⟨_, told.linked, told.minds, cancels.2, told.waker, told.spares⟩
  | waker =>
      rw [List.append_nil]
      exact ⟨_, (h.push (minds_waker h.waker)).flagged⟩
  | timer =>
      rw [List.append_nil]
      exact ⟨_, (h.push minds_timer).flagged⟩
  | skip =>
      rw [List.append_nil]
      exact ⟨b, h.flagged⟩
  | @rearm key _ e _ opened =>
      rw [List.append_nil]
      have told := h.push (minds_watch r e.interest.pollMask (pack_ne_wakeKey h.spares opened)
        (wf.descriptor_ne h.spares.absent opened))
      exact ⟨_, (told.registered (told.spares.modify _ _)).flagged⟩
  | take front taken => exact ⟨_, h.consume front taken⟩

theorem Moves.sparing (moves : Moves r u log r') (h : Sparing w t b r)
    (wf : r.registry.WellFormed) : ∃ b', Sparing w (t ++ u) b' r' := by
  induction moves with
  | rest =>
      rw [List.append_nil]
      exact ⟨b, h⟩
  | step moves move ih =>
      rw [← List.append_assoc]
      obtain ⟨b₁, h₁⟩ := ih
      exact move.sparing h₁ (moves.reflagged.wellFormed wf)

theorem Added.sparing {interest : Interest} {token : Token} {result : Except Error Unit}
    (added : Added r fd interest token u (result, r')) (wf : r.registry.WellFormed)
    (other : fd ≠ w) (spares : r'.registry.Spares w) (h : Sparing w t b r) :
    ∃ b', Sparing w (t ++ u) b' r' := by
  have look : ∀ {reply}, Transcript.Silent [.asked (.getFlags fd) reply] :=
    Transcript.silent_singleton rfl
  -- the key under which the descriptor is to be watched is that of a registration
  have minds : ∀ {k placed}, r.registry.insert fd interest token = .ok (k, placed) →
      (r.watch fd interest.pollMask k.pack).Minds w := fun hins =>
    have ins := wf.insert_inserted hins
    minds_watch r _ (pack_ne_wakeKey (Registry.Spares.inserted h.spares ins other) ins.get?_self)
      other
  cases added with
  | closed => exact ⟨b, h.aside look⟩
  | duplicate => exact ⟨b, h.aside look⟩
  | unpushed hins pushed =>
      rw [← List.singleton_append, ← List.append_assoc]
      obtain ⟨b', kept⟩ := (h.aside look).pushed pushed (minds hins)
      exact ⟨b', kept.registered spares⟩
  | added hins pushed =>
      rw [Transcript.append_between]
      obtain ⟨b', kept⟩ := (h.aside look).pushed pushed (minds hins)
      exact ⟨b', (kept.registered spares).aside (Transcript.silent_singleton rfl)⟩

/-- A call spares the waker unless it adds its descriptor. -/
theorem Served.sparing {op : Operation} {answer : Answer} (served : r.Served op u answer r')
    (wf : r.registry.WellFormed) (h : Sparing w t b r)
    (other : ∀ fd interest token, op = .add fd interest token → fd ≠ w) :
    ∃ b', Sparing w (t ++ u) b' r' := by
  have noted : ∀ {record}, Transcript.Silent [.noted record] := Transcript.silent_singleton rfl
  have spares := served.confined wf h.spares fun same _ own ins =>
    Registry.Spares.inserted h.spares ins (own ▸ other _ _ _ same)
  cases served with
  | add added => exact added.sparing wf (other _ _ _ rfl) spares h
  | modify modified =>
      cases modified with
      | unknown => exact ⟨b, h.aside Transcript.silent_nil⟩
      | rekeyed _ _ rek =>
          exact ⟨b, (((h.aside noted).withdraw rek.opened).registered spares).flagged⟩
  | remove removed =>
      cases removed with
      | unknown => exact ⟨b, h.aside Transcript.silent_nil⟩
      | removed _ _ rem => exact ⟨b, ((h.aside noted).withdraw rem.opened).registered spares⟩
  | poll moves => exact moves.sparing h wf
  | post silent => exact ⟨b, h.aside silent⟩
  | wakeup silent => exact ⟨b, h.aside silent⟩

end Multiplexer.Ring

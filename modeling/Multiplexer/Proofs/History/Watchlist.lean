import Multiplexer.Proofs.History.Opening
import Multiplexer.Proofs.History.Returning
import Multiplexer.Proofs.Registry.Registrations

/-! The registrations of a facility as a map. The map after a history is computed from the calls and
their answers alone; the registry of every facility shows that map, whatever the system replies, and
every answer is one that the map permits. -/
namespace Multiplexer

def Operation.target : Operation → Option Descriptor
  | add fd .. | modify fd .. | remove fd | post fd .. => some fd
  | poll .. | wakeup => none

/-- For every watched descriptor its interest and its token. -/
abbrev Watchlist := Descriptor → Option (Interest × Token)

namespace Watchlist

def empty : Watchlist := fun _ => none

def after (w : Watchlist) : Operation → Answer → Watchlist
  | .add fd interest token, .returned (.ok ()) => Function.update w fd (some (interest, token))
  | .modify fd interest, .returned (.ok ()) =>
    Function.update w fd ((w fd).map fun (_, token) => (interest, token))
  | .remove fd, .returned (.ok ()) => Function.update w fd none
  | _, _ => w

def replay (w : Watchlist) (xs : List Exchange) : Watchlist :=
  xs.foldl (fun w x => w.after x.operation x.answer) w

/-- An answer that agrees with the map. Where nothing is required of an answer, the call may succeed
or fail with any other error. -/
def Permits (w : Watchlist) (f : Facility) (t : Transcript) : Operation → Answer → Prop
  | .add fd _ _, .returned result =>
    if (w fd).isSome then result = .error (.alreadyRegistered fd)
    else ∀ other, result = .error (.alreadyRegistered other) →
      other = fd ∧ f = .epoll ∧ t.ReportsDuplicate fd
  | .modify fd _, .returned result =>
    if (w fd).isSome then ∀ other, result ≠ .error (.notRegistered other)
    else result = .error (.notRegistered fd)
  | .remove fd, .returned result =>
    result = if (w fd).isSome then .ok () else .error (.notRegistered fd)
  | .poll _, .polled _ | .post .., .returned _ | .wakeup, .returned _ => True
  | _, _ => False

theorem after_of_target_ne (w : Watchlist) {op : Operation} (answer : Answer) {fd : Descriptor}
    (other : op.target ≠ some fd) : w.after op answer fd = w fd := by
  unfold after
  split
  · exact Function.update_of_ne (fun h => other (congrArg some h.symm)) ..
  · exact Function.update_of_ne (fun h => other (congrArg some h.symm)) ..
  · exact Function.update_of_ne (fun h => other (congrArg some h.symm)) ..
  · rfl

end Watchlist

namespace Registry

variable {r r' : Registry} {fd : Descriptor} {w : Watchlist}

/-- The registrations are those of the map, each of them once. -/
structure Shows (r : Registry) (w : Watchlist) : Prop where
  distinct : (r.registrations.map (·.1)).Nodup
  mem_iff : ∀ {fd v}, (fd, v) ∈ r.registrations ↔ w fd = some v
  size_eq : r.size = r.registrations.length

theorem WellFormed.shows (wf : r.WellFormed) : r.Shows r.asked :=
  ⟨wf.nodup_descriptors, wf.mem_registrations, wf.size_eq⟩

theorem WellFormed.contains_eq_asked (wf : r.WellFormed) : r.contains fd = (r.asked fd).isSome := by
  rw [wf.contains_eq_isSome, asked, Option.isSome_map]

theorem asked_eq_none_of_insert {interest : Interest} {token : Token} {k : Key}
    (wf : r.WellFormed) (h : r.insert fd interest token = .ok (k, r')) : r.asked fd = none := by
  have absent : r.find? fd = none := by
    rw [find?, keyOf?, (wf.insert_inserted h).absent, Option.bind_none, Option.bind_none]
  rw [asked, absent, Option.map_none]

theorem Reflagged.asked_eq (ref : Reflagged r r') : r'.asked = r.asked := by
  have forget : ∀ o : Option Registration, (o.map bare).map (fun e => (e.interest, e.token)) =
      o.map fun e => (e.interest, e.token) := fun o => by rw [Option.map_map]; rfl
  funext fd
  rw [asked, asked, ← forget, ref.find?_map_bare, forget]

theorem WellFormed.asked_modify (wf : r.WellFormed) {k : Key} (hk : r.keyOf? fd = some k)
    (f : Registration → Registration) (interest : Interest) (hf : ∀ e, (f e).interest = interest)
    (keeps : ∀ e, (f e).token = e.token) :
    (r.modify k f).asked =
      Function.update r.asked fd ((r.asked fd).map fun (_, token) => (interest, token)) := by
  funext d
  rw [asked, wf.find?_modify_of_keyOf? hk]
  by_cases same : d = fd
  · subst same
    rw [if_pos rfl, Function.update_self, asked, Option.map_map, Option.map_map]
    simp only [Function.comp_def, hf, keeps]
  · rw [if_neg same, Function.update_of_ne same, asked]

end Registry

/-- What every call finds: a sound registry and, for bitmaps, only descriptors that fit into them. -/
structure Backend.Sound (b : Backend) : Prop where
  wellFormed : b.registry.WellFormed
  fits : b.facility = .bitmap → ∀ fd, b.registry.contains fd = true → fitsFdSet fd = true

theorem Backend.Sound.of_ring {b : Backend} {r : Ring} (h : b.Sound) (ring : b = .ring r) :
    r.registry.WellFormed := by
  subst ring
  exact h.wellFormed

namespace Effect

open Registry

variable {b : Backend} {t : Transcript} {op : Operation} {answer : Answer} {r : Registry}

theorem wellFormed (h : Effect b t op answer r) (wf : b.registry.WellFormed) : r.WellFormed := by
  cases h with
  | refused => exact wf
  | rolledBack hins =>
      have ins := wf.insert_inserted hins
      exact (ins.discard wf).wellFormed (ins.wellFormed wf)
  | added hins => exact (wf.insert_inserted hins).wellFormed wf
  | unmodified => exact wf
  | modifyFailed => exact wf
  | modified => exact wf.modify _ fun _ => rfl
  | rekeyed _ hrek =>
      obtain ⟨k, e, -, rek⟩ := wf.rekey_eq_ok hrek
      exact (rek.wellFormed wf).modify _ fun _ => rfl
  | unremoved => exact wf
  | removed hrem =>
      obtain ⟨k, -, rem⟩ := wf.remove_eq_ok hrem
      exact rem.wellFormed wf
  | polled ref => exact ref.wellFormed wf
  | posted => exact wf
  | woken => exact wf

/-- The registry follows the map. -/
theorem asked_eq (h : Effect b t op answer r) (wf : b.registry.WellFormed) :
    r.asked = Watchlist.after b.registry.asked op answer := by
  cases h with
  | refused => rfl
  | @rolledBack fd interest token e k placed hins =>
      have ins := wf.insert_inserted hins
      funext d
      rw [asked, (ins.discard wf).find? (ins.wellFormed wf), ins.find? wf]
      by_cases same : d = fd
      · rw [if_pos same, Option.map_none, same]
        exact (asked_eq_none_of_insert wf hins).symm
      · rw [if_neg same, if_neg same]
        rfl
  | @added fd interest token k placed hins =>
      funext d
      change r.asked d = Function.update b.registry.asked fd (some (interest, token)) d
      rw [asked, (wf.insert_inserted hins).find? wf]
      by_cases same : d = fd
      · rw [if_pos same, same, Function.update_self]
        rfl
      · rw [if_neg same, Function.update_of_ne same]
        rfl
  | unmodified => rfl
  | modifyFailed => rfl
  | @modified fd interest k _ hk =>
      exact wf.asked_modify hk ({ · with interest }) interest (fun _ => rfl) fun _ => rfl
  | @rekeyed fd interest k moved _ hrek =>
      obtain ⟨old, e, rfl, rek⟩ := wf.rekey_eq_ok hrek
      have same : moved.asked = b.registry.asked := by
        funext d
        rw [asked, rek.find? wf, asked]
      have hk : moved.keyOf? e.descriptor = some k := by
        have opened := rek.get? k
        rw [if_pos rfl] at opened
        exact (rek.wellFormed wf).keyOf?_of_get? opened
      have stored := (rek.wellFormed wf).asked_modify hk ({ · with interest, rearm := true })
        interest (fun _ => rfl) fun _ => rfl
      rw [same] at stored
      exact stored
  | unremoved => rfl
  | @removed fd e rest hrem =>
      obtain ⟨k, rfl, rem⟩ := wf.remove_eq_ok hrem
      funext d
      change r.asked d = Function.update b.registry.asked e.descriptor none d
      rw [asked, rem.find? wf]
      by_cases same : d = e.descriptor
      · rw [if_pos same, same, Function.update_self]
        rfl
      · rw [if_neg same, Function.update_of_ne same]
        rfl
  | polled ref => exact ref.asked_eq
  | posted => rfl
  | woken => rfl

/-- The answer is one that the map permits. -/
theorem permitted (h : Effect b t op answer r) (sound : b.Sound) :
    Watchlist.Permits b.registry.asked b.facility t op answer := by
  have wf := sound.wellFormed
  cases h with
  | @refused fd interest token e present absent =>
      change if (b.registry.asked fd).isSome then _ else _
      rw [← wf.contains_eq_asked]
      split
      · rename_i listed
        rcases present listed with rfl | ⟨bitmap, unfit⟩
        · rfl
        · rw [sound.fits bitmap fd listed] at unfit
          cases unfit
      · rename_i unlisted
        intro other same
        cases same
        exact absurd rfl (absent (Bool.eq_false_iff.mpr unlisted) other)
  | @rolledBack fd interest token e k placed hins duplicate =>
      change if (b.registry.asked fd).isSome then _ else _
      rw [asked_eq_none_of_insert wf hins, if_neg (by decide)]
      rintro other ⟨⟩
      exact duplicate other rfl
  | @added fd interest token k placed hins =>
      change if (b.registry.asked fd).isSome then _ else _
      rw [asked_eq_none_of_insert wf hins, if_neg (by decide)]
      exact nofun
  | @unmodified fd interest absent =>
      change if (b.registry.asked fd).isSome then _ else _
      rw [← wf.contains_eq_asked, if_neg (Bool.eq_false_iff.mp absent)]
  | @modifyFailed fd interest k e hk other =>
      change if (b.registry.asked fd).isSome then _ else _
      rw [← wf.contains_eq_asked, if_pos (wf.contains_iff.mpr ⟨k, hk⟩)]
      rintro fd' ⟨⟩
      exact other fd' rfl
  | @modified fd interest k _ hk =>
      change if (b.registry.asked fd).isSome then _ else _
      rw [← wf.contains_eq_asked, if_pos (wf.contains_iff.mpr ⟨k, hk⟩)]
      exact nofun
  | @rekeyed fd interest k moved _ hrek =>
      obtain ⟨old, e, rfl, rek⟩ := wf.rekey_eq_ok hrek
      change if (b.registry.asked e.descriptor).isSome then _ else _
      rw [← wf.contains_eq_asked, if_pos (wf.contains_of_get? rek.opened)]
      exact nofun
  | @unremoved fd absent =>
      change _ = if (b.registry.asked fd).isSome then _ else _
      rw [← wf.contains_eq_asked, if_neg (Bool.eq_false_iff.mp absent)]
  | @removed fd e rest hrem =>
      obtain ⟨k, rfl, rem⟩ := wf.remove_eq_ok hrem
      change _ = if (b.registry.asked e.descriptor).isSome then _ else _
      rw [← wf.contains_eq_asked, if_pos (wf.contains_of_get? rem.opened)]
  | polled => exact trivial
  | posted => exact trivial
  | woken => exact trivial

/-- Only an addition that succeeded can make a descriptor watched. -/
theorem watched_before {w : Watchlist} {fd : Descriptor} (h : (w.after op answer fd).isSome) :
    (w fd).isSome ∨
      ∃ interest token, op = .add fd interest token ∧ answer = .returned (.ok ()) := by
  unfold Watchlist.after at h
  split at h
  · rename_i added interest token
    by_cases same : fd = added
    · exact .inr ⟨interest, token, by rw [same], rfl⟩
    · rw [Function.update_of_ne same] at h
      exact .inl h
  · rename_i modified interest
    by_cases same : fd = modified
    · rw [same, Function.update_self, Option.isSome_map] at h
      exact .inl (by rw [same, h])
    · rw [Function.update_of_ne same] at h
      exact .inl h
  · rename_i removed
    by_cases same : fd = removed
    · rw [same, Function.update_self] at h
      cases h
    · rw [Function.update_of_ne same] at h
      exact .inl h
  · exact .inl h

theorem fits (h : Effect b t op answer r) (sound : b.Sound) (bitmap : b.facility = .bitmap)
    {fd : Descriptor} (present : r.contains fd = true) : fitsFdSet fd = true := by
  rw [(h.wellFormed sound.wellFormed).contains_eq_asked, h.asked_eq sound.wellFormed] at present
  rcases watched_before present with before | ⟨interest, token, rfl, rfl⟩
  · rw [← sound.wellFormed.contains_eq_asked] at before
    exact sound.fits bitmap fd before
  · cases h with
    | added _ fits => exact fits bitmap

end Effect

theorem Exchange.sound_after (x : Exchange) (sound : x.before.Sound) : x.after.Sound := by
  obtain ⟨effect, same⟩ := x.effect sound.wellFormed
  exact ⟨effect.wellFormed sound.wellFormed, fun bitmap _ => effect.fits sound (same ▸ bitmap)⟩

theorem Backend.Opened.sound {config : Config} {t : Transcript} {b : Backend}
    (h : b.Opened config t) : b.Sound where
  wellFormed := h.registry_eq ▸ Registry.wellFormed_empty
  fits := by
    intro _ fd present
    rw [h.registry_eq, Registry.wellFormed_empty.contains_eq_asked] at present
    rw [Registry.asked, Registry.find?, Registry.keyOf?_empty] at present
    cases present

theorem Backend.Opened.asked_eq {config : Config} {t : Transcript} {b : Backend}
    (h : b.Opened config t) : b.registry.asked = Watchlist.empty := by
  funext fd
  rw [h.registry_eq, Registry.asked, Registry.find?, Registry.keyOf?_empty]
  rfl

namespace Run

variable {b c : Backend} {xs : List Exchange}

theorem sound (run : Run b xs c) (sound : b.Sound) : c.Sound :=
  run.invariant sound Exchange.sound_after

theorem facility_eq (run : Run b xs c) (sound : b.Sound) : c.facility = b.facility := by
  induction run with
  | start => rfl
  | @step xs x before ih => rw [(x.effect (before.sound sound).wellFormed).2, ih]

theorem asked_eq (run : Run b xs c) (sound : b.Sound) :
    c.registry.asked = Watchlist.replay b.registry.asked xs := by
  induction run with
  | start => rfl
  | @step xs x before ih =>
      have wf := (before.sound sound).wellFormed
      rw [(x.effect wf).1.asked_eq wf, ih, Watchlist.replay, Watchlist.replay, List.foldl_append]
      rfl

end Run

/-- A history that ends where one of its exchanges begins. -/
def History.upTo (h : History) {es fs : List Exchange} {x : Exchange}
    (split : h.exchanges = es ++ x :: fs) : History where
  config := h.config
  opening := h.opening
  start := h.start
  exchanges := es
  finish := x.before
  opened := h.opened
  run := by
    have run := h.run
    rw [split, Run.append_iff] at run
    obtain ⟨m, before, after⟩ := run
    obtain ⟨rfl, -⟩ := Run.cons_iff.mp after
    exact before

/-- What happened in a history from one of its calls on. -/
theorem History.run_from (h : History) {es fs : List Exchange} {x : Exchange}
    (split : h.exchanges = es ++ x :: fs) : Run x.before (x :: fs) h.finish := by
  have run := h.run
  rw [split, Run.append_iff] at run
  obtain ⟨m, -, after⟩ := run
  obtain ⟨rfl, -⟩ := Run.cons_iff.mp after
  exact after

theorem History.sound (h : History) : h.finish.Sound := h.run.sound h.opened.sound

theorem History.asked_eq (h : History) :
    h.finish.registry.asked = Watchlist.empty.replay h.exchanges := by
  rw [h.run.asked_eq h.opened.sound, h.opened.asked_eq]

/-- After any history the registry shows the map replayed from the calls and their answers. Every
answer along the way is permitted, no call changes the map elsewhere than at its own descriptor, and
the calls that answer at once always answer. -/
theorem History.refines_watchlist (h : History) :
    h.finish.registry.Shows (Watchlist.empty.replay h.exchanges) ∧
    h.finish.facility = h.start.facility ∧
    (∀ {es fs : List Exchange} {x : Exchange}, h.exchanges = es ++ x :: fs →
      let watched := Watchlist.empty.replay es
      x.before.registry.Shows watched ∧
      watched.Permits h.start.facility x.transcript x.operation x.answer ∧
      x.after.registry.Shows (watched.after x.operation x.answer) ∧
      ∀ fd, x.operation.target ≠ some fd →
        watched.after x.operation x.answer fd = watched fd) ∧
    ∀ op : Operation, op.prompt = true → ∀ patience,
      Dialogue.Returns (h.finish.serve op patience) := by
  refine ⟨?_, h.run.facility_eq h.opened.sound, ?_,
    fun op prompt _ => h.finish.serve_returns prompt⟩
  · rw [← h.asked_eq]
    exact h.sound.wellFormed.shows
  · intro es fs x split
    have asked : x.before.registry.asked = Watchlist.empty.replay es := (h.upTo split).asked_eq
    have sound : x.before.Sound := (h.upTo split).sound
    have facility : x.before.facility = h.start.facility :=
      (h.upTo split).run.facility_eq h.opened.sound
    have effect := (x.effect sound.wellFormed).1
    dsimp only
    rw [← asked, ← facility]
    refine ⟨sound.wellFormed.shows, effect.permitted sound, ?_, fun fd other => ?_⟩
    · rw [← effect.asked_eq sound.wellFormed]
      exact (x.sound_after sound).wellFormed.shows
    · exact Watchlist.after_of_target_ne _ _ other

end Multiplexer

import Multiplexer.Proofs.Registry.Operations

/-! Registries under any sequence of commands. `Served` says all that a command can come to; what it
keeps, every sequence keeps. -/
namespace Multiplexer.Registry

inductive Command where
  | insert (fd : Descriptor) (interest : Interest) (token : Token)
  | remove (fd : Descriptor)
  | rekey (fd : Descriptor)
  /-- Writes to the registration that a key opens. -/
  | update (key : Key) (interest : Interest) (rearm : Bool)
  /-- Writes to the registration of a descriptor. -/
  | updateOf (fd : Descriptor) (interest : Interest) (rearm : Bool)
  deriving DecidableEq, Repr

inductive Reply where
  | issued (key : Key)
  | removed (entry : Registration)
  /-- The registration that was written to, as it was before. -/
  | opened (entry : Option Registration)
  | failed (error : Error)
  deriving DecidableEq, Repr

def serve (r : Registry) : Command → Reply × Registry
  | .insert fd interest token =>
    match r.insert fd interest token with
    | .ok (key, r) => (.issued key, r)
    | .error e => (.failed e, r)
  | .remove fd =>
    match r.vacate fd with
    | (.ok entry, r) => (.removed entry, r)
    | (.error e, r) => (.failed e, r)
  | .rekey fd =>
    match r.rekey fd with
    | .ok (key, r) => (.issued key, r)
    | .error e => (.failed e, r)
  | .update key interest rearm => (.opened (r.get? key), r.modify key ({ · with interest, rearm }))
  | .updateOf fd interest rearm =>
    match r.keyOf? fd with
    | some key => (.opened (r.get? key), r.modify key ({ · with interest, rearm }))
    | none => (.opened none, r)

def after (r : Registry) (cs : List Command) : Registry := cs.foldl (fun r c => (r.serve c).2) r

def log (r : Registry) : List Command → List (Command × Reply)
  | [] => []
  | c :: cs => (c, (r.serve c).1) :: log (r.serve c).2 cs

inductive Served (r : Registry) : Command → Reply → Registry → Prop
  | duplicate {fd interest token} : r.contains fd = true →
      Served r (.insert fd interest token) (.failed (.alreadyRegistered fd)) r
  | inserted {fd interest token k r'} : Inserted r { descriptor := fd, interest, token } k r' →
      Served r (.insert fd interest token) (.issued k) r'
  | unremoved {fd} : r.contains fd = false → Served r (.remove fd) (.failed (.notRegistered fd)) r
  | removed {k e r'} : Removed r e k r' → Served r (.remove e.descriptor) (.removed e) r'
  | unrekeyed {fd} : r.contains fd = false → Served r (.rekey fd) (.failed (.notRegistered fd)) r
  | rekeyed {k k' e r'} : Rekeyed r e k k' r' → Served r (.rekey e.descriptor) (.issued k') r'
  | updated {key interest rearm} : Served r (.update key interest rearm) (.opened (r.get? key))
      (r.modify key ({ · with interest, rearm }))
  | missed {fd interest rearm} : r.contains fd = false →
      Served r (.updateOf fd interest rearm) (.opened none) r
  | updatedOf {k e interest rearm} : r.get? k = some e →
      Served r (.updateOf e.descriptor interest rearm) (.opened (some e))
        (r.modify k ({ · with interest, rearm }))

variable {r r' : Registry} {c : Command} {reply : Reply} {fd : Descriptor} {e : Registration}

/-! ### One command -/

/-- A descriptor is registered under the key that its registration opens with, or not at all. -/
theorem WellFormed.registered_or_absent (wf : r.WellFormed) (fd : Descriptor) :
    r.contains fd = false ∨ ∃ k e, r.get? k = some e ∧ e.descriptor = fd := by
  cases present : r.contains fd with
  | false => exact .inl rfl
  | true =>
      obtain ⟨k, known⟩ := wf.contains_iff.mp present
      obtain ⟨e, opened, own⟩ := wf.keyOf?_eq_some_iff.mp known
      exact .inr ⟨k, e, opened, own⟩

theorem vacate_of_absent (absent : r.contains fd = false) :
    r.vacate fd = (.error (.notRegistered fd), r) := by
  rw [vacate, contains_eq_false_iff.mp absent]

theorem vacate_of_remove (removed : r.remove fd = .ok (e, r')) : r.vacate fd = (.ok e, r') := by
  unfold remove at removed
  cases step : r.vacate fd with
  | mk outcome rest =>
      rw [step] at removed
      cases outcome with
      | error => cases removed
      | ok => cases removed; rfl

theorem rekey_of_absent (absent : r.contains fd = false) :
    r.rekey fd = .error (.notRegistered fd) := by
  rw [rekey, contains_eq_false_iff.mp absent]

theorem WellFormed.serve_served (wf : r.WellFormed) (c : Command) :
    Served r c (r.serve c).1 (r.serve c).2 := by
  cases c with
  | insert fd interest token =>
      simp only [serve]
      cases outcome : r.insert fd interest token with
      | ok issued =>
          obtain ⟨k, r'⟩ := issued
          exact .inserted (wf.insert_inserted outcome)
      | error e =>
          obtain ⟨present, rfl⟩ := insert_eq_error_iff.mp outcome
          exact .duplicate present
  | remove fd =>
      simp only [serve]
      rcases wf.registered_or_absent fd with absent | ⟨k, e, opened, rfl⟩
      · rw [vacate_of_absent absent]
        exact .unremoved absent
      · obtain ⟨r', done, spec⟩ := wf.remove_of_get? opened
        rw [vacate_of_remove done]
        exact .removed spec
  | rekey fd =>
      simp only [serve]
      rcases wf.registered_or_absent fd with absent | ⟨k, e, opened, rfl⟩
      · rw [rekey_of_absent absent]
        exact .unrekeyed absent
      · obtain ⟨r', done, spec⟩ := wf.rekey_of_get? opened
        rw [done]
        exact .rekeyed spec
  | update => exact .updated
  | updateOf fd interest rearm =>
      simp only [serve]
      rcases wf.registered_or_absent fd with absent | ⟨k, e, opened, rfl⟩
      · rw [keyOf?_eq_none absent]
        exact .missed absent
      · rw [wf.keyOf?_of_get? opened]
        simp only [opened]
        exact .updatedOf opened

theorem Served.wellFormed (served : Served r c reply r') (wf : r.WellFormed) : r'.WellFormed := by
  cases served with
  | duplicate => exact wf
  | inserted ins => exact ins.wellFormed wf
  | unremoved => exact wf
  | removed rem => exact rem.wellFormed wf
  | unrekeyed => exact wf
  | rekeyed rek => exact rek.wellFormed wf
  | updated => exact wf.modify _ fun _ => rfl
  | missed => exact wf
  | updatedOf => exact wf.modify _ fun _ => rfl

/-! ### Any number of commands -/

theorem after_cons (r : Registry) (c : Command) (cs : List Command) :
    r.after (c :: cs) = (r.serve c).2.after cs := rfl

theorem WellFormed.after (wf : r.WellFormed) (cs : List Command) : (r.after cs).WellFormed := by
  induction cs generalizing r with
  | nil => exact wf
  | cons c cs ih => exact ih ((wf.serve_served c).wellFormed wf)

end Multiplexer.Registry

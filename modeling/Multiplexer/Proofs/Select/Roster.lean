import Multiplexer.Proofs.Select.Rotation

/-! What the two selects have in common: registrations, and a cursor that says where the next batch
starts. Whatever a call is for, it changes the two in one of a few ways. -/
namespace Multiplexer

/-! ### What a wait found -/

/-- What a select found, if the step is one that succeeded: the count, and for each descriptor the
sets it was left in. -/
def Step.selected? : Step → Option (Selected (Descriptor → Interest))
  | .asked (.selectFds ..) (.ok selected) => some ⟨selected.count, selected.sets.conditions⟩
  | .asked (.selectSockets watched _) (.ok selected) =>
    some ⟨selected.count, (watched.left selected.sets).conditions⟩
  | _ => none

def Transcript.selected? (t : Transcript) : Option (Selected (Descriptor → Interest)) :=
  t.findSome? Step.selected?

theorem Step.selected?_eq_none {s : Step} (quiet : s.rewatches = false) : s.selected? = none := by
  unfold selected?
  split
  · cases quiet
  · cases quiet
  · rfl

theorem Transcript.Still.selected?_eq_none {t : Transcript} (still : t.Still) :
    t.selected? = none :=
  List.findSome?_eq_none_iff.mpr fun s hs => Step.selected?_eq_none (still s hs)

namespace Select

structure Roster where
  registry : Registry
  batch : Nat
  cursor : Nat

namespace Roster

def taken (r : Roster) (found : Descriptor → Interest) : List Event × Nat :=
  turn r.batch r.cursor (candidates r.registry found)

/-- What a call does to the registrations and the cursor. Only a select that succeeds and counts
something moves the cursor. -/
inductive Served (r : Roster) : Operation → Transcript → Answer → Roster → Prop
  | kept {op t answer} : t.selected? = none → answer.events = [] → Served r op t answer r
  | added {fd interest token t k placed} : t.selected? = none →
      r.registry.insert fd interest token = .ok (k, placed) →
      Served r (.add fd interest token) t (.returned (.ok ())) { r with registry := placed }
  | modified {fd interest k t} : t.selected? = none → r.registry.keyOf? fd = some k →
      Served r (.modify fd interest) t (.returned (.ok ()))
        { r with registry := r.registry.modify k ({ · with interest }) }
  | removed {fd entry rest t} : t.selected? = none → r.registry.remove fd = .ok (entry, rest) →
      Served r (.remove fd) t (.returned (.ok ())) { r with registry := rest }
  | unready {timeout t selected} : t.selected? = some selected → selected.count = 0 →
      Served r (.poll timeout) t (.polled .idle) r
  | answered {timeout t selected} : t.selected? = some selected → selected.count ≠ 0 →
      Served r (.poll timeout) t (.polled (.ready (r.taken selected.sets).1))
        { r with cursor := (r.taken selected.sets).2 }

end Roster
end Select

open Select

section

variable {op : Operation} {t : Transcript} {answer : Answer}

def BitmapSelect.roster (p : BitmapSelect) : Roster := ⟨p.registry, p.batch, p.cursor⟩

def SocketSelect.roster (p : SocketSelect) : Roster := ⟨p.registry, p.batch, p.cursor⟩

theorem BitmapSelect.Served.roster {p p' : BitmapSelect} (served : p.Served op t answer p') :
    p.roster.Served op t answer p'.roster := by
  cases served with
  | added _ placed => exact .added rfl placed
  | modified known => exact .modified rfl known
  | removed taken => exact .removed rfl taken
  | @unready timeout selected none =>
      exact @Roster.Served.unready _ _ _ ⟨selected.count, selected.sets.conditions⟩ rfl none
  | @answered timeout t selected some =>
      exact @Roster.Served.answered _ _ _ ⟨selected.count, selected.sets.conditions⟩ rfl some
  | wakeup still => exact .kept still.selected?_eq_none rfl
  | unanswered => exact .kept rfl (by split <;> rfl)
  | _ => exact .kept rfl rfl

theorem SocketSelect.Served.roster {p p' : SocketSelect} (served : p.Served op t answer p') :
    p.roster.Served op t answer p'.roster := by
  cases served with
  | added placed => exact .added rfl placed
  | modified known => exact .modified rfl known
  | removed taken => exact .removed rfl taken
  | @unready timeout selected none =>
      exact @Roster.Served.unready _ _ _ ⟨selected.count, (p.watched.left selected.sets).conditions⟩
        rfl none
  | @answered timeout t selected some =>
      exact @Roster.Served.answered _ _ _ ⟨selected.count, (p.watched.left selected.sets).conditions⟩
        rfl some
  | wakeup still => exact .kept still.selected?_eq_none rfl
  | unanswered => exact .kept rfl (by split <;> rfl)
  | _ => exact .kept rfl rfl

end

def Backend.roster? : Backend → Option Roster
  | bitmap p => some p.roster
  | socket p => some p.roster
  | _ => none

theorem Backend.registry_of_roster? {b : Backend} {r : Roster} (h : b.roster? = some r) :
    b.registry = r.registry := by
  cases b with
  | bitmap | socket =>
      cases h
      rfl
  | _ => cases h

theorem Backend.batch_of_roster? {b : Backend} {r : Roster} (h : b.roster? = some r) :
    b.batch = r.batch := by
  cases b with
  | bitmap | socket =>
      cases h
      rfl
  | _ => cases h

theorem Exchange.roster_served (x : Exchange) {r : Roster} (before : x.before.roster? = some r) :
    ∃ r', x.after.roster? = some r' ∧ r.Served x.operation x.transcript x.answer r' := by
  cases backend : x.before with
  | bitmap p =>
      obtain ⟨p', after, served⟩ := x.bitmap_served backend
      rw [backend] at before
      cases before
      exact ⟨p'.roster, by rw [after]; rfl, served.roster⟩
  | socket p =>
      obtain ⟨p', after, served⟩ := x.socket_served backend
      rw [backend] at before
      cases before
      exact ⟨p'.roster, by rw [after]; rfl, served.roster⟩
  | _ =>
      rw [backend] at before
      cases before

end Multiplexer

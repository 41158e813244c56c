import Multiplexer.Proofs.Kqueue.Calls
import Multiplexer.Proofs.Registry.Keyed

/-! The filters that a kqueue has in the kernel, read off the changes handed over and the receipts for
them, and how they stand to the registrations. -/
namespace Multiplexer

def Interest.has (i : Interest) : Filter → Bool
  | .read => i.read
  | .write => i.write

instance {P : Filter → Prop} [DecidablePred P] : Decidable (∀ f, P f) :=
  decidable_of_iff (P .read ∧ P .write)
    ⟨fun h f => f.casesOn h.1 h.2, fun h => ⟨h .read, h .write⟩⟩

def FilterChange.target : FilterChange → Descriptor × Filter
  | add fd filter _ | delete fd filter => (fd, filter)

inductive Fate where
  | done
  | refused (errno : Errno)
  /-- All changes of the call were refused together. -/
  | dropped
  deriving DecidableEq, Repr

/-- A receipt that reports no error is for a change that was done, and so is a missing one. -/
def Receipt.fate : Option Receipt → Fate
  | some r => if r.marked && r.errno != 0 then .refused r.errno else .done
  | none => .done

def answered : List FilterChange → List Receipt → List (FilterChange × Fate)
  | [], _ => []
  | c :: changes, receipts => (c, Receipt.fate receipts.head?) :: answered changes receipts.tail

def Step.changes : Step → List (FilterChange × Fate)
  | .asked (.kqueueChange _ changes) (.ok receipts) => answered changes receipts
  | .asked (.kqueueChange _ changes) (.error _) => changes.map (·, .dropped)
  | _ => []

def Transcript.changes (t : Transcript) (fd : Descriptor) (f : Filter) :
    List (FilterChange × Fate) :=
  (t.flatMap Step.changes).filter fun c => c.1.target = (fd, f)

structure KernelFilter where
  /-- The data it was installed with, if it is installed. -/
  data : Option UInt64
  /-- The last addition that got a receipt was refused for a closed peer. -/
  broken : Bool
  deriving DecidableEq, Repr

namespace KernelFilter

def absent : KernelFilter := ⟨none, false⟩

/-- A change that was not done has no effect. -/
def after (s : KernelFilter) : FilterChange × Fate → KernelFilter
  | (.add _ _ data, .done) => ⟨some data, false⟩
  | (.add .., .refused e) => { s with broken := e == .brokenPipe }
  | (.delete .., .done) => { s with data := none }
  | _ => s

/-- The filter is installed with these data or not at all, as wanted; one that is wanted may be
missing if the peer was closed. -/
def Suits (s : KernelFilter) (want : Option UInt64) : Prop :=
  s.data = want ∨ (want ≠ none ∧ s.data = none ∧ s.broken = true)

instance {s : KernelFilter} {want : Option UInt64} : Decidable (s.Suits want) :=
  inferInstanceAs (Decidable (_ ∨ _))

/-- The change leaves the filter as wanted. What is added must be wanted, and if it is, adding it may
only be refused when the peer was closed or the filter is there already; what is deleted must not be
wanted, unless it may be missing, and if it is not, it must go. -/
def Settles (s : KernelFilter) (want : Option UInt64) : FilterChange × Fate → Prop
  | (.add .., .done) => want ≠ none
  | (.add .., .refused e) => want ≠ none → e = .brokenPipe ∨ s.data ≠ none
  | (.add .., .dropped) => True
  | (.delete .., .done) => want ≠ none → s.broken = true
  | (.delete .., _) => want = none → s.data = none

instance {s : KernelFilter} {want : Option UInt64} : DecidablePred (s.Settles want)
  | (.add .., .done) => inferInstanceAs (Decidable (_ ≠ _))
  | (.add .., .refused _) => inferInstanceAs (Decidable (_ → _))
  | (.add .., .dropped) => inferInstanceAs (Decidable True)
  | (.delete .., .done) => inferInstanceAs (Decidable (_ → _))
  | (.delete .., .refused _) => inferInstanceAs (Decidable (_ → _))
  | (.delete .., .dropped) => inferInstanceAs (Decidable (_ → _))

/-- Every deletion is done, or the filter was gone before. -/
def Cleared : KernelFilter → List (FilterChange × Fate) → Prop
  | _, [] => True
  | s, (.add fd f data, fate) :: rest => Cleared (s.after (.add fd f data, fate)) rest
  | s, (.delete fd f, fate) :: rest =>
    (s.data ≠ none → fate = .done) ∧ Cleared (s.after (.delete fd f, fate)) rest

instance decidableCleared : ∀ s changes, Decidable (Cleared s changes)
  | _, [] => inferInstanceAs (Decidable True)
  | s, (.add fd f data, fate) :: rest => decidableCleared (s.after (.add fd f data, fate)) rest
  | s, (.delete fd f, fate) :: rest =>
    have := decidableCleared (s.after (.delete fd f, fate)) rest
    inferInstanceAs (Decidable (_ ∧ _))

/-- What a call to the poller must find so as to leave the filter as wanted: a modification that each
change settles, everything else that what is taken back goes. -/
def Tidy (s : KernelFilter) (want : Option UInt64) (changes : List (FilterChange × Fate)) :
    Operation → Prop
  | .modify .. => ∀ c ∈ changes, s.Settles want c
  | _ => s.Cleared changes

instance {s : KernelFilter} {want : Option UInt64} {changes : List (FilterChange × Fate)} :
    DecidablePred (s.Tidy want changes)
  | .modify .. => inferInstanceAs (Decidable (∀ _ ∈ changes, _))
  | .add .. | .remove .. | .poll .. | .post .. | .wakeup => inferInstanceAs (Decidable (Cleared ..))

end KernelFilter

def Transcript.filter (t : Transcript) (fd : Descriptor) (f : Filter) : KernelFilter :=
  (t.changes fd f).foldl KernelFilter.after .absent

/-- The data of the filter that the registration of a descriptor calls for, if there is one. -/
def Registry.wanted (r : Registry) (fd : Descriptor) (f : Filter) : Option UInt64 :=
  (r.keyOf? fd).bind fun k => if (r.get? k).any (·.interest.has f) then some k.pack else none

/-! ### What is wanted -/

namespace Registry

variable {r r' : Registry} {k : Key} {e : Registration} {fd : Descriptor} {f : Filter}

theorem wanted_eq : r.wanted fd f =
    (r.keyed? fd).bind fun (k, e) => if e.interest.has f then some k.pack else none := by
  unfold wanted keyed?
  cases r.keyOf? fd with
  | none => rfl
  | some k => cases opened : r.get? k <;> simp [opened]

theorem wanted_of_get? (wf : r.WellFormed) (opened : r.get? k = some e) :
    r.wanted e.descriptor f = if e.interest.has f then some k.pack else none := by
  rw [wanted_eq, wf.keyed?_of_get? opened, Option.bind_some]

theorem wanted_of_absent (absent : r.contains fd = false) : r.wanted fd f = none := by
  rw [wanted, keyOf?_eq_none absent, Option.bind_none]

theorem wanted_empty : Registry.empty.wanted fd f = none := by
  rw [wanted, keyOf?_empty, Option.bind_none]

theorem Inserted.wanted_other (ins : Inserted r e k r') (wf : r.WellFormed)
    (other : fd ≠ e.descriptor) : r'.wanted fd f = r.wanted fd f := by
  rw [wanted_eq, ins.keyed? wf, if_neg other, wanted_eq]

theorem Inserted.wanted_discard (ins : Inserted r e k r') (wf : r.WellFormed) :
    (r'.discard e.descriptor).wanted fd f = r.wanted fd f := by
  rw [wanted_eq, ins.keyed?_discard wf, wanted_eq]

theorem Removed.wanted_other (rem : Removed r e k r') (wf : r.WellFormed)
    (other : fd ≠ e.descriptor) : r'.wanted fd f = r.wanted fd f := by
  rw [wanted_eq, rem.keyed? wf, if_neg other, wanted_eq]

theorem Removed.wanted_self (rem : Removed r e k r') (wf : r.WellFormed) :
    r'.wanted e.descriptor f = none := by
  rw [wanted_eq, rem.keyed? wf, if_pos rfl, Option.bind_none]

theorem wanted_modify_other (wf : r.WellFormed) (opened : r.get? k = some e)
    {change : Registration → Registration} (other : fd ≠ e.descriptor) :
    (r.modify k change).wanted fd f = r.wanted fd f := by
  rw [wanted_eq, wf.keyed?_modify_other opened other, wanted_eq]

end Registry

/-! ### What became of changes -/

section

variable {queue fd fd' : Descriptor} {f : Filter} {ignored : List Errno}
  {changes : List FilterChange} {receipts : List Receipt} {t u : Transcript}
  {result : Except Errno Unit} {interest old : Interest} {data : UInt64}

theorem Transcript.changes_append : (t ++ u).changes fd f = t.changes fd f ++ u.changes fd f := by
  rw [changes, List.flatMap_append, List.filter_append, changes, changes]

theorem Transcript.filter_append :
    (t ++ u).filter fd f = (u.changes fd f).foldl KernelFilter.after (t.filter fd f) := by
  rw [filter, changes_append, List.foldl_append, filter]

theorem Transcript.Still.changes_eq (still : t.Still) : t.changes fd f = [] := by
  rw [changes, List.flatMap_eq_nil_iff.mpr, List.filter_nil]
  intro s hs
  have quiet := still s hs
  unfold Step.changes
  split
  · cases quiet
  · cases quiet
  · rfl

theorem answered_fst : (answered changes receipts).map Prod.fst = changes := by
  induction changes generalizing receipts with
  | nil => rfl
  | cons c changes ih => rw [answered, List.map_cons, ih]

/-- A change is done unless one of the receipts says otherwise. -/
theorem fate_of_answered {c : FilterChange} {fate : Fate} (mem : (c, fate) ∈ answered changes receipts) :
    fate = .done ∨ ∃ r ∈ receipts.take changes.length, fate = Receipt.fate (some r) := by
  induction changes generalizing receipts with
  | nil => cases mem
  | cons c' changes ih =>
      cases receipts with
      | nil =>
          rcases List.mem_cons.mp mem with same | later
          · cases same
            exact .inl rfl
          · obtain rfl | ⟨r, hr, -⟩ := ih later
            · exact .inl rfl
            · rw [List.tail_nil, List.take_nil] at hr
              cases hr
      | cons r receipts =>
          rw [List.length_cons, List.take_succ_cons]
          rcases List.mem_cons.mp mem with same | later
          · cases same
            exact .inr ⟨r, List.mem_cons_self, rfl⟩
          · obtain rfl | ⟨r', hr, same⟩ := ih later
            · exact .inl rfl
            · exact .inr ⟨r', List.mem_cons_of_mem _ hr, same⟩

/-- Without an error all refusals are ignored. -/
theorem Kqueue.fate_of_firstError {r : Receipt} (through : firstError ignored receipts = none)
    (mem : r ∈ receipts) :
    Receipt.fate (some r) = .done ∨ ∃ e ∈ ignored, Receipt.fate (some r) = .refused e := by
  rw [firstError, Option.map_eq_none_iff, List.find?_eq_none] at through
  have tolerated := through r mem
  cases hr : r.marked && r.errno != 0 with
  | false => exact .inl (if_neg (Bool.eq_false_iff.mp hr))
  | true =>
      rw [hr, Bool.true_and, Bool.not_eq_true, Bool.not_eq_false', List.contains_iff_mem] at tolerated
      exact .inr ⟨r.errno, tolerated, if_pos hr⟩

namespace Kqueue.Submitted

theorem changes_fst (sub : Submitted queue ignored changes t result) :
    (t.flatMap Step.changes).map Prod.fst = changes := by
  cases sub with
  | idle none => exact none.symm
  | refused =>
      rw [List.flatMap_singleton, Step.changes, List.map_map]
      exact List.map_id _
  | failed => rw [List.flatMap_singleton, Step.changes, answered_fst]
  | done => rw [List.flatMap_singleton, Step.changes, answered_fst]

theorem fst_eq (sub : Submitted queue ignored changes t result) :
    (t.changes fd f).map Prod.fst = changes.filter (·.target = (fd, f)) := by
  rw [Transcript.changes, ← sub.changes_fst, List.filter_map]
  rfl

theorem changes_eq_nil (sub : Submitted queue ignored changes t result)
    (none : changes.filter (·.target = (fd, f)) = []) : t.changes fd f = [] :=
  List.map_eq_nil_iff.mp (sub.fst_eq.trans none)

theorem changes_eq_singleton (sub : Submitted queue ignored changes t result) {c : FilterChange}
    (only : changes.filter (·.target = (fd, f)) = [c]) : ∃ fate, t.changes fd f = [(c, fate)] := by
  obtain ⟨⟨_, fate⟩, same, rfl⟩ := List.map_eq_singleton_iff.mp (sub.fst_eq.trans only)
  exact ⟨fate, same⟩

/-- When the call goes through, the kernel did what it was told, apart from ignored refusals. -/
theorem fate_of_ok (sub : Submitted queue ignored changes t (.ok ())) {c : FilterChange × Fate}
    (mem : c ∈ t.changes fd f) : c.2 = .done ∨ ∃ e ∈ ignored, c.2 = .refused e := by
  have handed := (List.mem_filter.mp mem).1
  cases sub with
  | idle => cases handed
  | done through =>
      rw [List.flatMap_singleton] at handed
      obtain same | ⟨r, hr, same⟩ := fate_of_answered handed
      · exact .inl same
      · rw [same]
        exact fate_of_firstError through hr

end Kqueue.Submitted

/-! ### Changes of one filter -/

theorem Interest.filters_filter {change : Filter → FilterChange}
    (target : ∀ f, (change f).target = (fd', f)) :
    (interest.filters change).filter (·.target = (fd, f)) =
      if fd' = fd ∧ interest.has f then [change f] else [] := by
  obtain ⟨read, write, error, hangup⟩ := interest
  by_cases same : fd' = fd
  · cases f <;> cases read <;> cases write <;>
      simp [filters, has, target, same]
  · cases read <;> cases write <;> simp [filters, target, same]

theorem Kqueue.transition_filter :
    (transition fd' old interest data).filter (·.target = (fd, f)) =
      if fd' = fd then
        if interest.has f then [.add fd f data]
        else if old.has f then [.delete fd f] else []
      else [] := by
  rw [transition, List.filter_append, Interest.filters_filter fun _ => rfl,
    Interest.filters_filter fun _ => rfl]
  by_cases same : fd' = fd
  · cases f <;> cases hi : interest.has _ <;> cases ho : old.has _ <;>
      simp_all [Interest.has]
  · simp [same]

end

/-! ### How one filter fares -/

namespace KernelFilter

variable {s : KernelFilter} {fd : Descriptor} {f : Filter} {data : UInt64} {want : Option UInt64}
  {fate : Fate}

theorem suits_none : s.Suits none ↔ s.data = none := by
  simp [Suits]

theorem suits_some : s.Suits (some data) ↔ s.data = some data ∨ (s.data = none ∧ s.broken = true) := by
  simp [Suits]

/-- Adding a filter that is not there, refused for a closed peer at most. -/
theorem suits_added (absent : s.data = none)
    (through : fate = .done ∨ ∃ e ∈ [Errno.brokenPipe], fate = .refused e) :
    (s.after (.add fd f data, fate)).Suits (some data) := by
  rw [suits_some]
  obtain rfl | ⟨e, closed, rfl⟩ := through
  · exact .inl rfl
  · rw [List.mem_singleton.mp closed]
    exact .inr ⟨absent, rfl⟩

/-- Deleting a filter that may be there. -/
theorem suits_deleted (cleared : s.Cleared [(.delete fd f, fate)]) :
    (s.after (.delete fd f, fate)).Suits none := by
  rw [suits_none]
  cases present : s.data with
  | none => cases fate <;> simp [after, present]
  | some =>
      rw [cleared.1 (by rw [present]; exact nofun)]
      rfl

/-- A filter that stays wanted, or becomes so when the call goes through, is added. -/
theorem suits_add_iff {old : Option UInt64} (suits : s.Suits old)
    (before : old = none ∨ old = some data) (now : want = some data ∨ want = old)
    (dropped : fate = .dropped → want = old) :
    (s.after (.add fd f data, fate)).Suits want ↔ s.Settles want (.add fd f data, fate) := by
  obtain ⟨present, broken⟩ := s
  rcases before with rfl | rfl
  · obtain rfl : present = none := suits_none.mp suits
    rcases now with rfl | rfl
    · cases fate <;> simp_all [suits_some, after, Settles]
    · cases fate <;> simp [suits_none, after, Settles]
  · obtain rfl : want = some data := now.elim id id
    rw [suits_some] at suits
    cases fate with
    | done => simp [suits_some, after, Settles]
    | refused e =>
        rcases suits with rfl | ⟨rfl, rfl⟩
        · simp [suits_some, after, Settles]
        · simp [suits_some, after, Settles]
    | dropped => simpa [suits_some, after, Settles] using suits

/-- A filter that was wanted, and no longer is when the call goes through, is deleted. -/
theorem suits_delete_iff (suits : s.Suits (some data)) (now : want = none ∨ want = some data) :
    (s.after (.delete fd f, fate)).Suits want ↔ s.Settles want (.delete fd f, fate) := by
  obtain ⟨present, broken⟩ := s
  rw [suits_some] at suits
  rcases now with rfl | rfl
  · cases fate <;> simp [suits_none, after, Settles]
  · cases fate with
    | done => simp [suits_some, after, Settles]
    | refused => simpa [suits_some, after, Settles] using suits
    | dropped => simpa [suits_some, after, Settles] using suits

end KernelFilter

/-! ### How the filters fare in a call -/

namespace Kqueue

section

variable {queue fd fd' : Descriptor} {f : Filter} {ignored : List Errno} {t : Transcript}
  {result : Except Errno Unit} {interest : Interest} {change : Filter → FilterChange}

theorem Submitted.changes_of_has (sub : Submitted queue ignored (interest.filters change) t result)
    (target : ∀ f, (change f).target = (fd, f)) (has : interest.has f = true) :
    ∃ fate, t.changes fd f = [(change f, fate)] :=
  sub.changes_eq_singleton (by rw [Interest.filters_filter target, if_pos ⟨rfl, has⟩])

theorem Submitted.changes_of_not (sub : Submitted queue ignored (interest.filters change) t result)
    (target : ∀ f, (change f).target = (fd', f)) (not : ¬(fd' = fd ∧ interest.has f = true)) :
    t.changes fd f = [] :=
  sub.changes_eq_nil (by rw [Interest.filters_filter target, if_neg not])

end

variable {p p' : Kqueue} {fd fd' : Descriptor} {f : Filter} {interest : Interest} {token : Token}
  {op : Operation} {t : Transcript} {result : Except Error Unit} {answer : Answer} {s : KernelFilter}

theorem Added.suits (added : Added p fd' interest token t (result, p')) (wf : p.registry.WellFormed)
    (suits : s.Suits (p.registry.wanted fd f)) (cleared : s.Cleared (t.changes fd f)) :
    ((t.changes fd f).foldl KernelFilter.after s).Suits (p'.registry.wanted fd f) := by
  cases added with
  | duplicate => exact suits
  | undone hins adding deleting =>
      have ins := wf.insert_inserted hins
      rw [ins.wanted_discard wf]
      rw [Transcript.changes_append] at cleared ⊢
      by_cases own : fd' = fd
      · subst own
        rw [Registry.wanted_of_absent (Registry.contains_eq_false_iff.mpr ins.absent)] at suits ⊢
        by_cases has : interest.has f
        · obtain ⟨a, asked⟩ := adding.changes_of_has (fun _ => rfl) has
          obtain ⟨d, undone⟩ := deleting.changes_of_has (fun _ => rfl) has
          rw [asked, undone] at cleared ⊢
          exact KernelFilter.suits_deleted cleared
        · have not : ¬(fd' = fd' ∧ interest.has f = true) := fun h => has h.2
          rw [adding.changes_of_not (fun _ => rfl) not, deleting.changes_of_not (fun _ => rfl) not]
          exact suits
      · have not : ¬(fd' = fd ∧ interest.has f = true) := fun h => own h.1
        rw [adding.changes_of_not (fun _ => rfl) not, deleting.changes_of_not (fun _ => rfl) not]
        exact suits
  | added hins adding =>
      have ins := wf.insert_inserted hins
      rw [Transcript.changes_append, Transcript.Still.changes_eq (Transcript.still_singleton rfl),
        List.append_nil]
      by_cases own : fd' = fd
      · subst own
        rw [Registry.wanted_of_absent (Registry.contains_eq_false_iff.mpr ins.absent)] at suits
        have now := Registry.wanted_of_get? (ins.wellFormed wf) ins.get?_self (f := f)
        dsimp only at now ⊢
        rw [now]
        by_cases has : interest.has f
        · obtain ⟨a, asked⟩ := adding.changes_of_has (fun _ => rfl) has
          rw [asked, if_pos has]
          refine KernelFilter.suits_added (KernelFilter.suits_none.mp suits) ?_
          exact adding.fate_of_ok (c := (_, a)) (asked ▸ List.mem_singleton_self _)
        · rw [adding.changes_of_not (fun _ => rfl) fun h => has h.2, if_neg has]
          exact suits
      · rw [adding.changes_of_not (fun _ => rfl) fun h => own h.1, ins.wanted_other wf (Ne.symm own)]
        exact suits

theorem Removed.suits (removed : Removed p fd' t (result, p')) (wf : p.registry.WellFormed)
    (suits : s.Suits (p.registry.wanted fd f)) (cleared : s.Cleared (t.changes fd f)) :
    ((t.changes fd f).foldl KernelFilter.after s).Suits (p'.registry.wanted fd f) := by
  cases removed with
  | unknown => exact suits
  | @removed k e rest _ _ _ own' rem deleting =>
      subst own'
      rw [Transcript.changes_append, Transcript.Still.changes_eq (Transcript.still_singleton rfl),
        List.append_nil] at cleared ⊢
      by_cases own : e.descriptor = fd
      · subst own
        rw [Registry.wanted_of_get? wf rem.opened] at suits
        rw [rem.wanted_self wf]
        by_cases has : e.interest.has f
        · obtain ⟨d, asked⟩ := deleting.changes_of_has (fun _ => rfl) has
          rw [asked] at cleared ⊢
          exact KernelFilter.suits_deleted cleared
        · rw [deleting.changes_of_not (fun _ => rfl) fun h => has h.2]
          rw [if_neg has] at suits
          exact suits
      · rw [deleting.changes_of_not (fun _ => rfl) fun h => own h.1, rem.wanted_other wf (Ne.symm own)]
        exact suits

/-- The change of one filter in a modification: it comes, it goes, or there is none. -/
theorem Submitted.suits_transition {queue : Descriptor} {ignored : List Errno} {old : Interest}
    {data : UInt64} {changed : Except Errno Unit} {want : Option UInt64}
    (sub : Submitted queue ignored (transition fd old interest data) t changed)
    (suits : s.Suits (if old.has f then some data else none))
    (now : want = if (if changed.isOk then interest else old).has f then some data else none) :
    ((t.changes fd f).foldl KernelFilter.after s).Suits want ↔
      ∀ c ∈ t.changes fd f, s.Settles want c := by
  have asked : (transition fd old interest data).filter (·.target = (fd, f)) =
      if interest.has f then [.add fd f data] else if old.has f then [.delete fd f] else [] :=
    transition_filter.trans (if_pos rfl)
  by_cases comes : interest.has f
  · rw [if_pos comes] at asked
    obtain ⟨fate, change⟩ := sub.changes_eq_singleton asked
    rw [change, List.forall_mem_singleton]
    refine KernelFilter.suits_add_iff suits ?_ ?_ fun dropped => ?_
    · exact (ite_eq_or_eq _ _ _).symm
    · cases changed with
      | ok => exact .inl (now.trans (if_pos comes))
      | error => exact .inr now
    · cases changed with
      | ok =>
          have answered := sub.fate_of_ok (c := (_, fate)) (change ▸ List.mem_singleton_self _)
          rw [dropped] at answered
          obtain same | ⟨_, -, same⟩ := answered <;> cases same
      | error => exact now
  · rw [if_neg comes] at asked
    by_cases goes : old.has f
    · rw [if_pos goes] at asked suits
      obtain ⟨fate, change⟩ := sub.changes_eq_singleton asked
      rw [change, List.forall_mem_singleton]
      refine KernelFilter.suits_delete_iff suits ?_
      rw [now]
      exact (ite_eq_or_eq _ _ _).symm
    · rw [if_neg goes] at asked suits
      rw [sub.changes_eq_nil asked]
      refine iff_of_true ?_ (List.forall_mem_nil _)
      cases changed with
      | ok => exact (now.trans (if_neg comes)) ▸ suits
      | error => exact (now.trans (if_neg goes)) ▸ suits

theorem Modified.suits_iff (modified : Modified p fd' interest t (result, p'))
    (wf : p.registry.WellFormed) (suits : s.Suits (p.registry.wanted fd f)) :
    ((t.changes fd f).foldl KernelFilter.after s).Suits (p'.registry.wanted fd f) ↔
      ∀ c ∈ t.changes fd f, s.Settles (p'.registry.wanted fd f) c := by
  have apart {old data queue ignored changed}
      (sub : Submitted queue ignored (transition fd' old interest data) t changed)
      (other : fd' ≠ fd) : t.changes fd f = [] :=
    sub.changes_eq_nil (transition_filter.trans (if_neg other))
  have unchanged (none : t.changes fd f = [])
      (same : p'.registry.wanted fd f = p.registry.wanted fd f) :
      ((t.changes fd f).foldl KernelFilter.after s).Suits (p'.registry.wanted fd f) ↔
        ∀ c ∈ t.changes fd f, s.Settles (p'.registry.wanted fd f) c := by
    rw [none, same]
    exact iff_of_true suits (List.forall_mem_nil _)
  cases modified with
  | unknown => exact unchanged rfl rfl
  | @failed k e _ _ opened own changing =>
      subst own
      by_cases same : e.descriptor = fd
      · subst same
        have want := Registry.wanted_of_get? wf opened (f := f)
        exact changing.suits_transition (want ▸ suits) want
      · exact unchanged (apart changing same) rfl
  | @modified k e _ opened own changing =>
      subst own
      have kept := wf.modify k (f := ({ · with interest })) fun _ => rfl
      have stored := (p.registry.get?_modify ({ · with interest }) k).trans
        ((if_pos rfl).trans (congrArg _ opened))
      by_cases same : e.descriptor = fd
      · subst same
        exact changing.suits_transition (Registry.wanted_of_get? wf opened ▸ suits)
          (Registry.wanted_of_get? kept stored (f := f))
      · exact unchanged (apart changing same)
          (Registry.wanted_modify_other wf opened (Ne.symm same))

theorem Served.suits (served : Served p op t answer p') (wf : p.registry.WellFormed)
    (suits : s.Suits (p.registry.wanted fd f))
    (tidy : s.Tidy (p'.registry.wanted fd f) (t.changes fd f) op) :
    ((t.changes fd f).foldl KernelFilter.after s).Suits (p'.registry.wanted fd f) := by
  cases served with
  | add added => exact added.suits wf suits tidy
  | modify modified => exact (modified.suits_iff wf suits).mpr tidy
  | remove removed => exact removed.suits wf suits tidy
  | poll still => rwa [still.changes_eq]
  | post => exact suits
  | wakeup still => rwa [still.changes_eq]

end Kqueue

end Multiplexer

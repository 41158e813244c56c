import Multiplexer.Proofs.History.Liveness
import Multiplexer.Proofs.Kernel.Replies
import Multiplexer.Proofs.Kernel.Respond
import Multiplexer.System.Bench

/-! Runs on a bench. A poller is opened there and called any number of times, while the owner of the
descriptors reads, writes and closes them. What theorems on pollers take for granted of a system is
true of this one: the accounts of its ring stay in order, so completions come only for polls that owe
them. -/
namespace Multiplexer

/-- What else happens on a bench while a poller is there. -/
inductive Bench.Moves (b : Bench) : Bench → Prop
  | share (s : Session) : Moves b (b.share s)
  | openSockets (first second : String) : Moves b (b.openSockets first second)
  | openPipe (reader writer : String) : Moves b (b.openPipe reader writer)
  | openFile (name : String) : Moves b (b.openFile name)
  | write (fd : Descriptor) (length : Nat) : Moves b (b.write fd length).2
  | read (fd : Descriptor) (room : Nat) : Moves b (b.read fd room).2
  | finishWriting (name : String) : Moves b (b.finishWriting name)
  | close (name : String) : Moves b (b.close name)
  | wakeLater (channel : Channel) (span : Nat) : Moves b (b.wakeLater channel span)

/-- What is said to the kernel of a bench, from a moment on at which no ring was busy. -/
inductive Bench.Lived : Transcript → Bench → Prop
  | start {b : Bench} : b.kernel.Idle → Lived [] b
  | asked {t : Transcript} {b : Bench} (call : Call) : Lived t b →
      Lived (t ++ [.asked call (Kernel.respond call b.kernel).1])
        { b with kernel := (Kernel.respond call b.kernel).2 }
  | noted {t : Transcript} {b : Bench} (record : Record) : Lived t b →
      Lived (t ++ [.noted record]) b
  | moved {t : Transcript} {b b' : Bench} : Lived t b → b.Moves b' → Lived t b'

namespace Bench

open Kernel

variable {b b' : Bench} {t : Transcript}

theorem Moves.keeps (moves : b.Moves b') : Keeps b.kernel b'.kernel := by
  cases moves with
  | share s =>
      unfold Bench.share
      split
      · exact room_keeps _ _
      · exact .refl _
  | openSockets => exact installPair_keeps b.kernel (.socket · [] false false) (.socket · [] false false)
  | openPipe => exact installPair_keeps b.kernel (.pipeReader · []) (.pipeWriter · false)
  | openFile => exact install_keeps b.kernel .regular
  | write fd length => exact write_keeps b.kernel fd length
  | read fd room => exact read_keeps b.kernel fd room
  | finishWriting name =>
      unfold Bench.finishWriting
      split
      · exact .refl _
      · exact finishWriting_keeps _ _
  | close name =>
      unfold Bench.close
      split
      · exact .refl _
      · exact close_keeps _ _
  | wakeLater channel span =>
      unfold Bench.wakeLater
      split
      · exact writeLater_keeps _ _ _ _
      · exact writeLater_keeps _ _ _ _
      · exact .refl _
      · exact .refl _

namespace Lived

/-- A dialogue held on the bench. -/
theorem perform {α : Type} (p : Dialogue α) (lived : Lived t b) :
    Lived (t ++ (p.perform respond b.kernel).transcript)
      { b with kernel := (p.perform respond b.kernel).system } := by
  induction p generalizing t b with
  | done a =>
      rw [Dialogue.perform, List.append_nil]
      exact lived
  | ask call next ih =>
      have rest := ih (respond call b.kernel).1 (lived.asked call)
      rw [List.append_assoc] at rest
      exact rest
  | note record next ih =>
      have rest := ih (lived.noted record)
      rw [List.append_assoc] at rest
      exact rest
  | halt why =>
      rw [Dialogue.perform, List.append_nil]
      exact lived

theorem run {α : Type} (p : Sys α) (lived : Lived t b) :
    Lived (t ++ ((p patience).perform respond b.kernel).transcript) (b.run p).2 :=
  lived.perform _

/-- Every reply is the kernel's. -/
theorem replied {call : Call} {reply : call.Reply} (lived : Lived t b)
    (said : .asked call reply ∈ t) : ∃ k, reply = (respond call k).1 := by
  induction lived with
  | start => cases said
  | @asked _ b other _ ih =>
      rcases List.mem_append.mp said with said | said
      · exact ih said
      · cases List.mem_singleton.mp said
        exact ⟨b.kernel, rfl⟩
  | noted _ _ ih =>
      rcases List.mem_append.mp said with said | said
      · exact ih said
      · cases List.mem_singleton.mp said
  | moved _ _ ih => exact ih said

theorem inOrder (lived : Lived t b) (apart : t.Apart) : InOrder t b.kernel := by
  induction lived with
  | start idle => exact idle.inOrder
  | asked call _ ih =>
      obtain ⟨before, last⟩ := Transcript.apart_append.mp apart
      exact (ih before).respond call (last _ (List.mem_singleton_self _))
  | noted record _ ih =>
      exact (ih (Transcript.apart_append.mp apart).1).aside rfl
  | moved _ moves ih => exact (ih apart).keep moves.keeps

/-- What is taken for granted of a ring is true. -/
theorem lawful (lived : Lived t b) (apart : t.Apart) : t.Lawful := by
  induction lived with
  | start => exact Transcript.lawful_iff.mpr trivial
  | asked call before ih =>
      have kept := ih (Transcript.apart_append.mp apart).1
      refine kept.snoc (fun entered => ?_) nonneg_of_opened
      exact (((before.asked call).inOrder apart).accounted entered).owed
  | noted record _ ih => exact (ih (Transcript.apart_append.mp apart).1).snoc nofun nofun
  | moved _ _ ih => exact ih apart

theorem orderly (lived : Lived t b) (apart : t.Apart) : t.Orderly := by
  induction lived with
  | start => exact fun _ within => absurd within (Nat.not_lt_zero _)
  | asked call before ih =>
      have kept := ih (Transcript.apart_append.mp apart).1
      refine kept.snoc ⟨fun entry entered => ?_, fun fd opened => ?_⟩
      · exact (((before.asked call).inOrder apart).accounted entered).due
      · exact nonneg_of_opened (Step.of_opened opened)
  | noted record _ ih => exact (ih (Transcript.apart_append.mp apart).1).snoc ⟨nofun, nofun⟩
  | moved _ _ ih => exact ih apart

theorem bounded {s : Step} (lived : Lived t b) (said : s ∈ t) : s.bounded = true := by
  cases s with
  | asked call reply =>
      obtain ⟨k, rfl⟩ := lived.replied said
      exact respond_bounded call k
  | noted record => rfl

theorem counted {u : Transcript} (lived : Lived t b) (within : ∀ s ∈ u, s ∈ t) : u.Counted := by
  intro selected found none fd
  obtain ⟨s, said, found⟩ := List.exists_of_findSome?_eq_some found
  cases s with
  | asked call reply =>
      obtain ⟨k, rfl⟩ := lived.replied (within _ said)
      exact respond_counted found none fd
  | noted record => cases found

/-- A poll without a timeout waits until there is something to tell. -/
theorem obliging {x : Exchange} (lived : Lived t b) (within : ∀ s ∈ x.transcript, s ∈ t)
    (op : x.operation = .poll none) (ringless : x.before.facility ≠ .ring)
    (positive : 0 < x.before.batch) : ∀ s ∈ x.transcript, s.obliging = true := by
  obtain ⟨call, reply, rest, said, ⟨-, g, span, -, wait, honours⟩, waitless⟩ :=
    (x.awaits op).resolve_left ringless
  obtain rfl : span = none := honours.endless.mpr rfl
  obtain ⟨k, rfl⟩ : ∃ k, reply = (respond call k).1 :=
    lived.replied (within _ (said ▸ List.mem_cons_self))
  have room : ∀ queue millis, call ≠ .epollWait queue 0 millis := by
    rintro queue millis rfl
    obtain ⟨p, before⟩ := Backend.eq_epoll (congrArg Wait.facility (Option.some.inj wait)).symm
    obtain ⟨_, -, served⟩ := x.epoll_served before
    rw [op] at served
    obtain ⟨_, _, first⟩ := served.waits
    obtain ⟨same, -⟩ := Step.asked.inj (List.head_eq_of_cons_eq (said.symm.trans first))
    have none : 0 = p.batch := (Call.epollWait.inj same).2.1
    rw [before] at positive
    exact absurd none positive.ne
  rw [said]
  refine List.forall_mem_cons.mpr ⟨respond_obliging wait room, fun s hs => ?_⟩
  exact Step.obliging_of_waitless (waitless s hs)

end Lived
end Bench

/-! ### Histories -/

open Multiplexer.Ring

theorem Ring.create_apart {config : Config} {n : Nat} :
    Sys.Gives (Ring.create config) n fun t r => t.Apart ∧ r.queues.Apart := by
  refine create_created.mono fun t r created => ?_
  obtain ⟨silent, first, second, enters, noted⟩ := created
  have pushed := ((KeepsApart.aside silent).trans (first.keepsApart trivial)).trans
    (second.keepsApart trivial)
  exact ((pushed.trans (.enter enters)).trans (.aside noted)) (List.forall_mem_nil _)

theorem Run.apart {b c : Backend} {r : Ring} {xs : List Exchange} (run : Run b xs c)
    (ring : b = .ring r) (sound : b.Sound) (start : r.queues.Apart) :
    ∃ r', c = .ring r' ∧ r'.queues.Apart ∧
      Transcript.Apart (xs.flatMap (·.transcript)) := by
  induction run with
  | start => exact ⟨r, ring, start, List.forall_mem_nil _⟩
  | @step xs x before ih =>
      obtain ⟨r₁, same, queued, said⟩ := ih
      have wf : r₁.registry.WellFormed := (before.sound sound).of_ring same
      obtain ⟨r', after, served⟩ := x.ring_served same wf
      obtain ⟨now, kept⟩ := served.keepsApart queued
      refine ⟨r', after, kept, ?_⟩
      rw [List.flatMap_append, List.flatMap_singleton]
      exact Transcript.apart_append.mpr ⟨said, now⟩

/-- A ring hands over withdrawals with data of their own from its opening on. -/
theorem History.apart (h : History) {r : Ring} (ring : h.finish = .ring r) :
    h.transcript.Apart := by
  obtain ⟨r₀, n, start, follows⟩ := h.opened_ring ring
  obtain ⟨opened, queued⟩ := create_apart follows _ rfl
  obtain ⟨_, -, -, said⟩ := h.run.apart start h.opened.sound queued
  exact Transcript.apart_append.mpr ⟨opened, said⟩

/-- A facility that is opened on an idle bench begins a history there. -/
theorem Bench.Lived.opening {α : Type} {create : Config → ExceptT Error Sys α} {wrap : α → Backend}
    (opened : ∀ {config p n t}, Dialogue.Follows ((create config).run n) t (.ok (.ok p)) →
      (wrap p).Opened config t)
    {b : Bench} (idle : b.kernel.Idle) {config : Config} {p : α}
    (result : (b.run (create config).run).1 = .ok (.ok p)) :
    ∃ h : History, h.finish = wrap p ∧ Bench.Lived h.transcript (b.run (create config).run).2 := by
  have lived := (Bench.Lived.start idle).run (create config).run
  have follows := Dialogue.follows_perform Kernel.respond ((create config).run Bench.patience) b.kernel
  rw [show (((create config).run Bench.patience).perform Kernel.respond b.kernel).result =
    .ok (.ok p) from result] at follows
  let h : History :=
    { config
      opening := _
      start := wrap p
      exchanges := []
      finish := wrap p
      opened := opened follows
      run := .start _ }
  refine ⟨h, rfl, ?_⟩
  rw [History.transcript, List.flatMap_nil, List.append_nil]
  exact lived

example : ∃ (h : History) (r : Ring) (b : Bench), h.finish = .ring r ∧ Bench.Lived h.transcript b := by
  have opens : ((Bench.start.run (Ring.create {}).run).1.toOption.bind (·.toOption)).isSome = true := by
    decide +kernel
  cases result : (Bench.start.run (Ring.create {}).run).1 with
  | error why =>
      rw [result] at opens
      cases opens
  | ok answer =>
      cases answer with
      | error e =>
          rw [result] at opens
          cases opens
      | ok r =>
          obtain ⟨h, finish, lived⟩ := Bench.Lived.opening .ring Kernel.initial_idle result
          exact ⟨h, r, _, finish, lived⟩

/-- Every call that is answered on the bench goes on with it. -/
theorem Bench.Lived.call {h : History} {b : Bench} (lived : Bench.Lived h.transcript b)
    {op : Operation} {answer : Answer} {after : Backend}
    (result : (b.run (h.finish.serve op)).1 = .ok (answer, after)) :
    ∃ h' : History, h'.finish = after ∧ Bench.Lived h'.transcript (b.run (h.finish.serve op)).2 := by
  have further := lived.run (h.finish.serve op)
  have follows := Dialogue.follows_perform Kernel.respond (h.finish.serve op Bench.patience) b.kernel
  rw [show ((h.finish.serve op Bench.patience).perform Kernel.respond b.kernel).result =
    .ok (answer, after) from result] at follows
  let x : Exchange := ⟨h.finish, op, _, answer, after, ⟨Bench.patience, follows⟩⟩
  refine ⟨{ h with exchanges := h.exchanges ++ [x], finish := x.after, run := .step h.run }, rfl, ?_⟩
  rw [History.transcript, List.flatMap_append, List.flatMap_singleton, ← List.append_assoc]
  exact further

/-- The history of a poller on a bench keeps to all that is taken for granted of a system: its waits
bring no more than there is room for, and something if they have no end, its selects count what they
found, and if it is that of a ring, completions come only for polls that owe them, and no negative
number is an open descriptor. -/
theorem History.granted_on_bench (h : History) {b : Bench} (lived : Bench.Lived h.transcript b) :
    (∀ s ∈ h.transcript, s.bounded = true) ∧ (∀ x ∈ h.exchanges, x.transcript.Counted) ∧
    (∀ x ∈ h.exchanges, x.operation = .poll none → x.before.facility ≠ .ring →
      ∀ s ∈ x.transcript, s.obliging = true) ∧
    ∀ r, h.finish = .ring r → h.transcript.Lawful ∧ h.transcript.Orderly := by
  have within : ∀ x ∈ h.exchanges, ∀ s ∈ x.transcript, s ∈ h.transcript := fun x called s said =>
    List.mem_append_right _ (List.mem_flatMap.mpr ⟨x, called, said⟩)
  refine ⟨fun s said => lived.bounded said, fun x called => lived.counted (within x called),
    fun x called op ringless => ?_, fun r ring => ?_⟩
  · obtain ⟨es, fs, split⟩ := List.append_of_mem called
    have positive : 0 < x.before.batch := (h.upTo split).batch_kept ▸ h.config.batchSize_pos
    exact lived.obliging (within x called) op ringless positive
  · exact ⟨lived.lawful (h.apart ring), lived.orderly (h.apart ring)⟩

end Multiplexer

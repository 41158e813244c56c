import Multiplexer.Proofs.History.Effect

/-! What a facility is like when it has just been opened, and induction over what follows. -/
namespace Multiplexer
open Sys

variable {config : Config} {n : Nat}

/-- Nothing is registered yet, and a batch is as large as the settings say. -/
def Backend.Fresh (config : Config) (b : Backend) : Prop :=
  b.registry = .empty ∧ b.batch = config.batchSize

theorem Epoll.create_fresh :
    Gives (Epoll.create config) n fun _ p => (Backend.epoll p).Fresh config :=
  gives_last fun _ => gives_last fun _ => gives_last fun _ => gives_last fun _ =>
    gives_pure.mpr ⟨rfl, rfl⟩

theorem Kqueue.create_fresh :
    Gives (Kqueue.create config) n fun _ p => (Backend.kqueue p).Fresh config := by
  refine gives_last fun _ => gives_last fun _ => gives_last fun _ => gives_last fun result => ?_
  cases result with
  | error e => exact gives_last fun _ => gives_throw
  | ok => exact gives_last fun _ => gives_pure.mpr ⟨rfl, rfl⟩

theorem BitmapSelect.create_fresh :
    Gives (BitmapSelect.create config) n fun _ p => (Backend.bitmap p).Fresh config := by
  refine gives_last fun _ => ?_
  split
  · exact gives_last fun _ => gives_pure.mpr ⟨rfl, rfl⟩
  · exact gives_throw

theorem SocketSelect.create_fresh :
    Gives (SocketSelect.create config) n fun _ p => (Backend.socket p).Fresh config :=
  gives_last fun _ => gives_last fun _ => gives_pure.mpr ⟨rfl, rfl⟩

theorem CompletionPort.create_fresh :
    Gives (CompletionPort.create config) n fun _ p => (Backend.port p).Fresh config :=
  gives_last fun _ => gives_last fun _ => gives_pure.mpr ⟨rfl, rfl⟩

theorem Ring.pushFirst_pushed {r : Ring} {request : Request} :
    Gives (r.pushFirst request) n fun t r' =>
      ∃ queues, Pushed r.queues request t (.ok (), queues) ∧ r' = { r with queues } := by
  unfold Gives pushFirst
  rw [ExceptT.run_mk, yields_bind]
  refine (push_pushed _ _).mono₂ fun t result queues pushed => ?_
  cases result with
  | error c =>
      rw [yields_pure]
      rintro r' ⟨⟩
  | ok =>
      rw [yields_pure, List.append_nil]
      rintro r' ⟨⟩
      exact ⟨queues, pushed, rfl⟩

def Ring.bare (config : Config) (waker timer : Descriptor) : Ring where
  queues := .empty config.queueLength.nextPowerOfTwo
  registry := .empty
  waker := ⟨waker⟩
  timer := ⟨timer⟩
  multishot := config.ring.multishot
  rearm := []
  cancels := []
  rearmWaker := false
  rearmTimer := false
  batch := config.batchSize

/-- How a ring is opened: both internal polls are pushed, and submitted at once. -/
inductive Ring.Created (config : Config) : Transcript → Ring → Prop
  | created {waker timer : Descriptor} {first second : Queues} {entered : Entered} {s : Step}
      {t u v noted : Transcript} : t.Silent →
      Pushed (bare config waker timer).queues
        ((bare config waker timer).watch waker .input wakeKey) u (.ok (), first) →
      Pushed first ((bare config waker timer).watch timer .input timerKey) v (.ok (), second) →
      s.entered? = some (second, entered) → noted.Silent →
      Created config (t ++ u ++ v ++ [s] ++ noted)
        { bare config waker timer with queues := second.after entered }

theorem Ring.create_created : Gives (Ring.create config) n fun t r => Created config t r := by
  refine gives_bind.mpr (gives_require.mpr (yields_ask.mpr fun set _ _ => ?_))
  refine gives_bind.mpr (gives_require.mpr (yields_ask.mpr fun probed unknown _ => ?_))
  split
  · exact gives_throw
  refine gives_bind.mpr (gives_require.mpr (yields_ask.mpr fun counted waker _ => ?_))
  refine gives_bind.mpr (gives_require.mpr (yields_ask.mpr fun timed timer _ => ?_))
  refine gives_bind.mpr (pushFirst_pushed.mono fun u r₁ first => ?_)
  refine gives_bind.mpr (pushFirst_pushed.mono fun v r₂ second => ?_)
  refine gives_bind.mpr (gives_lift.mpr (yields_ask.mpr fun entered : Entered => ?_))
  split
  · exact gives_throw
  refine gives_bind.mpr (gives_lift.mpr (yields_note.mpr (gives_pure.mpr ?_)))
  have silent : Transcript.Silent [.asked (.ringSetup config.queueLength) set,
      .asked .ringProbe probed, .asked (.counterCreate true true) counted,
      .asked (.timerCreate true true) timed] :=
    Transcript.silent_cons rfl (Transcript.silent_cons rfl (Transcript.silent_cons rfl
      (Transcript.silent_singleton rfl)))
  have noted : Transcript.Silent [.noted (.ringOpened config.queueLength config.ring.multishot)] :=
    Transcript.silent_singleton rfl
  simp only [← List.append_assoc, List.append_nil]
  obtain ⟨queues₁, pushed₁, rfl⟩ := first
  obtain ⟨queues₂, pushed₂, rfl⟩ := second
  exact .created silent pushed₁ pushed₂ rfl noted

/-- A ring is opened with nothing registered, and asks for the polls it was told to ask for. -/
theorem Ring.create_fresh : Gives (Ring.create config) n fun _ p =>
    p.registry = .empty ∧ p.multishot = config.ring.multishot := by
  refine create_created.mono fun _ _ created => ?_
  cases created
  exact ⟨rfl, rfl⟩

theorem Backend.Opened.fresh {t : Transcript} {b : Backend} (h : b.Opened config t) :
    b.Fresh config := by
  cases h with
  | epoll follows => exact Epoll.create_fresh follows _ rfl
  | kqueue follows => exact Kqueue.create_fresh follows _ rfl
  | bitmap follows => exact BitmapSelect.create_fresh follows _ rfl
  | socket follows => exact SocketSelect.create_fresh follows _ rfl
  | port follows => exact CompletionPort.create_fresh follows _ rfl
  | ring follows =>
      cases Ring.create_created follows _ rfl
      exact ⟨rfl, rfl⟩

theorem Backend.Opened.registry_eq {t : Transcript} {b : Backend} (h : b.Opened config t) :
    b.registry = .empty := h.fresh.1

/-- What holds at first and is kept by every exchange holds before and after each. -/
theorem Run.invariant {P : Backend → Prop} {b c : Backend} {xs : List Exchange} (run : Run b xs c)
    (start : P b) (step : ∀ x : Exchange, P x.before → P x.after) : P c := by
  induction run with
  | start => exact start
  | step _ ih => exact step _ ih

end Multiplexer

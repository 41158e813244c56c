import Multiplexer.Kind

/-! Settings of a poller. A batch or a queue length of zero means the default. -/
namespace Multiplexer

def defaultMaxBatch : Nat := 256

def defaultQueueLength : Nat := 2048

structure RingConfig where
  queueLength : Nat := defaultQueueLength
  /-- Ask for polls that stay armed after a report. -/
  multishot : Bool := false
  deriving DecidableEq, Repr

structure Config where
  kind : Kind := .auto
  /-- Bounds the records fetched and the events dispatched by one poll. -/
  maxBatch : Nat := 0
  /-- Registrations expected, a hint only. -/
  capacity : Nat := 64
  ring : RingConfig := {}
  deriving DecidableEq, Repr

namespace Config

def batchSize (c : Config) : Nat := if c.maxBatch = 0 then defaultMaxBatch else c.maxBatch

theorem batchSize_pos (c : Config) : 0 < c.batchSize := by
  unfold batchSize
  split
  · decide
  · exact Nat.pos_of_ne_zero ‹_›

def queueLength (c : Config) : Nat :=
  if c.ring.queueLength = 0 then defaultQueueLength else c.ring.queueLength

def describe (c : Config) : String :=
  "PollerConfig \x7b backend: " ++ c.kind.title ++ ", max_batch: " ++ toString c.maxBatch ++
    ", capacity: " ++ toString c.capacity ++ ", iouring: IoUringConfiguration \x7b queue_len: " ++
    toString c.ring.queueLength ++ ", multishot: " ++ toString c.ring.multishot ++ " \x7d \x7d"

end Config
end Multiplexer

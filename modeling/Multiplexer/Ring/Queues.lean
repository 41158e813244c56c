import Multiplexer.Errno
import Multiplexer.Event
import Multiplexer.PollMask

/-! The two queues a ring shares with the system. Requests are pushed while there is room and taken
off the front by the system; completions arrive at the back and are taken off the front here. -/
namespace Multiplexer.Ring

inductive Request where
  /-- Watch a descriptor for `mask`; a multishot poll stays armed after a report. -/
  | poll (descriptor : Descriptor) (mask : PollMask) (multishot : Bool) (data : UInt64)
  /-- Withdraw the poll whose data are `target`. -/
  | cancel (target data : UInt64)
  deriving DecidableEq, Repr

/-- The answer to a request, told apart by the request's data. -/
structure Completion where
  data : UInt64
  result : Int32
  flags : UInt32
  deriving DecidableEq, Repr

/-- The request stays armed: more completions will follow. -/
def Completion.more (c : Completion) : Bool := c.flags &&& 2 != 0

structure Queues where
  capacity : Nat
  requests : List Request
  completions : List Completion
  deriving DecidableEq, Repr

/-- What the system did when it entered the ring: completions it posted, how many requests it took
off the front, and whether the call was refused. -/
structure Entered where
  posted : List Completion
  taken : Nat
  result : Except Errno Unit

namespace Queues

def empty (capacity : Nat) : Queues := ⟨capacity, [], []⟩

def isFull (q : Queues) : Bool := q.capacity ≤ q.requests.length

/-- Places for more completions: their queue has twice as many as that for requests. -/
def completionRoom (q : Queues) : Nat := 2 * q.capacity - q.completions.length

def append (q : Queues) (r : Request) : Queues := { q with requests := q.requests ++ [r] }

def after (q : Queues) (e : Entered) : Queues :=
  { q with
    requests := q.requests.drop e.taken
    completions := q.completions ++ e.posted }

end Queues
end Multiplexer.Ring

import Multiplexer.Interest

/-! Poll masks, the bits by which Linux asks for conditions and reports them. Interest in reading
also asks to hear of a peer that stopped writing; errors and hangups are reported unasked. -/
namespace Multiplexer

abbrev PollMask := UInt32

namespace PollMask

def input : PollMask := 0x1
def priority : PollMask := 0x2
def output : PollMask := 0x4
def error : PollMask := 0x8
def hangup : PollMask := 0x10
def invalid : PollMask := 0x20
def peerHangup : PollMask := 0x2000

def meets (mask bits : PollMask) : Bool := mask &&& bits != 0

/-- What a record of an epoll wait reports. -/
def epollReady (mask : PollMask) : Interest where
  read := mask.meets (input ||| priority)
  write := mask.meets output
  error := mask.meets error
  hangup := mask.meets (hangup ||| peerHangup)

/-- What the result of a ring's poll reports; here a descriptor can also be invalid. -/
def ringReady (mask : PollMask) : Interest where
  read := mask.meets (input ||| priority)
  write := mask.meets output
  error := mask.meets (error ||| invalid)
  hangup := mask.meets (hangup ||| peerHangup)

end PollMask

def Interest.pollMask (i : Interest) : PollMask :=
  (if i.read then .input ||| .peerHangup else 0) ||| (if i.write then .output else 0)

end Multiplexer

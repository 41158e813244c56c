/-! Error numbers of the operating systems, those by which the facilities tell outcomes apart. -/
namespace Multiplexer

abbrev Errno := Int32

namespace Errno

def notPermitted : Errno := 1
def noEntry : Errno := 2
def interrupted : Errno := 4
def badDescriptor : Errno := 9
def wouldBlock : Errno := 11
def busy : Errno := 16
def alreadyExists : Errno := 17
def noDevice : Errno := 19
def invalidArgument : Errno := 22
def brokenPipe : Errno := 32
def notImplemented : Errno := 38
def timerExpired : Errno := 62
def connectionReset : Errno := 104
def already : Errno := 114
def cancelled : Errno := 125

/-- Completion ports: a wait ended without a packet. -/
def waitTimeout : Errno := 258

/-- Completion ports: the handle cannot be associated, or is so already. -/
def invalidParameter : Errno := 87

/-- Sockets: a wait was interrupted. -/
def socketInterrupted : Errno := 10004

/-- The numbers with which a facility says that a descriptor has left it by itself. -/
def isAlreadyGone (e : Errno) : Bool :=
  e == badDescriptor || e == noEntry || e == notPermitted || e == brokenPipe

end Errno

end Multiplexer

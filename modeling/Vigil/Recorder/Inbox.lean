import Vigil.Recorder
/-!
A recorder and the channel that feeds it. Results wait in the channel, in the order in which they
were sent, until the recorder listens; it stops when the senders are gone and nothing waits. The
channel has room for so many results, and whoever has one more waits before it is sent.
-/

namespace Vigil

structure Inbox where
  recorder : Recorder
  /-- The results that were sent and not yet taken, the oldest first. -/
  waiting : List CheckResult := []
  /-- Whether somebody can still send. -/
  hasSender : Bool := true
  /-- Whether somebody can still receive. -/
  hasReceiver : Bool := true
  listening : Bool := false
  stopped : Bool := false

namespace Inbox

/-- How many results the channel has room for. -/
def capacity : Nat := 100

/-- Whether a result can be sent and will be taken. -/
def isOpen (i : Inbox) : Bool := i.hasSender && i.hasReceiver

/-- Send a result, if there is room for it. Nobody does so once the senders are gone, and it fails
once the receiver is. -/
def send? (i : Inbox) (result : CheckResult) : Option Inbox :=
  if i.isOpen then some { i with waiting := i.waiting ++ [result] } else none

def listen (i : Inbox) : Inbox := { i with listening := true }

/-- Drop the senders. What waits can still be taken. -/
def hangUp (i : Inbox) : Inbox := { i with hasSender := false }

/-- Stop the recorder, and drop the receiver with what waits. -/
def abort (i : Inbox) : Inbox := { i with waiting := [], hasReceiver := false, stopped := true }

/-- Let the recorder take what waits, if it listens. -/
def drain (i : Inbox) : Inbox × List Recorder.Notice :=
  if i.listening && !i.stopped then
    let (recorder, notices) := i.recorder.recordAll i.waiting
    ({ i with recorder, waiting := [], stopped := !i.hasSender },
      notices ++ if i.hasSender then [] else [.channelClosed])
  else (i, [])

end Inbox

end Vigil

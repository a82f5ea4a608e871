import Opener.Core.Stack

/-!
The TCP side of the network handler, `generic_networkhandler.c`: new clients on
the listener socket, in between the steps of the stack.
-/

namespace Opener

namespace StackState

variable (cfg : Config)

/-- `SocketTimerArrayGetEmptySocketTimer` on the socket timers. -/
def getEmptySocketTimer (st : StackState) : Option Nat :=
  st.timestamps.findIdx? fun t => t.socket = eipInvalidSocket

/-- `CheckAndHandleTcpListenerSocket` with the result of `accept`. The timer is looked
up for the assertion only; it is filled when the client registers a session. -/
def checkAndHandleTcpListenerSocket (newSocket : Int) (st : StackState) :
    Except Fault StackState :=
  if newSocket = eipInvalidSocket then .ok st
  else
    match st.getEmptySocketTimer with
    | none => .error .assertionFailed
    | some _ => .ok { st with masterSocket := newSocket :: st.masterSocket }

inductive NetworkAction where
  | accept (newSocket : Int)
  | stack (action : Action)

/-- A step of the stack or a new client. -/
def networkStep (label : Environment × NetworkAction) (st : StackState) :
    Except Fault StackState :=
  match label with
  | (_, .accept newSocket) => st.checkAndHandleTcpListenerSocket newSocket
  | (env, .stack action) => st.step cfg (env, action)

end StackState

end Opener

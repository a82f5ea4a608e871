import Opener.Core.State

/-!
The searches over `connection_list`, its two mutations, and the socket calls.
An input or output point is always the instance number of a path, so these
parameters have its width.
-/

namespace Opener

namespace StackState

variable (cfg : Config) (st : StackState)

/-- The first listed connection with a property of its object. -/
def findConnection (p : ConnRef → CipConnectionObject → Bool) : Option ConnRef :=
  (st.connectionList cfg).find? fun r => p r (st.conn r)

def getConnectedObject (connectionId : UInt32) : Option ConnRef :=
  st.findConnection cfg fun _ c =>
    c.state = .established && c.cipConsumedConnectionId = connectionId

/-- The argument is called an output assembly, but the produced path is compared. -/
def getConnectedOutputAssembly (outputAssemblyId : UInt16) : Option ConnRef :=
  st.findConnection cfg fun _ c =>
    c.instanceType = .ioExclusiveOwner &&
      (c.state = .established || c.state = .timedOut) &&
      c.producedPath.instanceId = outputAssemblyId

def checkForExistingConnection (c : CipConnectionObject) : Option ConnRef :=
  st.findConnection cfg fun _ d => d.state = .established && c.equalConnectionTriad d

def getExistingProducerIoConnection (multicastOnly : Bool) (inputPoint : UInt16) :
    Option ConnRef :=
  st.findConnection cfg fun _ c =>
    c.isTypeIOConnection && c.producedPath.instanceId = inputPoint &&
      c.producingSocket ≠ eipInvalidSocket &&
      (c.tToOConnectionType = .multicast ||
        (!multicastOnly && c.tToOConnectionType = .pointToPoint))

def getNextNonControlMasterConnection (inputPoint : UInt16) : Option ConnRef :=
  st.findConnection cfg fun _ c =>
    c.isTypeNonLOIOConnection && c.state = .established &&
      c.producedPath.instanceId = inputPoint && c.tToOConnectionType = .multicast &&
      c.producingSocket = eipInvalidSocket

def connectionWithSameConfigPointExists (configPoint : UInt16) : Bool :=
  (st.findConnection cfg fun _ c => c.configurationPath.instanceId = configPoint).isSome

def addNewActiveConnection (r : ConnRef) : Except Fault StackState :=
  let list := st.store.connectionList
  match list.insertAtHead (list.listArrayAllocator cfg.nodesAmount) r with
  | .error fault => .error fault
  | .ok list =>
      .ok (modifyConn { st with store := { st.store with connectionList := list } } r
        fun c => c.setState .established)

/-- Without a matching node only a trace message is written. -/
def removeFromActiveConnections (r : ConnRef) : StackState :=
  let list := st.store.connectionList
  match (list.nodeNumbers cfg.nodesAmount).find? fun n => (list.nodes n).data = some r with
  | none => st
  | some n => { st with store := { st.store with connectionList := list.removeNode n } }

/-- `CloseSocket`, which is all of `CloseUdpSocket`. -/
def closeSocket (socket : Int) : StackState :=
  if socket ≠ eipInvalidSocket then
    { st with masterSocket := st.masterSocket.filter fun s => s ≠ socket }
  else st

/-- At most so many turns of the loop of `RemoveSocketTimerFromList`, each of which
clears the first timer of the socket; none when the loop has not ended by then. -/
def clearTimers (socket : Int) : Nat → List SocketTimer → Option (List SocketTimer)
  | turns, timers =>
    match timers.findIdx? fun t => t.socket = socket with
    | none => some timers
    | some i =>
      match turns with
      | 0 => none
      | turns + 1 => clearTimers socket turns (timers.set i {})

/-- The loop clears the first timer of the socket until there is none; a cleared
timer carries the invalid socket, so for that socket it may never end. -/
def removeSocketTimerFromList (socket : Int) : Except Fault StackState :=
  if socket = eipInvalidSocket ∧ st.timestamps.any (fun t => t.socket = eipInvalidSocket) then
    .error .endlessTimerLoop
  else
    .ok { st with timestamps :=
      st.timestamps.map fun t => if t.socket = socket then {} else t }

def closeTcpSocket (socket : Int) : Except Fault StackState :=
  match st.removeSocketTimerFromList socket with
  | .error fault => .error fault
  | .ok st => .ok (st.closeSocket socket)

/-- Sockets are closed only for connections that are not of class 3. -/
def closeConnection (r : ConnRef) : StackState :=
  let closed :=
    if (st.conn r).transportClass ≠ .class3 then
      ((st.closeSocket (st.conn r).consumingSocket).closeSocket
        (st.conn r).producingSocket).modifyConn r fun c =>
          { c with
            consumingSocket := eipInvalidSocket
            producingSocket := eipInvalidSocket }
    else st
  (closed.removeFromActiveConnections cfg r).setConn r .initializeEmpty

def closeCommunicationChannelsAndRemoveFromActiveConnectionsList (r : ConnRef) :
    StackState :=
  (((st.closeSocket (st.conn r).consumingSocket).closeSocket
    (st.conn r).producingSocket).removeFromActiveConnections cfg r).setConn r
      .initializeEmpty

/-- `GetConnectionId` without `OPENER_RANDOMIZE_CONNECTION_ID`. -/
def getConnectionId : UInt32 × StackState :=
  let next := st.connectionId + 1
  (cfg.incarnationId ||| next.toUInt32, { st with connectionId := next })

end StackState

end Opener

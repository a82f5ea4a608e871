import Opener.Core.ActiveConnections

/-!
Closing and timing out connections: `cipioconnection.c`, `appcontype.c`,
`cipclass3connection.c` and the session functions of `encap.c`. The recursion
through the close functions is cut by a depth; closing a listen-only connection
never closes another one, so depth two is enough.
-/

namespace Opener

open LinkedCells

namespace StackState

variable (cfg : Config)

/-- None when there is no connection to take over. -/
def transferMasterConnection (r : ConnRef) (st : StackState) : Option StackState :=
  match st.getNextNonControlMasterConnection cfg (st.conn r).producedPath.instanceId with
  | none => none
  | some active =>
      let object := st.conn r
      some ((st.modifyConn active fun c =>
        { c with
          producingSocket := object.producingSocket
          remoteAddress := object.remoteAddress
          eipLevelSequenceCountProducing := object.eipLevelSequenceCountProducing
          sequenceCountProducing := object.sequenceCountProducing
          transmissionTriggerTimer := object.transmissionTriggerTimer }).modifyConn r
        fun c => { c with producingSocket := eipInvalidSocket })

/-- The loop saves the next node before it calls the close function. -/
def closeAllConnectionsForInputWithSameType
    (close : ConnRef → StackState → Except Fault StackState) (inputPoint : UInt16)
    (instanceType : ConnectionObjectInstanceType) (st : StackState) :
    Except Fault StackState :=
  savedWalk nodes .freedNode .nonTermination
    (fun r s =>
      if (s.conn r).instanceType = instanceType ∧
          (s.conn r).producedPath.instanceId = inputPoint then
        match close r (s.checkIoConnectionEvent (s.conn r) .closed) with
        | .error fault => .error fault
        | .ok s => .ok (.continue s)
      else .ok (.continue s))
    cfg.nodesAmount st.store.connectionList.first st

/-- A connection that produces multicast data for others: only an exclusive
owner or input-only connection with a producing socket does. -/
def isMulticastMaster (c : CipConnectionObject) : Bool :=
  (c.instanceType = .ioExclusiveOwner || c.instanceType = .ioInputOnly) &&
    c.tToOConnectionType = .multicast && c.producingSocket ≠ eipInvalidSocket

def closeIoConnection (close : ConnRef → StackState → Except Fault StackState)
    (r : ConnRef) (st : StackState) : Except Fault StackState :=
  let st := (st.checkIoConnectionEvent (st.conn r) .closed).modifyConn r
    fun c => c.setState .nonExistent
  let handedOver : Except Fault StackState :=
    if isMulticastMaster (st.conn r) then
      match st.transferMasterConnection cfg r with
      | some st => .ok st
      | none =>
          st.closeAllConnectionsForInputWithSameType cfg close
            (st.conn r).producedPath.instanceId .ioListenOnly
    else .ok st
  match handedOver with
  | .error fault => .error fault
  | .ok st => .ok (st.closeCommunicationChannelsAndRemoveFromActiveConnectionsList cfg r)

/-- Calling `connection_close_function`. -/
def closeFunctionAt : Nat → ConnRef → StackState → Except Fault StackState
  | 0, _, _ => .error .nonTermination
  | depth + 1, r, st =>
      match (st.conn r).connectionCloseFunction with
      | none => .error .nullFunctionCall
      | some .closeConnection => .ok (st.closeConnection cfg r)
      | some .closeIoConnection => closeIoConnection cfg (closeFunctionAt depth) r st

def connectionCloseFunction (r : ConnRef) (st : StackState) : Except Fault StackState :=
  closeFunctionAt cfg 2 r st

/-- The loop fetches the next node after the close function returned. -/
def closeClass3ConnectionBasedOnSession (encapsulationSessionHandle : UInt32)
    (st : StackState) : Except Fault StackState :=
  liveWalk nodes .freedNode .nonTermination
    (fun r s =>
      if (s.conn r).transportClass = .class3 ∧
          (s.conn r).associatedEncapsulationSession = encapsulationSessionHandle then
        s.connectionCloseFunction cfg r
      else .ok s)
    cfg.nodesAmount st.store.connectionList.first st

/-- The index of the first session registered on the socket. -/
def sessionOfSocket (socket : Int) (st : StackState) : Option Nat :=
  st.registeredSessions.findIdx? fun s => s = socket

def clearSession (index : Nat) (st : StackState) : StackState :=
  { st with registeredSessions := st.registeredSessions.set index eipInvalidSocket }

def closeSession (socket : Int) (st : StackState) : Except Fault StackState :=
  match st.sessionOfSocket socket with
  | none => .ok st
  | some i =>
      match st.closeTcpSocket socket with
      | .error fault => .error fault
      | .ok st =>
          (st.clearSession i).closeClass3ConnectionBasedOnSession cfg (UInt32.ofNat (i + 1))

def removeSession (socket : Int) (st : StackState) : Except Fault StackState :=
  match st.sessionOfSocket socket with
  | none => .ok st
  | some i =>
      (st.clearSession i).closeClass3ConnectionBasedOnSession cfg (UInt32.ofNat (i + 1))

/-- A handle outside the session table is used as an index all the same. -/
def closeSessionBySessionHandle (c : CipConnectionObject) (st : StackState) :
    Except Fault StackState :=
  let index := (c.associatedEncapsulationSession - 1).toNat
  match st.registeredSessions[index]? with
  | none => .error .outOfBounds
  | some socket =>
      match st.closeTcpSocket socket with
      | .error fault => .error fault
      | .ok st => .ok (st.clearSession index)

/-- The loop of `CloseEncapsulationSessionBySockAddr` over the indices. -/
def closeSessionsOfPeer (env : Environment) (address : UInt32) :
    List Nat → StackState → Except Fault StackState
  | [], st => .ok st
  | i :: indices, st =>
      let socket := st.registeredSessions.getD i eipInvalidSocket
      if socket ≠ eipInvalidSocket ∧ env.peerName socket = address then
        match st.closeSession cfg socket with
        | .error fault => .error fault
        | .ok st => closeSessionsOfPeer env address indices st
      else closeSessionsOfPeer env address indices st

def closeEncapsulationSessionBySockAddr (env : Environment) (c : CipConnectionObject)
    (st : StackState) : Except Fault StackState :=
  st.closeSessionsOfPeer cfg env c.originatorAddress.sinAddr
    (List.range st.registeredSessions.length)

def checkForTimedOutConnectionsAndCloseTCPConnections (r : ConnRef)
    (closeSessions : CipConnectionObject → StackState → Except Fault StackState)
    (st : StackState) : Except Fault StackState :=
  let nonTimedOutConnectionFound := (st.findConnection cfg fun s c =>
    (st.conn r).equalOriginator c && s ≠ r && c.state ≠ .timedOut).isSome
  if nonTimedOutConnectionFound then .ok st else closeSessions (st.conn r) st

def class3ConnectionTimeoutHandler (r : ConnRef) (st : StackState) :
    Except Fault StackState :=
  match st.checkForTimedOutConnectionsAndCloseTCPConnections cfg r
      closeSessionBySessionHandle with
  | .error fault => .error fault
  | .ok st => .ok (st.closeConnection cfg r)

/-- The first half of `HandleIoConnectionTimeOut`, up to the session close. -/
def enterTimedOut (env : Environment) (r : ConnRef) (st : StackState) :
    Except Fault StackState :=
  let st := (st.checkIoConnectionEvent (st.conn r) .timedOut).modifyConn r
    fun c => c.setState .timedOut
  if (st.conn r).lastPackageWatchdogTimer = (st.conn r).inactivityWatchdogTimer then
    st.checkForTimedOutConnectionsAndCloseTCPConnections cfg r
      (closeEncapsulationSessionBySockAddr cfg env)
  else .ok st

/-- The hand-over; the flag tells whether it took place. -/
def handOverTimedOut (r : ConnRef) (st : StackState) :
    Except Fault (Bool × StackState) :=
  if isMulticastMaster (st.conn r) then
    match st.transferMasterConnection cfg r with
    | some st => .ok (true, st)
    | none =>
        match st.closeAllConnectionsForInputWithSameType cfg (connectionCloseFunction cfg)
            (st.conn r).producedPath.instanceId .ioListenOnly with
        | .error fault => .error fault
        | .ok st => .ok (false, st)
  else .ok (false, st)

/-- An exclusive owner that handed nothing over takes its input down with it. -/
def closeDependents (r : ConnRef) (handover : Bool) (st : StackState) :
    Except Fault StackState :=
  if (st.conn r).instanceType = .ioExclusiveOwner ∧ handover = false then
    match st.closeAllConnectionsForInputWithSameType cfg (connectionCloseFunction cfg)
        (st.conn r).producedPath.instanceId .ioInputOnly with
    | .error fault => .error fault
    | .ok st =>
        st.closeAllConnectionsForInputWithSameType cfg (connectionCloseFunction cfg)
          (st.conn r).producedPath.instanceId .ioListenOnly
  else .ok st

def handleIoConnectionTimeOut (env : Environment) (r : ConnRef) (st : StackState) :
    Except Fault StackState :=
  match st.enterTimedOut cfg env r with
  | .error fault => .error fault
  | .ok st =>
      match st.handOverTimedOut cfg r with
      | .error fault => .error fault
      | .ok (handover, st) =>
          match st.closeDependents cfg r handover with
          | .error fault => .error fault
          | .ok st => .ok (st.modifyConn r fun c => c.setState .timedOut)

/-- Calling `connection_timeout_function`. -/
def connectionTimeoutFunction (env : Environment) (r : ConnRef) (st : StackState) :
    Except Fault StackState :=
  match (st.conn r).connectionTimeoutFunction with
  | none => .error .nullFunctionCall
  | some .class3ConnectionTimeoutHandler => st.class3ConnectionTimeoutHandler cfg r
  | some .handleIoConnectionTimeOut => st.handleIoConnectionTimeOut cfg env r

/-- `CloseAllConnections`: closes the first connection until there is none. -/
def closeFirstConnections : Nat → StackState → Except Fault StackState
  | fuel, st =>
    match st.store.connectionList.first with
    | none => .ok st
    | some n =>
      match fuel with
      | 0 => .error .nonTermination
      | fuel + 1 =>
        match (st.nodes n).data with
        | none => .error .nullDereference
        | some r =>
          match st.connectionCloseFunction cfg r with
          | .error fault => .error fault
          | .ok st => closeFirstConnections fuel st

def closeAllConnections (st : StackState) : Except Fault StackState :=
  closeFirstConnections cfg cfg.nodesAmount st

end StackState

end Opener

import Opener.Core.DelayedMessages
import Opener.Core.NetworkHandler

/-!
The main loop: `NetworkHandlerProcessCyclic` of `generic_networkhandler.c` with the
handlers of the sockets that `select` finds ready, and the event loop of `main.c` around
it. No timeout checker is registered.
-/

namespace Opener

open LinkedCells

/-- What `HandleDataOnTcpSocket` has received when it stops receiving. -/
inductive TcpReceipt where
  | notYet
  | failed
  | closedByClient
  | closedWhileDropping
  | dropped
  | fragment
  | packet (incomingMessage : List UInt8)

namespace TcpStream

def dropReceipt (dataSize dataSent : Nat) (s : TcpStream) : TcpReceipt × TcpStream :=
  match _ : s.recv dataSent with
  | (.closed, s') => (.closedWhileDropping, s')
  | (.failed, s') => (.failed, s')
  | (.wouldBlock, s') => (.notYet, s')
  | (.bytes data, s') =>
      let dataSize := (dataSize + sizeModulus - data.length) % sizeModulus
      if 0 < dataSize then
        dropReceipt dataSize
          (if dataSize < ethernetBufferSize ∧ dataSize ≠ 0 then dataSize else dataSent) s'
      else (.dropped, s')
termination_by s.unread.length
decreasing_by
  rename_i hrecv _
  obtain ⟨hunread, hpos, -⟩ := recv_bytes hrecv
  rw [hunread, List.length_append]
  omega

def receive (s : TcpStream) : TcpReceipt × TcpStream :=
  match s.recv 4 with
  | (.closed, s) => (.closedByClient, s)
  | (.failed, s) => (.failed, s)
  | (.wouldBlock, s) => (.notYet, s)
  | (.bytes data, s) =>
      let incomingMessage := Message.takeBytes data 4
      let dataSize :=
        (Message.getUint (incomingMessage.drop 2)).1.toNat + encapsulationHeaderLength - 4
      if ethernetBufferSize - 4 < dataSize then s.dropReceipt dataSize ethernetBufferSize
      else
        match s.recv dataSize with
        | (.closed, s) => (.closedByClient, s)
        | (.failed, s) => (.failed, s)
        | (.wouldBlock, s) => (.notYet, s)
        | (.bytes data, s) =>
            if data.length = dataSize then (.packet (incomingMessage ++ data), s)
            else (.fragment, s)

end TcpStream

/-- What `select` returns; no ready socket is a time-out. -/
inductive SelectResult where
  | ready (sockets : List Int)
  | interrupted
  | failed

structure ReceivedDatagram where
  fromAddress : SockaddrIn
  data : List UInt8

/-- What the operating system, the network and the application do in one turn of the
loop: `streams` is what `recv` finds on a socket, whatever kind of socket it is. The
environments are those of the explicit messages of a TCP socket, of the I/O data and of
the tick. -/
structure CycleInput where
  select : SelectResult
  accepted : Int := eipInvalidSocket
  streams : Int → TcpStream := fun _ => { unread := [], answers := fun _ => .wouldBlock }
  unicast : Option ReceivedDatagram := none
  broadcast : Option ReceivedDatagram := none
  rand : Nat := 0
  identity : IdentityAttributes
  peerName : Int → SockaddrIn := fun _ => {}
  explicit : Int → Environment := fun _ => {}
  consuming : Environment := {}
  tick : Environment := {}
  milliSeconds : UInt64

inductive Outgoing where
  | tcp (socket : Int) (bytes : List UInt8)
  | udp (datagram : Datagram)
deriving DecidableEq, Repr

/-- The variables of the network handler around those of the stack. Of the current turn
an observer records the sockets for which `CheckSocketSet` was true, those that it found
closed with a pending message and those that were received from as TCP sockets; of the
whole run what was sent and the times with which `ManageConnections` was called. -/
structure NetworkHandler where
  stack : StackState
  tcpListener : Int
  udpUnicastListener : UdpListener
  udpGlobalBroadcastListener : Int
  /-- `g_delayed_encapsulation_messages` -/
  delayed : DelayedEncapsulationMessages := fun _ => {}
  readSocket : List Int := []
  highestSocketHandle : Int
  actualTime : UInt64 := 0
  lastTime : UInt64
  elapsedTime : UInt64 := 0
  attended : List Int := []
  missed : List Int := []
  receivedFrom : List Int := []
  sent : List Outgoing := []
  ticks : List UInt64 := []

namespace NetworkHandler

variable (cfg : Config) (input : CycleInput) (h : NetworkHandler)

def environment (env : Environment) : Environment :=
  { env with actualTime := h.actualTime, readSocket := fun socket => h.readSocket.contains socket }

/-- `highest_socket_handle` bounds the open sockets; nothing is found on a socket that
was opened and closed again. -/
def setStack (st : StackState) : NetworkHandler :=
  { h with
    stack := st
    highestSocketHandle := st.masterSocket.foldl max h.highestSocketHandle }

def send (outgoing : Outgoing) : NetworkHandler :=
  { h with sent := h.sent ++ [outgoing] }

def checkSocketSet (socket : Int) : Bool × NetworkHandler :=
  if h.readSocket.contains socket then
    let next := { h with readSocket := h.readSocket.filter fun s => s ≠ socket }
    if h.stack.masterSocket.contains socket then
      (true, { next with attended := h.attended ++ [socket] })
    else (false, { next with missed := h.missed ++ [socket] })
  else (false, h)

def checkAndHandleTcpListenerSocket : Except Fault NetworkHandler :=
  let (ready, h) := h.checkSocketSet h.tcpListener
  if ready then
    match h.stack.checkAndHandleTcpListenerSocket input.accepted with
    | .error fault => .error fault
    | .ok st => .ok (h.setStack st)
  else .ok h

/-- The reply to a datagram. Those to broadcasts also go out from the unicast socket. -/
def replyUdp (fromAddress : SockaddrIn) (handled : Handled) : NetworkHandler :=
  if handled.status = .okSend then
    h.send (.udp
      { socket := h.udpUnicastListener.socket
        receiver := fromAddress
        bytes := handled.outgoingMessage.bytes })
  else h

def checkAndHandleUdpUnicastSocket : NetworkHandler :=
  let (ready, h) := h.checkSocketSet h.udpUnicastListener.socket
  if ready then
    match input.unicast with
    | none => h
    | some datagram =>
        let incomingMessage := datagram.data.take ethernetBufferSize
        if incomingMessage = [] then h
        else h.replyUdp datagram.fromAddress
          (handleReceivedExplictUdpData cfg input.identity true incomingMessage)
  else h

/-- List Identity takes a slot, the other commands are answered at once. -/
def checkAndHandleUdpGlobalBroadcastSocket : NetworkHandler :=
  let (ready, h) := h.checkSocketSet h.udpGlobalBroadcastListener
  if ready then
    match input.broadcast with
    | none => h
    | some datagram =>
        let incomingMessage := datagram.data.take ethernetBufferSize
        if incomingMessage = [] then h
        else
          let h := h.replyUdp datagram.fromAddress
            (handleReceivedExplictUdpData cfg input.identity false incomingMessage)
          { h with
            delayed := receiveBroadcast cfg input.identity h.udpUnicastListener
              datagram.fromAddress incomingMessage input.rand h.delayed }
  else h

/-- One turn of `CheckAndHandleConsumingUdpSocket`, which also takes the socket out of
`read_socket`. -/
def handleConsumingUdpSocket (env : Environment) (r : ConnRef)
    (s : NetworkHandler × List Received) :
    Except Fault (Turn (NetworkHandler × List Received)) :=
  let (h, received) := s
  if (h.stack.conn r).consumingSocket ≠ eipInvalidSocket then
    let (ready, h) := h.checkSocketSet (h.stack.conn r).consumingSocket
    if ready then
      match received with
      | [] => .ok (.stop (h, []))
      | .wouldBlock :: received => .ok (.stop (h, received))
      | .closedByClient :: received | .failed :: received =>
          match h.stack.connectionCloseFunction cfg r with
          | .error fault => .error fault
          | .ok st => .ok (.continue (h.setStack st, received))
      | .datagram data fromAddress :: received =>
          match h.stack.handleReceivedConnectedData cfg env data fromAddress with
          | .error fault => .error fault
          | .ok (_, st) => .ok (.continue (h.setStack st, received))
    else .ok (.continue (h, received))
  else .ok (.continue (h, received))

def nodes (s : NetworkHandler × List Received) : Nat → Cell ConnRef := s.1.stack.nodes

def checkAndHandleConsumingUdpSocket : Except Fault NetworkHandler :=
  match savedWalk nodes .freedNode .nonTermination
      (handleConsumingUdpSocket cfg (h.environment input.consuming)) cfg.nodesAmount
      h.stack.store.connectionList.first (h, input.consuming.received) with
  | .error fault => .error fault
  | .ok (h, _) => .ok h

def getSocketTimer (socket : Int) : Option Nat :=
  h.stack.timestamps.findIdx? fun t => t.socket = socket

def setLastUpdate (env : Environment) (socketTimer : Option Nat) (st : StackState) :
    StackState :=
  match socketTimer with
  | none => st
  | some timer => st.setLastUpdate env timer

def handlePacket (socket : Int) (socketTimer : Option Nat) (incomingMessage : List UInt8) :
    Except Fault NetworkHandler :=
  let env := h.environment (input.explicit socket)
  match h.stack.handleReceivedExplictTcpData cfg env input.identity socket incomingMessage
      (input.peerName socket) with
  | .error fault => .error fault
  | .ok (handled, st) =>
      let h := h.setStack (setLastUpdate env socketTimer st)
      if handled.status = .okSend then
        .ok ((h.send (.tcp socket handled.outgoingMessage.bytes)).setStack
          (setLastUpdate env socketTimer h.stack))
      else .ok h

/-- `HandleDataOnTcpSocket`. The timer is looked up before the message is handled. -/
def handleDataOnTcpSocket (socket : Int) : Except Fault (EipStatus × NetworkHandler) :=
  let h := { h with receivedFrom := h.receivedFrom ++ [socket] }
  let socketTimer := h.getSocketTimer socket
  match (input.streams socket).receive.1 with
  | .notYet => .ok (.ok, h)
  | .failed | .fragment => .ok (.error, h)
  | .closedWhileDropping =>
      match h.stack.removeSocketTimerFromList socket with
      | .error fault => .error fault
      | .ok st => .ok (.error, h.setStack st)
  | .closedByClient =>
      match h.stack.removeSocketTimerFromList socket with
      | .error fault => .error fault
      | .ok st =>
          match st.removeSession cfg socket with
          | .error fault => .error fault
          | .ok st => .ok (.error, h.setStack st)
  | .dropped =>
      .ok (.ok, h.setStack (setLastUpdate (h.environment (input.explicit socket)) socketTimer
        h.stack))
  | .packet incomingMessage =>
      match h.handlePacket cfg input socket socketTimer incomingMessage with
      | .error fault => .error fault
      | .ok h => .ok (.ok, h)

def processSocket (socket : Int) : Except Fault NetworkHandler :=
  let (ready, h) := h.checkSocketSet socket
  if ready then
    match h.handleDataOnTcpSocket cfg input socket with
    | .error fault => .error fault
    | .ok (.error, h) =>
        match h.stack.closeTcpSocket socket with
        | .error fault => .error fault
        | .ok st =>
            match st.removeSession cfg socket with
            | .error fault => .error fault
            | .ok st => .ok (h.setStack st)
    | .ok (_, h) => .ok h
  else .ok h

/-- The sockets that the loops count through. A handle that is raised meanwhile adds
none that `select` has found or that has a timer. -/
def socketNumbers : List Int :=
  (List.range (h.highestSocketHandle + 1).toNat).map Int.ofNat

def processSockets : List Int → NetworkHandler → Except Fault NetworkHandler
  | [], h => .ok h
  | socket :: sockets, h =>
      match h.processSocket cfg input socket with
      | .error fault => .error fault
      | .ok h => processSockets sockets h

def processReadySockets : Except Fault NetworkHandler :=
  if h.readSocket = [] then .ok h
  else
    match h.checkAndHandleTcpListenerSocket input with
    | .error fault => .error fault
    | .ok h =>
        let h := h.checkAndHandleUdpUnicastSocket cfg input
        let h := h.checkAndHandleUdpGlobalBroadcastSocket cfg input
        match h.checkAndHandleConsumingUdpSocket cfg input with
        | .error fault => .error fault
        | .ok h => processSockets cfg input h.socketNumbers h

def checkInactivities : List Int → NetworkHandler → Except Fault NetworkHandler
  | [], h => .ok h
  | socket :: sockets, h =>
      match h.stack.checkEncapsulationInactivity cfg (h.environment {}) socket with
      | .error fault => .error fault
      | .ok st => checkInactivities sockets (h.setStack st)

/-- The time since the last turn is added up until a tick is due. -/
def advanceTime : NetworkHandler :=
  { h with
    actualTime := input.milliSeconds
    elapsedTime := h.elapsedTime + (input.milliSeconds - h.lastTime)
    lastTime := input.milliSeconds }

/-- `ManageConnections` with `ManageEncapsulationMessages`, when it is due. -/
def manageNetworkTimer : Except Fault NetworkHandler :=
  if h.elapsedTime ≥ cfg.timerTickInMilliSeconds then
    let (datagrams, delayed) := manageEncapsulationMessages h.elapsedTime h.delayed
    match h.stack.manageConnections cfg (h.environment input.tick) h.elapsedTime with
    | .error fault => .error fault
    | .ok st => .ok
        { h.setStack st with
          delayed := delayed
          sent := h.sent ++ datagrams.map fun datagram => .udp datagram.2
          ticks := h.ticks ++ [h.elapsedTime]
          elapsedTime := 0 }
  else .ok h

def select (sockets : List Int) : NetworkHandler :=
  { h with
    readSocket := h.stack.masterSocket.dedup.filter fun socket =>
      sockets.contains socket && 0 ≤ socket && socket ≤ h.highestSocketHandle
    attended := []
    missed := []
    receivedFrom := [] }

def networkHandlerProcessCyclic : Except Fault (EipStatus × NetworkHandler) :=
  match input.select with
  | .interrupted => .ok (.ok, h)
  | .failed => .ok (.error, h)
  | .ready sockets =>
      match (h.select sockets).processReadySockets cfg input with
      | .error fault => .error fault
      | .ok h =>
          match checkInactivities cfg h.socketNumbers h with
          | .error fault => .error fault
          | .ok h =>
              match (h.advanceTime input).manageNetworkTimer cfg input with
              | .error fault => .error fault
              | .ok h => .ok (.ok, h)

end NetworkHandler

/-- `GetMaxSocket`; the last one also stands for two equal ones. -/
def getMaxSocket (socket1 socket2 socket3 socket4 : Int) : Int :=
  if socket1 > socket2 ∧ socket1 > socket3 ∧ socket1 > socket4 then socket1
  else if socket2 > socket1 ∧ socket2 > socket3 ∧ socket2 > socket4 then socket2
  else if socket3 > socket1 ∧ socket3 > socket2 ∧ socket3 > socket4 then socket3
  else socket4

/-- The sockets and the time that `NetworkHandlerInitialize` gets; without one of the sockets
it fails. -/
structure NetworkStart where
  tcpListener : UdpListener
  udpUnicastListener : UdpListener
  udpGlobalBroadcastListener : UdpListener
  milliSeconds : UInt64

def networkHandlerInitialize (cfg : Config) (assemblyData : UInt16 → List UInt8)
    (start : NetworkStart) : NetworkHandler :=
  { stack :=
      { initialState cfg assemblyData with
        masterSocket := [start.tcpListener.socket, start.udpUnicastListener.socket,
          start.udpGlobalBroadcastListener.socket] }
    tcpListener := start.tcpListener.socket
    udpUnicastListener := start.udpUnicastListener
    udpGlobalBroadcastListener := start.udpGlobalBroadcastListener.socket
    highestSocketHandle := getMaxSocket start.tcpListener.socket
      start.udpGlobalBroadcastListener.socket 0 start.udpUnicastListener.socket
    lastTime := start.milliSeconds }

inductive LoopExit where
  | fault (fault : Fault)
  | networkHandlerFailed

def eventLoopStep (cfg : Config) (input : CycleInput) (h : NetworkHandler) :
    Except LoopExit NetworkHandler :=
  match h.networkHandlerProcessCyclic cfg input with
  | .error fault => .error (.fault fault)
  | .ok (.ok, h) => .ok h
  | .ok (_, _) => .error .networkHandlerFailed

end Opener

import Opener.Library.Walk
import Opener.Core.ConnectionObject
import Opener.Core.DoublyLinkedList

/-!
The global variables of the stack as one record, and the answers of the
operating system and of the application that a step consumes.
-/

namespace Opener

open LinkedCells

inductive IoConnectionEvent where
  | opened
  | timedOut
  | closed
deriving DecidableEq, Repr

/-- A message that `SendConnectedData` hands to `SendUdpData`. The sequence
number is present exactly when a sequenced address item is used. -/
structure IoPacket where
  remoteAddress : SockaddrIn
  connectionIdentifier : UInt32
  sequenceNumber : Option UInt32
  sequenceCount : Option UInt16
  runIdle : Option UInt32
  data : List UInt8
deriving DecidableEq, Repr

/-- What an observer of a run records: the events reported to the application,
the datagrams handed to the network, and the copies of a request into a pool
object with whether that object was in `connection_list` at that moment. -/
inductive Event where
  | ioConnection (outputAssembly inputAssembly : UInt16) (event : IoConnectionEvent)
  | sent (packet : IoPacket)
  | copied (r : ConnRef) (listed : Bool)
deriving DecidableEq, Repr

namespace ItemId

def nullAddress : UInt16 := 0x0000
def connectionAddress : UInt16 := 0x00A1
def connectedDataItem : UInt16 := 0x00B1
def unconnectedDataItem : UInt16 := 0x00B2
def socketAddressInfoOriginatorToTarget : UInt16 := 0x8000
def socketAddressInfoTargetToOriginator : UInt16 := 0x8001
def sequencedAddressItem : UInt16 := 0x8002

end ItemId

structure AddressItem where
  typeId : UInt16 := 0
  length : UInt16 := 0
  connectionIdentifier : UInt32 := 0
  sequenceNumber : UInt32 := 0
deriving DecidableEq, Repr

/-- The pointer `data` is the bytes from it to the end of the receive buffer. -/
structure DataItem where
  typeId : UInt16 := 0
  length : UInt16 := 0
  data : List UInt8 := []
deriving DecidableEq, Repr

structure SocketAddressInfoItem where
  typeId : UInt16 := 0
  length : UInt16 := 0
  sinFamily : UInt16 := 0
  sinPort : UInt16 := 0
  sinAddr : UInt32 := 0
  nasinZero : List UInt8 := List.replicate 8 0
deriving DecidableEq, Repr

/-- The two socket address items are numbered from zero. -/
instance addressInfoItems_neZero : NeZero 2 := ⟨Nat.succ_ne_zero 1⟩

structure CommonPacketFormatData where
  itemCount : UInt16 := 0
  addressItem : AddressItem := {}
  dataItem : DataItem := {}
  addressInfoItem0 : SocketAddressInfoItem := {}
  addressInfoItem1 : SocketAddressInfoItem := {}
deriving DecidableEq, Repr

structure SocketTimer where
  socket : Int := eipInvalidSocket
  lastUpdate : UInt64 := 0
deriving DecidableEq, Repr

/-- `connection_list` and the four pools. -/
structure ConnectionStore where
  connectionList : DoublyLinkedList ConnRef := {}
  pool : ConnRef → CipConnectionObject := fun _ => {}

structure StackState where
  store : ConnectionStore := {}
  /-- `g_dummy_connection_object` -/
  dummy : CipConnectionObject := {}
  /-- `g_common_packet_format_data_item` -/
  cpf : CommonPacketFormatData := {}
  /-- the static counter of `GetConnectionId` -/
  connectionId : UInt16 := 18
  /-- `g_config_data_buffer` with its length, none for `NULL` -/
  configData : Option (List UInt8) := none
  runIdleState : UInt32 := 0
  registeredSessions : List Int := []
  timestamps : List SocketTimer := []
  udpIoMessaging : Int := eipInvalidSocket
  masterSocket : List Int := []
  /-- attribute 3 of the instances of the Assembly class -/
  assemblyData : UInt16 → List UInt8 := fun _ => []
  events : List Event := []

/-- One result of `recvfrom`. -/
inductive Received where
  | closedByClient
  | wouldBlock
  | failed
  | datagram (data : List UInt8) (from_address : UInt32)
deriving DecidableEq, Repr

/-- `CipMessageRouterResponse`; the number of additional status words is the
length of the list. -/
structure MessageRouterResponse where
  replyService : UInt8 := 0
  reserved : UInt8 := 0
  generalStatus : UInt8 := 0
  additionalStatus : List UInt16 := []
  message : List UInt8 := []
deriving DecidableEq, Repr

inductive UdpCommunicationDirection where
  | consuming
  | producing
deriving DecidableEq, Repr

/-- What the environment answers during one step. The application callbacks are
functions on the assembly data; they do not touch the connection store. -/
structure Environment where
  /-- successive results of `rand` -/
  rand : List UInt16 := []
  /-- `getpeername` on the active TCP socket -/
  peerAddress : UInt32 := 0
  /-- `getpeername` on a session's socket, zero on error -/
  peerName : Int → UInt32 := fun _ => 0
  /-- result of `socket` for the I/O messaging socket -/
  udpSocket : Int := 7
  /-- whether making that socket reusable and binding it succeed -/
  udpSocketUsable : Bool := true
  /-- whether `SetQos` succeeds while the channel of a direction is opened -/
  setQosOk : UdpCommunicationDirection → Bool := fun _ => true
  actualTime : UInt64 := 0
  readSocket : Int → Bool := fun _ => false
  received : List Received := []
  handleApplication : (UInt16 → List UInt8) → UInt16 → List UInt8 := id
  beforeAssemblyDataSend :
    UInt16 → (UInt16 → List UInt8) → Bool × (UInt16 → List UInt8) :=
    fun _ data => (false, data)
  afterAssemblyDataReceived :
    UInt16 → (UInt16 → List UInt8) → EipStatus × (UInt16 → List UInt8) :=
    fun _ data => (.ok, data)
  /-- the response of a service other than those of the connection manager that open
  and close connections, none when it returns an error -/
  objectResponse : List UInt8 → UInt16 → Option MessageRouterResponse := fun _ _ => none

namespace StackState

variable (st : StackState)

def conn (r : ConnRef) : CipConnectionObject := st.store.pool r

def nodes (st : StackState) : Nat → Cell ConnRef := st.store.connectionList.nodes

def setConn (r : ConnRef) (c : CipConnectionObject) : StackState :=
  { st with store := { st.store with pool := Function.update st.store.pool r c } }

def modifyConn (r : ConnRef) (f : CipConnectionObject → CipConnectionObject) :
    StackState :=
  st.setConn r (f (st.conn r))

/-- The connections a loop over the unchanging `connection_list` visits. -/
def connectionList (cfg : Config) : List ConnRef :=
  st.store.connectionList.members cfg.nodesAmount

def checkIoConnectionEvent (c : CipConnectionObject) (event : IoConnectionEvent) :
    StackState :=
  { st with events := st.events ++
      [.ioConnection c.consumedPath.instanceId c.producedPath.instanceId event] }

end StackState

/-- The state after start-up: the static variables are zero, no session is
registered and every timer is clear. -/
def initialState (cfg : Config) (assemblyData : UInt16 → List UInt8) : StackState :=
  { registeredSessions := List.replicate cfg.numberOfSupportedSessions eipInvalidSocket
    timestamps := List.replicate cfg.numberOfSupportedSessions {}
    assemblyData := assemblyData }

end Opener

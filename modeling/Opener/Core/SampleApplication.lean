import Opener.Core.Stack

/-!
The sample application of the POSIX port: its configuration, its assemblies and
its callbacks, and the requests of an originator as bytes on the wire.
-/

namespace Opener

namespace SampleApplication

/-- The values of `opener_user_conf.h` and of the build defaults, before the
connection points are configured. -/
def userConf : Config :=
  { numExplicitConns := 6
    numExclusiveOwnerConns := 1
    numInputOnlyConns := 1
    numInputOnlyConnsPerConPath := 3
    numListenOnlyConns := 1
    numListenOnlyConnsPerConPath := 3
    numApplicationSpecificConnectableObjects := 1
    numberOfSupportedSessions := 20
    timerTickInMilliSeconds := 10
    exclusiveOwnerPoint := fun _ => {}
    inputOnlyPoint := fun _ => {}
    listenOnlyPoint := fun _ => {}
    classes := [(messageRouterClassCode, [1]),
      (assemblyClassCode, [154, 153, 152, 151, 150, 100]), (connectionManagerClassCode, [1])]
    identity :=
      { vendorId := 1
        deviceType := 12
        productCode := 65001
        majorRevision := 2
        minorRevision := 3 }
    incarnationId := 0x12340000
    ipAddress := 0x0A00A8C0
    networkMask := 0x00FFFFFF
    startingMulticastAddress := 0x2001C0EF
    consumeRunIdle := true
    produceRunIdle := false
    encapsulationInactivityTimeout := 120 }

/-- The connection points of `ApplicationInitialization`. -/
def config : Config :=
  ((userConf.configureExclusiveOwnerConnectionPoint 0
    ⟨150, 100, 151⟩).configureInputOnlyConnectionPoint 0
      ⟨152, 100, 151⟩).configureListenOnlyConnectionPoint 0 ⟨153, 100, 151⟩

def assemblyData : UInt16 → List UInt8 := fun instanceNumber =>
  if instanceNumber = 100 ∨ instanceNumber = 150 ∨ instanceNumber = 154 then
    List.replicate 32 0
  else if instanceNumber = 151 then List.replicate 10 0
  else []

/-- Data for the output assembly is mirrored to the inputs. -/
def afterAssemblyDataReceived (instanceNumber : UInt16) (data : UInt16 → List UInt8) :
    EipStatus × (UInt16 → List UInt8) :=
  if instanceNumber = 150 then (.ok, Function.update data 100 (data 150)) else (.ok, data)

def beforeAssemblyDataSend (_ : UInt16) (data : UInt16 → List UInt8) :
    Bool × (UInt16 → List UInt8) :=
  (true, data)

/-- An environment in which every call to the operating system succeeds. -/
def environment (rand : UInt16) (udpSocket : Int) : Environment :=
  { rand := [rand]
    peerAddress := 0x0500A8C0
    udpSocket := udpSocket
    beforeAssemblyDataSend := beforeAssemblyDataSend
    afterAssemblyDataReceived := afterAssemblyDataReceived }

/-- What an originator chooses in a Forward Open; both intervals are 100 ms by default. -/
structure OpenParameters where
  serialNumber : UInt16
  originatorSerialNumber : UInt32
  tToOConnectionId : UInt32 := 0
  connectionTimeoutMultiplier : UInt8 := 0
  oToTRequestedPacketInterval : UInt32 := 100000
  oToTParameters : UInt16
  tToORequestedPacketInterval : UInt32 := 100000
  tToOParameters : UInt16
  transportClassTrigger : UInt8
  connectionPath : List UInt8

/-- A Forward Open to the connection manager, from the service code on. -/
def forwardOpen (p : OpenParameters) : Message :=
  [0x54, 2, 0x20, 6, 0x24, 1, 1, 2] ++ dintBytes 0 ++ dintBytes p.tToOConnectionId ++
    intBytes p.serialNumber ++ intBytes 77 ++ dintBytes p.originatorSerialNumber ++
    [p.connectionTimeoutMultiplier, 0, 0, 0] ++ dintBytes p.oToTRequestedPacketInterval ++
    intBytes p.oToTParameters ++ dintBytes p.tToORequestedPacketInterval ++
    intBytes p.tToOParameters ++
    [p.transportClassTrigger, UInt8.ofNat (p.connectionPath.length / 2)] ++ p.connectionPath

/-- The same request as the message router hands it to `ForwardOpen`. -/
def openRequest (p : OpenParameters) : MessageRouterRequest :=
  { service := 0x54
    requestDataSize := UInt64.ofNat ((forwardOpen p).drop 6).length
    data := (forwardOpen p).drop 6 }

def forwardClose (serialNumber : UInt16) (originatorSerialNumber : UInt32) : Message :=
  [0x4E, 2, 0x20, 6, 0x24, 1, 1, 2] ++ intBytes serialNumber ++ intBytes 77 ++
    dintBytes originatorSerialNumber ++ [0, 0]

/-- The same request as the message router hands it to `ForwardClose`. -/
def closeRequest (serialNumber : UInt16) (originatorSerialNumber : UInt32) :
    MessageRouterRequest :=
  { service := 0x4E
    requestDataSize := 12
    data := (forwardClose serialNumber originatorSerialNumber).drop 6 }

/-- The request as an unconnected message without further items. -/
def unconnected (message : Message) : Message :=
  intBytes 2 ++ intBytes ItemId.nullAddress ++ intBytes 0 ++
    intBytes ItemId.unconnectedDataItem ++ intBytes (UInt16.ofNat message.length) ++ message

def originator : SockaddrIn := { sinFamily := afInet, sinPort := 0, sinAddr := 0x0500A8C0 }

/-- The path of an I/O connection with the configuration assembly 151. -/
def ioPath (output input : UInt8) : List UInt8 := [0x20, 4, 0x24, 151, 0x2C, output, 0x2C, input]

def pointToPoint : UInt16 := 0x4000
def multicast : UInt16 := 0x2000

def exclusiveOwner (serialNumber : UInt16) (originatorSerialNumber : UInt32)
    (tToO : UInt16) : OpenParameters :=
  { serialNumber, originatorSerialNumber
    oToTParameters := pointToPoint + 38
    tToOParameters := tToO + 34
    transportClassTrigger := 0x01
    connectionPath := ioPath 150 100 }

def inputOnly (serialNumber : UInt16) (originatorSerialNumber : UInt32)
    (tToO : UInt16) : OpenParameters :=
  { serialNumber, originatorSerialNumber
    oToTParameters := pointToPoint + 2
    tToOParameters := tToO + 34
    transportClassTrigger := 0x01
    connectionPath := ioPath 152 100 }

def listenOnly (serialNumber : UInt16) (originatorSerialNumber : UInt32)
    (tToO : UInt16) : OpenParameters :=
  { serialNumber, originatorSerialNumber
    oToTParameters := pointToPoint + 2
    tToOParameters := tToO + 34
    transportClassTrigger := 0x01
    connectionPath := ioPath 153 100 }

def class3 (serialNumber : UInt16) (originatorSerialNumber : UInt32) : OpenParameters :=
  { serialNumber, originatorSerialNumber
    oToTParameters := pointToPoint + 16
    tToOParameters := pointToPoint + 16
    transportClassTrigger := 0x83
    connectionPath := [0x20, 2, 0x24, 1] }

/-- The step in which a request arrives on the first session. Connection number
and socket follow from the serial number. -/
def send (serialNumber : UInt16) (message : Message) :
    Environment × StackState.Action :=
  (environment (1000 + serialNumber) (20 + serialNumber.toNat),
    .sendRRData 1 originator (unconnected message))

/-- The step in which a connection is requested. -/
def request (p : OpenParameters) : Environment × StackState.Action :=
  send p.serialNumber (forwardOpen p)

def register : Environment × StackState.Action := (environment 0 20, .registerSession 5)

def tick (elapsedTime : UInt64) : Environment × StackState.Action :=
  (environment 0 20, .manageConnections elapsedTime)

/-- An I/O packet with a sequence number, on the wire. -/
def sequencedPacket (connectionId sequenceNumber : UInt32) (payload : List UInt8) : Message :=
  intBytes 2 ++ intBytes ItemId.sequencedAddressItem ++ intBytes 8 ++ dintBytes connectionId ++
    dintBytes sequenceNumber ++ intBytes ItemId.connectedDataItem ++
    intBytes (UInt16.ofNat payload.length) ++ payload

/-- An I/O packet or an explicit message with a connected address item. -/
def connectedPacket (connectionId : UInt32) (payload : List UInt8) : Message :=
  intBytes 2 ++ intBytes ItemId.connectionAddress ++ intBytes 4 ++ dintBytes connectionId ++
    intBytes ItemId.connectedDataItem ++ intBytes (UInt16.ofNat payload.length) ++ payload

/-- The step in which a datagram of the originator arrives. -/
def receive (data : Message) : Environment × StackState.Action :=
  ({ environment 0 20 with
      readSocket := fun _ => true
      received := [.datagram data originator.sinAddr] },
    .checkAndHandleConsumingUdpSocket)

/-- The state after a session was registered and the steps were taken. -/
def run (cfg : Config) (labels : List (Environment × StackState.Action)) :
    Except Fault StackState :=
  Runs.runLabels (StackState.step cfg) (register :: labels) (initialState cfg assemblyData)

/-- The call returns what has the property. -/
def returns {α : Type} (result : Except Fault α) (p : α → Bool) : Bool :=
  match result with
  | .error _ => false
  | .ok a => p a

theorem returns_iff {α : Type} {result : Except Fault α} {p : α → Bool} :
    returns result p = true ↔ ∃ a, result = .ok a ∧ p a = true := by
  cases result with
  | error fault => simp [returns]
  | ok a => simp [returns]

/-- The call ends in the fault. -/
def faults {α : Type} (result : Except Fault α) (fault : Fault) : Bool :=
  match result with
  | .error other => other = fault
  | .ok _ => false

theorem faults_iff {α : Type} {result : Except Fault α} {fault : Fault} :
    faults result fault = true ↔ result = .error fault := by
  cases result with
  | error other => simp [faults]
  | ok a => simp [faults]

/-- The steps can be taken and end in a state with the property. -/
def ends (cfg : Config) (labels : List (Environment × StackState.Action))
    (p : StackState → Bool) : Bool :=
  match run cfg labels with
  | .error _ => false
  | .ok st => p st

theorem reachable_of_ends (cfg : Config)
    (labels : List (Environment × StackState.Action)) (p : StackState → Bool)
    (h : ends cfg labels p = true) : ∃ st, StackState.Reachable cfg st ∧ p st = true := by
  unfold ends at h
  cases hrun : run cfg labels with
  | error fault => simp [hrun] at h
  | ok st =>
      rw [hrun] at h
      exact ⟨st, ⟨assemblyData, Runs.reaches_of_runLabels hrun⟩, h⟩

/-- As `ends`, with a check of each step. -/
def endsWithin (cfg : Config) (check : Environment × StackState.Action → StackState → Bool)
    (labels : List (Environment × StackState.Action)) (p : StackState → Bool) : Bool :=
  match Runs.runLabels (Runs.guarded (StackState.step cfg) check .assertionFailed)
      (register :: labels) (initialState cfg assemblyData) with
  | .error _ => false
  | .ok st => p st

theorem reaches_of_endsWithin (cfg : Config)
    (check : Environment × StackState.Action → StackState → Bool)
    (labels : List (Environment × StackState.Action)) (p : StackState → Bool)
    (h : endsWithin cfg check labels p = true) :
    ∃ st, Runs.Reaches (StackState.step cfg) (fun label st => check label st = true)
      (initialState cfg assemblyData) st ∧ p st = true := by
  unfold endsWithin at h
  generalize hrun : Runs.runLabels _ _ _ = result at h
  cases result with
  | error fault => cases h
  | ok st => exact ⟨st, (Runs.reaches_of_runLabels hrun).of_guarded, h⟩

/-- The run goes on from where checked steps ended, with another check. -/
def continues (cfg : Config) (check check' : Environment × StackState.Action → StackState → Bool)
    (labels labels' : List (Environment × StackState.Action))
    (p : StackState → StackState → Bool) : Bool :=
  endsWithin cfg check labels fun st =>
    match Runs.runLabels (Runs.guarded (StackState.step cfg) check' .assertionFailed)
        labels' st with
    | .error _ => false
    | .ok st' => p st st'

theorem reaches_of_continues (cfg : Config)
    (check check' : Environment × StackState.Action → StackState → Bool)
    (labels labels' : List (Environment × StackState.Action))
    (p : StackState → StackState → Bool)
    (h : continues cfg check check' labels labels' p = true) :
    ∃ st st', Runs.Reaches (StackState.step cfg) (fun label st => check label st = true)
        (initialState cfg assemblyData) st ∧
      Runs.Reaches (StackState.step cfg) (fun label st => check' label st = true) st st' ∧
      p st st' = true := by
  obtain ⟨st, hreaches, hst⟩ := reaches_of_endsWithin cfg check labels _ h
  generalize hrun : Runs.runLabels _ labels' st = result at hst
  cases result with
  | error fault => cases hst
  | ok st' => exact ⟨st, st', hreaches, (Runs.reaches_of_runLabels hrun).of_guarded, hst⟩

end SampleApplication

end Opener

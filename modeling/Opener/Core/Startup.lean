import Opener.Core.ObjectData

/-!
The start of the device, `main` of the POSIX port with `CipStackInit`, `NvdataLoad` and the
part of `NetworkHandlerInitialize` that works on the objects, and the device from one start to
the next.
-/

namespace Opener

/-- The constants of the build that describe the device; the name is not empty. -/
structure DeviceData where
  vendorId : UInt16
  deviceType : UInt16
  productCode : UInt16
  revision : CipRevision
  deviceName : List UInt8
deriving DecidableEq, Repr

/-- What a start finds on the platform. The configuration of the interface is none when it
cannot be read. -/
structure Platform where
  macAddress : Vector UInt8 6
  hostName : CipString
  interfaceConfiguration : Option CipTcpIpInterfaceConfiguration
  assemblyData : UInt16 → List UInt8

def calculateMulticastIp (ifCfg : CipTcpIpInterfaceConfiguration) : UInt32 :=
  let cipMcastBaseAddr : UInt32 := 0xEFC00100
  let hostId := ntohl ifCfg.ipAddress &&& ~~~(ntohl ifCfg.networkMask)
  let hostId := (hostId - 1) &&& 0x3FF
  htonl (cipMcastBaseAddr + (hostId <<< 5))

namespace ObjectConfig

variable (objects : ObjectConfig)

/-- `g_identity` after `SetDeviceSerialNumber` and `CipIdentityInit`. -/
def initialIdentity (device : DeviceData) : IdentityData :=
  { vendorId := device.vendorId
    deviceType := device.deviceType
    productCode := device.productCode
    revision := device.revision
    serialNumber := 123456789
    productName :=
      CipShortString.setByData (UInt8.ofNat device.deviceName.length) device.deviceName }

def initialTcpip : TcpIpData :=
  { status := 0x01
    configControl := 0x02
    interfaceConfiguration :=
      { ipAddress := 0, networkMask := 0, gateway := 0, nameServer := 0, nameServer2 := 0
        domainName := .setByData 0 [] }
    hostname := .setByData 0 []
    encapsulationInactivityTimeout := 120
    configCapability := if objects.ifaceCfgSettable then 0x54 else 0x04
    physicalLinkObject :=
      if objects.ethernetLinkInstances ≠ 2 then
        { pathSize := 2
          classId := ethernetLinkClassCode.toUInt16
          instanceNumber := UInt16.ofNat objects.ethernetLinkInstances }
      else {}
    mcastTtlValue := 1
    mcastConfig :=
      { allocControl := 0, reservedShallBeZero := 0, numberOfAllocatedMulticastAddresses := 1
        startingMulticastAddress := 0 }
    selectAcd := 0 }

def interfaceLabelTable : List (List UInt8) :=
  [[0x50, 0x4F, 0x52, 0x54, 0x20, 0x31], [0x50, 0x4F, 0x52, 0x54, 0x20, 0x32],
    [0x50, 0x4F, 0x52, 0x54, 0x20, 0x69, 0x6E, 0x74, 0x65, 0x72, 0x6E, 0x61, 0x6C]]

def initialPort (macAddress : Vector UInt8 6) (idx : Nat) : CipEthernetLinkObject :=
  let label := if objects.interfaceLabelEnabled then interfaceLabelTable.getD idx [] else []
  { interfaceSpeed := 100
    interfaceFlags := 0xF
    physicalAddress := macAddress
    interfaceType := if idx = 2 then 0x01 else 0x02
    interfaceLabel := CipShortString.setByData (UInt8.ofNat label.length) label
    interfaceCaps :=
      { capabilityBits := 0x02, speedDuplexSelector := CipEthernetLink.speedDpx100FD } }

/-- The objects when the event loop is entered, from the file and the number of accesses to
it. -/
def startObjects (device : DeviceData) (platform : Platform) (confFile : ConfFile)
    (accesses : Nat) : ObjectData :=
  let (_, dscp, confFile) := nvdataLoad (objects.files accesses) confFile .defaults
  let initial := objects.initialTcpip
  let interfaceConfiguration :=
    platform.interfaceConfiguration.getD initial.interfaceConfiguration
  { identity := initialIdentity device
    tcpip := { initial with
      hostname := platform.hostName
      interfaceConfiguration
      mcastConfig := { initial.mcastConfig with
        startingMulticastAddress := calculateMulticastIp interfaceConfiguration } }
    ethernetLink :=
      (List.range objects.ethernetLinkInstances).map (objects.initialPort platform.macAddress)
    interfaceControl :=
      List.replicate objects.ethernetLinkInstances
        { controlBits := CipEthernetLink.ifCntrlAutonegotiate, forcedInterfaceSpeed := 0 }
    qos := { qFramesEnable := 0, dscp }
    activeDscp := dscp
    confFile
    accesses := accesses + 1
    received := []
    fault := none }

def startCounters (classCode : UInt32) : InstanceCounters :=
  let instanceNumbers :=
    if classCode = assemblyClassCode then objects.assemblyInstances
    else if classCode = ethernetLinkClassCode then objects.ports
    else [1]
  { numberOfInstances := UInt16.ofNat instanceNumbers.length
    maxInstance := instanceNumbers.foldl max 0 }

def start (device : DeviceData) (platform : Platform) (confFile : ConfFile) (accesses : Nat) :
    Except Fault (Device ObjectData) :=
  match cipStackInit objects.stackClasses with
  | .error fault => .error fault
  | .ok classes =>
      .ok
        { classes
          globals :=
            { stack := initialState objects.stack platform.assemblyData
              counters := objects.startCounters
              application := objects.startObjects device platform confFile accesses } }

end ObjectConfig

inductive IdentityCall where
  | setDeviceRevision (major minor : UInt8)
  | setDeviceSerialNumber (serialNumber : UInt32)
  | setDeviceType (deviceType : UInt16)
  | setDeviceProductCode (code : UInt16)
  | setDeviceStatus (status : UInt16)
  | setDeviceVendorId (vendorId : UInt16)
  | setDeviceProductName (productName : List UInt8)
  | setStatusFlags (statusFlags : UInt16)
  | clearStatusFlags (statusFlags : UInt16)
  | setExtendedDeviceStatus (extendedStatus : UInt16)
deriving DecidableEq, Repr

def IdentityData.call (identity : IdentityData) : IdentityCall → IdentityData
  | .setDeviceRevision majorRevision minorRevision =>
      { identity with revision := { majorRevision, minorRevision } }
  | .setDeviceSerialNumber serialNumber => { identity with serialNumber }
  | .setDeviceType deviceType => { identity with deviceType }
  | .setDeviceProductCode productCode => { identity with productCode }
  | .setDeviceStatus status => { identity with toCipIdentityObject := setDeviceStatus status }
  | .setDeviceVendorId vendorId => { identity with vendorId }
  | .setDeviceProductName productName =>
      { identity with
        productName := CipShortString.setByData (UInt8.ofNat productName.length) productName }
  | .setStatusFlags statusFlags =>
      { identity with
        toCipIdentityObject := identity.toCipIdentityObject.setStatusFlags statusFlags }
  | .clearStatusFlags statusFlags =>
      { identity with
        toCipIdentityObject := identity.toCipIdentityObject.clearStatusFlags statusFlags }
  | .setExtendedDeviceStatus extendedStatus =>
      { identity with
        toCipIdentityObject :=
          identity.toCipIdentityObject.setExtendedDeviceStatus extendedStatus }

/-- A step of the stack, where `front` is what the receive buffer holds in front of a message,
a call of the application, or the device switched off and started again. -/
inductive PowerAction where
  | stack (env : Environment) (front : List UInt8) (action : StackState.Action)
  | identity (call : IdentityCall)
  | powerCycle (platform : Platform)

namespace ObjectConfig

variable (objects : ObjectConfig) (device : DeviceData)

/-- Only the file and the number of accesses to it outlast a power cycle. -/
def powerStep (action : PowerAction) (d : Device ObjectData) : Except Fault (Device ObjectData) :=
  let data := d.globals.application
  match action with
  | .stack env front action =>
      match d.step objects.stack (env, .stack front action) with
      | .error fault => .error fault
      | .ok d =>
          match d.globals.application.fault with
          | some fault => .error fault
          | none => .ok d
  | .identity call =>
      .ok (d.setGlobals (ObjectGlobals.modify
        (fun data => { data with identity := data.identity.call call }) d.globals))
  | .powerCycle platform => objects.start device platform data.confFile data.accesses

def Reachable (d : Device ObjectData) : Prop :=
  ∃ platform confFile first, objects.start device platform confFile 0 = .ok first ∧
    Runs.Reaches (objects.powerStep device) (fun _ _ => True) first d

end ObjectConfig

end Opener

import Opener.Core.Assembly
import Opener.Core.EthernetLink
import Opener.Core.Identity
import Opener.Core.NvData
import Opener.Core.PaddedEPath
import Opener.Core.Registration
import Opener.Core.TcpIpInterface

/-!
The variables behind the attributes of the identity, TCP/IP interface, Ethernet link and QoS
objects, and the attributes that the functions of `CipStackInit` insert. The counters of the
Ethernet link object are not enabled.
-/

namespace Opener

structure CipRevision where
  majorRevision : UInt8
  minorRevision : UInt8
deriving DecidableEq, Repr

/-- `g_identity` with all its members. -/
structure IdentityData extends CipIdentityObject where
  vendorId : UInt16
  deviceType : UInt16
  productCode : UInt16
  revision : CipRevision
  serialNumber : UInt32
  productName : CipShortString
deriving DecidableEq, Repr

/-- The byte behind the number of addresses is read with it. -/
structure MulticastAddressConfiguration where
  allocControl : UInt8
  reservedShallBeZero : UInt8
  numberOfAllocatedMulticastAddresses : UInt8
  padding : UInt8 := 0
  startingMulticastAddress : UInt32
deriving DecidableEq, Repr

/-- `g_tcpip` with all its members. -/
structure TcpIpData extends CipTcpIpObject where
  configCapability : UInt32
  physicalLinkObject : CipEpath
  mcastTtlValue : UInt8
  mcastConfig : MulticastAddressConfiguration
  selectAcd : UInt8
deriving DecidableEq, Repr

structure CipEthernetLinkMetaInterfaceCapability where
  capabilityBits : UInt32
  speedDuplexSelector : UInt16
deriving DecidableEq, Repr

/-- A port without its interface control. -/
structure CipEthernetLinkObject where
  interfaceSpeed : UInt32
  interfaceFlags : UInt32
  physicalAddress : Vector UInt8 6
  interfaceType : UInt8
  interfaceLabel : CipShortString
  interfaceCaps : CipEthernetLinkMetaInterfaceCapability
deriving DecidableEq, Repr

structure CipQosObject where
  qFramesEnable : UInt8
  dscp : CipQosDscpValues
deriving DecidableEq, Repr

/-- The variables of the objects, with `s_active_dscp`, the file that keeps the values of the
QoS object and the number of accesses to it, the assemblies that were set, and how an
attribute function failed. -/
structure ObjectData where
  identity : IdentityData
  tcpip : TcpIpData
  ethernetLink : List CipEthernetLinkObject
  interfaceControl : List CipEthernetLinkInterfaceControl
  qos : CipQosObject
  activeDscp : CipQosDscpValues
  confFile : ConfFile
  accesses : Nat
  received : List UInt16
  fault : Option Fault
deriving DecidableEq, Repr

/-- How the device is built, and what the application and the platform do. `beyond` is the
memory behind a string. -/
structure ObjectConfig where
  stack : Config
  environment : Environment
  files : FileSystem
  ifaceCfgSettable : Bool := false
  interfaceControl : Bool := false
  interfaceLabelEnabled : Bool := false
  ethernetLinkInstances : Nat := 1
  assemblyInstances : List UInt16
  beyond : List UInt8 := []

section Parts

variable {σ τ : Type}

/-- A part of the variables that an object works on. -/
structure Part (σ τ : Type) where
  get : σ → τ
  put : τ → σ → σ

def Part.decode (part : Part σ τ) (decode : CipAttributeDecodeFromMessage τ) :
    CipAttributeDecodeFromMessage σ := fun state request =>
  let decoded := decode (part.get state) request
  { data := part.put decoded.data state
    moved := decoded.moved
    generalStatus := decoded.generalStatus
    numberOfDecodedBytes := decoded.numberOfDecodedBytes }

def Part.attribute (part : Part σ τ) (attr : CipAttributeStruct τ) : CipAttributeStruct σ :=
  { attributeNumber := attr.attributeNumber
    type := attr.type
    encode := attr.encode.map fun encode state => encode (part.get state)
    decode := attr.decode.map part.decode
    attributeFlags := attr.attributeFlags
    data := attr.data.map fun data state => data (part.get state) }

def Part.setup (part : Part σ τ) : ClassSetup τ → ClassSetup σ
  | .insertAttribute instanceNumber attr => .insertAttribute instanceNumber (part.attribute attr)
  | .insertGetSetCallback callback callbacksToInstall =>
      .insertGetSetCallback
        (fun instanceNumber attributeNumber service state =>
          part.put (callback instanceNumber attributeNumber service (part.get state)) state)
        callbacksToInstall

end Parts

/-- The variables of the stack and of the objects. -/
abbrev ObjectGlobals := Globals ObjectData

namespace ObjectGlobals

def modify (f : ObjectData → ObjectData) (globals : ObjectGlobals) : ObjectGlobals :=
  { globals with application := f globals.application }

def tcpip : Part ObjectGlobals CipTcpIpObject :=
  { get := fun globals => globals.application.tcpip.toCipTcpIpObject
    put := fun tcpip => modify fun objects =>
      { objects with tcpip := { objects.tcpip with toCipTcpIpObject := tcpip } } }

/-- A function that fails leaves the object as it was. -/
def failingTcpip : Part ObjectGlobals (Except Fault CipTcpIpObject) :=
  { get := fun globals => .ok (tcpip.get globals)
    put := fun result globals =>
      match result with
      | .ok object => tcpip.put object globals
      | .error fault => modify (fun objects => { objects with fault := some fault }) globals }

def interfaceControl : Part ObjectGlobals (List CipEthernetLinkInterfaceControl) :=
  { get := fun globals => globals.application.interfaceControl
    put := fun interfaceControl => modify fun objects => { objects with interfaceControl } }

def dscp : Part ObjectGlobals CipQosDscpValues :=
  { get := fun globals => globals.application.qos.dscp
    put := fun dscp => modify fun objects => { objects with qos := { objects.qos with dscp } } }

def assembly : Part ObjectGlobals CipAssembly :=
  { get := fun globals =>
      { data := globals.stack.assemblyData, received := globals.application.received }
    put := fun assembly globals =>
      { globals with
        stack := { globals.stack with assemblyData := assembly.data }
        application := { globals.application with received := assembly.received } } }

end ObjectGlobals

section Values

/-- An attribute with a value that is encoded as it stands in memory. -/
def plainAttribute (attributeNumber : UInt16) (type : CipDataType) (attributeFlags : UInt8)
    (value : ObjectGlobals → List UInt8) : CipAttributeStruct ObjectGlobals :=
  { attributeNumber
    type
    encode := some fun globals _ => value globals
    attributeFlags
    data := some value }

def shortStringAttribute (attributeNumber : UInt16) (attributeFlags : UInt8)
    (value : ObjectGlobals → CipShortString) : CipAttributeStruct ObjectGlobals :=
  { attributeNumber
    type := .shortString
    encode := some fun globals => encodeCipShortString (value globals).data
    attributeFlags
    data := some fun globals => (value globals).data.memory }

/-- An attribute that is only there to fill the reply of the Get_Attributes_All service. -/
def dummyAttribute (attributeNumber : UInt16) (type : CipDataType) (size : Nat) :
    CipAttributeStruct ObjectGlobals :=
  plainAttribute attributeNumber type CIPAttributeFlag.getableAllDummy
    fun _ => List.replicate size 0

def encodeRevision (revision : CipRevision) : List UInt8 :=
  sintBytes revision.majorRevision ++ sintBytes revision.minorRevision

def encodeCipEPath (epath : CipEpath) : List UInt8 :=
  intBytes epath.pathSize.toUInt16 ++ encodeEPath epath

def encodeCipTcpIpInterfaceConfiguration :
    CipAttributeEncodeInMessage CipTcpIpInterfaceConfiguration := fun ifCfg usedMessageLength =>
  let addresses := dintBytes (ntohl ifCfg.ipAddress) ++ dintBytes (ntohl ifCfg.networkMask) ++
    dintBytes (ntohl ifCfg.gateway) ++ dintBytes (ntohl ifCfg.nameServer) ++
    dintBytes (ntohl ifCfg.nameServer2)
  addresses ++ encodeCipString ifCfg.domainName.data (usedMessageLength + addresses.length)

def encodeCipTcpIpMulticastConfiguration (mcastConfig : MulticastAddressConfiguration) :
    List UInt8 :=
  sintBytes mcastConfig.allocControl ++ sintBytes mcastConfig.reservedShallBeZero ++
    intBytes (mcastConfig.numberOfAllocatedMulticastAddresses.toUInt16 |||
      (mcastConfig.padding.toUInt16 <<< 8)) ++
    dintBytes (ntohl mcastConfig.startingMulticastAddress)

/-- The loop that counts the bits of the selector. -/
def countSelected : Nat → UInt16 → UInt8 → UInt8
  | 0, _, count => count
  | fuel + 1, selected, count =>
      if selected = 0 then count
      else countSelected fuel (selected &&& (selected - 1)) (count + 1)

def encodeCipEthernetLinkInterfaceCaps
    (interfaceCaps : CipEthernetLinkMetaInterfaceCapability) : List UInt8 :=
  dintBytes interfaceCaps.capabilityBits ++
    sintBytes (countSelected 16 interfaceCaps.speedDuplexSelector 0) ++
    CipEthernetLink.speedDuplexTable.zipIdx.flatMap fun ((interfaceSpeed, duplexMode), i) =>
      if interfaceCaps.speedDuplexSelector &&& (1 <<< UInt16.ofNat i) ≠ 0 then
        intBytes interfaceSpeed ++ sintBytes duplexMode
      else []

end Values

section ClassObjects

open CIPAttributeFlag

/-- The attributes of a class object in their order, with the flags of each. -/
def insertClassAttributes (classCode : UInt32) (maxInstance : Bool) (revision : UInt16)
    (highestClassAttributeNumber highestInstanceAttributeNumber : UInt16)
    (flags : List UInt8) : List (ClassSetup ObjectGlobals) :=
  let numberOfInstances (globals : ObjectGlobals) := (globals.counters classCode).numberOfInstances
  let largestInstance (globals : ObjectGlobals) :=
    if maxInstance then (globals.counters classCode).maxInstance else numberOfInstances globals
  let values : List (ObjectGlobals → UInt16) :=
    [fun _ => revision, largestInstance, numberOfInstances, fun _ => 0, fun _ => 0,
      fun _ => highestClassAttributeNumber, fun _ => highestInstanceAttributeNumber]
  (flags.zip values).zipIdx.map fun ((flags, value), i) => .insertAttribute 0
    (plainAttribute (UInt16.ofNat (i + 1)) .uint flags fun globals => intBytes (value globals))

/-- The flags of `CreateCipClass`. -/
def defaultClassFlags : List UInt8 :=
  [getableSingleAndAll, getableSingleAndAll, getableSingleAndAll, getableAllDummy,
    notSetOrGetable, getableSingle, getableSingle]

/-- The flags of `InitializeCipIdentity` and `InitializeConnectionManager`. -/
def identityClassFlags : List UInt8 :=
  [getableSingleAndAll, getableSingleAndAll, getableSingle, notSetOrGetable, notSetOrGetable,
    getableSingleAndAll, getableSingleAndAll]

/-- The flags of `InitializeCipMessageRouterClass`. -/
def messageRouterClassFlags : List UInt8 :=
  [getableSingleAndAll, getableSingle, getableSingle, getableAll, getableAll,
    getableSingleAndAll, getableSingleAndAll]

end ClassObjects

namespace ObjectConfig

open CIPAttributeFlag

variable (objects : ObjectConfig)

/-- The attributes in `CipIdentityInit`. -/
def identityAttributes : List (CipAttributeStruct ObjectGlobals) :=
  let identity (globals : ObjectGlobals) := globals.application.identity
  [plainAttribute 1 .uint getableSingleAndAll fun globals => intBytes (identity globals).vendorId,
    plainAttribute 2 .uint getableSingleAndAll fun globals =>
      intBytes (identity globals).deviceType,
    plainAttribute 3 .uint getableSingleAndAll fun globals =>
      intBytes (identity globals).productCode,
    plainAttribute 4 .usintUsint getableSingleAndAll fun globals =>
      encodeRevision (identity globals).revision,
    plainAttribute 5 .word getableSingleAndAll fun globals => intBytes (identity globals).status,
    plainAttribute 6 .udint getableSingleAndAll fun globals =>
      dintBytes (identity globals).serialNumber,
    shortStringAttribute 7 getableSingleAndAll fun globals => (identity globals).productName]

def configControlAttribute : CipAttributeStruct ObjectGlobals :=
  { plainAttribute 3 .dword (setAndGetAble ||| nvDataFunc) fun globals =>
      dintBytes globals.application.tcpip.configControl with
    decode := some (ObjectGlobals.tcpip.decode decodeTcpIpInterfaceConfigurationControl) }

/-- The flags of the attributes 5 and 6. -/
def ifaceCfgFlags : UInt8 :=
  getableSingleAndAll ||| nvDataFunc |||
    if objects.ifaceCfgSettable then setable else notSetOrGetable

/-- An I/O connection and the configuration control are looked at when the value is
decoded. -/
def interfaceConfigurationAttribute : CipAttributeStruct ObjectGlobals :=
  { attributeNumber := 5
    type := .udintUdintUdintUdintUdintString
    encode := some fun globals =>
      encodeCipTcpIpInterfaceConfiguration globals.application.tcpip.interfaceConfiguration
    decode :=
      if objects.ifaceCfgSettable then
        some fun globals => ObjectGlobals.tcpip.decode
          (decodeCipTcpIpInterfaceConfiguration objects.stack globals.stack objects.beyond) globals
      else none
    attributeFlags := objects.ifaceCfgFlags
    data := some fun globals =>
      dintBytes globals.application.tcpip.interfaceConfiguration.ipAddress }

def hostNameAttribute : CipAttributeStruct ObjectGlobals :=
  { attributeNumber := 6
    type := .string
    encode := some fun globals => encodeCipString globals.application.tcpip.hostname.data
    decode :=
      if objects.ifaceCfgSettable then
        some (ObjectGlobals.failingTcpip.decode (decodeCipTcpIpInterfaceHostName objects.beyond))
      else none
    attributeFlags := objects.ifaceCfgFlags
    data := some fun globals => globals.application.tcpip.hostname.data.memory }

def inactivityTimeoutAttribute : CipAttributeStruct ObjectGlobals :=
  { plainAttribute 13 .uint (setAndGetAble ||| nvDataFunc) fun globals =>
      intBytes globals.application.tcpip.encapsulationInactivityTimeout with
    decode := some
      (ObjectGlobals.tcpip.decode decodeCipTcpIpInterfaceEncapsulationInactivityTimeout) }

/-- The attributes in `CipTcpIpInterfaceInit`. -/
def tcpIpAttributes : List (CipAttributeStruct ObjectGlobals) :=
  let tcpip (globals : ObjectGlobals) := globals.application.tcpip
  [plainAttribute 1 .dword getableSingleAndAll fun globals => dintBytes (tcpip globals).status,
    plainAttribute 2 .dword getableSingleAndAll fun globals =>
      dintBytes (tcpip globals).configCapability,
    configControlAttribute,
    plainAttribute 4 .epath getableSingleAndAll fun globals =>
      encodeCipEPath (tcpip globals).physicalLinkObject,
    objects.interfaceConfigurationAttribute,
    objects.hostNameAttribute,
    dummyAttribute 7 .any 6,
    plainAttribute 8 .usint getableSingleAndAll fun globals =>
      sintBytes (tcpip globals).mcastTtlValue,
    plainAttribute 9 .any getableSingleAndAll fun globals =>
      encodeCipTcpIpMulticastConfiguration (tcpip globals).mcastConfig,
    plainAttribute 10 .bool getableAllDummy fun globals => sintBytes (tcpip globals).selectAcd,
    dummyAttribute 11 .bool 35,
    dummyAttribute 12 .bool 1,
    inactivityTimeoutAttribute]

/-- Attribute 6 of a port, which is constant without interface control. -/
def portControlAttribute (idx : Nat) : CipAttributeStruct ObjectGlobals :=
  if objects.interfaceControl then
    ObjectGlobals.interfaceControl.attribute (interfaceControlAttribute idx)
  else plainAttribute 6 .any getableAll fun _ => intBytes 0 ++ intBytes 0

/-- The attributes of a port in `CipEthernetLinkInit`. -/
def ethernetLinkAttributes (idx : Nat) : List (CipAttributeStruct ObjectGlobals) :=
  let ports (globals : ObjectGlobals) := globals.application.ethernetLink
  let value (encode : CipEthernetLinkObject → List UInt8) (globals : ObjectGlobals) :=
    ((ports globals)[idx]?.map encode).getD []
  let label (globals : ObjectGlobals) :=
    ((ports globals)[idx]?.map (·.interfaceLabel)).getD (.setByData 0 [])
  [plainAttribute 1 .udint getableSingleAndAll (value fun port => dintBytes port.interfaceSpeed),
    plainAttribute 2 .dword getableSingleAndAll (value fun port => dintBytes port.interfaceFlags),
    plainAttribute 3 .sixUsint getableSingleAndAll (value fun port => port.physicalAddress.toList),
    dummyAttribute 4 .any 44,
    dummyAttribute 5 .any 48,
    objects.portControlAttribute idx,
    plainAttribute 7 .usint getableSingleAndAll (value fun port => sintBytes port.interfaceType),
    dummyAttribute 8 .usint 1,
    dummyAttribute 9 .usint 1,
    shortStringAttribute 10
      (if objects.interfaceLabelEnabled then getableSingleAndAll else getableAll) label,
    plainAttribute 11 .any getableSingleAndAll
      (value fun port => encodeCipEthernetLinkInterfaceCaps port.interfaceCaps)]

/-- The attributes in `CipQoSInit`. -/
def qosAttributes : List (CipAttributeStruct ObjectGlobals) :=
  let qos (globals : ObjectGlobals) := globals.application.qos
  [plainAttribute 1 .usint notSetOrGetable fun globals => sintBytes (qos globals).qFramesEnable,
    plainAttribute 2 .usint notSetOrGetable fun globals => sintBytes (qos globals).dscp.event,
    plainAttribute 3 .usint notSetOrGetable fun globals => sintBytes (qos globals).dscp.general] ++
  [.urgent, .scheduled, .high, .low, .explicitMsg].map fun attr =>
    ObjectGlobals.dscp.attribute (qosAttribute attr)

/-- `NvQosSetCallback`; each attribute of the class that can be set carries the flag. -/
def nvQosSetCallback : CipGetSetCallback ObjectGlobals := fun _ _ _ =>
  ObjectGlobals.modify fun data =>
    { data with
      confFile := (nvQosStore (objects.files data.accesses).write data.qos.dscp data.confFile).2
      accesses := data.accesses + 1 }

/-- `NvTcpipSetCallback`; storing is not implemented. -/
def nvTcpipSetCallback : CipGetSetCallback ObjectGlobals := fun _ _ _ globals => globals

def insertAll (instanceNumber : UInt16) (attributes : List (CipAttributeStruct ObjectGlobals)) :
    List (ClassSetup ObjectGlobals) :=
  attributes.map (.insertAttribute instanceNumber)

/-- The instances of the Ethernet link class. -/
def ports : List UInt16 :=
  (List.range objects.ethernetLinkInstances).map fun idx => UInt16.ofNat (idx + 1)

/-- What is inserted into a class, by its code. -/
def attributes (classCode : UInt32) : ClassAttributes ObjectData :=
  if classCode = messageRouterClassCode then
    { classSetup := insertClassAttributes classCode false 1 7 0 messageRouterClassFlags }
  else if classCode = identityClassCode then
    { classSetup := insertClassAttributes classCode false 1 7 7 identityClassFlags
      instanceSetup := insertAll 1 identityAttributes }
  else if classCode = tcpIpInterfaceClassCode then
    { classSetup := insertClassAttributes classCode true 4 7 13 defaultClassFlags
      instanceSetup := insertAll 1 objects.tcpIpAttributes ++
        [.insertGetSetCallback nvTcpipSetCallback nvDataFunc] }
  else if classCode = ethernetLinkClassCode then
    { classSetup := insertClassAttributes classCode true 4 7 11 defaultClassFlags
      instanceSetup := (List.range objects.ethernetLinkInstances).flatMap fun idx =>
        insertAll (UInt16.ofNat (idx + 1)) (objects.ethernetLinkAttributes idx) }
  else if classCode = connectionManagerClassCode then
    { classSetup := insertClassAttributes classCode false 1 7 14 identityClassFlags }
  else if classCode = assemblyClassCode then
    { classSetup := insertClassAttributes classCode true 2 7 4 defaultClassFlags
      instanceSetup := (setUpAssemblies objects.environment objects.assemblyInstances).map
        ObjectGlobals.assembly.setup }
  else if classCode = qosClassCode then
    { classSetup := insertClassAttributes classCode true 1 7 8 defaultClassFlags
      instanceSetup := insertAll 1 qosAttributes ++
        [.insertGetSetCallback objects.nvQosSetCallback nvDataFunc] }
  else {}

/-- `ResetDevice` of the sample application. -/
def resetDevice (globals : ObjectGlobals) : Except Fault (EipStatus × ObjectGlobals) :=
  match globals.stack.closeAllConnections objects.stack with
  | .error fault => .error fault
  | .ok stack =>
      .ok (.ok, ObjectGlobals.modify (fun data => { data with activeDscp := data.qos.dscp })
        { globals with stack })

/-- `ResetDeviceToInitialConfiguration` of the sample application, with
`CipQosResetAttributesToDefaultValues`. -/
def resetDeviceToInitialConfiguration (globals : ObjectGlobals) :
    Except Fault (EipStatus × ObjectGlobals) :=
  match objects.resetDevice (ObjectGlobals.modify (fun data =>
      { data with
        tcpip := { data.tcpip with encapsulationInactivityTimeout := 120 }
        qos := { qFramesEnable := 0, dscp := .defaults } }) globals) with
  | .error fault => .error fault
  | .ok (_, globals) => .ok (.ok, globals)

/-- The classes with the attributes of the objects. -/
def stackClasses : StackClasses ObjectData :=
  { interfaceControl := objects.interfaceControl
    ethernetLinkInstances := objects.ports
    assemblyInstances := objects.assemblyInstances
    resetDevice := objects.resetDevice
    resetDeviceToInitialConfiguration := objects.resetDeviceToInitialConfiguration
    attributes := objects.attributes }

end ObjectConfig

end Opener

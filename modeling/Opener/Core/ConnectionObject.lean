import Opener.Core.Types

/-!
The connection object and the accessors of `cipconnectionobject.c`, which keep
their names without the prefix `ConnectionObject`. Fields that no modelled
function reads (the connection sizes, the path pointers and the watchdog action)
are left out.
-/

namespace Opener

inductive ConnectionCloseFunction where
  | closeConnection
  | closeIoConnection
deriving DecidableEq, Repr

inductive ConnectionTimeoutFunction where
  | class3ConnectionTimeoutHandler
  | handleIoConnectionTimeOut
deriving DecidableEq, Repr

inductive ConnectionSendDataFunction where
  | sendConnectedData
deriving DecidableEq, Repr

inductive ConnectionReceiveDataFunction where
  | handleReceivedIoConnectionData
deriving DecidableEq, Repr

/-- `struct cip_connection_object`. The default of every field is what a
`memset` to zero leaves; note that both sockets are then zero, not invalid. -/
structure CipConnectionObject where
  state : ConnectionObjectState := .nonExistent
  instanceType : ConnectionObjectInstanceType := .explicitMessaging
  transportClassTrigger : UInt8 := 0
  expectedPacketRate : UInt16 := 0
  cipProducedConnectionId : UInt32 := 0
  cipConsumedConnectionId : UInt32 := 0
  producedConnectionPathLength : UInt16 := 0
  producedPath : ConnectionPathEpath := {}
  consumedConnectionPathLength : UInt16 := 0
  consumedPath : ConnectionPathEpath := {}
  productionInhibitTime : UInt16 := 0
  connectionTimeoutMultiplier : UInt8 := 0
  electronicKeyFormat : UInt8 := 0
  configurationPath : ConnectionPathEpath := {}
  producingInstance : Option UInt16 := none
  consumingInstance : Option UInt16 := none
  transmissionTriggerTimer : UInt64 := 0
  inactivityWatchdogTimer : UInt64 := 0
  lastPackageWatchdogTimer : UInt64 := 0
  productionInhibitTimer : UInt64 := 0
  connectionSerialNumber : UInt16 := 0
  originatorVendorId : UInt16 := 0
  originatorSerialNumber : UInt32 := 0
  connectionNumber : UInt16 := 0
  oToTRequestedPacketInterval : UInt32 := 0
  oToTNetworkConnectionParameters : UInt32 := 0
  tToORequestedPacketInterval : UInt32 := 0
  tToONetworkConnectionParameters : UInt32 := 0
  sequenceCountProducing : UInt16 := 0
  sequenceCountConsuming : UInt16 := 0
  eipLevelSequenceCountProducing : UInt32 := 0
  eipLevelSequenceCountConsuming : UInt32 := 0
  eipFirstLevelSequenceCountReceived : Bool := false
  correctOriginatorToTargetSize : UInt16 := 0
  correctTargetToOriginatorSize : UInt16 := 0
  consumingSocket : Int := 0
  producingSocket : Int := 0
  remoteAddress : SockaddrIn := {}
  originatorAddress : SockaddrIn := {}
  associatedEncapsulationSession : UInt32 := 0
  connectionCloseFunction : Option ConnectionCloseFunction := none
  connectionTimeoutFunction : Option ConnectionTimeoutFunction := none
  connectionSendDataFunction : Option ConnectionSendDataFunction := none
  connectionReceiveDataFunction : Option ConnectionReceiveDataFunction := none
  lastReplySent : List UInt8 := []
  isLargeForwardOpen : Bool := false

namespace CipConnectionObject

def initializeEmpty : CipConnectionObject :=
  { state := .nonExistent
    consumingSocket := eipInvalidSocket
    producingSocket := eipInvalidSocket }

variable (c : CipConnectionObject)

def setState (state : ConnectionObjectState) : CipConnectionObject :=
  { c with state := state }

def isTypeNonLOIOConnection : Bool :=
  match c.instanceType with
  | .io | .ioExclusiveOwner | .ioInputOnly => true
  | _ => false

def isTypeIOConnection : Bool :=
  match c.instanceType with
  | .io | .ioExclusiveOwner | .ioInputOnly | .ioListenOnly => true
  | _ => false

def transportClassTriggerDirection : TransportClassTriggerDirection :=
  if c.transportClassTrigger &&& 0x80 = 0x80 then .server else .client

def productionTrigger : ProductionTrigger :=
  if c.transportClassTrigger &&& 0x70 = 0x00 then .cyclic
  else if c.transportClassTrigger &&& 0x70 = 0x10 then .changeOfState
  else if c.transportClassTrigger &&& 0x70 = 0x20 then .applicationObject
  else .invalid

def transportClass : TransportClass :=
  if c.transportClassTrigger &&& 0x0F = 0 then .class0
  else if c.transportClassTrigger &&& 0x0F = 1 then .class1
  else if c.transportClassTrigger &&& 0x0F = 2 then .class2
  else if c.transportClassTrigger &&& 0x0F = 3 then .class3
  else .invalid

/-- What is left of the packet interval in microseconds beyond whole timer ticks. The
tick is an `unsigned long`, so the remainder is taken in 64 bits. -/
def remainderToResolution (cfg : Config) : UInt32 :=
  (c.tToORequestedPacketInterval.toUInt64 % (cfg.timerTickInMilliSeconds * 1000)).toUInt32

def requestedPacketInterval (cfg : Config) : UInt16 :=
  let remainderToResolution := c.remainderToResolution cfg
  if remainderToResolution = 0 then (c.tToORequestedPacketInterval / 1000).toUInt16
  else (c.tToORequestedPacketInterval / 1000 - remainderToResolution / 1000).toUInt16

def setExpectedPacketRate (cfg : Config) : CipConnectionObject :=
  let remainderToResolution := c.remainderToResolution cfg
  if remainderToResolution = 0 then
    { c with expectedPacketRate := (c.tToORequestedPacketInterval / 1000).toUInt16 }
  else
    { c with expectedPacketRate :=
        (c.tToORequestedPacketInterval / 1000 +
          (cfg.timerTickInMilliSeconds.toUInt32 - remainderToResolution / 1000)).toUInt16 }

/-- `ConnectionObjectCalculateRegularInactivityWatchdogTimerValue`. The shift is written
on natural numbers and truncated; a shift by the width or more, multiplier 62 and up, has
no defined value in C and gives zero here. -/
def regularInactivityWatchdogTimerValue : UInt64 :=
  UInt64.ofNat ((c.oToTRequestedPacketInterval.toNat / 1000) <<<
    (2 + c.connectionTimeoutMultiplier.toNat))

def setInitialInactivityWatchdogTimerValue : CipConnectionObject :=
  { c with inactivityWatchdogTimer :=
      if c.regularInactivityWatchdogTimerValue > 10000 then
        c.regularInactivityWatchdogTimerValue
      else 10000 }

def resetInactivityWatchdogTimerValue : CipConnectionObject :=
  { c with inactivityWatchdogTimer := c.regularInactivityWatchdogTimerValue }

def resetLastPackageInactivityTimerValue : CipConnectionObject :=
  { c with lastPackageWatchdogTimer := c.regularInactivityWatchdogTimerValue }

def connectionType (parameters : UInt32) (isLfo : Bool) : ConnectionType :=
  let bits := if isLfo then (parameters >>> 29) &&& 3 else (parameters >>> 13) &&& 3
  if bits = 0 then .null
  else if bits = 1 then .multicast
  else if bits = 2 then .pointToPoint
  else .invalid

def oToTConnectionType : ConnectionType :=
  connectionType c.oToTNetworkConnectionParameters c.isLargeForwardOpen

def tToOConnectionType : ConnectionType :=
  connectionType c.tToONetworkConnectionParameters c.isLargeForwardOpen

def tToOPriority : ConnectionPriority :=
  let bits :=
    if c.isLargeForwardOpen then (c.tToONetworkConnectionParameters >>> 26) &&& 3
    else (c.tToONetworkConnectionParameters >>> 10) &&& 3
  if bits = 0 then .low
  else if bits = 1 then .high
  else if bits = 2 then .scheduled
  else .urgent

def tToOConnectionSizeType : ConnectionSizeType :=
  let bit :=
    if c.isLargeForwardOpen then (c.tToONetworkConnectionParameters >>> 25) &&& 1
    else (c.tToONetworkConnectionParameters >>> 9) &&& 1
  if bit = 0 then .fixed else .variable

def connectionSize (parameters : UInt32) (isLfo : Bool) : UInt32 :=
  if isLfo then parameters &&& 0x0000FFFF else parameters &&& 0x000001FF

def oToTConnectionSize : UInt32 :=
  connectionSize c.oToTNetworkConnectionParameters c.isLargeForwardOpen

def tToOConnectionSize : UInt32 :=
  connectionSize c.tToONetworkConnectionParameters c.isLargeForwardOpen

def resetSequenceCounts : CipConnectionObject :=
  { c with
    eipLevelSequenceCountProducing := 0
    sequenceCountProducing := 0
    eipLevelSequenceCountConsuming := 0
    eipFirstLevelSequenceCountReceived := false
    sequenceCountConsuming := 0 }

def resetProductionInhibitTimer : CipConnectionObject :=
  { c with productionInhibitTimer := c.productionInhibitTime.toUInt64 }

def equalOriginator (c d : CipConnectionObject) : Bool :=
  c.originatorVendorId = d.originatorVendorId &&
    c.originatorSerialNumber = d.originatorSerialNumber

def equalConnectionTriad (c d : CipConnectionObject) : Bool :=
  c.connectionSerialNumber = d.connectionSerialNumber &&
    c.originatorVendorId = d.originatorVendorId &&
    c.originatorSerialNumber = d.originatorSerialNumber

end CipConnectionObject

end Opener

import Mathlib.Data.UInt
import Mathlib.Data.List.Basic

/-!
The fixed-width values, enumerations and configuration constants that the
connection manager shares. Numbers are the C types of the source; status words
stay numbers because the path parser also stores offsets in them.
-/

namespace Opener

def eipInvalidSocket : Int := -1

/-- The size of the buffer of an `ENIPMessage`, and of the one that receives. -/
def ethernetBufferSize : Nat := 512

inductive ConnectionObjectState where
  | nonExistent
  | configuring
  | waitingForConnectionId
  | established
  | timedOut
  | deferredDelete
  | closing
  | invalid
deriving DecidableEq, Repr

/-- `memset` to zero gives `explicitMessaging`. -/
inductive ConnectionObjectInstanceType where
  | invalid
  | explicitMessaging
  | io
  | ioExclusiveOwner
  | ioInputOnly
  | ioListenOnly
  | cipBridged
deriving DecidableEq, Repr

inductive TransportClassTriggerDirection where
  | client
  | server
deriving DecidableEq, Repr

inductive ProductionTrigger where
  | invalid
  | cyclic
  | changeOfState
  | applicationObject
deriving DecidableEq, Repr

inductive TransportClass where
  | invalid
  | class0
  | class1
  | class2
  | class3
deriving DecidableEq, Repr

inductive ConnectionType where
  | null
  | multicast
  | pointToPoint
  | invalid
deriving DecidableEq, Repr

inductive ConnectionPriority where
  | low
  | high
  | scheduled
  | urgent
deriving DecidableEq, Repr

inductive ConnectionSizeType where
  | fixed
  | variable
deriving DecidableEq, Repr

inductive EipStatus where
  | ok
  | okSend
  | error
deriving DecidableEq, Repr

/-- The ways in which the C program leaves the behaviour the language defines,
or does not come back. A run of the model ends there. -/
inductive Fault where
  | nullFunctionCall
  | nullDereference
  | freedNode
  | nodesExhausted
  | nonTermination
  | endlessTimerLoop
  | outOfBounds
  | wildAccess
  | assertionFailed
  /-- a write behind the buffer of an `ENIPMessage` -/
  | messageOverrun
deriving DecidableEq, Repr

namespace GeneralStatus

def success : UInt8 := 0x00
def connectionFailure : UInt8 := 0x01
def pathSegmentError : UInt8 := 0x04
def pathDestinationUnknown : UInt8 := 0x05
def serviceNotSupported : UInt8 := 0x08
def privilegeViolation : UInt8 := 0x0F
def notEnoughData : UInt8 := 0x13
def tooMuchData : UInt8 := 0x15
def pathSizeInvalid : UInt8 := 0x26
/-- `kEipStatusError`, which is minus one, stored in an unsigned byte. -/
def statusError : UInt8 := 0xFF

end GeneralStatus

namespace ExtendedStatus

def success : UInt16 := 0x0000
def connectionInUseOrDuplicateForwardOpen : UInt16 := 0x0100
def transportClassAndTriggerCombinationNotSupported : UInt16 := 0x0103
def ownershipConflict : UInt16 := 0x0106
def connectionTargetConnectionNotFound : UInt16 := 0x0107
def rpiValuesNotAcceptable : UInt16 := 0x0112
def noMoreConnectionsAvailable : UInt16 := 0x0113
def vendorIdOrProductcodeError : UInt16 := 0x0114
def deviceTypeError : UInt16 := 0x0115
def revisionMismatch : UInt16 := 0x0116
def nonListenOnlyConnectionNotOpened : UInt16 := 0x0119
def targetObjectOutOfConnections : UInt16 := 0x011A
def productionInhibitTimerGreaterThanRpi : UInt16 := 0x011B
def invalidOToTConnectionType : UInt16 := 0x0123
def invalidTToOConnectionType : UInt16 := 0x0124
def invalidOToTConnectionSize : UInt16 := 0x0127
def invalidTToOConnectionSize : UInt16 := 0x0128
def invalidConfigurationApplicationPath : UInt16 := 0x0129
def invalidConsumingApplicationPath : UInt16 := 0x012A
def invalidProducingApplicationPath : UInt16 := 0x012B
def inconsistentApplicationPathCombo : UInt16 := 0x012F
def nullForwardOpenNotSupported : UInt16 := 0x0132
def mismatchedTToONetworkConnectionFixVar : UInt16 := 0x0135
def mismatchedTToONetworkConnectionPriority : UInt16 := 0x0136
def mismatchedTransportClass : UInt16 := 0x0137
def mismatchedTToOProductionTrigger : UInt16 := 0x0138
def mismatchedTToOProductionInhibitTimeSegment : UInt16 := 0x0139
def invalidSegmentTypeInPath : UInt16 := 0x0315
def notConfiguredForOffSubnetMulticast : UInt16 := 0x0813
/-- Not a status of the wire; `ForwardClose` uses it internally. -/
def wrongCloser : UInt16 := 0xFFFF

end ExtendedStatus

/-- `htons` on a little-endian host. -/
def htons (value : UInt16) : UInt16 := (value <<< 8) ||| (value >>> 8)

def afInet : UInt16 := 2

def openerEipIoUdpPort : UInt16 := 2222

def messageRouterClassCode : UInt32 := 0x02
def assemblyClassCode : UInt32 := 0x04
def connectionManagerClassCode : UInt32 := 0x06

/-- `struct sockaddr_in`, port and address in network order. -/
structure SockaddrIn where
  sinFamily : UInt16 := 0
  sinPort : UInt16 := 0
  sinAddr : UInt32 := 0
deriving DecidableEq, Repr

structure ConnectionPathEpath where
  classId : UInt32 := 0
  instanceId : UInt16 := 0
  attributeIdOrConnectionPoint : UInt32 := 0
deriving DecidableEq, Repr

/-- One entry of the exclusive-owner, input-only or listen-only table, without
the connection objects, which live in the pool. -/
structure ConnectionPoint where
  outputAssembly : UInt32 := 0
  inputAssembly : UInt32 := 0
  configAssembly : UInt32 := 0
deriving DecidableEq, Repr

/-- The part of the Identity object that electronic keys are compared with. -/
structure Identity where
  vendorId : UInt16
  deviceType : UInt16
  productCode : UInt16
  majorRevision : UInt8
  minorRevision : UInt8
deriving DecidableEq, Repr

/-- A connection object of one of the four pools, that is, an address. -/
inductive ConnRef where
  | explicit (i : Nat)
  | exclusiveOwner (i : Nat)
  | inputOnly (i j : Nat)
  | listenOnly (i j : Nat)
deriving DecidableEq, Repr

/-- What is fixed while the stack runs: the sizes of `opener_user_conf.h`, the
configured connection points, the registered classes with their instances, and
the network and run/idle settings. -/
structure Config where
  numExplicitConns : Nat
  numExclusiveOwnerConns : Nat
  numInputOnlyConns : Nat
  numInputOnlyConnsPerConPath : Nat
  numListenOnlyConns : Nat
  numListenOnlyConnsPerConPath : Nat
  numApplicationSpecificConnectableObjects : Nat
  numberOfSupportedSessions : Nat
  timerTickInMilliSeconds : UInt64
  exclusiveOwnerPoint : Nat → ConnectionPoint
  inputOnlyPoint : Nat → ConnectionPoint
  listenOnlyPoint : Nat → ConnectionPoint
  classes : List (UInt32 × List UInt16)
  identity : Identity
  incarnationId : UInt32
  ipAddress : UInt32
  networkMask : UInt32
  startingMulticastAddress : UInt32
  consumeRunIdle : Bool
  produceRunIdle : Bool
  encapsulationInactivityTimeout : UInt16

namespace Config

variable (cfg : Config)

/-- `GetCipClass`, as the instance numbers of the class. -/
def getCipClass (classId : UInt32) : Option (List UInt16) :=
  (cfg.classes.find? fun entry => entry.1 = classId).map Prod.snd

/-- `GetCipInstance`; instance zero is the class object itself. -/
def getCipInstance (instances : List UInt16) (instanceNumber : UInt16) :
    Option UInt16 :=
  if instanceNumber = 0 then some 0
  else instances.find? fun number => number = instanceNumber

/-- `GetCipInstance` on the Assembly class. The code dereferences the class
pointer, so an unregistered class is a fault. -/
def getAssemblyInstance (instanceNumber : UInt16) : Except Fault (Option UInt16) :=
  match cfg.getCipClass assemblyClassCode with
  | none => if instanceNumber = 0 then .ok none else .error .nullDereference
  | some instances => .ok (getCipInstance instances instanceNumber)

def configureExclusiveOwnerConnectionPoint (connectionNumber : Nat)
    (point : ConnectionPoint) : Config :=
  if connectionNumber < cfg.numExclusiveOwnerConns then
    { cfg with exclusiveOwnerPoint :=
        Function.update cfg.exclusiveOwnerPoint connectionNumber point }
  else cfg

def configureInputOnlyConnectionPoint (connectionNumber : Nat)
    (point : ConnectionPoint) : Config :=
  if connectionNumber < cfg.numInputOnlyConns then
    { cfg with inputOnlyPoint :=
        Function.update cfg.inputOnlyPoint connectionNumber point }
  else cfg

def configureListenOnlyConnectionPoint (connectionNumber : Nat)
    (point : ConnectionPoint) : Config :=
  if connectionNumber < cfg.numListenOnlyConns then
    { cfg with listenOnlyPoint :=
        Function.update cfg.listenOnlyPoint connectionNumber point }
  else cfg

/-- `kNodesAmount` of `CipConnectionObjectListArrayAllocator`. -/
def nodesAmount : Nat :=
  cfg.numExplicitConns + cfg.numInputOnlyConns + cfg.numExclusiveOwnerConns +
    cfg.numListenOnlyConns

end Config

/-- The pool objects that the configuration provides. -/
def ConnRef.Valid (cfg : Config) : ConnRef → Prop
  | .explicit i => i < cfg.numExplicitConns
  | .exclusiveOwner i => i < cfg.numExclusiveOwnerConns
  | .inputOnly i j =>
      i < cfg.numInputOnlyConns ∧ j < cfg.numInputOnlyConnsPerConPath
  | .listenOnly i j =>
      i < cfg.numListenOnlyConns ∧ j < cfg.numListenOnlyConnsPerConPath

instance (cfg : Config) : (r : ConnRef) → Decidable (r.Valid cfg)
  | .explicit _ => inferInstanceAs (Decidable (_ < _))
  | .exclusiveOwner _ => inferInstanceAs (Decidable (_ < _))
  | .inputOnly _ _ => inferInstanceAs (Decidable (_ ∧ _))
  | .listenOnly _ _ => inferInstanceAs (Decidable (_ ∧ _))

end Opener

import Opener.Core.MessageRouter
import Opener.Core.SampleApplication

/-!
The classes of `CipStackInit` with their services. The attributes that are inserted into the
class objects and the instances are given, as the objects that they point to are.
-/

namespace Opener

namespace CIPServiceCode

def getAttributeAll : UInt8 := 0x01
def getAttributeList : UInt8 := 0x03
def setAttributeList : UInt8 := 0x04
def reset : UInt8 := 0x05
def getAttributeSingle : UInt8 := 0x0E
def setAttributeSingle : UInt8 := 0x10
def forwardClose : UInt8 := 0x4E
def forwardOpen : UInt8 := 0x54
def getConnectionData : UInt8 := 0x56
def searchConnectionData : UInt8 := 0x57
def getConnectionOwner : UInt8 := 0x5A
def largeForwardOpen : UInt8 := 0x5B

end CIPServiceCode

def identityClassCode : UInt32 := 0x01
def dlrClassCode : UInt32 := 0x47
def qosClassCode : UInt32 := 0x48
def tcpIpInterfaceClassCode : UInt32 := 0xF5
def ethernetLinkClassCode : UInt32 := 0xF6

variable {σ : Type}

def createServingClass (numberOfAttributes : Nat) (highestAttributeNumber : UInt32)
    (numberOfServices : Nat) (instanceNumbers : List UInt16)
    (setup : List (ClassSetup (Globals σ))) (inserted : List (UInt8 × CipServiceFunction)) :
    Except Fault (ServingClass σ) :=
  match setUpClass (createCipClass numberOfAttributes highestAttributeNumber instanceNumbers)
      setup with
  | .error fault => .error fault
  | .ok cipClass =>
      match insertServices inserted (allocateServices numberOfServices) with
      | .error fault => .error fault
      | .ok services => .ok { cipClass with numberOfAttributes, services }

/-- The services of every class object that has room for two. -/
def metaServices : List (UInt8 × CipServiceFunction) :=
  [(CIPServiceCode.getAttributeAll, .getAttributeAll),
    (CIPServiceCode.getAttributeSingle, .getAttributeSingle)]

/-- The arguments of `CreateCipClass` and of the calls after it. -/
structure ClassRegistration (σ : Type) where
  classCode : UInt32
  numberOfClassAttributes : Nat := 0
  highestClassAttributeNumber : UInt32 := 7
  numberOfClassServices : Nat := 2
  numberOfInstanceAttributes : Nat
  highestInstanceAttributeNumber : UInt32
  numberOfInstanceServices : Nat
  instanceNumbers : List UInt16 := [1]
  classServices : List (UInt8 × CipServiceFunction) := metaServices
  instanceServices : List (UInt8 × CipServiceFunction)
  preResetCallback : Option (CipCallback σ) := none

/-- The attributes of the class object and of the instances. -/
structure ClassAttributes (σ : Type) where
  classSetup : List (ClassSetup (Globals σ)) := []
  instanceSetup : List (ClassSetup (Globals σ)) := []

def ClassRegistration.create (registration : ClassRegistration σ)
    (attributes : ClassAttributes σ) : Except Fault (RegisteredClass σ) :=
  match createServingClass (registration.numberOfClassAttributes + 7)
      registration.highestClassAttributeNumber registration.numberOfClassServices [0]
      attributes.classSetup registration.classServices with
  | .error fault => .error fault
  | .ok metaClass =>
      match createServingClass registration.numberOfInstanceAttributes
          registration.highestInstanceAttributeNumber registration.numberOfInstanceServices
          registration.instanceNumbers attributes.instanceSetup
          registration.instanceServices with
      | .error fault => .error fault
      | .ok cipClass =>
          .ok
            { classCode := registration.classCode
              cipClass := { cipClass with preResetCallback := registration.preResetCallback }
              metaClass }

/-- `CipMessageRouterInit`. -/
def messageRouterRegistration : ClassRegistration σ :=
  { classCode := messageRouterClassCode
    numberOfClassAttributes := 7
    numberOfInstanceAttributes := 0
    highestInstanceAttributeNumber := 0
    numberOfInstanceServices := 1
    instanceServices := [(CIPServiceCode.getAttributeSingle, .getAttributeSingle)] }

/-- `CipIdentityInit`, with the two functions of the application that reset the device. -/
def identityRegistration (resetDevice resetDeviceToInitialConfiguration :
    Globals σ → Except Fault (EipStatus × Globals σ)) : ClassRegistration σ :=
  { classCode := identityClassCode
    numberOfInstanceAttributes := 7
    highestInstanceAttributeNumber := 7
    numberOfInstanceServices := 5
    instanceServices :=
      [(CIPServiceCode.getAttributeSingle, .getAttributeSingle),
        (CIPServiceCode.getAttributeAll, .getAttributeAll),
        (CIPServiceCode.reset, .cipResetService),
        (CIPServiceCode.getAttributeList, .getAttributeList),
        (CIPServiceCode.setAttributeList, .setAttributeList)]
    preResetCallback :=
      some (identityObjectPreResetCallback resetDevice resetDeviceToInitialConfiguration) }

/-- `CipTcpIpInterfaceInit`. -/
def tcpIpInterfaceRegistration : ClassRegistration σ :=
  { classCode := tcpIpInterfaceClassCode
    numberOfInstanceAttributes := 13
    highestInstanceAttributeNumber := 13
    numberOfInstanceServices := 3
    instanceServices :=
      [(CIPServiceCode.getAttributeSingle, .getAttributeSingle),
        (CIPServiceCode.getAttributeAll, .getAttributeAll),
        (CIPServiceCode.setAttributeSingle, .setAttributeSingle)] }

/-- `CipEthernetLinkInit` without the media counters. -/
def ethernetLinkRegistration (interfaceControl : Bool) (instanceNumbers : List UInt16) :
    ClassRegistration σ :=
  { classCode := ethernetLinkClassCode
    numberOfInstanceAttributes := 11
    highestInstanceAttributeNumber := 11
    numberOfInstanceServices := 2 + interfaceControl.toNat
    instanceNumbers
    instanceServices :=
      [(CIPServiceCode.getAttributeSingle, .getAttributeSingle),
        (CIPServiceCode.getAttributeAll, .getAttributeAll)] ++
      if interfaceControl then [(CIPServiceCode.setAttributeSingle, .setAttributeSingle)]
      else [] }

/-- `ConnectionManagerInit`. -/
def connectionManagerRegistration : ClassRegistration σ :=
  { classCode := connectionManagerClassCode
    numberOfInstanceAttributes := 0
    highestInstanceAttributeNumber := 14
    numberOfInstanceServices := 8
    instanceServices :=
      [(CIPServiceCode.getAttributeSingle, .getAttributeSingle),
        (CIPServiceCode.getAttributeAll, .getAttributeAll),
        (CIPServiceCode.forwardOpen, .forwardOpen),
        (CIPServiceCode.largeForwardOpen, .largeForwardOpen),
        (CIPServiceCode.forwardClose, .forwardClose),
        (CIPServiceCode.getConnectionOwner, .getConnectionOwner),
        (CIPServiceCode.getConnectionData, .getConnectionData),
        (CIPServiceCode.searchConnectionData, .searchConnectionData)] }

/-- `CipAssemblyInitialize`; the application creates the instances. -/
def assemblyRegistration (instanceNumbers : List UInt16) : ClassRegistration σ :=
  { classCode := assemblyClassCode
    numberOfClassServices := 1
    numberOfInstanceAttributes := 2
    highestInstanceAttributeNumber := 4
    numberOfInstanceServices := 2
    instanceNumbers
    classServices := [(CIPServiceCode.getAttributeSingle, .getAttributeSingle)]
    instanceServices :=
      [(CIPServiceCode.getAttributeSingle, .getAttributeSingle),
        (CIPServiceCode.setAttributeSingle, .setAttributeSingle)] }

/-- `CipDlrInit`. -/
def dlrRegistration : ClassRegistration σ :=
  { classCode := dlrClassCode
    numberOfInstanceAttributes := 11
    highestInstanceAttributeNumber := 12
    numberOfInstanceServices := 2
    instanceServices :=
      [(CIPServiceCode.getAttributeSingle, .getAttributeSingle),
        (CIPServiceCode.getAttributeAll, .getAttributeAll)] }

/-- `CipQoSInit`. -/
def qosRegistration : ClassRegistration σ :=
  { classCode := qosClassCode
    numberOfClassAttributes := 7
    numberOfInstanceAttributes := 8
    highestInstanceAttributeNumber := 8
    numberOfInstanceServices := 2
    instanceServices :=
      [(CIPServiceCode.getAttributeSingle, .getAttributeSingle),
        (CIPServiceCode.setAttributeSingle, .setAttributeSingle)] }

/-- What the build and the application settle about the classes. -/
structure StackClasses (σ : Type) where
  isDlrDevice : Bool := false
  interfaceControl : Bool := false
  ethernetLinkInstances : List UInt16 := [1]
  assemblyInstances : List UInt16
  resetDevice : Globals σ → Except Fault (EipStatus × Globals σ)
  resetDeviceToInitialConfiguration : Globals σ → Except Fault (EipStatus × Globals σ)
  attributes : UInt32 → ClassAttributes σ := fun _ => {}

/-- The classes in the order in which `CipStackInit` registers them. -/
def StackClasses.registrations (classes : StackClasses σ) : List (ClassRegistration σ) :=
  [messageRouterRegistration,
    identityRegistration classes.resetDevice classes.resetDeviceToInitialConfiguration,
    tcpIpInterfaceRegistration,
    ethernetLinkRegistration classes.interfaceControl classes.ethernetLinkInstances,
    connectionManagerRegistration, assemblyRegistration classes.assemblyInstances] ++
  (if classes.isDlrDevice then [dlrRegistration] else []) ++ [qosRegistration]

def cipStackInit (classes : StackClasses σ) : Except Fault (List (RegisteredClass σ)) :=
  classes.registrations.mapM fun registration =>
    registration.create (classes.attributes registration.classCode)

namespace SampleApplication

/-- `ResetDevice`, which also resets the values of the QoS object. -/
def resetDevice (globals : Globals Unit) : Except Fault (EipStatus × Globals Unit) :=
  (globals.stack.closeAllConnections config).map fun stack => (.ok, { globals with stack })

/-- The classes without attributes. -/
def stackClasses : StackClasses Unit :=
  { assemblyInstances := [154, 153, 152, 151, 150, 100]
    resetDevice
    resetDeviceToInitialConfiguration := resetDevice }

/-- The device when it is started, with more classes of an application. -/
def device (added : List (RegisteredClass Unit)) : Device Unit :=
  { classes := ((cipStackInit stackClasses).toOption.getD []) ++ added
    globals :=
      { stack := initialState config assemblyData
        counters := fun classCode => if classCode = assemblyClassCode then ⟨6, 154⟩ else ⟨1, 1⟩
        application := () } }

end SampleApplication

end Opener

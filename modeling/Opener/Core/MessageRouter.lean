import Opener.Core.Attributes
import Opener.Core.ConnectionData
import Opener.Core.Instances
import Opener.Core.Services

/-!
The message router of `cipmessagerouter.c` over the registered classes, the services that it
calls, and the explicit messages of `cpf.c` that it answers. The functions of the objects work
on the stack, the counters of the classes and the variables of the application, which may be
of any type.
-/

namespace Opener

namespace GeneralStatus

def invalidParameter : UInt8 := 0x20
def instanceNotDeletable : UInt8 := 0x2D

end GeneralStatus

/-- The functions of the stack that are registered as services. -/
inductive CipServiceFunction where
  | getAttributeSingle
  | setAttributeSingle
  | getAttributeAll
  | getAttributeList
  | setAttributeList
  | cipCreateService
  | cipDeleteService
  | cipResetService
  | forwardOpen
  | largeForwardOpen
  | forwardClose
  | getConnectionOwner
  | getConnectionData
  | searchConnectionData
deriving DecidableEq, Repr

/-- `number_of_instances` and `max_instance` of a class, which are attributes of it. -/
structure InstanceCounters where
  numberOfInstances : UInt16
  maxInstance : UInt16
deriving DecidableEq, Repr

/-- What the functions of the objects read and write; the counters are found by the code
of the class. -/
structure Globals (σ : Type) where
  stack : StackState
  counters : UInt32 → InstanceCounters
  application : σ

/-- What a service leaves: its status, the response and a state. -/
abbrev ServiceReply (α : Type) := Except Fault (EipStatus × MessageRouterResponse × α)

/-- A callback of Create, Delete or Reset, on the number of the instance. -/
abbrev CipCallback (σ : Type) :=
  UInt16 → MessageRouterRequest → MessageRouterResponse → Globals σ → ServiceReply (Globals σ)

/-- `CipClass` with what the services need besides the attributes. -/
structure ServingClass (σ : Type) extends CipClass (Globals σ) where
  numberOfAttributes : Nat
  services : List (CipServiceStruct CipServiceFunction)
  preCreateCallback : Option (CipCallback σ) := none
  postCreateCallback : Option (CipCallback σ) := none
  preDeleteCallback : Option (CipCallback σ) := none
  postDeleteCallback : Option (CipCallback σ) := none
  preResetCallback : Option (CipCallback σ) := none
  postResetCallback : Option (CipCallback σ) := none

/-- A registered class. The class object is the instance of the metaclass, with the number
0. -/
structure RegisteredClass (σ : Type) where
  classCode : UInt32
  cipClass : ServingClass σ
  metaClass : ServingClass σ

/-- The registered classes, in the order of the registry, and the globals. -/
structure Device (σ : Type) where
  classes : List (RegisteredClass σ)
  globals : Globals σ

section Classes

variable {σ : Type}

namespace ServingClass

/-- The instances with their counters; the address of one is its place in the list. -/
def table (cipClass : ServingClass σ) (counters : InstanceCounters) : InstanceTable :=
  { instances := cipClass.instances.mapIdx fun address inst =>
      { address, instanceNumber := inst.instanceNumber }
    numberOfInstances := counters.numberOfInstances
    maxInstance := counters.maxInstance }

/-- The instances at these addresses. One that was not there is new, with unused attributes. -/
def setInstances (cipClass : ServingClass σ) (nodes : List CipInstanceNode) : ServingClass σ :=
  { cipClass with
    instances := nodes.map fun node =>
      cipClass.instances.getD node.address
        { instanceNumber := node.instanceNumber
          attributes := List.replicate cipClass.numberOfAttributes .unused } }

end ServingClass

namespace RegisteredClass

/-- The `cip_class` of an instance, which is the metaclass for the class object. -/
def classOf (registered : RegisteredClass σ) (instanceNumber : UInt16) : ServingClass σ :=
  if instanceNumber = 0 then registered.metaClass else registered.cipClass

def setClassOf (registered : RegisteredClass σ) (instanceNumber : UInt16)
    (cipClass : ServingClass σ) : RegisteredClass σ :=
  if instanceNumber = 0 then { registered with metaClass := cipClass }
  else { registered with cipClass }

def getCipInstance (registered : RegisteredClass σ) (instanceNumber : UInt16) :
    Option (CipInstance (Globals σ)) :=
  (registered.classOf instanceNumber).getCipInstance instanceNumber

/-- The class object was deleted, and with it the class. -/
def isFreed (registered : RegisteredClass σ) : Bool := (registered.getCipInstance 0).isNone

end RegisteredClass

/-- The loop of `GetRegisteredObject`. -/
def getRegisteredObject (classId : UInt32) :
    List (RegisteredClass σ) → Except Fault (Option (RegisteredClass σ))
  | [] => .ok none
  | registered :: classes =>
      if registered.isFreed then .error .wildAccess
      else if registered.classCode = classId then .ok (some registered)
      else getRegisteredObject classId classes

namespace Device

def stack (d : Device σ) : StackState := d.globals.stack

def setGlobals (d : Device σ) (globals : Globals σ) : Device σ := { d with globals }

def setStack (d : Device σ) (stack : StackState) : Device σ :=
  d.setGlobals { d.globals with stack }

/-- The configuration with the classes as they are registered now. -/
def config (cfg : Config) (d : Device σ) : Config :=
  { cfg with
    classes := d.classes.map fun registered =>
      (registered.classCode, registered.cipClass.instances.map (·.instanceNumber)) }

/-- The instances of a class, or the class object, replaced. -/
def setInstances (d : Device σ) (registered : RegisteredClass σ) (instanceNumber : UInt16)
    (nodes : List CipInstanceNode) : Device σ :=
  let changed := registered.setClassOf instanceNumber
    ((registered.classOf instanceNumber).setInstances nodes)
  { d with
    classes := d.classes.map fun other =>
      if other.classCode = registered.classCode then changed else other }

def setCounters (d : Device σ) (classCode : UInt32) (counters : InstanceCounters) : Device σ :=
  d.setGlobals
    { d.globals with counters := Function.update d.globals.counters classCode counters }

end Device

end Classes

section Services

variable {σ : Type}

/-- A callback that the class may have. -/
def notifyCallback (callback : Option (CipCallback σ)) (instanceNumber : UInt16)
    (request : MessageRouterRequest) (response : MessageRouterResponse)
    (globals : Globals σ) : ServiceReply (Globals σ) :=
  match callback with
  | none => .ok (.ok, response, globals)
  | some callback => callback instanceNumber request response globals

/-- A positive reply without data. -/
def successHeader (request : MessageRouterRequest) : MessageRouterResponse :=
  { replyService := 0x80 ||| request.service
    generalStatus := GeneralStatus.success }

def cipResetService (cipClass : ServingClass σ) (instanceNumber : UInt16)
    (request : MessageRouterRequest) (globals : Globals σ) : ServiceReply (Globals σ) :=
  match notifyCallback cipClass.preResetCallback instanceNumber request
      (successHeader request) globals with
  | .error fault => .error fault
  | .ok (internalState, response, globals) =>
      if internalState ≠ .error then
        match notifyCallback cipClass.postResetCallback instanceNumber request response
            globals with
        | .error fault => .error fault
        | .ok (_, response, globals) => .ok (internalState, response, globals)
      else .ok (internalState, response, globals)

/-- A function of the application that fails changes the status. -/
def resetAnswer (response : MessageRouterResponse) (result : Except Fault (EipStatus × Globals σ)) :
    ServiceReply (Globals σ) :=
  match result with
  | .error fault => .error fault
  | .ok (.error, globals) =>
      .ok (.okSend, { response with generalStatus := GeneralStatus.invalidParameter }, globals)
  | .ok (_, globals) => .ok (.okSend, response, globals)

/-- `IdentityObjectPreResetCallback`. What the two functions of the application do to the
variables is a parameter. -/
def identityObjectPreResetCallback
    (resetDevice resetDeviceToInitialConfiguration :
      Globals σ → Except Fault (EipStatus × Globals σ)) : CipCallback σ :=
  fun _ request response globals =>
    if request.requestDataSize > 1 then
      .ok (.okSend, { response with generalStatus := GeneralStatus.tooMuchData }, globals)
    else
      let resetType := if request.requestDataSize = 1 then request.data.byteAt 0 else 0
      if resetType = 0 then resetAnswer response (resetDevice globals)
      else if resetType = 1 then
        resetAnswer response (resetDeviceToInitialConfiguration globals)
      else
        .ok (.okSend, { response with generalStatus := GeneralStatus.invalidParameter },
          globals)

namespace Device

/-- The class of the request path gets the new instance, whatever instance is addressed. -/
def cipCreateService (registered : RegisteredClass σ) (instanceNumber : UInt16)
    (request : MessageRouterRequest) (d : Device σ) : ServiceReply (Device σ) :=
  let cipClass := registered.cipClass
  match notifyCallback cipClass.preCreateCallback instanceNumber request
      (successHeader request) d.globals with
  | .error fault => .error fault
  | .ok (internalState, response, globals) =>
      if internalState ≠ .ok then .ok (.okSend, response, d.setGlobals globals)
      else
        match InstanceTable.addCipInstances .upwards 1
            (cipClass.table (globals.counters registered.classCode)) with
        | .error fault => .error fault
        | .ok (none, _) => .error .assertionFailed
        | .ok (some newInstance, table) =>
            let d := ((d.setGlobals globals).setInstances registered 1
              table.instances).setCounters registered.classCode
              ⟨table.numberOfInstances, table.maxInstance⟩
            match notifyCallback cipClass.postCreateCallback newInstance.instanceNumber request
                response d.globals with
            | .error fault => .error fault
            | .ok (_, response, globals) => .ok (.okSend, response, d.setGlobals globals)

/-- An instance is deleted between the two callbacks, and its class counts it after them. The
counters of a metaclass are not read. -/
def cipDeleteService (registered : RegisteredClass σ) (instanceNumber : UInt16)
    (request : MessageRouterRequest) (d : Device σ) : ServiceReply (Device σ) :=
  let cipClass := registered.classOf instanceNumber
  match notifyCallback cipClass.preDeleteCallback instanceNumber request
      { successHeader request with generalStatus := GeneralStatus.instanceNotDeletable }
      d.globals with
  | .error fault => .error fault
  | .ok (internalState, response, globals) =>
      if internalState ≠ .ok then .ok (.ok, response, d.setGlobals globals)
      else
        match InstanceTable.cipDeleteService internalState { address := 0, instanceNumber }
            (cipClass.table (globals.counters registered.classCode)) with
        | .error fault => .error fault
        | .ok table =>
            match notifyCallback cipClass.postDeleteCallback instanceNumber request response
                globals with
            | .error fault => .error fault
            | .ok (_, response, globals) =>
                let d := (d.setGlobals globals).setInstances registered instanceNumber
                  table.instances
                let counters := globals.counters registered.classCode
                .ok (.ok, { response with generalStatus := GeneralStatus.success },
                  if instanceNumber = 0 then d
                  else d.setCounters registered.classCode
                    ⟨counters.numberOfInstances - 1, table.maxInstance⟩)

/-- A service of an instance, with the result of the function. `front` is what the receive
buffer holds in front of the data of the request. -/
def serve (cfg : Config) (env : Environment) (service : CipServiceFunction)
    (registered : RegisteredClass σ) (inst : CipInstance (Globals σ)) (epath : Epath)
    (front : List UInt8) (request : MessageRouterRequest) (originatorAddress : SockaddrIn)
    (encapsulationSession : UInt32) (d : Device σ) : ServiceReply (Device σ) :=
  let cipClass := registered.classOf epath.instanceNumber
  let cfg := d.config cfg
  let answer (result : Except Fault (MessageRouterResponse × Globals σ)) :
      ServiceReply (Device σ) :=
    result.map fun served => (.okSend, served.1, d.setGlobals served.2)
  let listed (result : Except Fault (ListReply (Globals σ))) : ServiceReply (Device σ) :=
    result.map fun served => (.okSend, served.response, d.setGlobals served.state)
  let connect (result : Except Fault (MessageRouterResponse × StackState)) :
      ServiceReply (Device σ) :=
    result.map fun served => (.okSend, served.1, d.setStack served.2)
  match service with
  | .getAttributeSingle =>
      answer (getAttributeSingle cipClass.toCipClass inst epath.attributeNumber request d.globals)
  | .setAttributeSingle =>
      answer (setAttributeSingle cipClass.toCipClass inst epath.attributeNumber request d.globals)
  | .getAttributeAll =>
      answer (getAttributeAll cipClass.toCipClass cipClass.numberOfAttributes inst request
        d.globals)
  | .getAttributeList => listed (getAttributeList cipClass.toCipClass inst front request d.globals)
  | .setAttributeList => listed (setAttributeList cipClass.toCipClass inst front request d.globals)
  | .cipCreateService => d.cipCreateService registered epath.instanceNumber request
  | .cipDeleteService => d.cipDeleteService registered epath.instanceNumber request
  | .cipResetService =>
      (cipResetService cipClass epath.instanceNumber request d.globals).map fun served =>
        (served.1, served.2.1, d.setGlobals served.2.2)
  | .forwardOpen =>
      connect (d.stack.forwardOpenRoutine cfg env false request originatorAddress
        encapsulationSession)
  | .largeForwardOpen =>
      connect (d.stack.forwardOpenRoutine cfg env true request originatorAddress
        encapsulationSession)
  | .forwardClose => connect (d.stack.forwardClose cfg request originatorAddress)
  -- not implemented: the response is left as it was initialised
  | .getConnectionOwner => .ok (.ok, {}, d)
  | .getConnectionData => .ok (.ok, d.stack.getConnectionData cfg request, d)
  | .searchConnectionData => .ok (.ok, d.stack.searchConnectionData cfg request, d)

/-- `NotifyClass` and the function that it calls. -/
def notifyClass (cfg : Config) (env : Environment) (registered : RegisteredClass σ)
    (epath : Epath) (front : List UInt8) (request : MessageRouterRequest)
    (originatorAddress : SockaddrIn) (encapsulationSession : UInt32) (d : Device σ) :
    ServiceReply (Device σ) :=
  match registered.getCipInstance epath.instanceNumber with
  | none =>
      .ok (.okSend, { successHeader request with
        generalStatus := GeneralStatus.pathDestinationUnknown }, d)
  | some inst =>
      match searchServices request.service (registered.classOf epath.instanceNumber).services with
      | .error fault => .error fault
      | .ok (.refused generalStatus) =>
          .ok (.okSend, { successHeader request with generalStatus }, d)
      | .ok (.called service) =>
          d.serve cfg env service registered inst epath front request originatorAddress
            encapsulationSession

def notifyMessageRouter (cfg : Config) (env : Environment) (front : List UInt8) (data : Message)
    (dataLength : UInt16) (originatorAddress : SockaddrIn) (encapsulationSession : UInt32)
    (d : Device σ) : ServiceReply (Device σ) :=
  match createMessageRouterRequestStructure data dataLength with
  | .error generalStatus =>
      .ok (.okSend, { replyService := 0x80 ||| data.byteAt 0, generalStatus }, d)
  | .ok (epath, request) =>
      match getRegisteredObject epath.classId.toUInt32 d.classes with
      | .error fault => .error fault
      | .ok none =>
          .ok (.okSend, { successHeader request with
            generalStatus := GeneralStatus.pathDestinationUnknown }, d)
      | .ok (some registered) =>
          d.notifyClass cfg env registered epath
            (front ++ data.take (data.length - request.data.length)) request originatorAddress
            encapsulationSession

/-- The reply is sent unless the service returned an error. -/
def notifyCommonPacketFormat (cfg : Config) (env : Environment) (front : List UInt8)
    (data : Message) (originatorAddress : SockaddrIn) (encapsulationSession : UInt32)
    (d : Device σ) : Except Fault (Option (List UInt8) × Device σ) :=
  let (status, cpf) :=
    CommonPacketFormatData.createCommonPacketFormatStructure data data.length d.stack.cpf
  let d := d.setStack { d.stack with cpf := cpf }
  if status = .error then .ok (none, d)
  else if cpf.addressItem.typeId = ItemId.nullAddress ∧
      cpf.dataItem.typeId = ItemId.unconnectedDataItem then
    match d.notifyMessageRouter cfg env
        (front ++ data.take (data.length - cpf.dataItem.data.length)) cpf.dataItem.data
        cpf.dataItem.length originatorAddress encapsulationSession with
    | .error fault => .error fault
    | .ok (status, response, d) =>
        if status = .error then .ok (none, d)
        else .ok (some (d.stack.cpf.assembleLinearMessage response), d)
  else .ok (none, d)

/-- The request of a connected explicit message. A repeated sequence number is answered with
the stored reply. -/
def notifyConnectedRequest (cfg : Config) (env : Environment) (r : ConnRef) (sequence : UInt16)
    (front : List UInt8) (buffer : Message) (length : UInt16) (originatorAddress : SockaddrIn)
    (encapsulationSession : UInt32) (d : Device σ) :
    Except Fault (Option (List UInt8) × Device σ) :=
  if (d.stack.conn r).sequenceCountConsuming = sequence then
    .ok (some (d.stack.conn r).lastReplySent, d)
  else
    let d := d.setStack
      (d.stack.modifyConn r fun c => { c with sequenceCountConsuming := sequence })
    match d.notifyMessageRouter cfg env front buffer length originatorAddress
        encapsulationSession with
    | .error fault => .error fault
    | .ok (status, response, d) =>
        if status = .error then .ok (none, d)
        else
          let st := { d.stack with cpf := { d.stack.cpf with addressItem :=
            { d.stack.cpf.addressItem with
              connectionIdentifier := (d.stack.conn r).cipProducedConnectionId } } }
          let sent := st.cpf.assembleLinearMessage response
          .ok (some sent, d.setStack (st.modifyConn r fun c => { c with lastReplySent := sent }))

def notifyConnectedCommonPacketFormat (cfg : Config) (env : Environment) (front : List UInt8)
    (data : Message) (originatorAddress : SockaddrIn) (encapsulationSession : UInt32)
    (d : Device σ) : Except Fault (Option (List UInt8) × Device σ) :=
  let (status, cpf) :=
    CommonPacketFormatData.createCommonPacketFormatStructure data data.length d.stack.cpf
  let d := d.setStack { d.stack with cpf := cpf }
  if status = .error ∨ cpf.addressItem.typeId ≠ ItemId.connectionAddress then .ok (none, d)
  else
    match d.stack.getConnectedObject (d.config cfg) cpf.addressItem.connectionIdentifier with
    | none => .ok (none, d)
    | some r =>
        if cpf.dataItem.typeId ≠ ItemId.connectedDataItem then
          .ok (none, d.setStack
            (d.stack.modifyConn r fun c => c.resetInactivityWatchdogTimerValue))
        else
          let (sequence, buffer) := Message.getUint cpf.dataItem.data
          (d.setStack (d.stack.receiveConnectedRequest r sequence)).notifyConnectedRequest cfg env
            r sequence (front ++ data.take (data.length - buffer.length)) buffer
            (cpf.dataItem.length - 2) originatorAddress encapsulationSession

end Device

end Services

/-- What can happen to a device in one step: to the stack, where `front` is what the receive
buffer holds in front of a message, or to the variables of the application. -/
inductive DeviceAction (σ : Type) where
  | stack (front : List UInt8) (action : StackState.Action)
  | application (application : σ)

namespace Device

variable {σ : Type}

def step (cfg : Config) (label : Environment × DeviceAction σ) (d : Device σ) :
    Except Fault (Device σ) :=
  match label with
  | (env, .stack front (.sendRRData session originatorAddress data)) =>
      if d.stack.checkRegisteredSessions session then
        (d.notifyCommonPacketFormat cfg env front data originatorAddress session).map Prod.snd
      else .ok d
  | (env, .stack front (.sendUnitData session originatorAddress data)) =>
      if d.stack.checkRegisteredSessions session then
        (d.notifyConnectedCommonPacketFormat cfg env front data originatorAddress session).map
          Prod.snd
      else .ok d
  | (env, .stack _ action) => (d.stack.step (d.config cfg) (env, action)).map d.setStack
  | (_, .application application) => .ok (d.setGlobals { d.globals with application })

/-- The states of all runs from a device that was started with these classes. -/
def Reachable (cfg : Config) (start d : Device σ) : Prop :=
  (∃ assemblyData, start.stack = initialState cfg assemblyData) ∧
    Runs.Reaches (step cfg) (fun _ _ => True) start d

end Device

end Opener

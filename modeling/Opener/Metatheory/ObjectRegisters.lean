import Opener.Metatheory.ObjectWrites

/-!
The objects as registers. In every run, what Get_Attribute_Single reads at a path is what was
set there last, or what a reset or the start put there. The requests are the ones that reach
the message router in the steps of the run.
-/

namespace Opener

open CIPAttributeFlag

/-- A request that was answered. -/
structure ServedRequest where
  epath : Epath
  request : MessageRouterRequest
  response : MessageRouterResponse

namespace ServedRequest

variable (served : ServedRequest)

/-- The assemblies are not registers. -/
def isAssembly : Bool := served.epath.classId.toUInt32 = assemblyClassCode

/-- The request sets a register. -/
def sets : Bool :=
  served.request.service = CIPServiceCode.setAttributeSingle &&
    served.response.generalStatus = GeneralStatus.success && !served.isAssembly

/-- The request resets the device to its initial configuration. -/
def resets : Bool :=
  served.request.service = CIPServiceCode.reset &&
    served.response.generalStatus = GeneralStatus.success &&
    served.request.requestDataSize = 1 && served.request.data.byteAt 0 = 1

/-- A request that is refused writes nothing. -/
def write (registers : Registers) : Registers :=
  if served.sets then registers.write served.epath served.request.data
  else if served.resets then registers.reset
  else registers

/-- A register is read. -/
structure Reads (registers : Registers) : Prop where
  message : served.response.message = (registers served.epath).getD []
  status : served.response.generalStatus = GeneralStatus.success ↔
    (registers served.epath).isSome

end ServedRequest

/-- The registers serve a request. -/
structure RegisterStep (registers : Registers) (served : ServedRequest) (registers' : Registers) :
    Prop where
  reads : served.request.service = CIPServiceCode.getAttributeSingle →
    served.isAssembly = false → served.Reads registers
  writes : registers' = served.write registers

/-- The registers serve requests one after the other. -/
inductive RegisterRun (registers : Registers) : List ServedRequest → Registers → Prop
  | nil : RegisterRun registers [] registers
  | snoc {log : List ServedRequest} {registers₁ registers' : Registers} {served : ServedRequest}
      (h : RegisterRun registers log registers₁)
      (hstep : RegisterStep registers₁ served registers') :
      RegisterRun registers (log ++ [served]) registers'

/-- A device that serves requests, while the stack goes on between them. Which requests a run
serves is told by `servedRequests`. -/
inductive Device.Serving (cfg : Config) (d : Device ObjectData) :
    List ServedRequest → Device ObjectData → Prop
  | nil : Serving cfg d [] d
  | stack {log : List ServedRequest} {d' : Device ObjectData} (h : Serving cfg d log d')
      (st : StackState) : Serving cfg d log (d'.setStack st)
  | request {log : List ServedRequest} {d₁ d' : Device ObjectData} {env : Environment}
      {front : List UInt8} {data : Message} {dataLength : UInt16}
      {originatorAddress : SockaddrIn} {encapsulationSession : UInt32} {epath : Epath}
      {request : MessageRouterRequest} {status : EipStatus} {response : MessageRouterResponse}
      (h : Serving cfg d log d₁)
      (hparse : createMessageRouterRequestStructure data dataLength = .ok (epath, request))
      (hcall : d₁.notifyMessageRouter cfg env front data dataLength originatorAddress
        encapsulationSession = .ok (status, response, d')) :
      Serving cfg d (log ++ [⟨epath, request, response⟩]) d'

/-- A message for the router, with the device that it reaches. -/
structure RoutedMessage where
  device : Device ObjectData
  front : List UInt8
  data : Message
  dataLength : UInt16
  originatorAddress : SockaddrIn
  encapsulationSession : UInt32

/-- A message whose path cannot be read is no request. -/
def RoutedMessage.served (cfg : Config) (env : Environment) (message : RoutedMessage) :
    List ServedRequest :=
  match createMessageRouterRequestStructure message.data message.dataLength with
  | .error _ => []
  | .ok (epath, request) =>
      match message.device.notifyMessageRouter cfg env message.front message.data
          message.dataLength message.originatorAddress message.encapsulationSession with
      | .error _ => []
      | .ok (_, response, _) => [⟨epath, request, response⟩]

namespace Device

/-- The message that `NotifyCommonPacketFormat` passes to the router. -/
def routedUnconnected (front : List UInt8) (data : Message) (originatorAddress : SockaddrIn)
    (encapsulationSession : UInt32) (d : Device ObjectData) : Option RoutedMessage :=
  let (status, cpf) :=
    CommonPacketFormatData.createCommonPacketFormatStructure data data.length d.stack.cpf
  if status = .error then none
  else if cpf.addressItem.typeId = ItemId.nullAddress ∧
      cpf.dataItem.typeId = ItemId.unconnectedDataItem then
    some
      { device := d.setStack { d.stack with cpf := cpf }
        front := front ++ data.take (data.length - cpf.dataItem.data.length)
        data := cpf.dataItem.data
        dataLength := cpf.dataItem.length
        originatorAddress, encapsulationSession }
  else none

/-- A repeated sequence number is not passed to the router. -/
def routedRequest (r : ConnRef) (sequence : UInt16) (front : List UInt8) (buffer : Message)
    (length : UInt16) (originatorAddress : SockaddrIn) (encapsulationSession : UInt32)
    (d : Device ObjectData) : Option RoutedMessage :=
  if (d.stack.conn r).sequenceCountConsuming = sequence then none
  else
    some
      { device := d.setStack
          (d.stack.modifyConn r fun c => { c with sequenceCountConsuming := sequence })
        front
        data := buffer
        dataLength := length
        originatorAddress, encapsulationSession }

/-- The message that `NotifyConnectedCommonPacketFormat` passes to the router. -/
def routedConnected (cfg : Config) (front : List UInt8) (data : Message)
    (originatorAddress : SockaddrIn) (encapsulationSession : UInt32) (d : Device ObjectData) :
    Option RoutedMessage :=
  let (status, cpf) :=
    CommonPacketFormatData.createCommonPacketFormatStructure data data.length d.stack.cpf
  let d := d.setStack { d.stack with cpf := cpf }
  if status = .error ∨ cpf.addressItem.typeId ≠ ItemId.connectionAddress then none
  else
    match d.stack.getConnectedObject (d.config cfg) cpf.addressItem.connectionIdentifier with
    | none => none
    | some r =>
        if cpf.dataItem.typeId ≠ ItemId.connectedDataItem then none
        else
          let (sequence, buffer) := Message.getUint cpf.dataItem.data
          (d.setStack (d.stack.receiveConnectedRequest r sequence)).routedRequest r sequence
            (front ++ data.take (data.length - buffer.length)) buffer (cpf.dataItem.length - 2)
            originatorAddress encapsulationSession

/-- The message that reaches the router in a step. -/
def routed (cfg : Config) (front : List UInt8) (action : StackState.Action)
    (d : Device ObjectData) : Option RoutedMessage :=
  match action with
  | .sendRRData session originatorAddress data =>
      if d.stack.checkRegisteredSessions session then
        d.routedUnconnected front data originatorAddress session
      else none
  | .sendUnitData session originatorAddress data =>
      if d.stack.checkRegisteredSessions session then
        d.routedConnected cfg front data originatorAddress session
      else none
  | _ => none

end Device

namespace ObjectConfig

variable (objects : ObjectConfig) (device : DeviceData)

/-- The requests that the device serves in a step. -/
def served (action : PowerAction) (d : Device ObjectData) : List ServedRequest :=
  match action with
  | .stack env front action =>
      ((d.routed objects.stack front action).map (·.served objects.stack env)).getD []
  | .identity _ | .powerCycle _ => []

/-- The requests that the device serves in a run, one after the other. -/
def servedRequests : List PowerAction → Device ObjectData → List ServedRequest
  | [], _ => []
  | action :: actions, d =>
      objects.served action d ++
        match objects.powerStep device action d with
        | .error _ => []
        | .ok next => servedRequests actions next

end ObjectConfig

/-- The registers of a device. -/
def Device.registers (d : Device ObjectData) : Registers := fun path =>
  if path.classId.toUInt32 = assemblyClassCode then none else d.readPath path

section Started

variable {objects : ObjectConfig} {device : DeviceData} {d d' : Device ObjectData} {path : Epath}

/-- A device with the classes of the start and a control for each of its ports. -/
structure Device.Started (objects : ObjectConfig) (d : Device ObjectData) : Prop where
  classes : cipStackInit objects.stackClasses = .ok d.classes
  ports : d.globals.application.interfaceControl.length = objects.ethernetLinkInstances

theorem ObjectConfig.stackClasses_listed : objects.stackClasses.Listed := by
  intro classCode hcode
  have hcodes : objects.stackClasses.registrations.map ClassRegistration.classCode =
      [messageRouterClassCode, identityClassCode, tcpIpInterfaceClassCode, ethernetLinkClassCode,
        connectionManagerClassCode, assemblyClassCode, qosClassCode] := rfl
  simp only [hcodes, List.mem_cons, List.not_mem_nil, or_false, not_or] at hcode
  obtain ⟨hrouter, hidentity, htcpIp, hlink, hmanager, hassembly, hqos⟩ := hcode
  change objects.attributes classCode = {}
  simp only [ObjectConfig.attributes, hrouter, hidentity, htcpIp, hlink, hmanager, hassembly,
    hqos, if_false]

theorem Device.Started.registers (h : d.Started objects) :
    d.registers = (objects.value · d.globals) := by
  funext path
  rw [Device.registers, ObjectConfig.value]
  refine if_congr Iff.rfl rfl ?_
  exact Device.readPath_eq ObjectConfig.stackClasses_listed h.classes path

theorem Device.Started.registers_congr (h : d.Started objects) (h' : d'.Started objects)
    (hsame : SameValues d.globals d'.globals) : d'.registers = d.registers := by
  rw [h.registers, h'.registers]
  exact funext fun path => ObjectConfig.value_congr (hsame path)

theorem ObjectStep.ports {data data' : ObjectData} (h : ObjectStep objects data data') :
    data'.interfaceControl.length = data.interfaceControl.length := by
  cases h with
  | interfaceControl idx request =>
      simp only [decodeCipEthernetLinkInterfaceControl]
      split_ifs
      · rfl
      · rfl
      · rfl
      · exact List.length_set
  | tcpip | failed | dscp | assembly | reset | resetToInitialConfiguration => rfl

theorem ObjectRun.ports {data data' : ObjectData} (h : ObjectRun objects data data') :
    data'.interfaceControl.length = data.interfaceControl.length := by
  induction h with
  | refl => rfl
  | tail _ hstep ih => exact hstep.ports.trans ih

theorem Device.Started.moves (h : d.Started objects) (hmoves : d.Moves (ObjectRun objects) d') :
    d'.Started objects := by
  obtain ⟨hclasses, hrun⟩ := hmoves (cipStackInit_keeps ObjectConfig.stackClasses_keeps h.classes)
  exact ⟨hclasses ▸ h.classes, (ObjectRun.ports hrun).trans h.ports⟩

theorem Device.Started.setStack (h : d.Started objects) (st : StackState) :
    (d.setStack st).Started objects := ⟨h.classes, h.ports⟩

theorem Device.registers_setStack (h : d.Started objects) (st : StackState) :
    (d.setStack st).registers = d.registers :=
  h.registers_congr (h.setStack st) (.of_application rfl rfl rfl rfl rfl rfl)

end Started

section Serve

variable {objects : ObjectConfig} {d d' : Device ObjectData} {epath : Epath}
  {request : MessageRouterRequest} {registered : RegisteredClass ObjectData}
  {inst : CipInstance ObjectGlobals} {service : CipServiceFunction} {status : EipStatus}
  {response : MessageRouterResponse} {globals : ObjectGlobals}

theorem SameValues.ports {globals globals' : ObjectGlobals} (h : SameValues globals globals') :
    globals'.application.interfaceControl = globals.application.interfaceControl :=
  ((h { classId := 0xF6, instanceNumber := 1 }).ethernetLink (by decide) (by decide)).2

namespace Device.Calls

/-- The class that is called, with the attributes that were inserted for the path. -/
theorem classOf (h : d.Calls objects.stackClasses epath request registered inst service) :
    ∃ inserted, (registered.classOf epath.instanceNumber).Created (objects.setup epath) inserted ∧
      Assignments.lastAssigned inserted request.service = some service := by
  obtain ⟨registration, -, -, hcreated, hassigned⟩ := h.created
  exact ⟨_, hcreated.classOf epath.instanceNumber, hassigned⟩

theorem instance_mem (h : d.Calls objects.stackClasses epath request registered inst service) :
    inst ∈ (registered.classOf epath.instanceNumber).instances ∧
      inst.instanceNumber = epath.instanceNumber :=
  ⟨List.mem_of_find?_eq_some h.foundInstance, by simpa using List.find?_some h.foundInstance⟩

theorem callback (h : d.Calls objects.stackClasses epath request registered inst service)
    (callback : CipGetSetCallback ObjectGlobals)
    (hmem : some callback ∈ (registered.classOf epath.instanceNumber).getSetCallbacks)
    (instanceNumber attributeNumber : UInt16) (service : UInt8) (globals : ObjectGlobals) :
    SameValues globals (callback instanceNumber attributeNumber service globals) := by
  obtain ⟨inserted, hcreated, -⟩ := h.classOf
  obtain ⟨flags, hinstalled⟩ := hcreated.callback hmem
  exact ObjectConfig.callback_sameValues hinstalled instanceNumber attributeNumber service globals

theorem readAttribute (h : d.Calls objects.stackClasses epath request registered inst service)
    (hclass : epath.classId.toUInt32 ≠ assemblyClassCode) (globals : ObjectGlobals) :
    Opener.readAttribute (registered.classOf epath.instanceNumber).toCipClass inst
      epath.attributeNumber globals = objects.value epath globals := by
  obtain ⟨inserted, hcreated, -⟩ := h.classOf
  obtain ⟨hmem, hnumber⟩ := h.instance_mem
  rw [hcreated.holds.readAttribute hmem, hnumber, ObjectConfig.value, if_neg hclass]

theorem insertedAttribute (h : d.Calls objects.stackClasses epath request registered inst service)
    {attr : CipAttributeStruct ObjectGlobals}
    (hattr : getCipAttribute inst epath.attributeNumber = some attr)
    (hdecode : attr.decode ≠ none) :
    Opener.insertedAttribute (objects.setup epath) epath.instanceNumber epath.attributeNumber =
      some attr := by
  obtain ⟨inserted, hcreated, -⟩ := h.classOf
  obtain ⟨hmem, hnumber⟩ := h.instance_mem
  rcases hcreated.holds.getCipAttribute hmem epath.attributeNumber with
    ⟨other, hother, hfound, -⟩ | ⟨-, hunused⟩
  · cases hfound.symm.trans hattr
    rwa [hnumber] at hother
  · rw [hunused attr hattr] at hdecode
    exact absurd rfl hdecode

end Device.Calls

theorem get_registers (hstarted : d.Started objects)
    (hcalls : d.Calls objects.stackClasses epath request registered inst .getAttributeSingle)
    {globals' : ObjectGlobals}
    (hserved : getAttributeSingle (registered.classOf epath.instanceNumber).toCipClass inst
      epath.attributeNumber request d.globals = .ok (response, globals')) :
    SameValues d.globals globals' ∧ ((ServedRequest.mk epath request response).isAssembly = false →
      (ServedRequest.mk epath request response).Reads d.registers) := by
  obtain ⟨before, hbefore, hafter, hmessage, hstatus⟩ :=
    getAttributeSingle_reads SameValues.refl hcalls.callback hserved
  refine ⟨hbefore.trans hafter, fun hassembly => ?_⟩
  have hclass : epath.classId.toUInt32 ≠ assemblyClassCode := of_decide_eq_false hassembly
  have hread : Opener.readAttribute (registered.classOf epath.instanceNumber).toCipClass inst
      epath.attributeNumber before = d.registers epath := by
    rw [hcalls.readAttribute hclass, ObjectConfig.value_congr (hbefore epath), hstarted.registers]
  exact ⟨hread ▸ hmessage, hread ▸ hstatus⟩

theorem set_registers (hstarted : d.Started objects)
    (hcalls : d.Calls objects.stackClasses epath request registered inst .setAttributeSingle)
    (hd' : d'.Started objects)
    (hserved : setAttributeSingle (registered.classOf epath.instanceNumber).toCipClass inst
      epath.attributeNumber request d.globals = .ok (response, d'.globals)) :
    d'.registers = (ServedRequest.mk epath request response).write d.registers := by
  have hservice : request.service = CIPServiceCode.setAttributeSingle := hcalls.code.set.mpr rfl
  have hresets : (ServedRequest.mk epath request response).resets = false := by
    rw [ServedRequest.resets, hservice]
    rfl
  have hrefused : (ServedRequest.mk epath request response).sets = false →
      SameValues d.globals d'.globals →
        d'.registers = (ServedRequest.mk epath request response).write d.registers := by
    intro hsets hsame
    rw [ServedRequest.write, hsets, hresets]
    exact hstarted.registers_congr hd' hsame
  have hsets : response.generalStatus ≠ GeneralStatus.success →
      (ServedRequest.mk epath request response).sets = false := by
    intro hstatus
    rw [ServedRequest.sets, decide_eq_false hstatus, Bool.and_false, Bool.false_and]
  rcases setAttributeSingle_decodes SameValues.refl hcalls.callback hserved with
    ⟨hsame, hstatus⟩ | ⟨attr, decode, before, hattr, hdecode, hbefore, hstatus, hafter⟩
  · exact hrefused (hsets hstatus) (hsame ▸ .refl d.globals)
  · have hinserted := hcalls.insertedAttribute hattr (by rw [hdecode]; exact Option.some_ne_none _)
    by_cases hclass : epath.classId.toUInt32 = assemblyClassCode
    · have hassembly : (ServedRequest.mk epath request response).isAssembly = true :=
        decide_eq_true hclass
      refine hrefused ?_ (hbefore.trans ((ObjectConfig.assembly_sameValues hclass
        (insertedAttribute_mem hinserted).1 hdecode before).trans hafter))
      rw [ServedRequest.sets, hassembly, Bool.not_true, Bool.and_false]
    · have hwrites : ObjectConfig.Writes objects epath request before (decode before request) :=
        ObjectConfig.decode_writes hclass hinserted hdecode
          ((congrArg List.length hbefore.ports).trans hstarted.ports)
      by_cases hsuccess : response.generalStatus = GeneralStatus.success
      · have hassembly : (ServedRequest.mk epath request response).isAssembly = false :=
          decide_eq_false hclass
        have hset : (ServedRequest.mk epath request response).sets = true := by
          rw [ServedRequest.sets, hassembly, decide_eq_true hservice, decide_eq_true hsuccess]
          rfl
        have hvalues : (objects.value · before) = (objects.value · d.globals) :=
          funext fun path => ObjectConfig.value_congr (hbefore path)
        rw [ServedRequest.write, hset, if_pos rfl, hd'.registers, hstarted.registers, ← hvalues]
        funext path
        rw [ObjectConfig.value_congr (hafter path)]
        exact hwrites.accepted (hstatus.symm.trans hsuccess) path
      · exact hrefused (hsets hsuccess)
          (hbefore.trans ((hwrites.refused (hstatus ▸ hsuccess)).trans hafter))

theorem reset_registers (hstarted : d.Started objects)
    (hcalls : d.Calls objects.stackClasses epath request registered inst .cipResetService)
    (hd' : d'.Started objects)
    (hserved : cipResetService (registered.classOf epath.instanceNumber) epath.instanceNumber
      request d.globals = .ok (status, response, d'.globals)) :
    d'.registers = (ServedRequest.mk epath request response).write d.registers := by
  have hservice : request.service = CIPServiceCode.reset := hcalls.code.reset.mpr rfl
  have hsets : (ServedRequest.mk epath request response).sets = false := by
    rw [ServedRequest.sets, hservice]
    rfl
  obtain ⟨registration, hmem, -, hcreated, hassigned⟩ := hcalls.created
  obtain ⟨hinstance, hcallback⟩ := StackClasses.registrations_reset hmem hassigned
  rw [RegisteredClass.classOf, if_neg hinstance] at hserved
  rcases ObjectConfig.cipResetService_writes (hcreated.reset.1.trans hcallback) hcreated.reset.2
    hserved with ⟨hstatus, hsize, htype, hcounters, happlication⟩ | ⟨hnot, hcounters, happlication⟩
  · have hresets : (ServedRequest.mk epath request response).resets = true := by
      rw [ServedRequest.resets, decide_eq_true hservice, decide_eq_true hstatus,
        decide_eq_true hsize, decide_eq_true htype]
      rfl
    rw [ServedRequest.write, hsets, hresets, hd'.registers, hstarted.registers]
    exact funext (ObjectConfig.value_reset hcounters happlication)
  · have hresets : (ServedRequest.mk epath request response).resets = false := by
      rw [Bool.eq_false_iff]
      intro hresets
      simp only [ServedRequest.resets, Bool.and_eq_true, decide_eq_true_eq] at hresets
      exact hnot ⟨hresets.1.1.2, hresets.1.2, hresets.2⟩
    rw [ServedRequest.write, hsets, hresets]
    refine hstarted.registers_congr hd' ?_
    rcases happlication with happlication | happlication
    all_goals
      refine .of_application hcounters ?_ ?_ ?_ ?_ ?_
      all_goals simp only [happlication, ObjectData.activate]

theorem write_other {served : ServedRequest}
    (hset : served.request.service ≠ CIPServiceCode.setAttributeSingle)
    (hreset : served.request.service ≠ CIPServiceCode.reset) (registers : Registers) :
    served.write registers = registers := by
  rw [ServedRequest.write, ServedRequest.sets, ServedRequest.resets, decide_eq_false hset,
    decide_eq_false hreset]
  rfl

theorem serve_related {V : ObjectGlobals → ObjectGlobals → Prop} {cfg : Config}
    {env : Environment} {front : List UInt8} {originatorAddress : SockaddrIn}
    {encapsulationSession : UInt32} (hrefl : ∀ globals, V globals globals)
    (htrans : ∀ {globals₁ globals₂ globals₃},
      V globals₁ globals₂ → V globals₂ globals₃ → V globals₁ globals₃)
    (hstack : ∀ st, V d.globals (d.setStack st).globals)
    (hget : service = .getAttributeSingle → ∀ {answer globals'},
      getAttributeSingle (registered.classOf epath.instanceNumber).toCipClass inst
        epath.attributeNumber request d.globals = .ok (answer, globals') → V d.globals globals')
    (hstarted : d.Started objects)
    (hcalls : d.Calls objects.stackClasses epath request registered inst service)
    (hset : service ≠ .setAttributeSingle) (hreset : service ≠ .cipResetService)
    (hserved : d.serve cfg env service registered inst epath front request originatorAddress
      encapsulationSession = .ok (status, response, d')) :
    V d.globals d'.globals := by
  cases service with
  | setAttributeSingle => exact absurd rfl hset
  | cipResetService => exact absurd rfl hreset
  | getAttributeSingle =>
      obtain ⟨⟨answer, globals⟩, hanswered, hanswer⟩ := Device.map_ok hserved
      cases hanswer
      exact hget rfl hanswered
  | getAttributeAll =>
      obtain ⟨⟨answer, globals⟩, hanswered, hanswer⟩ := Device.map_ok hserved
      cases hanswer
      exact (getAttributeAll_respects hrefl hanswered).2
  | getAttributeList =>
      obtain ⟨reply, hanswered, hanswer⟩ := Device.map_ok hserved
      cases hanswer
      exact (getAttributeList_respects hrefl htrans hanswered).2
  | setAttributeList =>
      obtain ⟨reply, hanswered, hanswer⟩ := Device.map_ok hserved
      cases hanswer
      obtain ⟨inserted, hcreated, hassigned⟩ := hcalls.classOf
      obtain ⟨slot, hslot, hfunction, -⟩ :=
        searchServices_called ((hcreated.services _ _).mpr hassigned)
      have hkeeps := cipStackInit_keeps ObjectConfig.stackClasses_keeps hstarted.classes registered
        (getRegisteredObject_mem hcalls.found)
      have hreadOnly := (hkeeps.classOf epath.instanceNumber).readOnly ⟨slot, hslot, hfunction⟩
        inst hcalls.instance_mem.1
      exact setAttributeList_readOnly hrefl htrans hreadOnly hanswered
  | cipCreateService => exact absurd List.mem_cons_self hcalls.code.fixed
  | cipDeleteService =>
      exact absurd (List.mem_cons_of_mem _ List.mem_cons_self) hcalls.code.fixed
  | forwardOpen | largeForwardOpen | forwardClose =>
      obtain ⟨⟨answer, st⟩, hanswered, hanswer⟩ := Device.map_ok hserved
      cases hanswer
      exact hstack st
  | getConnectionOwner | getConnectionData | searchConnectionData =>
      cases hserved
      exact hrefl d.globals

end Serve

section Runs

variable {objects : ObjectConfig} {device : DeviceData} {cfg : Config} {env : Environment}
  {d d₁ d' : Device ObjectData} {log log' : List ServedRequest}

/-- Every request is one step of the registers. -/
theorem notifyMessageRouter_registers {front : List UInt8} {data : Message}
    {dataLength : UInt16} {originatorAddress : SockaddrIn} {encapsulationSession : UInt32}
    {epath : Epath} {request : MessageRouterRequest} {status : EipStatus}
    {response : MessageRouterResponse} (hstarted : d.Started objects)
    (hparse : createMessageRouterRequestStructure data dataLength = .ok (epath, request))
    (hcall : d.notifyMessageRouter cfg env front data dataLength originatorAddress
      encapsulationSession = .ok (status, response, d')) :
    d'.Started objects ∧ RegisterStep d.registers ⟨epath, request, response⟩ d'.registers := by
  have hd' : d'.Started objects := hstarted.moves
    ((Device.serves_moves (fun _ => .refl) .trans cfg env).route hcall)
  refine ⟨hd', ?_⟩
  rcases Device.notifyMessageRouter_cases hstarted.classes hparse hcall with
    ⟨rfl, hstatus, hmessage, hget⟩ | ⟨registered, inst, service, front', hcalls, hserved⟩
  · refine ⟨fun hservice hassembly => ?_, ?_⟩
    · have hread : d'.registers epath = none := by
        rw [Device.registers, hget hservice, ite_self]
      refine ⟨hread ▸ hmessage, iff_of_false hstatus ?_⟩
      rw [hread]
      exact Bool.false_ne_true
    · simp only [ServedRequest.write, ServedRequest.sets, ServedRequest.resets,
        decide_eq_false hstatus, Bool.and_false, Bool.false_and, if_false, Bool.false_eq_true]
  · refine ⟨fun hservice hassembly => ?_, ?_⟩
    · cases hcalls.code.get.mp hservice
      obtain ⟨⟨answer, globals⟩, hanswered, hanswer⟩ := Device.map_ok hserved
      cases hanswer
      exact (get_registers hstarted hcalls hanswered).2 hassembly
    · by_cases hset : service = .setAttributeSingle
      · subst hset
        obtain ⟨⟨answer, globals⟩, hanswered, hanswer⟩ := Device.map_ok hserved
        cases hanswer
        exact set_registers hstarted hcalls hd' hanswered
      by_cases hreset : service = .cipResetService
      · subst hreset
        obtain ⟨⟨status, answer, globals⟩, hanswered, hanswer⟩ := Device.map_ok hserved
        cases hanswer
        exact reset_registers hstarted hcalls hd' hanswered
      · rw [write_other (mt hcalls.code.set.mp hset) (mt hcalls.code.reset.mp hreset)]
        exact hstarted.registers_congr hd' (serve_related SameValues.refl SameValues.trans
          (fun st => .of_application rfl rfl rfl rfl rfl rfl)
          (fun hget _ _ hanswered => (get_registers hstarted (hget ▸ hcalls) hanswered).1)
          hstarted hcalls hset hreset hserved)

/-- While a device serves requests, its registers serve the same ones. -/
theorem Device.Serving.registers (hstarted : d.Started objects) (h : d.Serving cfg log d') :
    d'.Started objects ∧ RegisterRun d.registers log d'.registers := by
  induction h with
  | nil => exact ⟨hstarted, .nil⟩
  | stack _ st ih =>
      refine ⟨ih.1.setStack st, ?_⟩
      rw [Device.registers_setStack ih.1]
      exact ih.2
  | request _ hparse hcall ih =>
      obtain ⟨hnext, hstep⟩ := notifyMessageRouter_registers ih.1 hparse hcall
      exact ⟨hnext, ih.2.snoc hstep⟩

theorem Device.Serving.append (h : d.Serving cfg log d₁) (h' : d₁.Serving cfg log' d') :
    d.Serving cfg (log ++ log') d' := by
  induction h' with
  | nil =>
      rw [List.append_nil]
      exact h
  | stack _ st ih => exact ih.stack st
  | request _ hparse hcall ih =>
      rw [← List.append_assoc]
      exact ih.request hparse hcall

theorem RoutedMessage.serving (message : RoutedMessage) {status : EipStatus}
    {response : MessageRouterResponse}
    (hcall : message.device.notifyMessageRouter cfg env message.front message.data
      message.dataLength message.originatorAddress message.encapsulationSession =
        .ok (status, response, d')) :
    message.device.Serving cfg (message.served cfg env) d' := by
  rw [RoutedMessage.served]
  cases hparse : createMessageRouterRequestStructure message.data message.dataLength with
  | error generalStatus =>
      rw [Device.notifyMessageRouter, hparse] at hcall
      cases hcall
      exact .nil
  | ok parsed =>
      rw [hcall]
      exact .request .nil hparse hcall

theorem Device.notifyCommonPacketFormat_serving {front : List UInt8} {data : Message}
    {originatorAddress : SockaddrIn} {encapsulationSession : UInt32} {reply : Option (List UInt8)}
    (hcall : d.notifyCommonPacketFormat cfg env front data originatorAddress
      encapsulationSession = .ok (reply, d')) :
    d.Serving cfg (((d.routedUnconnected front data originatorAddress encapsulationSession).map
      (·.served cfg env)).getD []) d' := by
  simp only [Device.notifyCommonPacketFormat] at hcall
  simp only [Device.routedUnconnected]
  generalize CommonPacketFormatData.createCommonPacketFormatStructure data data.length
    d.stack.cpf = created at hcall ⊢
  have hstart : d.Serving cfg [] (d.setStack { d.stack with cpf := created.2 }) := .stack .nil _
  split at hcall
  · rename_i hstatus
    cases hcall
    rw [if_pos hstatus]
    exact hstart
  · rename_i hstatus
    rw [if_neg hstatus]
    split at hcall
    · rename_i htypes
      rw [if_pos htypes]
      split at hcall
      · cases hcall
      · rename_i hrouted
        have hserved := hstart.append (RoutedMessage.serving ⟨_, _, _, _, _, _⟩ hrouted)
        split at hcall <;> cases hcall <;> exact hserved
    · rename_i htypes
      cases hcall
      rw [if_neg htypes]
      exact hstart

theorem Device.notifyConnectedRequest_serving {r : ConnRef} {sequence length : UInt16}
    {front : List UInt8} {buffer : Message} {originatorAddress : SockaddrIn}
    {encapsulationSession : UInt32} {reply : Option (List UInt8)}
    (hcall : d.notifyConnectedRequest cfg env r sequence front buffer length originatorAddress
      encapsulationSession = .ok (reply, d')) :
    d.Serving cfg (((d.routedRequest r sequence front buffer length originatorAddress
      encapsulationSession).map (·.served cfg env)).getD []) d' := by
  simp only [Device.notifyConnectedRequest] at hcall
  rw [Device.routedRequest]
  split at hcall
  · rename_i hrepeated
    cases hcall
    rw [if_pos hrepeated]
    exact .nil
  · rename_i hnew
    rw [if_neg hnew]
    split at hcall
    · cases hcall
    · rename_i hrouted
      have hstart : d.Serving cfg [] d := .nil
      have hserved := (hstart.stack _).append
        (RoutedMessage.serving ⟨_, _, _, _, _, _⟩ hrouted)
      split at hcall
      · cases hcall
        exact hserved
      · cases hcall
        exact hserved.stack _

theorem Device.notifyConnectedCommonPacketFormat_serving {front : List UInt8} {data : Message}
    {originatorAddress : SockaddrIn} {encapsulationSession : UInt32} {reply : Option (List UInt8)}
    (hcall : d.notifyConnectedCommonPacketFormat cfg env front data originatorAddress
      encapsulationSession = .ok (reply, d')) :
    d.Serving cfg (((d.routedConnected cfg front data originatorAddress encapsulationSession).map
      (·.served cfg env)).getD []) d' := by
  simp only [Device.notifyConnectedCommonPacketFormat] at hcall
  simp only [Device.routedConnected]
  generalize CommonPacketFormatData.createCommonPacketFormatStructure data data.length
    d.stack.cpf = created at hcall ⊢
  have hstart : d.Serving cfg [] (d.setStack { d.stack with cpf := created.2 }) := .stack .nil _
  generalize d.setStack { d.stack with cpf := created.2 } = d₁ at hcall hstart ⊢
  generalize d₁.stack.getConnectedObject (d₁.config cfg)
    created.2.addressItem.connectionIdentifier = connected at hcall ⊢
  split at hcall
  · rename_i hstatus
    cases hcall
    rw [if_pos hstatus]
    exact hstart
  · rename_i hstatus
    rw [if_neg hstatus]
    cases connected with
    | none =>
        cases hcall
        exact hstart
    | some r =>
        dsimp only at hcall ⊢
        split at hcall
        · rename_i htype
          cases hcall
          rw [if_pos htype]
          exact hstart.stack _
        · rename_i htype
          rw [if_neg htype]
          exact (hstart.stack _).append (notifyConnectedRequest_serving hcall)

theorem Device.step_serving {front : List UInt8} {action : StackState.Action}
    (hstep : d.step cfg (env, .stack front action) = .ok d') :
    d.Serving cfg (((d.routed cfg front action).map (·.served cfg env)).getD []) d' := by
  have hstack : ∀ {result : Except Fault StackState}, result.map d.setStack = .ok d' →
      d.Serving cfg [] d' := by
    intro result h
    obtain ⟨st, -, rfl⟩ := Device.map_ok h
    exact .stack .nil st
  cases action with
  | sendRRData session originatorAddress data =>
      rw [Device.step] at hstep
      simp only [Device.routed]
      split at hstep
      · rename_i hsession
        obtain ⟨⟨reply, d₁⟩, hcall, rfl⟩ := Device.map_ok hstep
        rw [if_pos hsession]
        exact notifyCommonPacketFormat_serving hcall
      · rename_i hsession
        cases hstep
        rw [if_neg hsession]
        exact .nil
  | sendUnitData session originatorAddress data =>
      rw [Device.step] at hstep
      simp only [Device.routed]
      split at hstep
      · rename_i hsession
        obtain ⟨⟨reply, d₁⟩, hcall, rfl⟩ := Device.map_ok hstep
        rw [if_pos hsession]
        exact notifyConnectedCommonPacketFormat_serving hcall
      · rename_i hsession
        cases hstep
        rw [if_neg hsession]
        exact .nil
  | triggerConnections _ _ | setLastUpdate _ | writeAssemblies _ =>
      cases hstep
      exact .stack .nil _
  | _ => exact hstack hstep

/-- A step of the stack. -/
def onStep (label : Environment × List UInt8 × StackState.Action) : PowerAction :=
  .stack label.1 label.2.1 label.2.2

theorem powerStep_serving {front : List UInt8} {action : StackState.Action}
    (h : objects.powerStep device (.stack env front action) d = .ok d') :
    d.Serving objects.stack (objects.served (.stack env front action) d) d' := by
  simp only [ObjectConfig.powerStep] at h
  split at h
  · cases h
  · rename_i next hstep
    split at h
    · cases h
    · cases h
      exact Device.step_serving hstep

theorem start_started {platform : Platform} {confFile : ConfFile} {accesses : Nat}
    (hstart : objects.start device platform confFile accesses = .ok d) : d.Started objects := by
  obtain ⟨hclasses, hdata⟩ := ObjectConfig.start_spec hstart
  refine ⟨hclasses, ?_⟩
  rw [hdata]
  exact List.length_replicate

theorem reachable_started (h : objects.Reachable device d) : d.Started objects := by
  obtain ⟨platform, confFile, first, hstart, hreaches⟩ := h
  have hfirst := start_started hstart
  obtain ⟨hlast, hports⟩ := ObjectConfig.powerRun_invariant
    (P := fun data => data.interfaceControl.length = objects.ethernetLinkInstances)
    hfirst.classes hfirst.ports
    (fun hports _ hpower => by
      cases hpower with
      | stack hrun => exact (ObjectRun.ports hrun).trans hports
      | identity call => exact hports
      | powerCycle platform => exact List.length_replicate) hreaches
  exact ⟨hlast, hports⟩

/-- In every run of the stack the device serves the requests that are routed in its steps. -/
theorem run_serving {labels : List (Environment × List UInt8 × StackState.Action)}
    (hrun : Runs.runLabels (objects.powerStep device) (labels.map onStep) d = .ok d') :
    d.Serving objects.stack (objects.servedRequests device (labels.map onStep) d) d' := by
  induction labels generalizing d with
  | nil =>
      cases hrun
      exact .nil
  | cons label labels ih =>
      rw [List.map_cons, Runs.runLabels] at hrun
      rw [List.map_cons, ObjectConfig.servedRequests]
      split at hrun
      · cases hrun
      · rename_i next hstep
        rw [hstep]
        exact (powerStep_serving hstep).append (ih hrun)

/-- In every run of the stack on a device in any reachable state, the objects are registers for
the requests of the run: they are served one after the other, a value that is got is the one
that was written last, and nothing is written but by these requests. -/
theorem registers_linear (hreachable : objects.Reachable device d)
    {labels : List (Environment × List UInt8 × StackState.Action)}
    (hrun : Runs.runLabels (objects.powerStep device) (labels.map onStep) d = .ok d') :
    RegisterRun d.registers (objects.servedRequests device (labels.map onStep) d) d'.registers :=
  ((run_serving hrun).registers (reachable_started hreachable)).2

end Runs

section Sample

namespace SampleApplication

def getRequest (classId attributeNumber : UInt8) : Message :=
  [0x0E, 3, 0x20, classId, 0x24, 1, 0x30, attributeNumber]

/-- The DSCP value for urgent messages is read before it is set, after that and after the
device was reset. -/
def getSetAndReset : List (Environment × List UInt8 × StackState.Action) :=
  [register, send 1 (getRequest 0x48 4), send 1 (setRequest 0x48 4 [10]),
    send 1 (getRequest 0x48 4), send 1 [0x05, 2, 0x20, 1, 0x24, 1, 1],
    send 1 (getRequest 0x48 4)].map fun label => (label.1, [], label.2)

/-- What is served in the run passes a check. -/
def servesIn (actions : List PowerAction) (check : List ServedRequest → Bool) : Bool :=
  match objects.start deviceData platform none 0 with
  | .error _ => false
  | .ok first =>
      match Runs.runLabels (objects.powerStep deviceData) actions first with
      | .error _ => false
      | .ok _ => check (objects.servedRequests deviceData actions first)

theorem run_of_servesIn (actions : List PowerAction) (check : List ServedRequest → Bool)
    (h : servesIn actions check = true) :
    ∃ first d, objects.start deviceData platform none 0 = .ok first ∧
      Runs.runLabels (objects.powerStep deviceData) actions first = .ok d ∧
      check (objects.servedRequests deviceData actions first) = true := by
  rw [servesIn] at h
  split at h
  · cases h
  · rename_i first hstart
    split at h
    · cases h
    · rename_i d hrun
      exact ⟨first, d, hstart, hrun, h⟩

end SampleApplication

open SampleApplication in
/-- All five requests are served, and the value that is read is 55, then 10, then 55. -/
theorem registers_linear_reset :
    ∃ (first d : Device ObjectData) (log : List ServedRequest),
      log = objects.servedRequests deviceData (getSetAndReset.map onStep) first ∧
      log.map (·.response.message) = [[55], [], [10], [], [55]] ∧
      RegisterRun first.registers log d.registers := by
  obtain ⟨first, d, hstart, hrun, hcheck⟩ := run_of_servesIn (getSetAndReset.map onStep)
    (fun log => log.map (·.response.message) = [[55], [], [10], [], [55]]) (by decide +kernel)
  exact ⟨first, d, _, rfl, of_decide_eq_true hcheck,
    registers_linear ⟨platform, none, first, hstart, .refl⟩ hrun⟩

end Sample

end Opener

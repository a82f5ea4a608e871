import Opener.Metatheory.ObjectRegisters

/-!
The values of the QoS object over power cycles. What is written to the file is read back, so
with a file system that works the values that a request set come back after every power cycle,
whatever resets the device went through since.
-/

namespace Opener

open FormattedText CIPAttributeFlag

section Values

variable {dscp dscp' : CipQosDscpValues} {data data' : ObjectData}

theorem qosFormat_separated : isSeparated qosFormat = true := by decide

theorem restore_stored (dscp dscp' : CipQosDscpValues) :
    dscp'.restore dscp.stored =
      some { dscp with event := dscp'.event, general := dscp'.general } := by
  have hfits : ∀ value : UInt8, ¬value.toUInt32 > 255 := by
    intro value hgt
    have hbound := value.toNat_lt
    rw [gt_iff_lt, UInt32.lt_iff_toNat_lt, UInt8.toNat_toUInt32] at hgt
    exact absurd hgt (by change ¬255 < _; omega)
  simp only [CipQosDscpValues.restore, CipQosDscpValues.stored, hfits, or_self, if_false,
    UInt8.toUInt8_toUInt32]

theorem scan_stored (dscp : CipQosDscpValues) :
    scan qosFormat (print qosFormat dscp.stored) = dscp.stored :=
  scan_print qosFormat_separated rfl

theorem stored_eq (h : ∀ qos : QosAttribute, qos.get dscp' = qos.get dscp) :
    dscp'.stored = dscp.stored := by
  rw [CipQosDscpValues.stored, CipQosDscpValues.stored,
    show dscp'.urgent = dscp.urgent from h .urgent,
    show dscp'.scheduled = dscp.scheduled from h .scheduled,
    show dscp'.high = dscp.high from h .high, show dscp'.low = dscp.low from h .low,
    show dscp'.explicitMsg = dscp.explicitMsg from h .explicitMsg]

/-- The file has these values. -/
def ObjectData.Holds (data : ObjectData) (dscp : CipQosDscpValues) : Prop :=
  data.confFile = some (print qosFormat dscp.stored)

end Values

section Files

variable {objects : ObjectConfig} {data : ObjectData} {dscp : CipQosDscpValues}

theorem startObjects_holds (hfiles : ∀ access, objects.files access = {}) (device : DeviceData)
    (platform : Platform) (h : data.Holds dscp) :
    let started := objects.startObjects device platform data.confFile data.accesses
    started.Holds started.qos.dscp ∧ (∀ qos : QosAttribute, qos.get started.qos.dscp =
      qos.get dscp) ∧ started.activeDscp = started.qos.dscp := by
  have hload : nvQosLoad .complete data.confFile .defaults =
      (.ok, { dscp with event := CipQosDscpValues.defaults.event
                        general := CipQosDscpValues.defaults.general }) := by
    rw [h, nvQosLoad, scan_stored, restore_stored]
  simp only [ObjectConfig.startObjects, hfiles, nvdataLoad, hload, nvQosStore]
  refine ⟨rfl, fun qos => ?_, trivial⟩
  cases qos <;> rfl

theorem qos_stored (hfiles : ∀ access, objects.files access = {}) :
    SetupKeeps (fun _ data => data.Holds data.qos.dscp)
      (objects.attributes qosClassCode).instanceSetup := by
  refine SetupKeeps.of_postSet (ObjectConfig.insertAll_attribute 1 ObjectConfig.qosAttributes)
    fun instanceNumber attr hmem decode hdecode => ?_
  rcases ObjectConfig.qosAttributes_decode (ObjectConfig.mem_insertAll hmem) with
    hnone | ⟨qos, rfl⟩
  · rw [hnone] at hdecode
    cases hdecode
  · cases hdecode
    have hflags : (getableSingle ||| setable ||| nvDataFunc) &&& nvDataFunc ≠ 0 := by decide
    refine ⟨bne_iff_ne.mpr hflags, fun _ _ request globals => ?_⟩
    simp only [Globals.Related, ObjectData.Holds, ObjectConfig.nvQosSetCallback,
      ObjectGlobals.modify, hfiles, nvQosStore]

end Files

section Requests

variable {objects : ObjectConfig} {device : DeviceData} {cfg : Config} {env : Environment}
  {d d₁ d₂ d' : Device ObjectData} {log log' : List ServedRequest} {epath : Epath}
  {request : MessageRouterRequest} {registered : RegisteredClass ObjectData}
  {inst : CipInstance ObjectGlobals} {service : CipServiceFunction}

/-- The request is one to set an attribute of the QoS object. -/
def ServedRequest.writesFile (served : ServedRequest) : Bool :=
  served.request.service = CIPServiceCode.setAttributeSingle &&
    served.epath.classId.toUInt32 = qosClassCode

def KeepsFile (globals globals' : ObjectGlobals) : Prop :=
  globals'.application.confFile = globals.application.confFile

theorem callback_keepsFile (hclass : epath.classId.toUInt32 ≠ qosClassCode)
    {callback : CipGetSetCallback ObjectGlobals} {flags : UInt8}
    (hmem : .insertGetSetCallback callback flags ∈ objects.setup epath)
    (instanceNumber attributeNumber : UInt16) (service : UInt8) (globals : ObjectGlobals) :
    KeepsFile globals (callback instanceNumber attributeNumber service globals) := by
  rcases ObjectConfig.setup_callback hmem with ⟨-, rfl⟩ | ⟨-, assembly, rfl⟩ | ⟨hqos, -⟩
  · rfl
  · rfl
  · exact absurd hqos hclass

theorem qos_getCallbacks (hclass : epath.classId.toUInt32 = qosClassCode) :
    (callbackClass (objects.setup epath)).preGetCallback = none ∧
      (callbackClass (objects.setup epath)).postGetCallback = none := by
  rw [ObjectConfig.setup, hclass, ClassAttributes.setup]
  split
  · have hattributes : ∀ call ∈ (objects.attributes qosClassCode).classSetup,
        ∃ instanceNumber attr, call = .insertAttribute instanceNumber attr := by
      intro call hcall
      obtain ⟨⟨⟨flags, value⟩, i⟩, -, rfl⟩ := List.mem_map.mp hcall
      exact ⟨_, _, rfl⟩
    rw [callbackClass, installCallbacks_attributes hattributes]
    exact ⟨rfl, rfl⟩
  · have hinstance : (objects.attributes qosClassCode).instanceSetup =
        ObjectConfig.insertAll 1 ObjectConfig.qosAttributes ++
          [.insertGetSetCallback objects.nvQosSetCallback nvDataFunc] := rfl
    rw [hinstance, callbackClass, installCallbacks_append,
      installCallbacks_attributes (ObjectConfig.insertAll_attribute 1 _)]
    exact ⟨rfl, rfl⟩

theorem get_keepsFile (hcalls : d.Calls objects.stackClasses epath request registered inst service)
    (callback : CipGetSetCallback ObjectGlobals)
    (hmem : some callback ∈ [(registered.classOf epath.instanceNumber).preGetCallback,
      (registered.classOf epath.instanceNumber).postGetCallback])
    (instanceNumber attributeNumber : UInt16) (service : UInt8) (globals : ObjectGlobals) :
    KeepsFile globals (callback instanceNumber attributeNumber service globals) := by
  obtain ⟨inserted, hcreated, -⟩ := hcalls.classOf
  by_cases hclass : epath.classId.toUInt32 = qosClassCode
  · have hcallbacks := hcreated.callbacks
    simp only [CipClass.getSetCallbacks, List.cons.injEq, and_true] at hcallbacks
    rw [hcallbacks.1, hcallbacks.2.1, (qos_getCallbacks hclass).1, (qos_getCallbacks hclass).2]
      at hmem
    simp at hmem
  · have hinstalled : some callback ∈
        (registered.classOf epath.instanceNumber).getSetCallbacks := by
      simp only [List.mem_cons, List.not_mem_nil, or_false, CipClass.getSetCallbacks] at hmem ⊢
      tauto
    obtain ⟨flags, hsetup⟩ := hcreated.callback hinstalled
    exact callback_keepsFile hclass hsetup instanceNumber attributeNumber service globals

theorem decode_keepsFile {attr : CipAttributeStruct ObjectGlobals}
    (hmem : .insertAttribute epath.instanceNumber attr ∈ objects.setup epath)
    {decode : CipAttributeDecodeFromMessage ObjectGlobals} (hdecode : attr.decode = some decode)
    (globals : ObjectGlobals) : KeepsFile globals (decode globals request).data := by
  have hnone : attr.decode ≠ none := by
    rw [hdecode]
    exact Option.some_ne_none _
  have hput : ∀ result globals,
      KeepsFile globals (ObjectGlobals.failingTcpip.put result globals) := by
    intro result globals
    cases result <;> rfl
  rw [ObjectConfig.setup, ClassAttributes.setup] at hmem
  split at hmem
  · exact absurd (ObjectConfig.classSetup_decode hmem) hnone
  by_cases hassembly : epath.classId.toUInt32 = assemblyClassCode
  · rw [hassembly] at hmem
    obtain ⟨call, -, heq⟩ := List.mem_map.mp hmem
    cases call with
    | insertAttribute number inserted =>
        cases heq
        obtain ⟨decode, -, rfl⟩ := Option.map_eq_some_iff.mp hdecode
        rfl
    | insertGetSetCallback callback callbacksToInstall => cases heq
  · rcases ObjectConfig.instanceSetup_mem hassembly hmem with ⟨-, -, hidentity⟩ | ⟨-, -, htcpIp⟩ |
      ⟨-, idx, -, -, hport⟩ | ⟨-, -, hqos⟩
    · exact absurd (ObjectConfig.identityAttributes_decode hidentity) hnone
    · rcases (ObjectConfig.tcpIpAttributes_decode htcpIp).resolve_left hnone with
        rfl | rfl | rfl | rfl
      · cases hdecode
        rfl
      · rw [ObjectConfig.interfaceConfigurationAttribute] at hdecode
        split at hdecode
        · cases hdecode
          rfl
        · cases hdecode
      · rw [ObjectConfig.hostNameAttribute] at hdecode
        split at hdecode
        · cases hdecode
          exact hput _ globals
        · cases hdecode
      · cases hdecode
        rfl
    · cases (ObjectConfig.ethernetLinkAttributes_decode hport).resolve_left hnone
      rw [ObjectConfig.portControlAttribute] at hdecode
      split at hdecode
      · cases hdecode
        rfl
      · cases hdecode
    · obtain ⟨qos, rfl⟩ := (ObjectConfig.qosAttributes_decode hqos).resolve_left hnone
      cases hdecode
      rfl

theorem KeepsFile.trans {globals₁ globals₂ globals₃ : ObjectGlobals}
    (h : KeepsFile globals₁ globals₂) (h' : KeepsFile globals₂ globals₃) :
    KeepsFile globals₁ globals₃ := Eq.trans h' h

/-- Only a request to set an attribute of the QoS object writes the file. -/
theorem serve_keepsFile {front : List UInt8} {originatorAddress : SockaddrIn}
    {encapsulationSession : UInt32} {status : EipStatus} {response : MessageRouterResponse}
    (hstarted : d.Started objects)
    (hcalls : d.Calls objects.stackClasses epath request registered inst service)
    (hkept : (ServedRequest.mk epath request response).writesFile = false)
    (hserved : d.serve cfg env service registered inst epath front request originatorAddress
      encapsulationSession = .ok (status, response, d')) : KeepsFile d.globals d'.globals := by
  by_cases hset : service = .setAttributeSingle
  · subst hset
    have hclass : epath.classId.toUInt32 ≠ qosClassCode := by
      rw [ServedRequest.writesFile, hcalls.code.set.mpr rfl] at hkept
      simpa using hkept
    obtain ⟨⟨answer, globals⟩, hanswered, hanswer⟩ := Device.map_ok hserved
    cases hanswer
    obtain ⟨inserted, hcreated, -⟩ := hcalls.classOf
    have hcallback : ∀ callback,
        some callback ∈ (registered.classOf epath.instanceNumber).getSetCallbacks →
          ∀ instanceNumber attributeNumber service globals, KeepsFile globals
            (callback instanceNumber attributeNumber service globals) := by
      intro callback hmem
      obtain ⟨flags, hinstalled⟩ := hcreated.callback hmem
      exact callback_keepsFile hclass hinstalled
    rcases setAttributeSingle_decodes (V := KeepsFile) (fun _ => rfl) hcallback hanswered with
      ⟨hsame, -⟩ | ⟨attr, decode, before, hattr, hdecode, hbefore, -, hafter⟩
    · exact congrArg (fun globals : ObjectGlobals => globals.application.confFile) hsame
    · have hinserted := hcalls.insertedAttribute hattr
        (by rw [hdecode]; exact Option.some_ne_none _)
      have hdecoded : KeepsFile before (decode before request).data :=
        decode_keepsFile (insertedAttribute_mem hinserted).1 hdecode before
      exact hbefore.trans (hdecoded.trans hafter)
  by_cases hreset : service = .cipResetService
  · subst hreset
    obtain ⟨⟨status, answer, globals⟩, hanswered, hanswer⟩ := Device.map_ok hserved
    cases hanswer
    obtain ⟨registration, hmem, -, hcreated, hassigned⟩ := hcalls.created
    obtain ⟨hinstance, hcallback⟩ := StackClasses.registrations_reset hmem hassigned
    rw [RegisteredClass.classOf, if_neg hinstance] at hanswered
    rcases ObjectConfig.cipResetService_writes (hcreated.reset.1.trans hcallback)
      hcreated.reset.2 hanswered with ⟨-, -, -, -, happlication⟩ | ⟨-, -, happlication⟩
    · exact (congrArg ObjectData.confFile happlication).trans rfl
    · rcases happlication with happlication | happlication
      · exact congrArg ObjectData.confFile happlication
      · exact (congrArg ObjectData.confFile happlication).trans rfl
  · exact serve_related (V := KeepsFile) (fun _ => rfl) KeepsFile.trans (fun _ => rfl)
      (fun _ _ _ hanswered => getAttributeSingle_related (V := KeepsFile) (fun _ => rfl)
        KeepsFile.trans (get_keepsFile hcalls) hanswered) hstarted hcalls hset hreset hserved

theorem notifyMessageRouter_keepsFile {front : List UInt8} {data : Message}
    {dataLength : UInt16} {originatorAddress : SockaddrIn} {encapsulationSession : UInt32}
    {status : EipStatus} {response : MessageRouterResponse} (hstarted : d.Started objects)
    (hparse : createMessageRouterRequestStructure data dataLength = .ok (epath, request))
    (hcall : d.notifyMessageRouter cfg env front data dataLength originatorAddress
      encapsulationSession = .ok (status, response, d'))
    (hkept : (ServedRequest.mk epath request response).writesFile = false) :
    d'.globals.application.confFile = d.globals.application.confFile := by
  rcases Device.notifyMessageRouter_cases hstarted.classes hparse hcall with
    ⟨rfl, -⟩ | ⟨registered, inst, service, front', hcalls, hserved⟩
  · rfl
  · exact serve_keepsFile hstarted hcalls hkept hserved

/-- While requests are served of which none writes the file, it stays as it is. -/
theorem Device.Serving.keepsFile (hstarted : d.Started objects) (h : d.Serving cfg log d')
    (hkept : ∀ served ∈ log, served.writesFile = false) :
    d'.globals.application.confFile = d.globals.application.confFile := by
  induction h with
  | nil => rfl
  | stack _ st ih => exact ih hkept
  | request hserves hparse hcall ih =>
      rw [List.forall_mem_append, List.forall_mem_singleton] at hkept
      exact (notifyMessageRouter_keepsFile (hserves.registers hstarted).1 hparse hcall
        hkept.2).trans (ih hkept.1)

/-- A request that sets a value of the QoS object leaves the values in the file. -/
theorem notifyMessageRouter_stores (hfiles : ∀ access, objects.files access = {})
    {front : List UInt8} {data : Message} {dataLength : UInt16} {originatorAddress : SockaddrIn}
    {encapsulationSession : UInt32} {status : EipStatus} {response : MessageRouterResponse}
    (hstarted : d.Started objects)
    (hparse : createMessageRouterRequestStructure data dataLength = .ok (epath, request))
    (hcall : d.notifyMessageRouter cfg env front data dataLength originatorAddress
      encapsulationSession = .ok (status, response, d'))
    (hsets : (ServedRequest.mk epath request response).sets = true)
    (hclass : epath.classId.toUInt32 = qosClassCode) :
    d'.globals.application.Holds d'.globals.application.qos.dscp := by
  simp only [ServedRequest.sets, Bool.and_eq_true, decide_eq_true_eq] at hsets
  obtain ⟨⟨hservice, hsuccess⟩, -⟩ := hsets
  rcases Device.notifyMessageRouter_cases hstarted.classes hparse hcall with
    ⟨-, hrefused, -⟩ | ⟨registered, inst, service, front', hcalls, hserved⟩
  · exact absurd hsuccess hrefused
  · cases hcalls.code.set.mp hservice
    obtain ⟨⟨answer, globals⟩, hanswered, hanswer⟩ := Device.map_ok hserved
    cases hanswer
    rcases setAttributeSingle_ok hanswered with
      ⟨-, hrefused⟩ | ⟨attr, decode, hattr, hdecode, hdecoded⟩
    · exact absurd hsuccess hrefused
    · have hnone : attr.decode ≠ none := by
        rw [hdecode]
        exact Option.some_ne_none _
      obtain ⟨inserted, hcreated, -⟩ := hcalls.classOf
      have hmem := (insertedAttribute_mem (hcalls.insertedAttribute hattr hnone)).1
      have hcallbacks := hcreated.callbacks
      rw [ObjectConfig.setup, hclass, ClassAttributes.setup] at hmem hcallbacks
      split at hmem
      · exact absurd (ObjectConfig.classSetup_decode hmem) hnone
      · rename_i hinstance
        rw [if_neg hinstance] at hcallbacks
        rw [decodeAttribute_congr hcallbacks] at hdecoded
        have hstored := (qos_stored hfiles).set _ attr hmem decode hdecode inst request d.globals
        rw [← hdecoded] at hstored
        exact hstored

/-- A device that is switched off and started again between the requests, while its application
changes the identity object. -/
inductive ObjectConfig.Powered (objects : ObjectConfig) (device : DeviceData)
    (d : Device ObjectData) : List ServedRequest → Device ObjectData → Prop
  | nil : Powered objects device d [] d
  | serves {log log' : List ServedRequest} {d₁ d' : Device ObjectData}
      (h : Powered objects device d log d₁) (hserves : d₁.Serving objects.stack log' d') :
      Powered objects device d (log ++ log') d'
  | identity {log : List ServedRequest} {d₁ d' : Device ObjectData} {call : IdentityCall}
      (h : Powered objects device d log d₁)
      (hcall : objects.powerStep device (.identity call) d₁ = .ok d') :
      Powered objects device d log d'
  | powerCycle {log : List ServedRequest} {d₁ d' : Device ObjectData} {platform : Platform}
      (h : Powered objects device d log d₁)
      (hcycle : objects.powerStep device (.powerCycle platform) d₁ = .ok d') :
      Powered objects device d log d'

/-- Every run of the device is one, with the requests that it serves. -/
theorem powered_of_run {actions : List PowerAction}
    (hrun : Runs.runLabels (objects.powerStep device) actions d = .ok d') :
    objects.Powered device d (objects.servedRequests device actions d) d' := by
  have hfrom : ∀ {log d₁}, objects.Powered device d log d₁ →
      Runs.runLabels (objects.powerStep device) actions d₁ = .ok d' →
        objects.Powered device d (log ++ objects.servedRequests device actions d₁) d' := by
    clear hrun
    induction actions with
    | nil =>
        intro log d₁ h hrun
        cases hrun
        rwa [ObjectConfig.servedRequests, List.append_nil]
    | cons action actions ih =>
        intro log d₁ h hrun
        rw [Runs.runLabels] at hrun
        split at hrun
        · cases hrun
        · rename_i next hstep
          rw [ObjectConfig.servedRequests, hstep, ← List.append_assoc]
          refine ih ?_ hrun
          cases action with
          | stack env front action => exact h.serves (powerStep_serving hstep)
          | identity call =>
              rw [ObjectConfig.served, List.append_nil]
              exact h.identity hstep
          | powerCycle platform =>
              rw [ObjectConfig.served, List.append_nil]
              exact h.powerCycle hstep
  exact hfrom .nil hrun

variable {dscp : CipQosDscpValues}

theorem ObjectConfig.Powered.holds (hfiles : ∀ access, objects.files access = {})
    (hstarted : d.Started objects) (hholds : d.globals.application.Holds dscp)
    (h : objects.Powered device d log d') (hkept : ∀ served ∈ log, served.writesFile = false) :
    d'.Started objects ∧ d'.globals.application.Holds dscp := by
  induction h with
  | nil => exact ⟨hstarted, hholds⟩
  | serves _ hserves ih =>
      rw [List.forall_mem_append] at hkept
      obtain ⟨hbefore, hfile⟩ := ih hkept.1
      exact ⟨(hserves.registers hbefore).1, (hserves.keepsFile hbefore hkept.2).trans hfile⟩
  | identity _ hcall ih =>
      obtain ⟨hbefore, hfile⟩ := ih hkept
      cases hcall
      exact ⟨⟨hbefore.classes, hbefore.ports⟩, hfile⟩
  | powerCycle _ hcycle ih =>
      obtain ⟨hbefore, hfile⟩ := ih hkept
      obtain ⟨-, hdata⟩ := ObjectConfig.start_spec hcycle
      obtain ⟨hholds, hvalues, -⟩ := startObjects_holds hfiles device _ hfile
      refine ⟨start_started hcycle, ?_⟩
      rw [hdata]
      rw [ObjectData.Holds, stored_eq hvalues] at hholds
      exact hholds

theorem Device.Started.registers_qos (h : d.Started objects) (qos : QosAttribute) :
    d.registers (qosPath qos) = some (sintBytes (qos.get d.globals.application.qos.dscp)) := by
  rw [h.registers]
  exact ObjectConfig.value_qosPath qos d.globals

/-- With a file system that works, the values of the QoS object that a request set come back
after every power cycle, whatever else the device serves and is reset to since. -/
theorem qos_durable (hfiles : ∀ access, objects.files access = {})
    (hreachable : objects.Reachable device d) {front : List UInt8} {data : Message}
    {dataLength : UInt16} {originatorAddress : SockaddrIn} {encapsulationSession : UInt32}
    {status : EipStatus} {response : MessageRouterResponse}
    (hparse : createMessageRouterRequestStructure data dataLength = .ok (epath, request))
    (hcall : d.notifyMessageRouter cfg env front data dataLength originatorAddress
      encapsulationSession = .ok (status, response, d₁))
    (hsets : (ServedRequest.mk epath request response).sets = true)
    (hclass : epath.classId.toUInt32 = qosClassCode)
    (hpowered : objects.Powered device d₁ log d₂)
    (hkept : ∀ served ∈ log, served.writesFile = false) {platform : Platform}
    (hcycle : objects.powerStep device (.powerCycle platform) d₂ = .ok d') :
    (∀ qos, d'.registers (qosPath qos) = d₁.registers (qosPath qos)) ∧
      d'.globals.application.activeDscp = d'.globals.application.qos.dscp := by
  have hstarted := reachable_started hreachable
  have hset := (notifyMessageRouter_registers hstarted hparse hcall).1
  have hstored := notifyMessageRouter_stores hfiles hstarted hparse hcall hsets hclass
  obtain ⟨-, hfile⟩ := hpowered.holds hfiles hset hstored hkept
  obtain ⟨-, hdata⟩ := ObjectConfig.start_spec hcycle
  obtain ⟨-, hvalues, hactive⟩ := startObjects_holds hfiles device platform hfile
  refine ⟨fun qos => ?_, hdata ▸ hactive⟩
  rw [(start_started hcycle).registers_qos, hset.registers_qos, hdata, hvalues]

end Requests

section Sample

namespace SampleApplication

/-- A message of the router, with the request that it is. -/
def route (message : Message) (d : Device ObjectData) :
    Option (ServedRequest × Device ObjectData) :=
  match createMessageRouterRequestStructure message (UInt16.ofNat message.length) with
  | .error _ => none
  | .ok (epath, request) =>
      match d.notifyMessageRouter config (environment 0 5) [] message
          (UInt16.ofNat message.length) originator 1 with
      | .error _ => none
      | .ok (_, response, d') => some (⟨epath, request, response⟩, d')

theorem route_ok {message : Message} {d d' : Device ObjectData} {served : ServedRequest}
    (h : route message d = some (served, d')) :
    createMessageRouterRequestStructure message (UInt16.ofNat message.length) =
        .ok (served.epath, served.request) ∧
      ∃ status, d.notifyMessageRouter config (environment 0 5) [] message
        (UInt16.ofNat message.length) originator 1 = .ok (status, served.response, d') := by
  rw [route] at h
  split at h
  · cases h
  · rename_i hparse
    split at h
    · cases h
    · rename_i hcall
      cases h
      exact ⟨hparse, _, hcall⟩

/-- The DSCP value for urgent messages is read, the device is switched off and started again, and
then it is reset to its initial configuration. -/
def restartAndReset : List PowerAction :=
  [onPower register, onPower (send 1 (getRequest 0x48 4)), .powerCycle platform,
    onPower register, onPower (send 1 [0x05, 2, 0x20, 1, 0x24, 1, 1])]

/-- The value is set to 10 before that, and the device is started again after it. -/
def setAndRestart (check : ServedRequest → Device ObjectData → List ServedRequest →
    Device ObjectData → Bool) : Bool :=
  match objects.start deviceData platform none 0 with
  | .error _ => false
  | .ok first =>
      match route (setRequest 0x48 4 [10]) first with
      | none => false
      | some (set, d₁) =>
          match Runs.runLabels (objects.powerStep deviceData) restartAndReset d₁ with
          | .error _ => false
          | .ok d₂ =>
              match objects.powerStep deviceData (.powerCycle platform) d₂ with
              | .error _ => false
              | .ok _ => check set d₁ (objects.servedRequests deviceData restartAndReset d₁) d₂

end SampleApplication

open SampleApplication in
/-- A read and a reset are served around the first power cycle. -/
theorem qos_durable_reset :
    ∃ (d₁ d₂ d' : Device ObjectData) (log : List ServedRequest),
      objects.Powered deviceData d₁ log d₂ ∧ log.map (·.resets) = [false, true] ∧
      d₁.registers (qosPath .urgent) = some [10] ∧ d₂.registers (qosPath .urgent) = some [55] ∧
      (∀ qos, d'.registers (qosPath qos) = d₁.registers (qosPath qos)) ∧
      d'.globals.application.activeDscp = d'.globals.application.qos.dscp := by
  have hends : setAndRestart (fun set d₁ log d₂ =>
      set.sets && set.epath.classId.toUInt32 = qosClassCode &&
        log.all (fun served => !served.writesFile) && log.map (·.resets) = [false, true] &&
        d₁.registers (qosPath .urgent) = some [10] &&
        d₂.registers (qosPath .urgent) = some [55]) = true := by decide +kernel
  simp only [setAndRestart] at hends
  split at hends
  · cases hends
  rename_i first hstart
  split at hends
  · cases hends
  rename_i set d₁ hset
  split at hends
  · cases hends
  rename_i d₂ hrun
  split at hends
  · cases hends
  rename_i d' hcycle
  simp only [Bool.and_eq_true, decide_eq_true_eq, List.all_eq_true, Bool.not_eq_true'] at hends
  obtain ⟨⟨⟨⟨⟨hsets, hclass⟩, hkept⟩, hresets⟩, hread⟩, hread'⟩ := hends
  obtain ⟨hparse, status, hcall⟩ := route_ok hset
  have hpowered := powered_of_run hrun
  exact ⟨d₁, d₂, d', _, hpowered, hresets, hread, hread', qos_durable (fun _ => rfl)
    ⟨platform, none, first, hstart, .refl⟩ hparse hcall hsets hclass hpowered hkept hcycle⟩

end Sample

end Opener

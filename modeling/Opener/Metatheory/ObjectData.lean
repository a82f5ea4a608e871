import Mathlib.Logic.Relation
import Opener.Core.Startup
import Opener.Metatheory.ApplicationVariables

/-!
What happens to the variables of the objects: every step of the device is a run of settings
and resets, which are the only ways in which they change between two starts. A value of the
QoS object is stored whenever it is set.
-/

namespace Opener

open Relation

/-- A value of the TCP/IP interface object set by a request, in some state of the stack. -/
inductive TcpIpSet (objects : ObjectConfig) (tcpip : CipTcpIpObject) : CipTcpIpObject → Prop
  | configControl (request : MessageRouterRequest) :
      TcpIpSet objects tcpip (decodeTcpIpInterfaceConfigurationControl tcpip request).data
  | interfaceConfiguration (st : StackState) (request : MessageRouterRequest) :
      TcpIpSet objects tcpip (decodeCipTcpIpInterfaceConfiguration objects.stack st objects.beyond
        tcpip request).data
  | hostName {request : MessageRouterRequest} {decoded : Decoded CipTcpIpObject}
      (h : decodeHostName objects.beyond tcpip request = .ok decoded) :
      TcpIpSet objects tcpip decoded.data
  | inactivityTimeout (request : MessageRouterRequest) :
      TcpIpSet objects tcpip
        (decodeCipTcpIpInterfaceEncapsulationInactivityTimeout tcpip request).data

/-- The values of the QoS object written to the file. -/
def ObjectData.store (objects : ObjectConfig) (data : ObjectData) : ObjectData :=
  { data with
    confFile := (nvQosStore (objects.files data.accesses).write data.qos.dscp data.confFile).2
    accesses := data.accesses + 1 }

/-- The values that `ResetDeviceToInitialConfiguration` resets. -/
def ObjectData.defaults (data : ObjectData) : ObjectData :=
  { data with
    tcpip := { data.tcpip with encapsulationInactivityTimeout := 120 }
    qos := { qFramesEnable := 0, dscp := .defaults } }

/-- The stored values become the active ones. -/
def ObjectData.activate (data : ObjectData) : ObjectData :=
  { data with activeDscp := data.qos.dscp }

def ObjectData.setDscp (data : ObjectData) (dscp : CipQosDscpValues) : ObjectData :=
  { data with qos := { data.qos with dscp } }

inductive ObjectStep (objects : ObjectConfig) (data : ObjectData) : ObjectData → Prop
  | tcpip {tcpip : CipTcpIpObject} (h : TcpIpSet objects data.tcpip.toCipTcpIpObject tcpip) :
      ObjectStep objects data
        { data with tcpip := { data.tcpip with toCipTcpIpObject := tcpip } }
  | failed (fault : Fault) : ObjectStep objects data { data with fault := some fault }
  | interfaceControl (idx : Nat) (request : MessageRouterRequest) :
      ObjectStep objects data { data with
        interfaceControl :=
          (decodeCipEthernetLinkInterfaceControl idx data.interfaceControl request).data }
  | dscp (attr : QosAttribute) (request : MessageRouterRequest) :
      ObjectStep objects data
        ((data.setDscp (decodeCipQoSAttribute attr data.qos.dscp request).data).store objects)
  | assembly (received : List UInt16) : ObjectStep objects data { data with received }
  | reset : ObjectStep objects data data.activate
  | resetToInitialConfiguration : ObjectStep objects data data.defaults.activate

/-- So many settings and resets. -/
abbrev ObjectRun (objects : ObjectConfig) : ObjectData → ObjectData → Prop :=
  ReflTransGen (ObjectStep objects)

section Setups

variable {σ : Type} {R : σ → σ → Prop} {setup : List (ClassSetup (Globals σ))}

/-- It is enough that the functions keep the relation one by one. -/
theorem SetupKeeps.of_respects (hrefl : ∀ state, R state state)
    (htrans : ∀ {state₁ state₂ state₃}, R state₁ state₂ → R state₂ state₃ → R state₁ state₃)
    (h : SetupRespects (Globals.Related R) setup) : SetupKeeps R setup := by
  have hcallback : ∀ callback, some callback ∈ (callbackClass setup).getSetCallbacks →
      ∀ instanceNumber attributeNumber service globals,
        Globals.Related R globals (callback instanceNumber attributeNumber service globals) := by
    intro callback hmem
    rcases installCallbacks_mem hmem with ⟨flags, hinstalled⟩ | hblank
    · exact h.callback callback flags hinstalled
    · simp [createCipClass, CipClass.getSetCallbacks] at hblank
  have hcallBack : ∀ {callback flags inst attr service globals},
      callback ∈ (callbackClass setup).getSetCallbacks →
        Globals.Related R globals (callBack callback flags inst attr service globals) :=
    fun hmem => callBack_respects (fun globals => hrefl globals.application)
      fun f hf => hcallback f (hf ▸ hmem)
  refine ⟨fun instanceNumber attr hmem decode hattr inst request globals => ?_,
    fun callback hmem => hcallback callback ?_⟩
  · rw [decodeAttribute]
    have hpre : (callbackClass setup).preSetCallback ∈ (callbackClass setup).getSetCallbacks := by
      simp [CipClass.getSetCallbacks]
    have hpost : (callbackClass setup).postSetCallback ∈
        (callbackClass setup).getSetCallbacks := by
      simp [CipClass.getSetCallbacks]
    exact htrans (hcallBack hpre)
      (htrans (h.decode instanceNumber attr hmem decode hattr _ request) (hcallBack hpost))
  · simp only [List.mem_cons, List.not_mem_nil, or_false, CipClass.getSetCallbacks] at hmem ⊢
    tauto

/-- Attributes with a callback that is called when a value was set. -/
theorem SetupKeeps.of_postSet {callback : CipGetSetCallback (Globals σ)}
    (hattributes : ∀ call ∈ setup, ∃ instanceNumber attr,
      call = .insertAttribute instanceNumber attr)
    (hdecode : ∀ instanceNumber attr, .insertAttribute instanceNumber attr ∈ setup →
      ∀ decode, attr.decode = some decode → attr.has CIPAttributeFlag.nvDataFunc = true ∧
        ∀ instanceNumber service request globals, Globals.Related R globals
          (callback instanceNumber attr.attributeNumber service (decode globals request).data)) :
    SetupKeeps R (setup ++ [.insertGetSetCallback callback CIPAttributeFlag.nvDataFunc]) := by
  have hcallbacks :
      callbackClass (setup ++ [.insertGetSetCallback callback CIPAttributeFlag.nvDataFunc]) =
        insertGetSetCallback (createCipClass 0 0 []) callback CIPAttributeFlag.nvDataFunc := by
    rw [callbackClass, installCallbacks_append, installCallbacks_attributes hattributes]
    rfl
  have hinstalled : (insertGetSetCallback (createCipClass 0 0 []) callback
      CIPAttributeFlag.nvDataFunc).getSetCallbacks = [none, none, none, some callback] := rfl
  simp only [CipClass.getSetCallbacks, List.cons.injEq, and_true] at hinstalled
  obtain ⟨hpreGet, hpostGet, hpreSet, hpostSet⟩ := hinstalled
  refine ⟨fun instanceNumber attr hmem decode hattr inst request globals => ?_, ?_⟩
  · rw [List.mem_append, List.mem_singleton] at hmem
    have hmem := hmem.resolve_right (by rintro ⟨⟩)
    obtain ⟨hflag, hrelated⟩ := hdecode instanceNumber attr hmem decode hattr
    have hflags : attr.has (CIPAttributeFlag.postSetFunc ||| CIPAttributeFlag.nvDataFunc) = true :=
      hflag
    simp only [hcallbacks, decodeAttribute, hpreSet, hpostSet, callBack, hflags, if_true]
    exact hrelated inst.instanceNumber request.service request globals
  · rw [hcallbacks]
    intro installed hmem
    simp [hpreGet, hpostGet] at hmem

end Setups

namespace ObjectConfig

variable {objects : ObjectConfig} {attr : CipAttributeStruct ObjectGlobals} {idx : Nat}

theorem mem_insertAll {instanceNumber number : UInt16}
    {attributes : List (CipAttributeStruct ObjectGlobals)}
    (h : .insertAttribute number attr ∈ insertAll instanceNumber attributes) :
    attr ∈ attributes := by
  obtain ⟨other, hother, heq⟩ := List.mem_map.mp h
  cases heq
  exact hother

theorem insertAll_attribute (instanceNumber : UInt16)
    (attributes : List (CipAttributeStruct ObjectGlobals)) :
    ∀ call ∈ insertAll instanceNumber attributes, ∃ instanceNumber attr,
      call = .insertAttribute instanceNumber attr := by
  intro call hcall
  obtain ⟨attr, -, rfl⟩ := List.mem_map.mp hcall
  exact ⟨instanceNumber, attr, rfl⟩

theorem identityAttributes_decode (h : attr ∈ identityAttributes) : attr.decode = none := by
  simp only [identityAttributes, List.mem_cons, List.not_mem_nil, or_false] at h
  rcases h with rfl | rfl | rfl | rfl | rfl | rfl | rfl
  all_goals rfl

theorem tcpIpAttributes_decode (h : attr ∈ objects.tcpIpAttributes) :
    attr.decode = none ∨ attr = configControlAttribute ∨
      attr = objects.interfaceConfigurationAttribute ∨ attr = objects.hostNameAttribute ∨
      attr = inactivityTimeoutAttribute := by
  simp only [tcpIpAttributes, List.mem_cons, List.not_mem_nil, or_false] at h
  rcases h with rfl | rfl | rfl | rfl | rfl | rfl | rfl | rfl | rfl | rfl | rfl | rfl | rfl
  all_goals first | exact .inl rfl | simp

theorem ethernetLinkAttributes_decode (h : attr ∈ objects.ethernetLinkAttributes idx) :
    attr.decode = none ∨ attr = objects.portControlAttribute idx := by
  simp only [ethernetLinkAttributes, List.mem_cons, List.not_mem_nil, or_false] at h
  rcases h with rfl | rfl | rfl | rfl | rfl | rfl | rfl | rfl | rfl | rfl | rfl
  all_goals first | exact .inl rfl | exact .inr rfl

theorem qosAttributes_decode (h : attr ∈ qosAttributes) :
    attr.decode = none ∨
      ∃ qos : QosAttribute, attr = ObjectGlobals.dscp.attribute (qosAttribute qos) := by
  simp only [qosAttributes, List.mem_append, List.mem_map] at h
  rcases h with h | ⟨qos, -, rfl⟩
  · simp only [List.mem_cons, List.not_mem_nil, or_false] at h
    rcases h with rfl | rfl | rfl
    all_goals exact .inl rfl
  · exact .inr ⟨qos, rfl⟩

/-- Attributes alone, the decode functions of which take the steps of the objects. -/
theorem SetupRespects.of_attributes {setup : List (ClassSetup ObjectGlobals)}
    {R : ObjectGlobals → ObjectGlobals → Prop}
    (h : ∀ call ∈ setup, ∃ instanceNumber attr, call = .insertAttribute instanceNumber attr ∧
      ∀ decode, attr.decode = some decode → ∀ globals request,
        R globals (decode globals request).data) : SetupRespects R setup := by
  refine ⟨fun instanceNumber attr hmem decode hdecode state request => ?_,
    fun callback callbacksToInstall hmem => ?_⟩
  · obtain ⟨_, _, heq, hkeeps⟩ := h _ hmem
    cases heq
    exact hkeeps decode hdecode state request
  · obtain ⟨_, _, heq, -⟩ := h _ hmem
    cases heq

theorem insertClassAttributes_respects {R : ObjectGlobals → ObjectGlobals → Prop}
    {classCode : UInt32} {maxInstance : Bool} {revision highestClass highestInstance : UInt16}
    {flags : List UInt8} :
    SetupRespects R (insertClassAttributes classCode maxInstance revision highestClass
      highestInstance flags) := by
  refine SetupRespects.of_attributes fun call hcall => ?_
  obtain ⟨⟨⟨flag, value⟩, i⟩, -, rfl⟩ := List.mem_map.mp hcall
  exact ⟨_, _, rfl, fun decode hdecode => by cases hdecode⟩

theorem identity_readOnly :
    IsReadOnly (objects.attributes identityClassCode).instanceSetup :=
  fun _ _ hmem => identityAttributes_decode (mem_insertAll hmem)

theorem decodeHostName_step (globals : ObjectGlobals) (request : MessageRouterRequest) :
    ObjectStep objects globals.application (ObjectGlobals.failingTcpip.decode
      (decodeCipTcpIpInterfaceHostName objects.beyond) globals request).data.application := by
  simp only [Part.decode, decodeCipTcpIpInterfaceHostName, ObjectGlobals.failingTcpip]
  cases hdecoded : decodeHostName objects.beyond (ObjectGlobals.tcpip.get globals) request with
  | error fault =>
      simp only [Except.bind, hdecoded]
      exact .failed fault
  | ok decoded =>
      simp only [Except.bind, hdecoded]
      exact .tcpip (.hostName hdecoded)

theorem tcpIp_respects : SetupRespects (Globals.Related (ObjectRun objects))
    (objects.attributes tcpIpInterfaceClassCode).instanceSetup := by
  refine ⟨fun instanceNumber attr hmem decode hdecode globals request => ?_,
    fun callback callbacksToInstall hmem _ _ _ globals => ?_⟩
  · have hattr : attr ∈ objects.tcpIpAttributes := by
      rcases List.mem_append.mp hmem with hmem | hmem
      · exact mem_insertAll hmem
      · cases List.mem_singleton.mp hmem
    rcases tcpIpAttributes_decode hattr with hnone | rfl | rfl | rfl | rfl
    · rw [hnone] at hdecode
      cases hdecode
    · cases hdecode
      exact .single (.tcpip (.configControl request))
    · rw [interfaceConfigurationAttribute] at hdecode
      split at hdecode
      · cases hdecode
        exact .single (.tcpip (.interfaceConfiguration globals.stack request))
      · cases hdecode
    · rw [hostNameAttribute] at hdecode
      split at hdecode
      · cases hdecode
        exact .single (decodeHostName_step globals request)
      · cases hdecode
    · cases hdecode
      exact .single (.tcpip (.inactivityTimeout request))
  · rcases List.mem_append.mp hmem with hmem | hmem
    · obtain ⟨attr, -, heq⟩ := List.mem_map.mp hmem
      cases heq
    · cases List.mem_singleton.mp hmem
      exact .refl

theorem ethernetLink_respects : SetupRespects (Globals.Related (ObjectRun objects))
    (objects.attributes ethernetLinkClassCode).instanceSetup := by
  refine SetupRespects.of_attributes fun call hcall => ?_
  obtain ⟨idx, -, hinserted⟩ := List.mem_flatMap.mp hcall
  obtain ⟨attr, hattr, rfl⟩ := List.mem_map.mp hinserted
  refine ⟨_, attr, rfl, fun decode hdecode globals request => ?_⟩
  rcases ethernetLinkAttributes_decode hattr with hnone | rfl
  · rw [hnone] at hdecode
    cases hdecode
  · rw [portControlAttribute] at hdecode
    split at hdecode
    · cases hdecode
      exact .single (.interfaceControl idx request)
    · cases hdecode

/-- An assembly works on the stack and on the list of the assemblies that were set. -/
theorem assembly_respects : SetupRespects (Globals.Related (ObjectRun objects))
    (objects.attributes assemblyClassCode).instanceSetup := by
  have hput : ∀ (assembly : CipAssembly) (globals : ObjectGlobals),
      Globals.Related (ObjectRun objects) globals (ObjectGlobals.assembly.put assembly globals) :=
    fun assembly globals => .single (.assembly assembly.received)
  refine ⟨fun instanceNumber attr hmem decode hdecode globals request => ?_,
    fun callback callbacksToInstall hmem _ _ _ globals => ?_⟩
  · obtain ⟨call, -, heq⟩ := List.mem_map.mp hmem
    cases call with
    | insertAttribute number inserted =>
        cases heq
        obtain ⟨decode, -, rfl⟩ := Option.map_eq_some_iff.mp hdecode
        exact hput _ globals
    | insertGetSetCallback callback callbacksToInstall => cases heq
  · obtain ⟨call, -, heq⟩ := List.mem_map.mp hmem
    cases call with
    | insertAttribute number inserted => cases heq
    | insertGetSetCallback callback callbacksToInstall =>
        cases heq
        exact hput _ globals

theorem qos_keeps :
    SetupKeeps (ObjectRun objects) (objects.attributes qosClassCode).instanceSetup := by
  refine SetupKeeps.of_postSet (insertAll_attribute 1 qosAttributes)
    fun instanceNumber attr hmem decode hdecode => ?_
  rcases qosAttributes_decode (mem_insertAll hmem) with hnone | ⟨qos, rfl⟩
  · rw [hnone] at hdecode
    cases hdecode
  · cases hdecode
    have hflags : (CIPAttributeFlag.getableSingle ||| CIPAttributeFlag.setable |||
        CIPAttributeFlag.nvDataFunc) &&& CIPAttributeFlag.nvDataFunc ≠ 0 := by decide
    exact ⟨bne_iff_ne.mpr hflags, fun _ _ request globals => .single (.dscp qos request)⟩

theorem resetDevice_related {globals globals' : ObjectGlobals} {status : EipStatus}
    (h : objects.resetDevice globals = .ok (status, globals')) :
    globals'.application = globals.application.activate := by
  rw [resetDevice] at h
  split at h
  · cases h
  · cases h
    rfl

theorem resetDeviceToInitialConfiguration_related {globals globals' : ObjectGlobals}
    {status : EipStatus}
    (h : objects.resetDeviceToInitialConfiguration globals = .ok (status, globals')) :
    globals'.application = globals.application.defaults.activate := by
  rw [resetDeviceToInitialConfiguration] at h
  split at h
  · cases h
  · rename_i hreset
    cases h
    exact resetDevice_related hreset

theorem stackClasses_keeps : objects.stackClasses.Keeps (ObjectRun objects) := by
  have hrefl : ∀ data, ObjectRun objects data data := fun _ => .refl
  have hidentity : IsReadOnly (objects.attributes identityClassCode).instanceSetup :=
    identity_readOnly
  refine ⟨hrefl, fun globals status globals' h => ?_, fun globals status globals' h => ?_,
    fun classCode => ?_, fun classCode => ?_, hidentity⟩
  · rw [Globals.Related, resetDevice_related h]
    exact .single .reset
  · rw [Globals.Related, resetDeviceToInitialConfiguration_related h]
    exact .single .resetToInitialConfiguration
  · refine .of_respects hrefl .trans ?_
    change SetupRespects _ (objects.attributes classCode).classSetup
    rw [attributes]
    split_ifs
    all_goals first | exact insertClassAttributes_respects | exact .nil
  · have hnil : SetupKeeps (ObjectRun objects) [] := .of_respects hrefl .trans .nil
    change SetupKeeps _ (objects.attributes classCode).instanceSetup
    by_cases htcpIp : classCode = tcpIpInterfaceClassCode
    · exact htcpIp ▸ .of_respects hrefl .trans tcpIp_respects
    by_cases hethernetLink : classCode = ethernetLinkClassCode
    · exact hethernetLink ▸ .of_respects hrefl .trans ethernetLink_respects
    by_cases hassembly : classCode = assemblyClassCode
    · exact hassembly ▸ .of_respects hrefl .trans assembly_respects
    by_cases hqos : classCode = qosClassCode
    · exact hqos ▸ qos_keeps
    by_cases hcode : classCode = identityClassCode
    · subst hcode
      refine .of_respects hrefl .trans ⟨fun number attr hmem decode hdecode => ?_,
        fun callback flags hmem => ?_⟩
      · rw [hidentity number attr hmem] at hdecode
        cases hdecode
      · obtain ⟨attr, -, heq⟩ := List.mem_map.mp hmem
        cases heq
    · simp only [attributes, htcpIp, hethernetLink, hassembly, hqos, hcode, if_false]
      split_ifs
      all_goals exact hnil

end ObjectConfig

/-- What a step does to the variables of the objects. -/
inductive PowerStep (objects : ObjectConfig) (device : DeviceData) (data : ObjectData) :
    PowerAction → ObjectData → Prop
  | stack {env : Environment} {front : List UInt8} {action : StackState.Action}
      {data' : ObjectData} (h : ObjectRun objects data data') :
      PowerStep objects device data (.stack env front action) data'
  | identity (call : IdentityCall) :
      PowerStep objects device data (.identity call)
        { data with identity := data.identity.call call }
  | powerCycle (platform : Platform) :
      PowerStep objects device data (.powerCycle platform)
        (objects.startObjects device platform data.confFile data.accesses)

namespace ObjectConfig

variable {objects : ObjectConfig} {device : DeviceData} {d d' : Device ObjectData}

theorem start_spec {platform : Platform} {confFile : ConfFile} {accesses : Nat}
    (h : objects.start device platform confFile accesses = .ok d) :
    cipStackInit objects.stackClasses = .ok d.classes ∧
      d.globals.application = objects.startObjects device platform confFile accesses := by
  rw [start] at h
  split at h
  · cases h
  · rename_i hinit
    cases h
    exact ⟨hinit, rfl⟩

/-- The classes stay the ones of the start, and the variables take a step. -/
theorem powerStep_spec {action : PowerAction}
    (hclasses : cipStackInit objects.stackClasses = .ok d.classes)
    (h : objects.powerStep device action d = .ok d') :
    cipStackInit objects.stackClasses = .ok d'.classes ∧
      PowerStep objects device d.globals.application action d'.globals.application := by
  cases action with
  | stack env front action =>
      simp only [powerStep] at h
      split at h
      · cases h
      · rename_i d₁ hstep
        split at h
        · cases h
        · cases h
          obtain ⟨hsame, hrelated⟩ := Device.step_keeps (fun _ => .refl) .trans
            (cipStackInit_keeps stackClasses_keeps hclasses) hstep
          exact ⟨hsame ▸ hclasses, .stack hrelated⟩
  | identity call =>
      cases h
      exact ⟨hclasses, .identity call⟩
  | powerCycle platform =>
      obtain ⟨hinit, hdata⟩ := start_spec h
      exact ⟨hinit, hdata ▸ .powerCycle platform⟩

/-- What holds of the variables after a start, and is kept by every step, holds in every run. -/
theorem powerRun_invariant {P : ObjectData → Prop}
    {allowed : PowerAction → Device ObjectData → Prop}
    (hclasses : cipStackInit objects.stackClasses = .ok d.classes)
    (hstart : P d.globals.application)
    (hstep : ∀ {action d data'}, P d.globals.application → allowed action d →
      PowerStep objects device d.globals.application action data' → P data')
    (h : Runs.Reaches (objects.powerStep device) allowed d d') :
    cipStackInit objects.stackClasses = .ok d'.classes ∧ P d'.globals.application := by
  refine h.invariant (fun d => cipStackInit objects.stackClasses = .ok d.classes ∧
    P d.globals.application) ⟨hclasses, hstart⟩ fun action d d' hd hallowed htaken => ?_
  obtain ⟨hclasses', hpower⟩ := powerStep_spec hd.1 htaken
  exact ⟨hclasses', hstep hd.2 hallowed hpower⟩

end ObjectConfig

end Opener

import Opener.Core.Assembly
import Opener.Core.EthernetLink
import Opener.Core.Qos
import Opener.Core.SampleApplication
import Opener.Core.TcpIpInterface

/-!
Requests whose data is shorter than the value that is set. Only the decode functions of byte
arrays and of assembly data compare the size of the request data with what they take; the
others read on behind it, and refuse a short value only if what they read there happens to
be one that they do not accept.
-/

namespace Opener

open CipEthernetLink
open CipTcpIpObject (cfgCtrlMethodMask cfgCtrlStaticIp)

section Service

variable {σ : Type} {cipClass : CipClass σ} {inst : CipInstance σ} {attributeNumber : UInt16}
  {attr : CipAttributeStruct σ}

/-- The attribute whose decode function `SetAttributeSingle` calls. -/
def settableAttribute (cipClass : CipClass σ) (inst : CipInstance σ) (attributeNumber : UInt16) :
    Option (CipAttributeStruct σ) :=
  (getCipAttribute inst attributeNumber).filter fun attr =>
    attr.data.isSome && attr.attributeFlags ≠ CIPAttributeFlag.getableAllDummy &&
      attr.attributeFlags ≠ CIPAttributeFlag.notSetOrGetable &&
      attr.attributeFlags ≠ CIPAttributeFlag.getableAll &&
      BitTable.test cipClass.setBitMask attributeNumber.toNat

theorem settableAttribute_eq_some_iff :
    settableAttribute cipClass inst attributeNumber = some attr ↔
      getCipAttribute inst attributeNumber = some attr ∧ attr.data.isSome = true ∧
        ¬(attr.attributeFlags = CIPAttributeFlag.getableAllDummy ∨
          attr.attributeFlags = CIPAttributeFlag.notSetOrGetable ∨
          attr.attributeFlags = CIPAttributeFlag.getableAll) ∧
        BitTable.test cipClass.setBitMask attributeNumber.toNat = true := by
  simp only [settableAttribute, Option.filter_eq_some_iff, Bool.and_eq_true, decide_eq_true_eq,
    not_or, and_assoc]

theorem setAttributeSingle_unsettable
    (h : settableAttribute cipClass inst attributeNumber = none) (request : MessageRouterRequest)
    (state : σ) :
    ∃ response, setAttributeSingle cipClass inst attributeNumber request state =
        .ok (response, state) ∧ response.generalStatus ≠ GeneralStatus.success := by
  have hunsupported : GeneralStatus.attributeNotSupported ≠ GeneralStatus.success := by decide
  have hunsetable : GeneralStatus.attributeNotSetable ≠ GeneralStatus.success := by decide
  cases hlookup : getCipAttribute inst attributeNumber with
  | none =>
      simp only [setAttributeSingle, hlookup]
      exact ⟨_, rfl, hunsupported⟩
  | some attr =>
      simp only [setAttributeSingle, hlookup]
      split
      · exact ⟨_, rfl, hunsupported⟩
      · rename_i hdata
        split
        · exact ⟨_, rfl, hunsupported⟩
        · rename_i hflags
          split
          · rename_i hmask
            have hsome : attr.data.isSome = true := by
              rwa [Bool.not_eq_true, Option.isNone_eq_false_iff] at hdata
            rw [settableAttribute_eq_some_iff.mpr ⟨hlookup, hsome, hflags, hmask⟩] at h
            cases h
          · exact ⟨_, rfl, hunsetable⟩

theorem setAttributeSingle_settable
    (h : settableAttribute cipClass inst attributeNumber = some attr)
    {decode : CipAttributeDecodeFromMessage σ} (hdecode : attr.decode = some decode)
    (request : MessageRouterRequest) (state : σ) :
    setAttributeSingle cipClass inst attributeNumber request state =
      .ok ({ attributeSingleHeader request with
          generalStatus := (decodeAttribute cipClass inst attr decode request state).1 },
        (decodeAttribute cipClass inst attr decode request state).2) := by
  obtain ⟨hlookup, hdata, hflags, hmask⟩ := settableAttribute_eq_some_iff.mp h
  have hslot : ¬attr.data.isNone = true := by simpa using Option.isSome_iff_ne_none.mp hdata
  simp only [setAttributeSingle, hlookup, if_neg hslot, if_neg hflags, hmask, if_true, hdecode]

theorem callBack_of {p : σ → Prop} {callback : Option (CipGetSetCallback σ)} {state : σ}
    (hcallback : ∀ call, callback = some call → ∀ attributeNumber service,
      p (call inst.instanceNumber attributeNumber service state))
    (hstate : p state) (flags service : UInt8) :
    p (callBack callback flags inst attr service state) := by
  cases callback with
  | none => exact hstate
  | some call =>
      simp only [callBack]
      split
      · exact hcallback call rfl _ _
      · exact hstate

end Service

namespace CipDataType

def consumes (type : CipDataType) (data : CipData) (request : MessageRouterRequest) : Nat :=
  match type with
  | .bool | .byte | .usint | .sint => 1
  | .word | .uint | .int => 2
  | .dword | .udint | .dint | .real => 4
  | .lword | .ulint | .lint | .lreal => 8
  | .string =>
      let length := request.data.getUint.1.toNat
      length + 2 + length % 2
  | .shortString => request.data.getUsint.1.toNat + 1
  | .byteArray => data.memory.getUint.1.toNat
  | _ => 0

/-- The cursor moves by that, but for a byte array. -/
theorem moved_eq_consumes {type : CipDataType} {decode : CipAttributeDecodeFromMessage CipData}
    (h : type.decodeFunction = some decode) (harray : type ≠ .byteArray) (data : CipData)
    (request : MessageRouterRequest) :
    (decode data request).moved = type.consumes data request := by
  cases type <;> cases h
  case byteArray => exact absurd rfl harray
  case string =>
    simp only [decodeCipString, consumes]
    split
    · omega
    · omega
  all_goals rfl

end CipDataType

/-- The decode functions of the stack. Some depend on more than the object: on the
connections, on the memory behind a string, on the application. -/
inductive DecodeFunction where
  | ofType (type : CipDataType) (decodes : type.decodeFunction.isSome)
  | qosAttribute (attr : QosAttribute)
  | configurationControl
  | interfaceConfiguration (cfg : Config) (st : StackState) (beyond : List UInt8)
  | hostName (beyond : List UInt8)
  | encapsulationInactivityTimeout
  | interfaceControl (idx : Nat)
  | assemblyAttribute3 (env : Environment) (instanceNumber : UInt16)

namespace DecodeFunction

def State : DecodeFunction → Type
  | .ofType _ _ => CipData
  | .qosAttribute _ => CipQosDscpValues
  | .configurationControl | .interfaceConfiguration _ _ _ | .encapsulationInactivityTimeout =>
      CipTcpIpObject
  | .hostName _ => Except Fault CipTcpIpObject
  | .interfaceControl _ => List CipEthernetLinkInterfaceControl
  | .assemblyAttribute3 _ _ => CipAssembly

def decode : (f : DecodeFunction) → CipAttributeDecodeFromMessage f.State
  | .ofType type decodes => type.decodeFunction.get decodes
  | .qosAttribute attr => decodeCipQoSAttribute attr
  | .configurationControl => decodeTcpIpInterfaceConfigurationControl
  | .interfaceConfiguration cfg st beyond => decodeCipTcpIpInterfaceConfiguration cfg st beyond
  | .hostName beyond => decodeCipTcpIpInterfaceHostName beyond
  | .encapsulationInactivityTimeout => decodeCipTcpIpInterfaceEncapsulationInactivityTimeout
  | .interfaceControl idx => decodeCipEthernetLinkInterfaceControl idx
  | .assemblyAttribute3 env instanceNumber => decodeCipAssemblyAttribute3 env instanceNumber

def Value : DecodeFunction → Type
  | .ofType _ _ => CipData
  | .qosAttribute _ => UInt8
  | .configurationControl => UInt32
  | .interfaceConfiguration _ _ _ => CipTcpIpInterfaceConfiguration
  | .hostName _ => Except Fault CipString
  | .encapsulationInactivityTimeout => UInt16
  | .interfaceControl _ => CipEthernetLinkInterfaceControl
  | .assemblyAttribute3 _ _ => List UInt8

def value : (f : DecodeFunction) → f.State → f.Value
  | .ofType _ _, data => data
  | .qosAttribute attr, dscp => attr.get dscp
  | .configurationControl, tcpip => tcpip.configControl
  | .interfaceConfiguration _ _ _, tcpip => tcpip.interfaceConfiguration
  | .hostName _, device => device.map CipTcpIpObject.hostname
  | .encapsulationInactivityTimeout, tcpip => tcpip.encapsulationInactivityTimeout
  | .interfaceControl idx, ports => ports.getD idx default
  | .assemblyAttribute3 _ instanceNumber, assembly => assembly.data instanceNumber

def consumes : (f : DecodeFunction) → f.State → MessageRouterRequest → Nat
  | .ofType type _, data, request => type.consumes data request
  | .qosAttribute _, _, _ => 1
  | .configurationControl, _, _ => 4
  | .interfaceConfiguration _ _ _, _, request => 22 + (domainNameLength request.data).toNat
  | .hostName _, .error _, _ => 0
  | .hostName _, .ok _, request => 2 + request.data.getUint.1.toNat
  | .encapsulationInactivityTimeout, _, _ => 2
  | .interfaceControl _, _, _ => 4
  | .assemblyAttribute3 _ instanceNumber, assembly, _ => (assembly.data instanceNumber).length

def receivedInterfaceControl (message : Message) : CipEthernetLinkInterfaceControl :=
  { controlBits := message.getUint.1
    forcedInterfaceSpeed := (Message.getUint (message.drop 2)).1 }

def refuses : (f : DecodeFunction) → f.State → MessageRouterRequest → Bool
  | .ofType type _, data, request =>
      type = .byteArray && request.requestDataSize ≠ data.memory.getUint.1.toUInt64
  | .qosAttribute _, _, request => 64 ≤ request.data.getUsint.1
  | .configurationControl, _, request =>
      0x03 ≤ request.data.getUdint.1 &&& cfgCtrlMethodMask ||
        request.data.getUdint.1 &&& ~~~cfgCtrlMethodMask ≠ 0
  | .interfaceConfiguration cfg st beyond, tcpip, request =>
      st.isIOConnectionActive cfg || tcpip.configControl &&& cfgCtrlMethodMask ≠ cfgCtrlStaticIp ||
        48 < domainNameLength request.data ||
        !isValidInterfaceConfiguration (receivedInterfaceConfiguration request.data) beyond
  | .hostName _, .error _, _ => false
  | .hostName beyond, .ok _, request =>
      let (hostNameLength, message) := request.data.getUint
      64 < hostNameLength || hostNameLength ≠ 0 && !isValidNameLabel
        (cString ((CipString.setByData hostNameLength message).string ++ beyond))
  | .encapsulationInactivityTimeout, _, request => 3600 < request.data.getUint.1
  | .interfaceControl _, _, request =>
      let ifCntrl := receivedInterfaceControl request.data
      ifCntrlMaxValid < ifCntrl.controlBits ||
        ifCntrl.controlBits &&& ifCntrlAutonegotiate ≠ 0 &&
          (ifCntrl.controlBits &&& ifCntrlForceDuplexFD ≠ 0 || ifCntrl.forcedInterfaceSpeed ≠ 0) ||
        ifCntrl.controlBits &&& ifCntrlAutonegotiate = 0 &&
          !isIfaceControlAllowed speedDpx100FD ifCntrl
  | .assemblyAttribute3 _ instanceNumber, assembly, request =>
      request.requestDataSize.toNat ≠ (assembly.data instanceNumber).length

variable {f : DecodeFunction} {state : f.State} {request : MessageRouterRequest}

theorem refusals_ne_success :
    GeneralStatus.notEnoughData ≠ GeneralStatus.success ∧
      GeneralStatus.tooMuchData ≠ GeneralStatus.success ∧
      GeneralStatus.invalidAttributeValue ≠ GeneralStatus.success ∧
      GeneralStatus.objectStateConflict ≠ GeneralStatus.success ∧
      GeneralStatus.deviceStateConflict ≠ GeneralStatus.success := by
  decide

theorem decodeHostName_refused {beyond : List UInt8} {tcpip : CipTcpIpObject}
    (h : (hostName beyond).refuses (.ok tcpip) request = true) :
    ∃ generalStatus, decodeHostName beyond tcpip request =
        .ok (refusedTcpIp tcpip 2 generalStatus) ∧ generalStatus ≠ GeneralStatus.success := by
  obtain ⟨-, hlong, hinvalid, -⟩ := refusals_ne_success
  simp only [refuses, Bool.or_eq_true, Bool.and_eq_true, decide_eq_true_eq] at h
  simp only [decodeHostName, gt_iff_lt]
  split
  · exact ⟨_, rfl, hlong⟩
  · rename_i hlength
    obtain ⟨hne, hlabel⟩ := h.resolve_left hlength
    rw [if_neg hne, if_pos hlabel]
    exact ⟨_, rfl, hinvalid⟩

theorem decode_refused (h : f.refuses state request = true) :
    (f.decode state request).generalStatus ≠ GeneralStatus.success ∧
      (f.decode state request).data = state := by
  obtain ⟨hshort, hlong, hinvalid, hobject, hdevice⟩ := refusals_ne_success
  cases f with
  | ofType type decodes =>
      rw [refuses, Bool.and_eq_true, decide_eq_true_eq, decide_eq_true_eq] at h
      obtain ⟨rfl, hsize⟩ := h
      change (decodeCipByteArray state request).generalStatus ≠ _ ∧
        (decodeCipByteArray state request).data = state
      simp only [decodeCipByteArray]
      split
      · exact ⟨hshort, rfl⟩
      · rename_i hleast
        split
        · exact ⟨hlong, rfl⟩
        · rename_i hmost
          exact absurd (UInt64.le_antisymm (UInt64.not_lt.mp hmost) (UInt64.not_lt.mp hleast)) hsize
  | qosAttribute attr =>
      rw [refuses, decide_eq_true_eq, ← UInt8.not_lt] at h
      simp only [decode, decodeCipQoSAttribute, if_neg h]
      exact ⟨hinvalid, trivial⟩
  | configurationControl =>
      simp only [refuses, Bool.or_eq_true, decide_eq_true_eq] at h
      simp only [decode, decodeTcpIpInterfaceConfigurationControl, ge_iff_le, if_pos h]
      exact ⟨hinvalid, rfl⟩
  | interfaceConfiguration cfg st beyond =>
      simp only [refuses, Bool.or_eq_true, decide_eq_true_eq, or_assoc] at h
      simp only [decode, decodeCipTcpIpInterfaceConfiguration]
      split
      · exact ⟨hdevice, rfl⟩
      · rename_i hactive
        split
        · exact ⟨hobject, rfl⟩
        · rename_i hmethod
          split
          · exact ⟨hlong, rfl⟩
          · rename_i hlength
            have hrest := (h.resolve_left hactive).resolve_left fun hne => hmethod hne.symm
            rw [if_pos (hrest.resolve_left hlength)]
            exact ⟨hinvalid, rfl⟩
  | hostName beyond =>
      cases state with
      | error fault => cases h
      | ok tcpip =>
          obtain ⟨generalStatus, hrefused, hstatus⟩ := decodeHostName_refused h
          have hdecode : decodeCipTcpIpInterfaceHostName beyond (.ok tcpip) request =
              { refusedTcpIp tcpip 2 generalStatus with data := .ok tcpip } := by
            simp only [decodeCipTcpIpInterfaceHostName, Except.bind, hrefused]
            rfl
          rw [decode, hdecode]
          exact ⟨hstatus, rfl⟩
  | encapsulationInactivityTimeout =>
      rw [refuses, decide_eq_true_eq] at h
      simp only [decode, decodeCipTcpIpInterfaceEncapsulationInactivityTimeout, gt_iff_lt, if_pos h]
      exact ⟨hinvalid, rfl⟩
  | interfaceControl idx =>
      simp only [refuses, Bool.or_eq_true, Bool.and_eq_true, decide_eq_true_eq, or_assoc] at h
      simp only [decode, decodeCipEthernetLinkInterfaceControl, gt_iff_lt]
      split
      · exact ⟨hinvalid, rfl⟩
      · rename_i hbits
        split
        · exact ⟨hobject, rfl⟩
        · rename_i hforced
          obtain ⟨hauto, hmode⟩ := (h.resolve_left hbits).resolve_left hforced
          rw [Bool.not_eq_true'] at hmode
          rw [if_pos ⟨hauto, Bool.eq_false_iff.mp hmode⟩]
          exact ⟨hinvalid, rfl⟩
  | assemblyAttribute3 env instanceNumber =>
      rw [refuses, decide_eq_true_eq] at h
      simp only [decode, decodeCipAssemblyAttribute3]
      split
      · exact ⟨hshort, rfl⟩
      · rename_i hleast
        split
        · exact ⟨hlong, rfl⟩
        · rename_i hmost
          exact absurd (Nat.le_antisymm (Nat.not_lt.mp hmost) (Nat.not_lt.mp hleast)) h

theorem decodeHostName_accepted {beyond : List UInt8} {tcpip : CipTcpIpObject}
    (h : (hostName beyond).refuses (.ok tcpip) request = false) :
    decodeHostName beyond tcpip request = .error .nullDereference ∨
      ∃ decoded, decodeHostName beyond tcpip request = .ok decoded ∧
        decoded.generalStatus = GeneralStatus.success := by
  simp only [refuses, Bool.or_eq_false_iff, Bool.and_eq_false_iff, decide_eq_false_iff_not,
    not_not, Bool.not_eq_false'] at h
  simp only [decodeHostName, gt_iff_lt, if_neg h.1]
  split
  · exact .inl rfl
  · rename_i hne
    have hlabel := h.2.resolve_left hne
    rw [if_neg (by simp [hlabel])]
    exact .inr ⟨_, rfl, rfl⟩

theorem ofType_success {type : CipDataType} {decode : CipAttributeDecodeFromMessage CipData}
    (h : type.decodeFunction = some decode) (harray : type ≠ .byteArray) (data : CipData)
    (request : MessageRouterRequest) :
    (decode data request).generalStatus = GeneralStatus.success := by
  cases type <;> cases h
  case byteArray => exact absurd rfl harray
  all_goals rfl

theorem decode_short (h : f.refuses state request = false)
    (hshort : request.requestDataSize.toNat < f.consumes state request) :
    (f.decode state request).generalStatus = GeneralStatus.success ∨
      f.value (f.decode state request).data ≠ f.value state := by
  cases f with
  | ofType type decodes =>
      simp only [refuses, Bool.and_eq_false_iff, decide_eq_false_iff_not, not_not] at h
      by_cases harray : type = .byteArray
      · subst harray
        have hsize := h.resolve_left fun hne => hne rfl
        have hlength : request.requestDataSize.toNat < state.memory.getUint.1.toNat := hshort
        rw [hsize, UInt16.toNat_toUInt64] at hlength
        exact absurd hlength (Nat.lt_irrefl _)
      · exact .inl (ofType_success (Option.some_get decodes).symm harray state request)
  | qosAttribute attr =>
      rw [refuses, decide_eq_false_iff_not, UInt8.not_le] at h
      simp only [decode, decodeCipQoSAttribute, if_pos h, true_or]
  | configurationControl =>
      simp only [refuses, Bool.or_eq_false_iff, decide_eq_false_iff_not] at h
      simp only [decode, decodeTcpIpInterfaceConfigurationControl, ge_iff_le,
        if_neg (not_or.mpr h), true_or]
  | interfaceConfiguration cfg st beyond =>
      simp only [refuses, Bool.or_eq_false_iff, decide_eq_false_iff_not, Bool.not_eq_false',
        not_not] at h
      obtain ⟨⟨⟨hactive, hmethod⟩, hlength⟩, hvalid⟩ := h
      simp [decode, decodeCipTcpIpInterfaceConfiguration, hactive, hmethod, hlength, hvalid]
  | hostName beyond =>
      cases state with
      | error fault => exact absurd hshort (Nat.not_lt_zero _)
      | ok tcpip =>
          obtain hnull | ⟨decoded, hdecoded, hsuccess⟩ := decodeHostName_accepted h
          · right
            simp only [decode, decodeCipTcpIpInterfaceHostName, Except.bind, hnull, value]
            exact fun hsame => by cases hsame
          · left
            simp only [decode, decodeCipTcpIpInterfaceHostName, Except.bind, hdecoded, hsuccess]
  | encapsulationInactivityTimeout =>
      rw [refuses, decide_eq_false_iff_not] at h
      simp only [decode, decodeCipTcpIpInterfaceEncapsulationInactivityTimeout, gt_iff_lt,
        if_neg h, true_or]
  | interfaceControl idx =>
      simp only [refuses, Bool.or_eq_false_iff, Bool.and_eq_false_iff, decide_eq_false_iff_not,
        Bool.not_eq_false'] at h
      obtain ⟨⟨hbits, hforced⟩, hmode⟩ := h
      left
      simp only [decode, decodeCipEthernetLinkInterfaceControl, gt_iff_lt]
      split
      · rename_i hover
        exact absurd hover hbits
      · split
        · rename_i hboth
          obtain hnone | ⟨hnoDuplex, hnoSpeed⟩ := hforced
          · exact absurd hboth.1 hnone
          · exact absurd hboth.2 (not_or.mpr ⟨hnoDuplex, hnoSpeed⟩)
        · split
          · rename_i hmanual
            obtain hauto | hallowed := hmode
            · exact absurd hmanual.1 hauto
            · exact absurd hallowed hmanual.2
          · rfl
  | assemblyAttribute3 env instanceNumber =>
      rw [refuses, decide_eq_false_iff_not, not_not] at h
      exact absurd h (Nat.ne_of_lt hshort)

/-- Called for this instance, the callbacks of the class leave the attribute alone. -/
structure Quiet (f : DecodeFunction) (cipClass : CipClass f.State)
    (instanceNumber : UInt16) : Prop where
  before : ∀ callback, cipClass.preSetCallback = some callback →
    ∀ attributeNumber service state,
      callback instanceNumber attributeNumber service state = state
  after : ∀ callback, cipClass.postSetCallback = some callback →
    ∀ attributeNumber service state,
      f.value (callback instanceNumber attributeNumber service state) = f.value state

/-- The assembly class is quiet for an instance whose data the application leaves alone when
it is told of them. -/
theorem quiet_assemblyAttribute3 {env : Environment} {instanceNumber : UInt16}
    {cipClass : CipClass CipAssembly} (hbefore : cipClass.preSetCallback = none)
    (hafter : cipClass.postSetCallback = some (assemblyPostSetCallback env))
    (hkeeps : ∀ data, (env.afterAssemblyDataReceived instanceNumber data).2 instanceNumber =
      data instanceNumber) :
    (assemblyAttribute3 env instanceNumber).Quiet cipClass instanceNumber where
  before callback hcallback := by
    rw [hbefore] at hcallback
    cases hcallback
  after callback hcallback _ _ assembly := by
    cases hafter.symm.trans hcallback
    exact hkeeps assembly.data

/-- The sample application copies the data of assembly 150 to assembly 100, and no data of
an assembly that it is told of is changed. -/
theorem sampleApplication_keeps (instanceNumber : UInt16) (data : UInt16 → List UInt8) :
    (SampleApplication.afterAssemblyDataReceived instanceNumber data).2 instanceNumber =
      data instanceNumber := by
  simp only [SampleApplication.afterAssemblyDataReceived]
  split
  · rename_i houtput
    subst houtput
    have hother : (150 : UInt16) ≠ 100 := by decide
    exact Function.update_of_ne hother (data 150) data
  · rfl

/-- Data that is too short is answered with an error and leaves the value as it is. -/
def RejectsShort (f : DecodeFunction) (cipClass : CipClass f.State) (inst : CipInstance f.State)
    (attributeNumber : UInt16) (request : MessageRouterRequest) (state : f.State) : Prop :=
  request.requestDataSize.toNat < f.consumes state request →
    ∃ response state', setAttributeSingle cipClass inst attributeNumber request state =
        .ok (response, state') ∧
      response.generalStatus ≠ GeneralStatus.success ∧ f.value state' = f.value state

section Request

variable {cipClass : CipClass f.State} {inst : CipInstance f.State} {attributeNumber : UInt16}

theorem decodeAttribute_quiet (hquiet : f.Quiet cipClass inst.instanceNumber)
    (attr : CipAttributeStruct f.State) (request : MessageRouterRequest) (state : f.State) :
    (decodeAttribute cipClass inst attr f.decode request state).1 =
        (f.decode state request).generalStatus ∧
      f.value (decodeAttribute cipClass inst attr f.decode request state).2 =
        f.value (f.decode state request).data := by
  have hbefore : callBack cipClass.preSetCallback CIPAttributeFlag.preSetFunc inst attr
      request.service state = state :=
    callBack_of (p := (· = state)) (fun call hcall _ _ => hquiet.before call hcall _ _ _) rfl
      _ _
  simp only [decodeAttribute, hbefore, true_and]
  exact callBack_of (p := fun s => f.value s = f.value (f.decode state request).data)
    (fun call hcall _ _ => hquiet.after call hcall _ _ _) rfl _ _

/-- Data that is too short is rejected exactly if the request does not reach the decode
function, the data is not too short for it, or its own checks refuse what it reads. -/
theorem rejectsShort_iff (hquiet : f.Quiet cipClass inst.instanceNumber)
    (hdecode : ∀ attr, settableAttribute cipClass inst attributeNumber = some attr →
      attr.decode = some f.decode) :
    f.RejectsShort cipClass inst attributeNumber request state ↔
      settableAttribute cipClass inst attributeNumber = none ∨
        f.consumes state request ≤ request.requestDataSize.toNat ∨
        f.refuses state request = true := by
  cases hsettable : settableAttribute cipClass inst attributeNumber with
  | none =>
      obtain ⟨response, hok, hstatus⟩ := setAttributeSingle_unsettable hsettable request state
      exact iff_of_true (fun _ => ⟨response, state, hok, hstatus, rfl⟩) (.inl rfl)
  | some attr =>
      have hok := setAttributeSingle_settable hsettable (hdecode attr hsettable) request state
      obtain ⟨hstatus, hvalue⟩ := decodeAttribute_quiet hquiet attr request state
      constructor
      · intro hrejects
        by_contra hnot
        simp only [reduceCtorEq, false_or, not_or, Nat.not_le, Bool.not_eq_true] at hnot
        obtain ⟨response, state', hanswer, herror, hsame⟩ := hrejects hnot.1
        cases hok.symm.trans hanswer
        obtain hsuccess | hchanged := decode_short hnot.2 hnot.1
        · exact herror (hstatus.trans hsuccess)
        · exact hchanged (hvalue.symm.trans hsame)
      · intro hcond hshort
        have hrefuses := (hcond.resolve_left fun h => by cases h).resolve_left
          (Nat.not_le.mpr hshort)
        obtain ⟨herror, hdata⟩ := decode_refused hrefuses
        refine ⟨_, _, hok, ?_, ?_⟩
        · rw [hstatus]
          exact herror
        · rw [hvalue, hdata]

end Request

/-- A request for the urgent DSCP value without data is refused if the next byte in the
receive buffer is no such value, and two bytes for the input assembly always are. -/
theorem rejectsShort_refused :
    (∃ cipClass inst, setUpClass (createCipClass 8 8 [1]) insertQosAttributes = .ok cipClass ∧
      cipClass.getCipInstance 1 = some inst ∧
      (qosAttribute .urgent).RejectsShort cipClass inst 4 ⟨0x10, 0, [0xFF]⟩
        CipQosDscpValues.defaults) ∧
    ∃ cipClass inst, createAssemblies (SampleApplication.environment 0 20) [100, 150, 151] =
        .ok cipClass ∧
      cipClass.getCipInstance 100 = some inst ∧
      (assemblyAttribute3 (SampleApplication.environment 0 20) 100).RejectsShort cipClass inst 3
        ⟨0x10, 2, [7, 7]⟩ ⟨SampleApplication.assemblyData, []⟩ := by
  refine ⟨⟨_, _, rfl, rfl, (rejectsShort_iff ⟨?_, ?_⟩ ?_).mpr (.inr (.inr rfl))⟩,
    ⟨_, _, rfl, rfl, (rejectsShort_iff ?_ ?_).mpr (.inr (.inr rfl))⟩⟩
  · intro callback hcallback
    cases hcallback
  · intro callback hcallback
    cases hcallback
  · intro attr hattr
    cases hattr
    rfl
  · exact quiet_assemblyAttribute3 rfl rfl (sampleApplication_keeps 100)
  · intro attr hattr
    cases hattr
    rfl

theorem rejectsShort_zero :
    ∃ cipClass inst response,
      setUpClass (createCipClass 8 8 [1]) insertQosAttributes = .ok cipClass ∧
      cipClass.getCipInstance 1 = some inst ∧
      setAttributeSingle cipClass inst 4 ⟨0x10, 0, [0, 0]⟩ CipQosDscpValues.defaults =
        .ok (response, { CipQosDscpValues.defaults with urgent := 0 }) ∧
      response.generalStatus = GeneralStatus.success ∧
      ¬(qosAttribute .urgent).RejectsShort cipClass inst 4 ⟨0x10, 0, [0, 0]⟩
        CipQosDscpValues.defaults := by
  refine ⟨_, _, _, rfl, rfl, rfl, rfl, fun hrejects => ?_⟩
  obtain ⟨response, dscp, hok, hstatus, -⟩ := hrejects (by decide)
  cases hok
  exact hstatus rfl

end DecodeFunction

end Opener

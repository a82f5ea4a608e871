import Opener.Metatheory.AttributeValues
import Opener.Metatheory.EncapsulationReplies
import Opener.Metatheory.NetworkConfigs
import Opener.Metatheory.ObjectRequests
import Opener.Metatheory.ObjectValues

/-!
What setting an attribute changes. Each attribute of the objects is read from a member of its
own: a value that is set changes what is read there, and nothing else but the status that says
that a configuration is pending. The assemblies are left out, as the application works on their
data.
-/

namespace Opener

open CIPAttributeFlag CipTcpIpObject

/-- What the attributes of the objects read. -/
abbrev Registers := Epath → Option (List UInt8)

/-- A string as it is sent, padded to words. -/
def paddedString (data : Message) : List UInt8 :=
  data.takeBytes (2 + data.getUint.1.toNat) ++ List.replicate (data.getUint.1.toNat % 2) 0

/-- What an attribute reads after it was set to this data. -/
def writtenValue (path : Epath) (data : Message) : List UInt8 :=
  if path.classId.toUInt32 = tcpIpInterfaceClassCode then
    if path.attributeNumber = 3 then data.takeBytes 4
    else if path.attributeNumber = 5 then data.takeBytes 20 ++ paddedString (data.drop 20)
    else if path.attributeNumber = 6 then paddedString data
    else data.takeBytes 2
  else if path.classId.toUInt32 = ethernetLinkClassCode then data.takeBytes 4
  else data.takeBytes 1

def tcpIpPath (attributeNumber : UInt16) : Epath :=
  { classId := tcpIpInterfaceClassCode.toUInt16, instanceNumber := 1, attributeNumber }

def qosPath (attr : QosAttribute) : Epath :=
  { classId := qosClassCode.toUInt16, instanceNumber := 1
    attributeNumber := attr.attributeNumber }

namespace Registers

/-- A new interface configuration or host name is pending until the next start. -/
def write (path : Epath) (data : Message) (registers : Registers) : Registers := fun other =>
  if other = path then some (writtenValue path data)
  else if other = tcpIpPath 1 ∧ (path = tcpIpPath 5 ∨ path = tcpIpPath 6) then
    (registers other).map fun status =>
      dintBytes ((Message.getUdint status).1 ||| statusIfaceCfgPend)
  else registers other

/-- The values that a reset to the initial configuration puts there. -/
def reset (registers : Registers) : Registers := fun other =>
  if other = tcpIpPath 13 then some (intBytes 120)
  else
    match [QosAttribute.urgent, .scheduled, .high, .low, .explicitMsg].find? fun attr =>
      other = qosPath attr with
    | some attr => some (sintBytes (attr.get .defaults))
    | none => registers other

end Registers

section Values

variable {objects : ObjectConfig} {path : Epath} {globals globals' : ObjectGlobals}

/-- The states agree in what the attributes at a path depend on. -/
structure SameFor (path : Epath) (globals globals' : ObjectGlobals) : Prop where
  counters : globals'.counters = globals.counters
  identity : path.instanceNumber ≠ 0 → path.classId.toUInt32 = identityClassCode →
    globals'.application.identity = globals.application.identity
  tcpip : path.instanceNumber ≠ 0 → path.classId.toUInt32 = tcpIpInterfaceClassCode →
    globals'.application.tcpip = globals.application.tcpip
  ethernetLink : path.instanceNumber ≠ 0 → path.classId.toUInt32 = ethernetLinkClassCode →
    globals'.application.ethernetLink = globals.application.ethernetLink ∧
      globals'.application.interfaceControl = globals.application.interfaceControl
  qos : path.instanceNumber ≠ 0 → path.classId.toUInt32 = qosClassCode →
    globals'.application.qos = globals.application.qos

/-- The states agree in all that can be read. -/
def SameValues (globals globals' : ObjectGlobals) : Prop := ∀ path, SameFor path globals globals'

theorem SameValues.of_application (hcounters : globals'.counters = globals.counters)
    (hidentity : globals'.application.identity = globals.application.identity)
    (htcpip : globals'.application.tcpip = globals.application.tcpip)
    (hports : globals'.application.ethernetLink = globals.application.ethernetLink)
    (hcontrol : globals'.application.interfaceControl = globals.application.interfaceControl)
    (hqos : globals'.application.qos = globals.application.qos) : SameValues globals globals' :=
  fun _ => ⟨hcounters, fun _ _ => hidentity, fun _ _ => htcpip, fun _ _ => ⟨hports, hcontrol⟩,
    fun _ _ => hqos⟩

theorem SameValues.refl (globals : ObjectGlobals) : SameValues globals globals :=
  .of_application rfl rfl rfl rfl rfl rfl

theorem SameFor.trans {globals₁ : ObjectGlobals} (h : SameFor path globals globals₁)
    (h' : SameFor path globals₁ globals') : SameFor path globals globals' :=
  ⟨h'.counters.trans h.counters,
    fun hinst hcode => (h'.identity hinst hcode).trans (h.identity hinst hcode),
    fun hinst hcode => (h'.tcpip hinst hcode).trans (h.tcpip hinst hcode),
    fun hinst hcode => ⟨(h'.ethernetLink hinst hcode).1.trans (h.ethernetLink hinst hcode).1,
      (h'.ethernetLink hinst hcode).2.trans (h.ethernetLink hinst hcode).2⟩,
    fun hinst hcode => (h'.qos hinst hcode).trans (h.qos hinst hcode)⟩

theorem SameValues.trans {globals₁ : ObjectGlobals} (h : SameValues globals globals₁)
    (h' : SameValues globals₁ globals') : SameValues globals globals' :=
  fun path => (h path).trans (h' path)

namespace ObjectConfig

/-- What is inserted for a path. -/
def setup (objects : ObjectConfig) (path : Epath) : List (ClassSetup ObjectGlobals) :=
  (objects.attributes path.classId.toUInt32).setup path.instanceNumber

def value (objects : ObjectConfig) (path : Epath) (globals : ObjectGlobals) :
    Option (List UInt8) :=
  if path.classId.toUInt32 = assemblyClassCode then none
  else insertedValue (objects.setup path) path.instanceNumber path.attributeNumber globals

variable {attr : CipAttributeStruct ObjectGlobals}
  {encode : CipAttributeEncodeInMessage ObjectGlobals} {usedMessageLength : Nat}

theorem insertClassAttributes_encode {classCode : UInt32} {maxInstance : Bool}
    {revision highestClass highestInstance : UInt16} {flags : List UInt8}
    {instanceNumber : UInt16}
    (hmem : .insertAttribute instanceNumber attr ∈ insertClassAttributes classCode maxInstance
      revision highestClass highestInstance flags) (hencode : attr.encode = some encode)
    (hcounters : globals'.counters = globals.counters) :
    encode globals' usedMessageLength = encode globals usedMessageLength := by
  obtain ⟨⟨⟨flags, value⟩, i⟩, hvalue, heq⟩ := List.mem_map.mp hmem
  cases heq
  cases hencode
  refine congrArg intBytes ?_
  have hvalues := (List.of_mem_zip (List.fst_mem_of_mem_zipIdx hvalue)).2
  simp only [List.mem_cons, List.not_mem_nil, or_false] at hvalues
  rcases hvalues with rfl | rfl | rfl | rfl | rfl | rfl | rfl
  all_goals simp only [hcounters]

theorem identityAttributes_encode (hmem : attr ∈ identityAttributes)
    (hencode : attr.encode = some encode)
    (hidentity : globals'.application.identity = globals.application.identity) :
    encode globals' usedMessageLength = encode globals usedMessageLength := by
  simp only [identityAttributes, List.mem_cons, List.not_mem_nil, or_false] at hmem
  rcases hmem with rfl | rfl | rfl | rfl | rfl | rfl | rfl
  all_goals
    cases hencode
    simp only [hidentity]

theorem tcpIpAttributes_encode (hmem : attr ∈ objects.tcpIpAttributes)
    (hencode : attr.encode = some encode)
    (htcpip : globals'.application.tcpip = globals.application.tcpip) :
    encode globals' usedMessageLength = encode globals usedMessageLength := by
  simp only [tcpIpAttributes, List.mem_cons, List.not_mem_nil, or_false] at hmem
  rcases hmem with rfl | rfl | rfl | rfl | rfl | rfl | rfl | rfl | rfl | rfl | rfl | rfl | rfl
  all_goals
    cases hencode
    simp only [htcpip]

/-- An attribute depends on the member that it is named after. -/
theorem tcpIpAttributes_encode_put {tcpip : CipTcpIpObject}
    (hmem : attr ∈ objects.tcpIpAttributes) (hencode : attr.encode = some encode)
    (hstatus : attr.attributeNumber = 1 → tcpip.status = globals.application.tcpip.status)
    (hcontrol : attr.attributeNumber = 3 →
      tcpip.configControl = globals.application.tcpip.configControl)
    (hconfiguration : attr.attributeNumber = 5 →
      tcpip.interfaceConfiguration = globals.application.tcpip.interfaceConfiguration)
    (hname : attr.attributeNumber = 6 → tcpip.hostname = globals.application.tcpip.hostname)
    (htimeout : attr.attributeNumber = 13 → tcpip.encapsulationInactivityTimeout =
      globals.application.tcpip.encapsulationInactivityTimeout) :
    encode (ObjectGlobals.tcpip.put tcpip globals) usedMessageLength =
      encode globals usedMessageLength := by
  simp only [tcpIpAttributes, List.mem_cons, List.not_mem_nil, or_false] at hmem
  rcases hmem with rfl | rfl | rfl | rfl | rfl | rfl | rfl | rfl | rfl | rfl | rfl | rfl | rfl
  · cases hencode
    exact congrArg dintBytes (hstatus rfl)
  · cases hencode
    rfl
  · cases hencode
    exact congrArg dintBytes (hcontrol rfl)
  · cases hencode
    rfl
  · cases hencode
    exact congrArg (encodeCipTcpIpInterfaceConfiguration · _) (hconfiguration rfl)
  · cases hencode
    exact congrArg (fun hostname => encodeCipString (CipString.data hostname) _) (hname rfl)
  · cases hencode
    rfl
  · cases hencode
    rfl
  · cases hencode
    rfl
  · cases hencode
    rfl
  · cases hencode
    rfl
  · cases hencode
    rfl
  · cases hencode
    exact congrArg intBytes (htimeout rfl)

theorem ethernetLinkAttributes_encode {idx : Nat} (hmem : attr ∈ objects.ethernetLinkAttributes idx)
    (hencode : attr.encode = some encode)
    (hports : globals'.application.ethernetLink = globals.application.ethernetLink)
    (hcontrol : attr.attributeNumber = 6 →
      globals'.application.interfaceControl.getD idx default =
        globals.application.interfaceControl.getD idx default) :
    encode globals' usedMessageLength = encode globals usedMessageLength := by
  simp only [ethernetLinkAttributes, List.mem_cons, List.not_mem_nil, or_false] at hmem
  rcases hmem with rfl | rfl | rfl | rfl | rfl | rfl | rfl | rfl | rfl | rfl | rfl
  case inr.inr.inr.inr.inr.inl =>
    rw [portControlAttribute] at hencode
    split at hencode
    · rename_i henabled
      cases hencode
      exact congrArg (fun control : CipEthernetLinkInterfaceControl =>
        intBytes control.controlBits ++ intBytes control.forcedInterfaceSpeed)
        (hcontrol (by rw [portControlAttribute, if_pos henabled]; rfl))
    · cases hencode
      rfl
  all_goals
    cases hencode
    simp only [hports]

theorem qosAttributes_encode (hmem : attr ∈ qosAttributes) (hencode : attr.encode = some encode)
    (hframes : globals'.application.qos.qFramesEnable = globals.application.qos.qFramesEnable)
    (hevent : globals'.application.qos.dscp.event = globals.application.qos.dscp.event)
    (hgeneral : globals'.application.qos.dscp.general = globals.application.qos.dscp.general)
    (hdscp : ∀ qos : QosAttribute, qos.attributeNumber = attr.attributeNumber →
      qos.get globals'.application.qos.dscp = qos.get globals.application.qos.dscp) :
    encode globals' usedMessageLength = encode globals usedMessageLength := by
  simp only [qosAttributes, List.mem_append, List.mem_map] at hmem
  rcases hmem with hmem | ⟨qos, -, rfl⟩
  · simp only [List.mem_cons, List.not_mem_nil, or_false] at hmem
    rcases hmem with rfl | rfl | rfl
    · cases hencode
      exact congrArg sintBytes hframes
    · cases hencode
      exact congrArg sintBytes hevent
    · cases hencode
      exact congrArg sintBytes hgeneral
  · cases hencode
    exact congrArg sintBytes (hdscp qos rfl)

/-- The attributes of the instances, by the code of the class. -/
theorem instanceSetup_mem {classCode : UInt32} {instanceNumber : UInt16}
    (hclass : classCode ≠ assemblyClassCode)
    (hmem : .insertAttribute instanceNumber attr ∈ (objects.attributes classCode).instanceSetup) :
    classCode = identityClassCode ∧ instanceNumber = 1 ∧ attr ∈ identityAttributes ∨
      classCode = tcpIpInterfaceClassCode ∧ instanceNumber = 1 ∧
        attr ∈ objects.tcpIpAttributes ∨
      classCode = ethernetLinkClassCode ∧ (∃ idx < objects.ethernetLinkInstances,
        instanceNumber = UInt16.ofNat (idx + 1) ∧ attr ∈ objects.ethernetLinkAttributes idx) ∨
      classCode = qosClassCode ∧ instanceNumber = 1 ∧ attr ∈ qosAttributes := by
  have hinserted : ∀ {number : UInt16} {attributes : List (CipAttributeStruct ObjectGlobals)},
      .insertAttribute instanceNumber attr ∈ insertAll number attributes →
        instanceNumber = number ∧ attr ∈ attributes := by
    intro number attributes hmem
    obtain ⟨other, hother, heq⟩ := List.mem_map.mp hmem
    cases heq
    exact ⟨rfl, hother⟩
  have hbehind : ∀ {number : UInt16} {attributes : List (CipAttributeStruct ObjectGlobals)}
      {callback : CipGetSetCallback ObjectGlobals} {flags : UInt8},
      .insertAttribute instanceNumber attr ∈
          insertAll number attributes ++ [.insertGetSetCallback callback flags] →
        instanceNumber = number ∧ attr ∈ attributes := by
    intro number attributes callback flags hmem
    rcases List.mem_append.mp hmem with hmem | hmem
    · exact hinserted hmem
    · cases List.mem_singleton.mp hmem
  by_cases hidentity : classCode = identityClassCode
  · subst hidentity
    exact .inl ⟨rfl, hinserted hmem⟩
  by_cases htcpIp : classCode = tcpIpInterfaceClassCode
  · subst htcpIp
    exact .inr (.inl ⟨rfl, hbehind hmem⟩)
  by_cases hethernetLink : classCode = ethernetLinkClassCode
  · subst hethernetLink
    obtain ⟨idx, hidx, hport⟩ := List.mem_flatMap.mp hmem
    obtain ⟨hnumber, hattr⟩ := hinserted hport
    exact .inr (.inr (.inl ⟨rfl, idx, List.mem_range.mp hidx, hnumber, hattr⟩))
  by_cases hqos : classCode = qosClassCode
  · subst hqos
    exact .inr (.inr (.inr ⟨rfl, hbehind hmem⟩))
  · simp only [attributes, hidentity, htcpIp, hethernetLink, hqos, hclass, if_false] at hmem
    split_ifs at hmem <;> cases hmem

theorem encode_congr (hclass : path.classId.toUInt32 ≠ assemblyClassCode)
    (hmem : .insertAttribute path.instanceNumber attr ∈ objects.setup path)
    (hencode : attr.encode = some encode) (hsame : SameFor path globals globals') :
    encode globals' usedMessageLength = encode globals usedMessageLength := by
  rw [setup, ClassAttributes.setup] at hmem
  split at hmem
  · rw [attributes] at hmem
    split_ifs at hmem
    all_goals first
      | exact insertClassAttributes_encode hmem hencode hsame.counters
      | cases hmem
  · rename_i hinst
    rcases instanceSetup_mem hclass hmem with ⟨hcode, -, hattr⟩ | ⟨hcode, -, hattr⟩ |
      ⟨hcode, idx, -, -, hattr⟩ | ⟨hcode, -, hattr⟩
    · exact identityAttributes_encode hattr hencode (hsame.identity hinst hcode)
    · exact tcpIpAttributes_encode hattr hencode (hsame.tcpip hinst hcode)
    · obtain ⟨hports, hcontrol⟩ := hsame.ethernetLink hinst hcode
      exact ethernetLinkAttributes_encode hattr hencode hports fun _ => by rw [hcontrol]
    · have hqos := hsame.qos hinst hcode
      exact qosAttributes_encode hattr hencode (by rw [hqos]) (by rw [hqos]) (by rw [hqos])
        fun _ _ => by rw [hqos]

/-- The value of an attribute that is encoded the same. -/
theorem value_of_encode
    (h : path.classId.toUInt32 ≠ assemblyClassCode → ∀ attr encode,
      .insertAttribute path.instanceNumber attr ∈ objects.setup path →
        attr.attributeNumber = path.attributeNumber → attr.encode = some encode →
          encode globals' 0 = encode globals 0) :
    objects.value path globals' = objects.value path globals := by
  rw [value, value]
  split
  · rfl
  · rename_i hclass
    rw [insertedValue, insertedValue]
    refine if_congr Iff.rfl ?_ rfl
    cases hattr : insertedAttribute (objects.setup path) path.instanceNumber
        path.attributeNumber with
    | none => rfl
    | some attr =>
        obtain ⟨hmem, hnumber⟩ := insertedAttribute_mem hattr
        rw [Option.bind_some, Option.bind_some]
        cases hencode : attr.encode with
        | none => rfl
        | some encode => exact congrArg some (h hclass attr encode hmem hnumber hencode)

theorem value_congr (hsame : SameFor path globals globals') :
    objects.value path globals' = objects.value path globals :=
  value_of_encode fun hclass _ _ hmem _ hencode => encode_congr hclass hmem hencode hsame

end ObjectConfig

end Values

section Bytes

theorem Message.takeBytes_add (message : Message) (first second : Nat) :
    message.takeBytes (first + second) =
      message.takeBytes first ++ Message.takeBytes (message.drop first) second := by
  have hbehind : ∀ i, message.byteAt (first + i) = byteAt (message.drop first) i := by
    intro i
    simp [byteAt]
  rw [takeBytes, List.range_add, List.map_append, List.map_map]
  exact (List.append_right_inj _).mpr (List.map_congr_left fun i _ => hbehind i)

theorem dintBytes_getUdint (message : Message) :
    dintBytes message.getUdint.1 = message.takeBytes 4 := by
  rw [Message.getUdint, dintBytes, LittleEndian.dword_bytes]
  rfl

/-- A string that was set is sent as it was received. -/
theorem encodeCipString_setByData (data : Message) {position : Nat} (hposition : position % 2 = 0) :
    encodeCipString (CipString.setByData data.getUint.1 (data.drop 2)).data position =
      paddedString data := by
  change encodeCipString ⟨intBytes data.getUint.1,
    Message.takeBytes (data.drop 2) data.getUint.1.toNat⟩ position = _
  rw [encodeCipString_eq (Message.length_takeBytes _ _), paddedString, Message.takeBytes_add,
    intBytes_getUint, Message.length_takeBytes]
  refine (List.append_right_inj _).mpr ?_
  by_cases hodd : data.getUint.1.toNat % 2 = 1
  · have hne : Message.takeBytes (data.drop 2) data.getUint.1.toNat ≠ [] := by
      rw [← List.length_pos_iff, Message.length_takeBytes]
      omega
    rw [if_pos ⟨hne, by omega⟩, hodd]
    rfl
  · rw [if_neg (fun h => hodd (by omega)), Nat.mod_two_ne_one.mp hodd]
    rfl

theorem encodeInterfaceConfiguration_received (data : Message) :
    encodeCipTcpIpInterfaceConfiguration (receivedInterfaceConfiguration data) 0 =
      data.takeBytes 20 ++ paddedString (data.drop 20) := by
  have haddress : ∀ message : Message,
      dintBytes (ntohl (htonl message.getUdint.1)) = message.takeBytes 4 := fun message => by
    rw [show htonl message.getUdint.1 = ntohl message.getUdint.1 from rfl, ntohl_ntohl,
      dintBytes_getUdint]
  have hname : encodeCipString (CipString.setByData (Message.getUint (data.drop 20)).1
      (data.drop 22)).data 20 = paddedString (data.drop 20) := by
    have hwritten := encodeCipString_setByData (data.drop 20) (show 20 % 2 = 0 from rfl)
    rwa [List.drop_drop] at hwritten
  have htwenty : data.takeBytes 20 = data.takeBytes 4 ++ Message.takeBytes (data.drop 4) 4 ++
      Message.takeBytes (data.drop 8) 4 ++ Message.takeBytes (data.drop 12) 4 ++
      Message.takeBytes (data.drop 16) 4 := by
    rw [Message.takeBytes_add data 16 4, Message.takeBytes_add data 12 4,
      Message.takeBytes_add data 8 4, Message.takeBytes_add data 4 4]
  simp only [encodeCipTcpIpInterfaceConfiguration, receivedInterfaceConfiguration, haddress]
  rw [htwenty]
  refine (List.append_right_inj _).mpr ?_
  have hfive : 0 + (data.takeBytes 4 ++ Message.takeBytes (data.drop 4) 4 ++
      Message.takeBytes (data.drop 8) 4 ++ Message.takeBytes (data.drop 12) 4 ++
      Message.takeBytes (data.drop 16) 4).length = 20 := by
    simp only [List.length_append, Message.length_takeBytes]
  rw [hfive]
  exact hname

end Bytes

section Setting

variable {objects : ObjectConfig} {path epath : Epath} {globals globals' : ObjectGlobals}
  {attr : CipAttributeStruct ObjectGlobals}

theorem Epath.eq_of_toUInt32 (hclass : path.classId.toUInt32 = epath.classId.toUInt32)
    (hinst : path.instanceNumber = epath.instanceNumber)
    (hnumber : path.attributeNumber = epath.attributeNumber) : path = epath := by
  obtain ⟨classId, instanceNumber, attributeNumber⟩ := path
  cases hinst
  cases hnumber
  have hclassId : classId = epath.classId := by
    rw [← UInt16.toNat_inj, ← UInt16.toNat_toUInt32, ← UInt16.toNat_toUInt32, hclass]
  rw [hclassId]

theorem eq_tcpIpPath (hclass : path.classId.toUInt32 = tcpIpInterfaceClassCode)
    (hinst : path.instanceNumber = 1) : path = tcpIpPath path.attributeNumber :=
  Epath.eq_of_toUInt32 hclass hinst rfl

namespace ObjectConfig

/-- The value of an attribute that can be got. -/
theorem value_of_inserted (hclass : path.classId.toUInt32 ≠ assemblyClassCode)
    (hattr : insertedAttribute (objects.setup path) path.instanceNumber path.attributeNumber =
      some attr)
    (hgetable : attr.has getableSingle = true)
    {encode : CipAttributeEncodeInMessage ObjectGlobals} (hencode : attr.encode = some encode) :
    objects.value path globals = some (encode globals 0) := by
  obtain ⟨hmem, hnumber⟩ := insertedAttribute_mem hattr
  have hallows : allows (insertions (objects.setup path)) getableSingle path.attributeNumber =
      true := by
    rw [allows, List.any_eq_true]
    refine ⟨(path.instanceNumber, attr), mem_insertions.mpr hmem, ?_⟩
    rw [Bool.and_eq_true, decide_eq_true_eq]
    exact ⟨hnumber, hgetable⟩
  rw [value, if_neg hclass, insertedValue, if_pos hallows, hattr, Option.bind_some, hencode]
  rfl

theorem value_status : objects.value (tcpIpPath 1) globals =
    some (dintBytes globals.application.tcpip.status) := by
  have hattr : insertedAttribute (objects.setup (tcpIpPath 1)) 1 1 =
      some (plainAttribute 1 .dword getableSingleAndAll fun globals =>
        dintBytes globals.application.tcpip.status) := rfl
  exact value_of_inserted (by decide) hattr rfl rfl

/-- What a new value of the TCP/IP interface object changes. -/
theorem value_put_tcpIp {tcpip : CipTcpIpObject}
    (hmembers : path = tcpIpPath path.attributeNumber →
      (path.attributeNumber = 1 → tcpip.status = globals.application.tcpip.status) ∧
      (path.attributeNumber = 3 →
        tcpip.configControl = globals.application.tcpip.configControl) ∧
      (path.attributeNumber = 5 →
        tcpip.interfaceConfiguration = globals.application.tcpip.interfaceConfiguration) ∧
      (path.attributeNumber = 6 → tcpip.hostname = globals.application.tcpip.hostname) ∧
      (path.attributeNumber = 13 → tcpip.encapsulationInactivityTimeout =
        globals.application.tcpip.encapsulationInactivityTimeout)) :
    objects.value path (ObjectGlobals.tcpip.put tcpip globals) = objects.value path globals := by
  refine value_of_encode fun hclass attr encode hmem hnumber hencode => ?_
  by_cases htcpIp : path.instanceNumber ≠ 0 ∧ path.classId.toUInt32 = tcpIpInterfaceClassCode
  · rw [setup, ClassAttributes.setup, if_neg htcpIp.1, htcpIp.2] at hmem
    obtain ⟨-, hinst, hattr⟩ : _ ∧ path.instanceNumber = 1 ∧ attr ∈ objects.tcpIpAttributes := by
      rcases instanceSetup_mem (by decide) hmem with h | h | h | h
      · exact absurd h.1 (by decide)
      · exact h
      · exact absurd h.1 (by decide)
      · exact absurd h.1 (by decide)
    obtain ⟨hstatus, hcontrol, hconfiguration, hname, htimeout⟩ :=
      hmembers (eq_tcpIpPath htcpIp.2 hinst)
    rw [← hnumber] at hstatus hcontrol hconfiguration hname htimeout
    exact tcpIpAttributes_encode_put hattr hencode hstatus hcontrol hconfiguration hname htimeout
  · exact encode_congr hclass hmem hencode
      ⟨rfl, fun _ _ => rfl, fun hinst hcode => absurd ⟨hinst, hcode⟩ htcpIp,
        fun _ _ => ⟨rfl, rfl⟩, fun _ _ => rfl⟩

/-- What a decode function does to the values. -/
structure Writes (objects : ObjectConfig) (epath : Epath) (request : MessageRouterRequest)
    (globals : ObjectGlobals) (decoded : Decoded ObjectGlobals) : Prop where
  accepted : decoded.generalStatus = GeneralStatus.success → ∀ path,
    objects.value path decoded.data =
      Registers.write epath request.data (objects.value · globals) path
  refused : decoded.generalStatus ≠ GeneralStatus.success → SameValues globals decoded.data

theorem Writes.of_refused {request : MessageRouterRequest} {decoded : Decoded ObjectGlobals}
    (generalStatus : UInt8) (hrefused : generalStatus ≠ GeneralStatus.success)
    (hstatus : decoded.generalStatus = generalStatus) (hsame : SameValues globals decoded.data) :
    Writes objects epath request globals decoded :=
  ⟨fun h => absurd (hstatus.symm.trans h) hrefused, fun _ => hsame⟩

theorem value_write {data : Message} (hclass : epath.classId.toUInt32 ≠ assemblyClassCode)
    (hattr : insertedAttribute (objects.setup epath) epath.instanceNumber epath.attributeNumber =
      some attr)
    (hgetable : attr.has getableSingle = true)
    {encode : CipAttributeEncodeInMessage ObjectGlobals} (hencode : attr.encode = some encode)
    (hwritten : encode globals' 0 = writtenValue epath data)
    (hpending : epath = tcpIpPath 5 ∨ epath = tcpIpPath 6 →
      globals'.application.tcpip.status =
        globals.application.tcpip.status ||| statusIfaceCfgPend)
    (hothers : ∀ path, path ≠ epath →
      ¬(path = tcpIpPath 1 ∧ (epath = tcpIpPath 5 ∨ epath = tcpIpPath 6)) →
        objects.value path globals' = objects.value path globals) (path : Epath) :
    objects.value path globals' = Registers.write epath data (objects.value · globals) path := by
  rw [Registers.write]
  by_cases hpath : path = epath
  · rw [if_pos hpath, hpath, value_of_inserted hclass hattr hgetable hencode, hwritten]
  · rw [if_neg hpath]
    by_cases hstatus : path = tcpIpPath 1 ∧ (epath = tcpIpPath 5 ∨ epath = tcpIpPath 6)
    · have hread := congrArg Prod.fst
        (Message.getUdint_dintBytes globals.application.tcpip.status [])
      rw [List.append_nil] at hread
      rw [if_pos hstatus, hstatus.1, value_status, value_status, hpending hstatus.2,
        Option.map_some, hread]
    · rw [if_neg hstatus, hothers path hpath hstatus]

theorem configControl_writes (request : MessageRouterRequest) (globals : ObjectGlobals) :
    Writes objects (tcpIpPath 3) request globals
      (ObjectGlobals.tcpip.decode decodeTcpIpInterfaceConfigurationControl globals request) := by
  have hattr : insertedAttribute (objects.setup (tcpIpPath 3)) 1 3 =
      some configControlAttribute := rfl
  simp only [Part.decode, decodeTcpIpInterfaceConfigurationControl]
  split
  · exact .of_refused GeneralStatus.invalidAttributeValue (by decide) rfl (.refl globals)
  · rename_i hvalid
    rw [not_or, not_not] at hvalid
    refine ⟨fun _ => value_write (by decide) hattr rfl rfl ?_ (fun h => ?_) fun path hpath _ => ?_,
      fun h => absurd rfl h⟩
    · have hmask : cfgCtrlMethodMask &&& (cfgCtrlMethodMask ||| cfgCtrlDnsEnable) =
          cfgCtrlMethodMask := by decide
      have hreceived := and_eq_self_of_and_not hvalid.2
      have hstored : request.data.getUdint.1 &&& (cfgCtrlMethodMask ||| cfgCtrlDnsEnable) =
          request.data.getUdint.1 := by
        conv_lhs => rw [← hreceived]
        rw [UInt32.and_assoc, hmask, hreceived]
      exact (congrArg dintBytes hstored).trans (dintBytes_getUdint request.data)
    · rcases h with h | h <;> cases h
    · refine value_put_tcpIp fun htcpIp => ⟨fun _ => rfl, fun hnumber => ?_, fun _ => rfl,
        fun _ => rfl, fun _ => rfl⟩
      exact absurd (htcpIp.trans (congrArg tcpIpPath hnumber)) hpath

theorem inactivityTimeout_writes (request : MessageRouterRequest) (globals : ObjectGlobals) :
    Writes objects (tcpIpPath 13) request globals (ObjectGlobals.tcpip.decode
      decodeCipTcpIpInterfaceEncapsulationInactivityTimeout globals request) := by
  have hattr : insertedAttribute (objects.setup (tcpIpPath 13)) 1 13 =
      some inactivityTimeoutAttribute := rfl
  simp only [Part.decode, decodeCipTcpIpInterfaceEncapsulationInactivityTimeout]
  split
  · exact .of_refused GeneralStatus.invalidAttributeValue (by decide) rfl (.refl globals)
  · refine ⟨fun _ => value_write (by decide) hattr rfl rfl ?_ (fun h => ?_) fun path hpath _ => ?_,
      fun h => absurd rfl h⟩
    · exact intBytes_getUint request.data
    · rcases h with h | h <;> cases h
    · refine value_put_tcpIp fun htcpIp => ⟨fun _ => rfl, fun _ => rfl, fun _ => rfl,
        fun _ => rfl, fun hnumber => ?_⟩
      exact absurd (htcpIp.trans (congrArg tcpIpPath hnumber)) hpath

theorem ifaceCfgFlags_getable : objects.ifaceCfgFlags &&& getableSingle ≠ 0 := by
  rw [ifaceCfgFlags]
  cases objects.ifaceCfgSettable <;> decide

theorem interfaceConfiguration_writes (request : MessageRouterRequest) (globals : ObjectGlobals) :
    Writes objects (tcpIpPath 5) request globals (ObjectGlobals.tcpip.decode
      (decodeCipTcpIpInterfaceConfiguration objects.stack globals.stack objects.beyond) globals
      request) := by
  have hattr : insertedAttribute (objects.setup (tcpIpPath 5)) 1 5 =
      some objects.interfaceConfigurationAttribute := rfl
  have hgetable : objects.interfaceConfigurationAttribute.has getableSingle = true :=
    bne_iff_ne.mpr ifaceCfgFlags_getable
  simp only [Part.decode, decodeCipTcpIpInterfaceConfiguration]
  split
  · exact .of_refused GeneralStatus.deviceStateConflict (by decide) rfl (.refl globals)
  · split
    · exact .of_refused GeneralStatus.objectStateConflict (by decide) rfl (.refl globals)
    · split
      · exact .of_refused GeneralStatus.tooMuchData (by decide) rfl (.refl globals)
      · split
        · exact .of_refused GeneralStatus.invalidAttributeValue (by decide) rfl (.refl globals)
        · refine ⟨fun _ => value_write (by decide) hattr hgetable rfl ?_ (fun _ => rfl)
            fun path hpath hstatus => ?_, fun h => absurd rfl h⟩
          · exact encodeInterfaceConfiguration_received request.data
          · refine value_put_tcpIp fun htcpIp => ⟨fun hnumber => ?_, fun _ => rfl,
              fun hnumber => ?_, fun _ => rfl, fun _ => rfl⟩
            · exact absurd ⟨htcpIp.trans (congrArg tcpIpPath hnumber), .inl rfl⟩ hstatus
            · exact absurd (htcpIp.trans (congrArg tcpIpPath hnumber)) hpath

theorem hostName_writes (request : MessageRouterRequest) (globals : ObjectGlobals) :
    Writes objects (tcpIpPath 6) request globals (ObjectGlobals.failingTcpip.decode
      (decodeCipTcpIpInterfaceHostName objects.beyond) globals request) := by
  have hattr : insertedAttribute (objects.setup (tcpIpPath 6)) 1 6 =
      some objects.hostNameAttribute := rfl
  have hgetable : objects.hostNameAttribute.has getableSingle = true :=
    bne_iff_ne.mpr ifaceCfgFlags_getable
  simp only [Part.decode, decodeCipTcpIpInterfaceHostName, ObjectGlobals.failingTcpip]
  cases hdecoded : decodeHostName objects.beyond (ObjectGlobals.tcpip.get globals) request with
  | error fault =>
      simp only [Except.bind, hdecoded]
      exact .of_refused GeneralStatus.attributeNotSupported (by decide) rfl
        (.of_application rfl rfl rfl rfl rfl rfl)
  | ok decoded =>
      simp only [Except.bind, hdecoded]
      simp only [decodeHostName] at hdecoded
      split at hdecoded
      · cases hdecoded
        exact .of_refused GeneralStatus.tooMuchData (by decide) rfl (.refl globals)
      · split at hdecoded
        · cases hdecoded
        · split at hdecoded
          · cases hdecoded
            exact .of_refused GeneralStatus.invalidAttributeValue (by decide) rfl (.refl globals)
          · cases hdecoded
            refine ⟨fun _ => value_write (by decide) hattr hgetable rfl ?_ (fun _ => rfl)
              fun path hpath hstatus => ?_, fun h => absurd rfl h⟩
            · exact encodeCipString_setByData request.data rfl
            · refine value_put_tcpIp fun htcpIp => ⟨fun hnumber => ?_, fun _ => rfl,
                fun _ => rfl, fun hnumber => ?_, fun _ => rfl⟩
              · exact absurd ⟨htcpIp.trans (congrArg tcpIpPath hnumber), .inr rfl⟩ hstatus
              · exact absurd (htcpIp.trans (congrArg tcpIpPath hnumber)) hpath

theorem interfaceControl_writes {idx : Nat} (henabled : objects.interfaceControl = true)
    (hclass : epath.classId.toUInt32 = ethernetLinkClassCode)
    (hinst : epath.instanceNumber = UInt16.ofNat (idx + 1)) (hinstance : epath.instanceNumber ≠ 0)
    (hattr : insertedAttribute (objects.setup epath) epath.instanceNumber epath.attributeNumber =
      some (objects.portControlAttribute idx))
    (hidx : idx < globals.application.interfaceControl.length) (request : MessageRouterRequest) :
    Writes objects epath request globals
      (ObjectGlobals.interfaceControl.decode (decodeCipEthernetLinkInterfaceControl idx) globals
        request) := by
  have hport : objects.portControlAttribute idx =
      ObjectGlobals.interfaceControl.attribute (interfaceControlAttribute idx) := if_pos henabled
  have hnumber : epath.attributeNumber = 6 := by
    rw [← (insertedAttribute_mem hattr).2, hport]
    rfl
  have hgetable : (objects.portControlAttribute idx).has getableSingle = true := by
    rw [hport]
    change ((if idx = 2 then _ else _ : UInt8) &&& _ != 0) = true
    split <;> decide
  have hnotAssembly : epath.classId.toUInt32 ≠ assemblyClassCode := by
    rw [hclass]
    decide
  have hnotTcpIp : ¬(epath = tcpIpPath 5 ∨ epath = tcpIpPath 6) := by
    rintro (rfl | rfl) <;> exact absurd hclass (by decide)
  simp only [Part.decode, decodeCipEthernetLinkInterfaceControl]
  split
  · exact .of_refused GeneralStatus.invalidAttributeValue (by decide) rfl (.refl globals)
  · split
    · exact .of_refused GeneralStatus.objectStateConflict (by decide) rfl (.refl globals)
    · split
      · exact .of_refused GeneralStatus.invalidAttributeValue (by decide) rfl (.refl globals)
      · refine ⟨fun _ => value_write hnotAssembly hattr hgetable (by rw [hport]; rfl) ?_
          (fun h => absurd h hnotTcpIp) fun path hpath _ => ?_, fun h => absurd rfl h⟩
        · have hread : (globals.application.interfaceControl.set idx
              ⟨request.data.getUint.1, (Message.getUint request.data.getUint.2).1⟩).getD idx
              default =
              ⟨request.data.getUint.1, (Message.getUint request.data.getUint.2).1⟩ := by
            rw [List.getD_eq_getElem?_getD, List.getElem?_set_self hidx]
            rfl
          refine (congrArg (fun control : CipEthernetLinkInterfaceControl =>
            intBytes control.controlBits ++ intBytes control.forcedInterfaceSpeed) hread).trans ?_
          rw [writtenValue, if_neg (by rw [hclass]; decide), if_pos hclass,
            Message.takeBytes_add _ 2 2, intBytes_getUint, intBytes_getUint]
          rfl
        · refine value_of_encode fun hclass' attr encode hmem hnumber' hencode => ?_
          by_cases hlink : path.instanceNumber ≠ 0 ∧
              path.classId.toUInt32 = ethernetLinkClassCode
          · rw [setup, ClassAttributes.setup, if_neg hlink.1, hlink.2] at hmem
            obtain ⟨-, idx', -, hinst', hattr'⟩ : _ ∧ ∃ idx' < objects.ethernetLinkInstances,
                path.instanceNumber = UInt16.ofNat (idx' + 1) ∧
                  attr ∈ objects.ethernetLinkAttributes idx' := by
              rcases instanceSetup_mem (by decide) hmem with h | h | h | h
              · exact absurd h.1 (by decide)
              · exact absurd h.1 (by decide)
              · exact h
              · exact absurd h.1 (by decide)
            refine ethernetLinkAttributes_encode hattr' hencode rfl fun hsix => ?_
            -- the control of another port is read
            have hother : idx ≠ idx' := by
              rintro rfl
              exact hpath (Epath.eq_of_toUInt32 (hlink.2.trans hclass.symm)
                (hinst'.trans hinst.symm) (hnumber'.symm.trans (hsix.trans hnumber.symm)))
            simp only [List.getD_eq_getElem?_getD]
            exact congrArg (Option.getD · _) (List.getElem?_set_ne hother)
          · exact encode_congr hclass' hmem hencode
              ⟨rfl, fun _ _ => rfl, fun _ _ => rfl, fun hinst hcode => absurd ⟨hinst, hcode⟩ hlink,
                fun _ _ => rfl⟩

theorem dscp_writes (qos : QosAttribute) (request : MessageRouterRequest)
    (globals : ObjectGlobals) :
    Writes objects (qosPath qos) request globals
      (ObjectGlobals.dscp.decode (decodeCipQoSAttribute qos) globals request) := by
  have hattr : insertedAttribute (objects.setup (qosPath qos)) 1 qos.attributeNumber =
      some (ObjectGlobals.dscp.attribute (qosAttribute qos)) := by cases qos <;> rfl
  have hgetable : (ObjectGlobals.dscp.attribute (qosAttribute qos)).has getableSingle = true := by
    cases qos <;> decide
  have hclassId : ∀ number, (qosPath qos).classId ≠ (tcpIpPath number).classId := fun number =>
    show qosClassCode.toUInt16 ≠ tcpIpInterfaceClassCode.toUInt16 by decide
  simp only [Part.decode, decodeCipQoSAttribute]
  split
  · refine ⟨fun _ => value_write (show qosClassCode ≠ assemblyClassCode by decide) hattr hgetable
      rfl ?_ (fun h => ?_) fun path hpath _ => ?_, fun h => absurd rfl h⟩
    · have hread : ∀ dscp value, qos.get (qos.set value dscp) = value := by
        intro dscp value
        cases qos <;> rfl
      change sintBytes (qos.get (qos.set _ _)) = _
      rw [hread]
      rfl
    · rcases h with h | h <;> exact absurd (congrArg Epath.classId h) (hclassId _)
    · refine value_of_encode fun hclass attr encode hmem hnumber hencode => ?_
      by_cases hqos : path.instanceNumber ≠ 0 ∧ path.classId.toUInt32 = qosClassCode
      · rw [setup, ClassAttributes.setup, if_neg hqos.1, hqos.2] at hmem
        obtain ⟨-, hinst, hattr'⟩ : _ ∧ path.instanceNumber = 1 ∧ attr ∈ qosAttributes := by
          rcases instanceSetup_mem (by decide) hmem with h | h | h | h
          · exact absurd h.1 (by decide)
          · exact absurd h.1 (by decide)
          · exact absurd h.1 (by decide)
          · exact h
        have hkept : ∀ dscp value, (qos.set value dscp).event = dscp.event ∧
            (qos.set value dscp).general = dscp.general := by
          intro dscp value
          cases qos <;> exact ⟨rfl, rfl⟩
        refine qosAttributes_encode hattr' hencode rfl (hkept _ _).1 (hkept _ _).2
          fun other hother => ?_
        have hne : other ≠ qos := by
          rintro rfl
          exact hpath (Epath.eq_of_toUInt32 hqos.2 hinst (hnumber.symm.trans hother.symm))
        change other.get (qos.set _ _) = _
        revert hne
        cases qos <;> cases other <;> first | exact fun _ => rfl | exact fun h => absurd rfl h
      · exact encode_congr hclass hmem hencode
          ⟨rfl, fun _ _ => rfl, fun _ _ => rfl, fun _ _ => ⟨rfl, rfl⟩,
            fun hinst hcode => absurd ⟨hinst, hcode⟩ hqos⟩
  · exact .of_refused GeneralStatus.invalidAttributeValue (by decide) rfl (.refl globals)

end ObjectConfig

end Setting

section Serving

variable {objects : ObjectConfig} {path epath : Epath} {globals globals' : ObjectGlobals}
  {attr : CipAttributeStruct ObjectGlobals} {request : MessageRouterRequest}

namespace ObjectConfig

/-- The callbacks of the classes. -/
theorem setup_callback {callback : CipGetSetCallback ObjectGlobals} {flags : UInt8}
    (hmem : .insertGetSetCallback callback flags ∈ objects.setup epath) :
    flags = nvDataFunc ∧ callback = nvTcpipSetCallback ∨
      epath.classId.toUInt32 = assemblyClassCode ∧ (∃ assembly : CipGetSetCallback CipAssembly,
        callback = fun instanceNumber attributeNumber service globals =>
          ObjectGlobals.assembly.put (assembly instanceNumber attributeNumber service
            (ObjectGlobals.assembly.get globals)) globals) ∨
      epath.classId.toUInt32 = qosClassCode ∧ flags = nvDataFunc ∧
        callback = objects.nvQosSetCallback := by
  have hinserted : ∀ {number : UInt16} {attributes : List (CipAttributeStruct ObjectGlobals)},
      .insertGetSetCallback callback flags ∉ insertAll number attributes := by
    intro number attributes hmem
    obtain ⟨attr, -, heq⟩ := List.mem_map.mp hmem
    cases heq
  have hclassObject : ∀ {classCode maxInstance revision highestClass highestInstance allFlags},
      .insertGetSetCallback callback flags ∉ insertClassAttributes classCode maxInstance revision
        highestClass highestInstance allFlags := by
    intro classCode maxInstance revision highestClass highestInstance allFlags hmem
    obtain ⟨entry, -, heq⟩ := List.mem_map.mp hmem
    cases heq
  rw [setup, ClassAttributes.setup, attributes] at hmem
  split_ifs at hmem
  all_goals first
    | exact absurd hmem hclassObject
    | exact absurd hmem hinserted
    | exact absurd hmem List.not_mem_nil
    | skip
  · rcases List.mem_append.mp hmem with hmem | hmem
    · exact absurd hmem hinserted
    · cases List.mem_singleton.mp hmem
      exact .inl ⟨rfl, rfl⟩
  · obtain ⟨idx, -, hport⟩ := List.mem_flatMap.mp hmem
    exact absurd hport hinserted
  · rename_i hassembly
    obtain ⟨call, -, heq⟩ := List.mem_map.mp hmem
    cases call with
    | insertAttribute number inserted => cases heq
    | insertGetSetCallback callback callbacksToInstall =>
        cases heq
        exact .inr (.inl ⟨hassembly, _, rfl⟩)
  · rename_i hqos
    rcases List.mem_append.mp hmem with hmem | hmem
    · exact absurd hmem hinserted
    · cases List.mem_singleton.mp hmem
      exact .inr (.inr ⟨hqos, rfl, rfl⟩)

/-- They set no register. -/
theorem callback_sameValues {callback : CipGetSetCallback ObjectGlobals} {flags : UInt8}
    (hmem : .insertGetSetCallback callback flags ∈ objects.setup epath)
    (instanceNumber attributeNumber : UInt16) (service : UInt8) (globals : ObjectGlobals) :
    SameValues globals (callback instanceNumber attributeNumber service globals) := by
  rcases setup_callback hmem with ⟨-, rfl⟩ | ⟨-, assembly, rfl⟩ | ⟨-, -, rfl⟩
  all_goals exact .of_application rfl rfl rfl rfl rfl rfl

theorem classSetup_decode {classCode : UInt32} {instanceNumber : UInt16}
    (hmem : .insertAttribute instanceNumber attr ∈ (objects.attributes classCode).classSetup) :
    attr.decode = none := by
  rw [attributes] at hmem
  split_ifs at hmem
  all_goals first
    | exact absurd hmem List.not_mem_nil
    | obtain ⟨⟨⟨flags, value⟩, i⟩, -, heq⟩ := List.mem_map.mp hmem
      cases heq
      rfl

/-- An assembly is no register. -/
theorem assembly_sameValues (hclass : epath.classId.toUInt32 = assemblyClassCode)
    (hmem : .insertAttribute epath.instanceNumber attr ∈ objects.setup epath)
    {decode : CipAttributeDecodeFromMessage ObjectGlobals} (hdecode : attr.decode = some decode)
    (globals : ObjectGlobals) : SameValues globals (decode globals request).data := by
  rw [setup, ClassAttributes.setup] at hmem
  split at hmem
  · rw [classSetup_decode hmem] at hdecode
    cases hdecode
  · rw [hclass] at hmem
    obtain ⟨call, -, heq⟩ := List.mem_map.mp hmem
    cases call with
    | insertAttribute number inserted =>
        cases heq
        obtain ⟨decode, -, rfl⟩ := Option.map_eq_some_iff.mp hdecode
        exact .of_application rfl rfl rfl rfl rfl rfl
    | insertGetSetCallback callback callbacksToInstall => cases heq

/-- Every other attribute that is decoded is a register. -/
theorem decode_writes (hclass : epath.classId.toUInt32 ≠ assemblyClassCode)
    (hattr : insertedAttribute (objects.setup epath) epath.instanceNumber epath.attributeNumber =
      some attr)
    {decode : CipAttributeDecodeFromMessage ObjectGlobals} (hdecode : attr.decode = some decode)
    (hports : globals.application.interfaceControl.length = objects.ethernetLinkInstances) :
    Writes objects epath request globals (decode globals request) := by
  obtain ⟨hmem, hnumber⟩ := insertedAttribute_mem hattr
  rw [setup, ClassAttributes.setup] at hmem
  split at hmem
  · rw [classSetup_decode hmem] at hdecode
    cases hdecode
  · rename_i hinstance
    have hnone : attr.decode ≠ none := by rw [hdecode]; exact Option.some_ne_none _
    rcases instanceSetup_mem hclass hmem with ⟨-, -, hidentity⟩ | ⟨hcode, hinst, htcpIp⟩ |
      ⟨hcode, idx, hidx, hinst, hport⟩ | ⟨hcode, hinst, hqos⟩
    · exact absurd (identityAttributes_decode hidentity) hnone
    · have hepath : epath = tcpIpPath attr.attributeNumber :=
        hnumber.symm ▸ eq_tcpIpPath hcode hinst
      rcases (tcpIpAttributes_decode htcpIp).resolve_left hnone with rfl | rfl | rfl | rfl
      · cases hdecode
        exact hepath ▸ configControl_writes request globals
      · rw [interfaceConfigurationAttribute] at hdecode
        split at hdecode
        · cases hdecode
          exact hepath ▸ interfaceConfiguration_writes request globals
        · cases hdecode
      · rw [hostNameAttribute] at hdecode
        split at hdecode
        · cases hdecode
          exact hepath ▸ hostName_writes request globals
        · cases hdecode
      · cases hdecode
        exact hepath ▸ inactivityTimeout_writes request globals
    · cases (ethernetLinkAttributes_decode hport).resolve_left hnone
      have henabled : objects.interfaceControl = true := by
        by_contra hdisabled
        rw [portControlAttribute, if_neg hdisabled] at hdecode
        cases hdecode
      have hdecoded := hdecode
      rw [portControlAttribute, if_pos henabled] at hdecoded
      cases hdecoded
      exact interfaceControl_writes henabled hcode hinst hinstance hattr (hports ▸ hidx) request
    · obtain ⟨qos, rfl⟩ := (qosAttributes_decode hqos).resolve_left hnone
      have hepath : epath = qosPath qos := Epath.eq_of_toUInt32 hcode hinst hnumber.symm
      cases hdecode
      exact hepath ▸ dscp_writes qos request globals

/-- The attributes of the QoS object that are no registers cannot be got. -/
theorem value_qos (hcode : path.classId.toUInt32 = qosClassCode) (hinst : path.instanceNumber ≠ 0)
    (hpath : ∀ qos, path ≠ qosPath qos) : objects.value path globals = none := by
  have hsetup : objects.setup path = (objects.attributes qosClassCode).instanceSetup := by
    rw [setup, ClassAttributes.setup, if_neg hinst, hcode]
  have hqos : ∀ {number attr}, .insertAttribute number attr ∈ objects.setup path →
      number = 1 ∧ attr ∈ qosAttributes := by
    intro number attr hmem
    rw [hsetup] at hmem
    rcases instanceSetup_mem (by decide) hmem with h | h | h | h
    · exact absurd h.1 (by decide)
    · exact absurd h.1 (by decide)
    · exact absurd h.1 (by decide)
    · exact h.2
  rw [value, if_neg (by rw [hcode]; decide), insertedValue]
  cases hallows : allows (insertions (objects.setup path)) getableSingle path.attributeNumber with
  | false => rfl
  | true =>
      cases hattr : insertedAttribute (objects.setup path) path.instanceNumber
          path.attributeNumber with
      | none => rfl
      | some attr =>
          have hone := (hqos (insertedAttribute_mem hattr).1).1
          rw [allows, List.any_eq_true] at hallows
          obtain ⟨⟨number, other⟩, hlogged, hgetable⟩ := hallows
          rw [Bool.and_eq_true, decide_eq_true_eq] at hgetable
          have hother := (hqos (mem_insertions.mp hlogged)).2
          simp only [qosAttributes, List.mem_append, List.mem_map] at hother
          rcases hother with hother | ⟨qos, -, rfl⟩
          · simp only [List.mem_cons, List.not_mem_nil, or_false] at hother
            rcases hother with rfl | rfl | rfl
            all_goals
              exact absurd hgetable.2
                (show ¬(notSetOrGetable &&& getableSingle != 0) = true by decide)
          · exact absurd (Epath.eq_of_toUInt32 hcode hone hgetable.1.symm) (hpath qos)

theorem value_qosPath (qos : QosAttribute) (globals : ObjectGlobals) :
    objects.value (qosPath qos) globals =
      some (sintBytes (qos.get globals.application.qos.dscp)) := by
  have hattr : insertedAttribute (objects.setup (qosPath qos)) 1 qos.attributeNumber =
      some (ObjectGlobals.dscp.attribute (qosAttribute qos)) := by cases qos <;> rfl
  have hgetable : (ObjectGlobals.dscp.attribute (qosAttribute qos)).has getableSingle = true := by
    cases qos <;> decide
  have hclass : (qosPath qos).classId.toUInt32 ≠ assemblyClassCode :=
    show qosClassCode ≠ assemblyClassCode by decide
  exact value_of_inserted hclass hattr hgetable rfl

/-- A reset to the initial configuration resets the registers. -/
theorem value_reset (hcounters : globals'.counters = globals.counters)
    (happlication : globals'.application = globals.application.defaults.activate) (path : Epath) :
    objects.value path globals' = Registers.reset (objects.value · globals) path := by
  rw [Registers.reset]
  by_cases htimeout : path = tcpIpPath 13
  · have hattr : insertedAttribute (objects.setup (tcpIpPath 13)) 1 13 =
        some inactivityTimeoutAttribute := rfl
    rw [if_pos htimeout, htimeout, value_of_inserted (by decide) hattr rfl rfl]
    exact congrArg (fun data : ObjectData =>
      some (intBytes data.tcpip.encapsulationInactivityTimeout)) happlication
  · rw [if_neg htimeout]
    cases hfound : [QosAttribute.urgent, .scheduled, .high, .low, .explicitMsg].find? fun attr =>
        decide (path = qosPath attr) with
    | some qos =>
        have hpath : path = qosPath qos := by simpa using List.find?_some hfound
        rw [hpath, value_qosPath, happlication]
        rfl
    | none =>
        by_cases hqos : path.instanceNumber ≠ 0 ∧ path.classId.toUInt32 = qosClassCode
        · have hpath : ∀ qos, path ≠ qosPath qos := by
            rw [List.find?_eq_none] at hfound
            intro qos hpath
            exact hfound qos (by cases qos <;> decide) (decide_eq_true hpath)
          rw [value_qos hqos.2 hqos.1 hpath]
          exact (value_qos hqos.2 hqos.1 hpath).symm
        · -- the timeout is the only other value that is reset
          have hput : objects.value path (ObjectGlobals.tcpip.put
              { globals.application.tcpip.toCipTcpIpObject with
                encapsulationInactivityTimeout := 120 } globals) = objects.value path globals :=
            value_put_tcpIp fun hpath => ⟨fun _ => rfl, fun _ => rfl, fun _ => rfl, fun _ => rfl,
              fun hnumber => absurd (hpath.trans (congrArg tcpIpPath hnumber)) htimeout⟩
          change objects.value path globals' = objects.value path globals
          rw [← hput]
          refine value_congr ⟨hcounters, fun _ _ => ?_, fun _ _ => ?_, fun _ _ => ?_,
            fun hinst hcode => absurd ⟨hinst, hcode⟩ hqos⟩
          · rw [happlication]
            rfl
          · rw [happlication]
            rfl
          · rw [happlication]
            exact ⟨rfl, rfl⟩

theorem resetDevice_counters {status : EipStatus}
    (h : objects.resetDevice globals = .ok (status, globals')) :
    status = .ok ∧ globals'.counters = globals.counters := by
  rw [resetDevice] at h
  split at h
  · cases h
  · cases h
    exact ⟨rfl, rfl⟩

theorem resetDeviceToInitialConfiguration_counters {status : EipStatus}
    (h : objects.resetDeviceToInitialConfiguration globals = .ok (status, globals')) :
    status = .ok ∧ globals'.counters = globals.counters := by
  rw [resetDeviceToInitialConfiguration] at h
  split at h
  · cases h
  · rename_i hreset
    cases h
    exact ⟨rfl, (resetDevice_counters hreset).2⟩

theorem resetAnswer_ok {response response' : MessageRouterResponse} {status : EipStatus}
    {result : Except Fault (EipStatus × ObjectGlobals)}
    (h : resetAnswer response result = .ok (status, response', globals')) :
    ∃ status, result = .ok (status, globals') := by
  unfold resetAnswer at h
  split at h
  · cases h
  · cases h
    exact ⟨_, rfl⟩
  · cases h
    exact ⟨_, rfl⟩

/-- The reset service. -/
theorem cipResetService_writes {cipClass : ServingClass ObjectData} {instanceNumber : UInt16}
    {status : EipStatus} {response : MessageRouterResponse}
    (hpre : cipClass.preResetCallback = some (identityObjectPreResetCallback objects.resetDevice
      objects.resetDeviceToInitialConfiguration))
    (hpost : cipClass.postResetCallback = none)
    (h : cipResetService cipClass instanceNumber request globals =
      .ok (status, response, globals')) :
    response.generalStatus = GeneralStatus.success ∧ request.requestDataSize = 1 ∧
        request.data.byteAt 0 = 1 ∧ globals'.counters = globals.counters ∧
        globals'.application = globals.application.defaults.activate ∨
      ¬(response.generalStatus = GeneralStatus.success ∧ request.requestDataSize = 1 ∧
        request.data.byteAt 0 = 1) ∧ globals'.counters = globals.counters ∧
        (globals'.application = globals.application ∨
          globals'.application = globals.application.activate) := by
  have hcallback : ∃ status response', identityObjectPreResetCallback objects.resetDevice
      objects.resetDeviceToInitialConfiguration instanceNumber request (successHeader request)
      globals = .ok (status, response', globals') ∧ response = response' := by
    simp only [cipResetService, hpre, hpost, notifyCallback] at h
    split at h
    · cases h
    · rename_i internalState response' globals₁ hcalled
      have hcalled' : identityObjectPreResetCallback objects.resetDevice
        objects.resetDeviceToInitialConfiguration instanceNumber request (successHeader request)
        globals = .ok (internalState, response', globals₁) := hcalled
      split at h <;> cases h <;> exact ⟨_, _, hcalled', rfl⟩
  obtain ⟨status, _, hcalled, rfl⟩ := hcallback
  simp only [identityObjectPreResetCallback] at hcalled
  generalize htype : (if request.requestDataSize = 1 then request.data.byteAt 0 else 0) =
    resetType at hcalled
  split at hcalled
  · cases hcalled
    exact .inr ⟨fun h => absurd h.1 (show GeneralStatus.tooMuchData ≠ _ by decide), rfl, .inl rfl⟩
  · split at hcalled
    · rename_i hzero
      refine .inr ⟨fun h => ?_, ?_⟩
      · rw [if_pos h.2.1, h.2.2, hzero] at htype
        exact absurd htype (by decide)
      · obtain ⟨status, hreset⟩ := resetAnswer_ok hcalled
        exact ⟨(resetDevice_counters hreset).2, .inr (resetDevice_related hreset)⟩
    · rename_i hnotZero
      split at hcalled
      · rename_i hone
        have hsize : request.requestDataSize = 1 := by
          by_contra hsize
          rw [if_neg hsize] at htype
          exact hnotZero htype.symm
        rw [if_pos hsize, hone] at htype
        obtain ⟨status, hreset⟩ := resetAnswer_ok hcalled
        have hcounters := resetDeviceToInitialConfiguration_counters hreset
        rw [hreset, hcounters.1] at hcalled
        cases hcalled
        exact .inl ⟨rfl, hsize, htype, hcounters.2,
          resetDeviceToInitialConfiguration_related hreset⟩
      · cases hcalled
        exact .inr ⟨fun h => absurd h.1 (show GeneralStatus.invalidParameter ≠ _ by decide),
          rfl, .inl rfl⟩

end ObjectConfig

end Serving

end Opener

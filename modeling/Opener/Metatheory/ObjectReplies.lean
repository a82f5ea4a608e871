import Opener.Metatheory.ObjectRegisters

/-!
The reply of Get_Attributes_All. It is made of the values of the registers of the instance, in
the order of its attributes, with zeros for the attributes that only fill the reply.
-/

namespace Opener

open CIPAttributeFlag

section Positions

/-- The value does not depend on where it is encoded. -/
def CipAttributeStruct.Stable {σ : Type} (attr : CipAttributeStruct σ) : Prop :=
  ∀ encode, attr.encode = some encode → ∀ state used, encode state used = encode state 0

theorem plainAttribute_stable (attributeNumber : UInt16) (type : CipDataType) (flags : UInt8)
    (value : ObjectGlobals → List UInt8) :
    (plainAttribute attributeNumber type flags value).Stable := by
  intro encode hencode state used
  cases hencode
  rfl

theorem shortStringAttribute_stable (attributeNumber : UInt16) (flags : UInt8)
    (value : ObjectGlobals → CipShortString) :
    (shortStringAttribute attributeNumber flags value).Stable := by
  intro encode hencode state used
  cases hencode
  rfl

/-- A string is padded so that the message stays even. -/
theorem encodeCipString_even (data : CipData) {used : Nat} (hused : used % 2 = 0) :
    encodeCipString data used = encodeCipString data 0 ∧
      (used + (encodeCipString data 0).length) % 2 = 0 := by
  simp only [encodeCipString]
  split
  · refine ⟨rfl, ?_⟩
    have hlength : (intBytes data.memory.getUint.1).length = 2 := rfl
    omega
  · generalize intBytes data.memory.getUint.1 ++ _ = written
    by_cases hodd : written.length % 2 = 1
    · rw [if_pos (by omega), if_pos (by omega)]
      refine ⟨rfl, ?_⟩
      have hpad : (sintBytes 0).length = 1 := rfl
      rw [List.length_append]
      omega
    · rw [if_neg (by omega), if_neg (by omega)]
      exact ⟨rfl, by omega⟩

theorem encodeEpathSegment_even (segment : EpathSegment) (number : UInt16) (length : UInt32) :
    (encodeEpathSegment segment number length).1.length % 2 = 0 := by
  rw [encodeEpathSegment]
  split
  · exact show 2 % 2 = 0 from rfl
  · exact show 4 % 2 = 0 from rfl

theorem encodeEPath_even (epath : CipEpath) : (encodeEPath epath).length % 2 = 0 := by
  simp only [encodeEPath]
  by_cases hsize : 0 < epath.pathSize.toUInt32
  · simp only [if_pos hsize]
    have hclass := encodeEpathSegment_even .classId epath.classId epath.pathSize.toUInt32
    generalize encodeEpathSegment .classId epath.classId epath.pathSize.toUInt32 = classId
      at hclass ⊢
    split
    · have hinstance :=
        encodeEpathSegment_even .instanceNumber epath.instanceNumber classId.2
      generalize encodeEpathSegment .instanceNumber epath.instanceNumber classId.2 = inst
        at hinstance ⊢
      split
      · have hattribute := encodeEpathSegment_even .attributeNumber epath.attributeNumber inst.2
        rw [List.length_append, List.length_append]
        omega
      · rw [List.append_nil, List.length_append]
        omega
    · exact hclass
  · simp only [if_neg hsize]
    rfl

end Positions

section Tables

variable {objects : ObjectConfig} {attr : CipAttributeStruct ObjectGlobals}

namespace ObjectConfig

theorem identityAttributes_stable (h : attr ∈ identityAttributes) : attr.Stable := by
  simp only [identityAttributes, List.mem_cons, List.not_mem_nil, or_false] at h
  rcases h with rfl | rfl | rfl | rfl | rfl | rfl | rfl
  all_goals first
    | exact plainAttribute_stable _ _ _ _
    | exact shortStringAttribute_stable _ _ _

theorem portControlAttribute_stable (idx : Nat) : (objects.portControlAttribute idx).Stable := by
  intro encode hencode state used
  rw [portControlAttribute] at hencode
  split at hencode
  · cases hencode
    rfl
  · cases hencode
    rfl

theorem ethernetLinkAttributes_stable {idx : Nat} (h : attr ∈ objects.ethernetLinkAttributes idx) :
    attr.Stable := by
  simp only [ethernetLinkAttributes, List.mem_cons, List.not_mem_nil, or_false] at h
  rcases h with rfl | rfl | rfl | rfl | rfl | rfl | rfl | rfl | rfl | rfl | rfl
  all_goals first
    | exact portControlAttribute_stable idx
    | exact plainAttribute_stable _ _ _ _
    | exact shortStringAttribute_stable _ _ _

theorem qosAttributes_stable (h : attr ∈ qosAttributes) : attr.Stable := by
  rw [qosAttributes, List.mem_append, List.mem_map] at h
  rcases h with h | ⟨qos, -, rfl⟩
  · simp only [List.mem_cons, List.not_mem_nil, or_false] at h
    rcases h with rfl | rfl | rfl
    all_goals exact plainAttribute_stable _ _ _ _
  · intro encode hencode state used
    cases hencode
    rfl

theorem insertClassAttributes_stable {classCode : UInt32} {maxInstance : Bool}
    {revision highestClass highestInstance : UInt16} {flags : List UInt8}
    {instanceNumber : UInt16}
    (h : .insertAttribute instanceNumber attr ∈ insertClassAttributes classCode maxInstance
      revision highestClass highestInstance flags) : attr.Stable := by
  obtain ⟨entry, -, heq⟩ := List.mem_map.mp h
  cases heq
  exact plainAttribute_stable _ _ _ _

/-- Up to the host name the message stays even. -/
theorem tcpIpAttributes_even (h : attr ∈ objects.tcpIpAttributes.take 6)
    {encode : CipAttributeEncodeInMessage ObjectGlobals} (hencode : attr.encode = some encode)
    (state : ObjectGlobals) {used : Nat} (hused : used % 2 = 0) :
    encode state used = encode state 0 ∧ (used + (encode state 0).length) % 2 = 0 := by
  have hfour : ∀ value, (dintBytes value).length = 4 := fun _ => rfl
  simp only [tcpIpAttributes, List.take_succ_cons, List.take_zero, List.mem_cons,
    List.not_mem_nil, or_false] at h
  rcases h with rfl | rfl | rfl | rfl | rfl | rfl
  · cases hencode
    exact ⟨rfl, by rw [hfour]; omega⟩
  · cases hencode
    exact ⟨rfl, by rw [hfour]; omega⟩
  · cases hencode
    exact ⟨rfl, by rw [hfour]; omega⟩
  · cases hencode
    refine ⟨rfl, ?_⟩
    have heven := encodeEPath_even state.application.tcpip.physicalLinkObject
    have htwo : ∀ value, (intBytes value).length = 2 := fun _ => rfl
    change (used + (encodeCipEPath state.application.tcpip.physicalLinkObject).length) % 2 = 0
    rw [encodeCipEPath, List.length_append, htwo]
    omega
  · cases hencode
    simp only [encodeCipTcpIpInterfaceConfiguration, List.length_append, hfour]
    obtain ⟨hsame, heven⟩ := encodeCipString_even
      state.application.tcpip.interfaceConfiguration.domainName.data
      (show (used + (4 + 4 + 4 + 4 + 4)) % 2 = 0 by omega)
    obtain ⟨hfront, -⟩ := encodeCipString_even
      state.application.tcpip.interfaceConfiguration.domainName.data
      (show (0 + (4 + 4 + 4 + 4 + 4)) % 2 = 0 by omega)
    rw [hsame, hfront]
    exact ⟨rfl, by omega⟩
  · cases hencode
    exact encodeCipString_even _ hused

theorem tcpIpAttributes_stable (h : attr ∈ objects.tcpIpAttributes.drop 6) : attr.Stable := by
  simp only [tcpIpAttributes, List.drop_succ_cons, List.drop_zero, List.mem_cons,
    List.not_mem_nil, or_false] at h
  rcases h with rfl | rfl | rfl | rfl | rfl | rfl | rfl
  all_goals first
    | exact plainAttribute_stable _ _ _ _
    | (intro encode hencode state used; cases hencode; rfl)

end ObjectConfig

end Tables

section Instances

variable {objects : ObjectConfig} {attr : CipAttributeStruct ObjectGlobals} {path : Epath}

theorem instanceAttributes_append {σ : Type} (calls others : List (ClassSetup σ))
    (instanceNumber : UInt16) :
    instanceAttributes (insertions (calls ++ others)) instanceNumber =
      instanceAttributes (insertions calls) instanceNumber ++
        instanceAttributes (insertions others) instanceNumber := by
  simp only [instanceAttributes, insertions, List.filterMap_append, List.filter_append,
    List.map_append]

theorem mem_instanceAttributes {σ : Type} {calls : List (ClassSetup σ)} {instanceNumber : UInt16}
    {attr : CipAttributeStruct σ} :
    attr ∈ instanceAttributes (insertions calls) instanceNumber ↔
      .insertAttribute instanceNumber attr ∈ calls := by
  simp only [instanceAttributes, List.mem_map, List.mem_filter, decide_eq_true_eq]
  constructor
  · rintro ⟨⟨number, inserted⟩, ⟨hmem, rfl⟩, rfl⟩
    exact mem_insertions.mp hmem
  · intro hmem
    exact ⟨(instanceNumber, attr), ⟨mem_insertions.mpr hmem, rfl⟩, rfl⟩

/-- An attribute whose number stands once in the instance is found by its number. -/
theorem insertedAttribute_of_nodup {σ : Type} {calls : List (ClassSetup σ)}
    {instanceNumber : UInt16} {attr : CipAttributeStruct σ}
    (hnodup : ((instanceAttributes (insertions calls) instanceNumber).map
      CipAttributeStruct.attributeNumber).Nodup)
    (hattr : attr ∈ instanceAttributes (insertions calls) instanceNumber) :
    insertedAttribute calls instanceNumber attr.attributeNumber = some attr := by
  have hmem := mem_instanceAttributes.mp hattr
  cases hfound : insertedAttribute calls instanceNumber attr.attributeNumber with
  | none =>
      rw [insertedAttribute, Option.map_eq_none_iff, List.find?_eq_none] at hfound
      exact absurd (by simp) (hfound (instanceNumber, attr) (mem_insertions.mpr hmem))
  | some found =>
      obtain ⟨hinserted, hnumber⟩ := insertedAttribute_mem hfound
      exact congrArg some (List.inj_on_of_nodup_map hnodup
        (mem_instanceAttributes.mpr hinserted) hattr hnumber)

namespace ObjectConfig

theorem instanceAttributes_insertAll (number instanceNumber : UInt16)
    (attributes : List (CipAttributeStruct ObjectGlobals)) :
    instanceAttributes (insertions (insertAll number attributes)) instanceNumber =
      if number = instanceNumber then attributes else [] := by
  have hinsertions : insertions (insertAll number attributes) = attributes.map (number, ·) := by
    rw [insertions, insertAll, List.filterMap_map]
    exact congrFun (List.filterMap_eq_map (f := (number, ·))) attributes
  rw [instanceAttributes, hinsertions]
  split
  · rename_i hsame
    rw [List.filter_eq_self.mpr, List.map_map]
    · exact List.map_id attributes
    · intro call hcall
      obtain ⟨attr, -, rfl⟩ := List.mem_map.mp hcall
      exact decide_eq_true hsame
  · rename_i hother
    rw [List.filter_eq_nil_iff.mpr, List.map_nil]
    intro call hcall
    obtain ⟨attr, -, rfl⟩ := List.mem_map.mp hcall
    rw [decide_eq_true_eq]
    exact hother

theorem instanceAttributes_ports (instanceNumber : UInt16) (ports : List Nat) :
    instanceAttributes (insertions (ports.flatMap fun idx =>
      insertAll (UInt16.ofNat (idx + 1)) (objects.ethernetLinkAttributes idx))) instanceNumber =
      (ports.filter fun idx => UInt16.ofNat (idx + 1) = instanceNumber).flatMap
        objects.ethernetLinkAttributes := by
  induction ports with
  | nil => rfl
  | cons idx ports ih =>
      rw [List.flatMap_cons, instanceAttributes_append, instanceAttributes_insertAll, ih,
        List.filter_cons]
      by_cases hnumber : UInt16.ofNat (idx + 1) = instanceNumber
      · rw [if_pos hnumber, if_pos (decide_eq_true hnumber), List.flatMap_cons]
      · rw [if_neg hnumber, if_neg (by rwa [decide_eq_true_eq])]
        rfl

/-- The attributes of an instance of the classes. -/
inductive Instance (objects : ObjectConfig) :
    UInt32 → List (CipAttributeStruct ObjectGlobals) → Prop
  | none {classCode : UInt32} : Instance objects classCode []
  | identity : Instance objects identityClassCode identityAttributes
  | tcpIp : Instance objects tcpIpInterfaceClassCode objects.tcpIpAttributes
  | ethernetLink {idx : Nat} (h : idx < objects.ethernetLinkInstances) :
      Instance objects ethernetLinkClassCode (objects.ethernetLinkAttributes idx)
  | qos : Instance objects qosClassCode qosAttributes

/-- The slots of a port have room for its attributes only. -/
theorem instanceAttributes_instance {classCode : UInt32} {instanceNumber : UInt16}
    (hclass : classCode ≠ assemblyClassCode)
    (hroom : classCode = ethernetLinkClassCode → (instanceAttributes
      (insertions (objects.attributes classCode).instanceSetup) instanceNumber).length ≤ 11) :
    objects.Instance classCode (instanceAttributes
      (insertions (objects.attributes classCode).instanceSetup) instanceNumber) := by
  have hsingle : ∀ attributes : List (CipAttributeStruct ObjectGlobals),
      objects.Instance classCode attributes → objects.Instance classCode
        (if (1 : UInt16) = instanceNumber then attributes else []) := by
    intro attributes hattributes
    split
    · exact hattributes
    · exact .none
  have hbehind : ∀ attributes : List (CipAttributeStruct ObjectGlobals), ∀ callback flags,
      instanceAttributes (insertions (insertAll 1 attributes ++
        [.insertGetSetCallback callback flags])) instanceNumber =
          if (1 : UInt16) = instanceNumber then attributes else [] := by
    intro attributes callback flags
    rw [instanceAttributes_append, instanceAttributes_insertAll]
    exact List.append_nil _
  by_cases hidentity : classCode = identityClassCode
  · subst hidentity
    exact instanceAttributes_insertAll 1 instanceNumber identityAttributes ▸ hsingle _ .identity
  by_cases htcpIp : classCode = tcpIpInterfaceClassCode
  · subst htcpIp
    exact hbehind objects.tcpIpAttributes nvTcpipSetCallback nvDataFunc ▸ hsingle _ .tcpIp
  by_cases hethernetLink : classCode = ethernetLinkClassCode
  · subst hethernetLink
    have hports := objects.instanceAttributes_ports instanceNumber
      (List.range objects.ethernetLinkInstances)
    change objects.Instance _ (instanceAttributes (insertions (List.flatMap _ _)) _)
    replace hroom := hroom rfl
    change (instanceAttributes (insertions (List.flatMap _ _)) _).length ≤ 11 at hroom
    rw [hports] at hroom ⊢
    have heleven : ∀ idx, (objects.ethernetLinkAttributes idx).length = 11 := fun _ => rfl
    cases hfilter : (List.range objects.ethernetLinkInstances).filter fun idx =>
        UInt16.ofNat (idx + 1) = instanceNumber with
    | nil => exact .none
    | cons idx others =>
        cases others with
        | nil =>
            have hmem : idx ∈ (List.range objects.ethernetLinkInstances).filter fun idx =>
                UInt16.ofNat (idx + 1) = instanceNumber := hfilter ▸ List.mem_cons_self
            rw [List.flatMap_cons, List.flatMap_nil, List.append_nil]
            exact .ethernetLink (List.mem_range.mp (List.mem_filter.mp hmem).1)
        | cons other others =>
            rw [hfilter, List.flatMap_cons, List.flatMap_cons, List.length_append,
              List.length_append, heleven, heleven] at hroom
            omega
  by_cases hqos : classCode = qosClassCode
  · subst hqos
    exact hbehind qosAttributes objects.nvQosSetCallback nvDataFunc ▸ hsingle _ .qos
  · simp only [attributes, hidentity, htcpIp, hethernetLink, hqos, hclass, if_false]
    split_ifs <;> exact .none

theorem classSetup_eq (objects : ObjectConfig) (classCode : UInt32) :
    (objects.attributes classCode).classSetup = [] ∨
      ∃ maxInstance revision highestClass highestInstance,
        ∃ flags ∈ [defaultClassFlags, identityClassFlags, messageRouterClassFlags],
          (objects.attributes classCode).classSetup = insertClassAttributes classCode maxInstance
            revision highestClass highestInstance flags := by
  rw [attributes]
  split_ifs
  all_goals first
    | exact .inl rfl
    | exact .inr ⟨_, _, _, _, _, by decide, rfl⟩

end ObjectConfig

/-- The attributes of one object: each number stands once, and is not the one of an unused
slot. -/
structure UniqueNumbers (attributes : List (CipAttributeStruct ObjectGlobals)) : Prop where
  nodup : (attributes.map CipAttributeStruct.attributeNumber).Nodup
  positive : 0 ∉ attributes.map CipAttributeStruct.attributeNumber

theorem UniqueNumbers.of_numbers {attributes : List (CipAttributeStruct ObjectGlobals)}
    (numbers : List UInt16)
    (h : attributes.map CipAttributeStruct.attributeNumber = numbers)
    (hnumbers : (numbers.Nodup && 0 ∉ numbers) = true) : UniqueNumbers attributes := by
  rw [Bool.and_eq_true, decide_eq_true_eq, decide_eq_true_eq] at hnumbers
  exact ⟨h ▸ hnumbers.1, h ▸ hnumbers.2⟩

namespace ObjectConfig

theorem classObject_unique (objects : ObjectConfig) (classCode : UInt32) : UniqueNumbers
    (instanceAttributes (insertions (objects.attributes classCode).classSetup) 0) := by
  rcases objects.classSetup_eq classCode with hnone | ⟨_, _, _, _, flags, hflags, heq⟩
  · rw [hnone]
    exact .of_numbers [] rfl rfl
  · rw [heq]
    simp only [List.mem_cons, List.not_mem_nil, or_false] at hflags
    rcases hflags with rfl | rfl | rfl
    all_goals exact .of_numbers [1, 2, 3, 4, 5, 6, 7] rfl (by decide)

theorem portControlAttribute_number (idx : Nat) :
    (objects.portControlAttribute idx).attributeNumber = 6 := by
  rw [portControlAttribute]
  split <;> rfl

theorem Instance.unique {classCode : UInt32}
    {attributes : List (CipAttributeStruct ObjectGlobals)}
    (h : objects.Instance classCode attributes) : UniqueNumbers attributes := by
  cases h with
  | none => exact .of_numbers [] rfl rfl
  | identity => exact .of_numbers [1, 2, 3, 4, 5, 6, 7] rfl (by decide)
  | tcpIp => exact .of_numbers [1, 2, 3, 4, 5, 6, 7, 8, 9, 10, 11, 12, 13] rfl (by decide)
  | @ethernetLink idx =>
      refine .of_numbers [1, 2, 3, 4, 5, 6, 7, 8, 9, 10, 11] ?_ (by decide)
      simp only [ethernetLinkAttributes, List.map_cons, portControlAttribute_number]
      rfl
  | qos => exact .of_numbers [1, 2, 3, 4, 5, 6, 7, 8] rfl (by decide)

end ObjectConfig

end Instances

section Filling

variable {objects : ObjectConfig} {platform : Platform} {globals : ObjectGlobals}
  {attr : CipAttributeStruct ObjectGlobals} {path : Epath}

/-- The attribute is zero in these states. -/
def CipAttributeStruct.Fills (attr : CipAttributeStruct ObjectGlobals) (globals : ObjectGlobals) :
    Prop :=
  ∀ encode, attr.encode = some encode →
    encode globals 0 = List.replicate (encode globals 0).length 0

theorem plainAttribute_has (attributeNumber : UInt16) (type : CipDataType) (flags : UInt8)
    (value : ObjectGlobals → List UInt8) (mask : UInt8) :
    (plainAttribute attributeNumber type flags value).has mask = (flags &&& mask != 0) := rfl

theorem shortStringAttribute_has (attributeNumber : UInt16) (flags : UInt8)
    (value : ObjectGlobals → CipShortString) (mask : UInt8) :
    (shortStringAttribute attributeNumber flags value).has mask = (flags &&& mask != 0) := rfl

theorem dummyAttribute_fills (attributeNumber : UInt16) (type : CipDataType) (size : Nat) :
    (dummyAttribute attributeNumber type size).Fills globals := by
  intro encode hencode
  cases hencode
  exact congrArg (List.replicate · 0) List.length_replicate.symm

namespace ObjectConfig

theorem insertClassAttributes_fills {classCode : UInt32} {maxInstance : Bool}
    {revision highestClass highestInstance instanceNumber : UInt16} {flags : List UInt8}
    (hflags : flags ∈ [defaultClassFlags, identityClassFlags, messageRouterClassFlags])
    (h : .insertAttribute instanceNumber attr ∈ insertClassAttributes classCode maxInstance
      revision highestClass highestInstance flags)
    (hsingle : attr.has getableSingle = false) : attr.Fills globals := by
  simp only [List.mem_cons, List.not_mem_nil, or_false] at hflags
  rcases hflags with rfl | rfl | rfl
  all_goals
    simp only [insertClassAttributes, defaultClassFlags, identityClassFlags,
      messageRouterClassFlags, List.zip_cons_cons, List.zip_nil_left, List.zipIdx_cons,
      List.zipIdx_nil, List.map_cons, List.map_nil, List.mem_cons, List.not_mem_nil, or_false,
      ClassSetup.insertAttribute.injEq] at h
    rcases h with ⟨-, rfl⟩ | ⟨-, rfl⟩ | ⟨-, rfl⟩ | ⟨-, rfl⟩ | ⟨-, rfl⟩ | ⟨-, rfl⟩ | ⟨-, rfl⟩
    all_goals first
      | (rw [plainAttribute_has] at hsingle; exact absurd hsingle (by decide))
      | (intro encode hencode; cases hencode; rfl)

theorem tcpIpAttributes_fills (hvalid : globals.application.Valid objects platform)
    (h : attr ∈ objects.tcpIpAttributes) (hsingle : attr.has getableSingle = false) :
    attr.Fills globals := by
  have hflags : (objects.ifaceCfgFlags &&& getableSingle != 0) = true := by
    rw [ifaceCfgFlags]
    split <;> decide
  simp only [tcpIpAttributes, List.mem_cons, List.not_mem_nil, or_false] at h
  rcases h with rfl | rfl | rfl | rfl | rfl | rfl | rfl | rfl | rfl | rfl | rfl | rfl | rfl
  case inr.inr.inr.inr.inl => exact absurd (hflags.symm.trans hsingle) (by decide)
  case inr.inr.inr.inr.inr.inl => exact absurd (hflags.symm.trans hsingle) (by decide)
  case inr.inr.inr.inr.inr.inr.inr.inr.inr.inl =>
    intro encode hencode
    cases hencode
    have hacd : globals.application.tcpip.selectAcd = 0 :=
      congrArg TcpIpData.selectAcd hvalid.unset
    simp only [hacd]
    rfl
  all_goals first
    | exact dummyAttribute_fills _ _ _
    | exact absurd hsingle (by decide)

theorem ethernetLinkAttributes_fills (hvalid : globals.application.Valid objects platform)
    {idx : Nat} (hidx : idx < objects.ethernetLinkInstances)
    (h : attr ∈ objects.ethernetLinkAttributes idx) (hsingle : attr.has getableSingle = false) :
    attr.Fills globals := by
  simp only [ethernetLinkAttributes, List.mem_cons, List.not_mem_nil, or_false] at h
  rcases h with rfl | rfl | rfl | rfl | rfl | rfl | rfl | rfl | rfl | rfl | rfl
  case inr.inr.inr.inr.inr.inl =>
    rw [portControlAttribute] at hsingle ⊢
    split at hsingle
    · rw [Part.attribute, interfaceControlAttribute] at hsingle
      change ((if idx = 2 then _ else _ : UInt8) &&& getableSingle != 0) = false at hsingle
      split at hsingle <;> exact absurd hsingle (by decide)
    · rename_i hcontrol
      rw [if_neg hcontrol]
      intro encode hencode
      cases hencode
      rfl
  case inr.inr.inr.inr.inr.inr.inr.inr.inr.inl =>
    have hdisabled : ¬objects.interfaceLabelEnabled = true := by
      intro henabled
      rw [shortStringAttribute_has, if_pos henabled] at hsingle
      exact absurd hsingle (by decide)
    intro encode hencode
    cases hencode
    simp only [hvalid.ethernetLink, List.getElem?_map, List.getElem?_range hidx, Option.map_some,
      Option.getD_some, initialPort, if_neg hdisabled]
    rfl
  all_goals first
    | exact dummyAttribute_fills _ _ _
    | (rw [plainAttribute_has] at hsingle; exact absurd hsingle (by decide))

theorem identityAttributes_single (h : attr ∈ identityAttributes) :
    attr.has getableSingle = true := by
  simp only [identityAttributes, List.mem_cons, List.not_mem_nil, or_false] at h
  rcases h with rfl | rfl | rfl | rfl | rfl | rfl | rfl
  all_goals decide

/-- The service takes no attribute of the QoS object. -/
theorem qosAttributes_all (h : attr ∈ qosAttributes) :
    attr.has (getableAll ||| getableAllDummy) = false := by
  rw [qosAttributes, List.mem_append, List.mem_map] at h
  rcases h with h | ⟨qos, -, rfl⟩
  · simp only [List.mem_cons, List.not_mem_nil, or_false] at h
    rcases h with rfl | rfl | rfl
    all_goals decide
  · cases qos <;> decide

/-- What is inserted for a path belongs to one object. -/
theorem setup_mem (hclass : path.classId.toUInt32 ≠ assemblyClassCode) {instanceNumber : UInt16}
    (hmem : .insertAttribute instanceNumber attr ∈ objects.setup path) :
    (path.instanceNumber = 0 ∧ instanceNumber = 0 ∧ .insertAttribute 0 attr ∈
        (objects.attributes path.classId.toUInt32).classSetup) ∨
      path.instanceNumber ≠ 0 ∧ (attr ∈ identityAttributes ∨ attr ∈ objects.tcpIpAttributes ∨
        (∃ idx < objects.ethernetLinkInstances, attr ∈ objects.ethernetLinkAttributes idx) ∨
        path.classId.toUInt32 = qosClassCode ∧ attr ∈ qosAttributes) := by
  rw [setup, ClassAttributes.setup] at hmem
  split at hmem
  · rename_i hzero
    have hinstance : instanceNumber = 0 := by
      rcases objects.classSetup_eq path.classId.toUInt32 with hnone | ⟨_, _, _, _, _, -, heq⟩
      · rw [hnone] at hmem
        cases hmem
      · rw [heq] at hmem
        obtain ⟨entry, -, hentry⟩ := List.mem_map.mp hmem
        cases hentry
        rfl
    subst hinstance
    exact .inl ⟨hzero, rfl, hmem⟩
  · rename_i hinstance
    refine .inr ⟨hinstance, ?_⟩
    rcases instanceSetup_mem hclass hmem with ⟨-, -, hattr⟩ | ⟨-, -, hattr⟩ |
      ⟨-, idx, hidx, -, hattr⟩ | ⟨hcode, -, hattr⟩
    · exact .inl hattr
    · exact .inr (.inl hattr)
    · exact .inr (.inr (.inl ⟨idx, hidx, hattr⟩))
    · exact .inr (.inr (.inr ⟨hcode, hattr⟩))

theorem setup_number (hclass : path.classId.toUInt32 ≠ assemblyClassCode)
    {instanceNumber : UInt16} (hmem : .insertAttribute instanceNumber attr ∈ objects.setup path) :
    attr.attributeNumber ≠ 0 := by
  have hpositive : ∀ {attributes : List (CipAttributeStruct ObjectGlobals)},
      UniqueNumbers attributes → attr ∈ attributes → attr.attributeNumber ≠ 0 :=
    fun hunique hattr hzero => hunique.positive (hzero ▸ List.mem_map_of_mem hattr)
  rcases setup_mem hclass hmem with ⟨-, -, hattr⟩ |
    ⟨-, hattr | hattr | ⟨idx, hidx, hattr⟩ | ⟨-, hattr⟩⟩
  · exact hpositive (objects.classObject_unique _) (mem_instanceAttributes.mpr hattr)
  · exact hpositive (show objects.Instance _ _ from .identity).unique hattr
  · exact hpositive Instance.tcpIp.unique hattr
  · exact hpositive (Instance.ethernetLink hidx).unique hattr
  · exact hpositive (show objects.Instance _ _ from .qos).unique hattr

/-- What is taken and cannot be got alone is zero. -/
theorem setup_fills (hvalid : globals.application.Valid objects platform)
    (hclass : path.classId.toUInt32 ≠ assemblyClassCode)
    (hmem : .insertAttribute path.instanceNumber attr ∈ objects.setup path)
    (htaken : allows (insertions (objects.setup path)) (getableAll ||| getableAllDummy)
      attr.attributeNumber = true)
    (hsingle : attr.has getableSingle = false) : attr.Fills globals := by
  rcases setup_mem hclass hmem with ⟨-, -, hattr⟩ |
    ⟨hinstance, hattr | hattr | ⟨idx, hidx, hattr⟩ | ⟨hqos, -⟩⟩
  · rcases objects.classSetup_eq path.classId.toUInt32 with hnone | ⟨_, _, _, _, _, hflags, heq⟩
    · rw [hnone] at hattr
      cases hattr
    · rw [heq] at hattr
      exact insertClassAttributes_fills hflags hattr hsingle
  · rw [identityAttributes_single hattr] at hsingle
    cases hsingle
  · exact tcpIpAttributes_fills hvalid hattr hsingle
  · exact ethernetLinkAttributes_fills hvalid hidx hattr hsingle
  · -- no attribute of the class carries a flag of the service
    obtain ⟨⟨number, other⟩, hcall, htakes⟩ := List.any_eq_true.mp htaken
    rw [Bool.and_eq_true] at htakes
    have hother : other ∈ qosAttributes := by
      have hinserted := mem_insertions.mp hcall
      rw [setup, ClassAttributes.setup, if_neg hinstance, hqos] at hinserted
      rcases instanceSetup_mem (by decide) hinserted with h | h | h | h
      · exact absurd h.1 (by decide)
      · exact absurd h.1 (by decide)
      · exact absurd h.1 (by decide)
      · exact h.2.2
    rw [qosAttributes_all hother] at htakes
    cases htakes.2

end ObjectConfig

end Filling

section Parts

variable {objects : ObjectConfig} {path : Epath} {globals : ObjectGlobals}
  {cipClass : CipClass ObjectGlobals} {attributes : List (CipAttributeStruct ObjectGlobals)}
  {message message' : List UInt8}

theorem encodeAttributes_stable (hstable : ∀ attr ∈ attributes, attr.Stable)
    (h : encodeAttributes cipClass globals attributes message = .ok message') :
    ∃ parts, message' = message ++ parts.flatten ∧
      List.Forall₂ (Encodes globals) (attributes.filter cipClass.takes) parts := by
  obtain ⟨parts, hmessage, -, hparts⟩ := encodeAttributes_parts (P := fun _ => True)
    (fun attr hattr _ encode hencode used _ => ⟨hstable attr hattr encode hencode globals used,
      trivial⟩) trivial h
  exact ⟨parts, hmessage, hparts⟩

/-- The strings of the TCP/IP interface object start at an even position. -/
theorem encodeAttributes_tcpIp
    (h : encodeAttributes cipClass globals objects.tcpIpAttributes [] = .ok message') :
    ∃ parts, message' = parts.flatten ∧
      List.Forall₂ (Encodes globals) (objects.tcpIpAttributes.filter cipClass.takes) parts := by
  rw [← List.take_append_drop 6 objects.tcpIpAttributes, encodeAttributes_append] at h
  obtain ⟨message, hfirst, hlast⟩ := CursorAccounts.bind_ok h
  obtain ⟨parts, rfl, -, hparts⟩ := encodeAttributes_parts (P := fun used => used % 2 = 0)
    (fun attr hattr _ encode hencode used hused =>
      ObjectConfig.tcpIpAttributes_even hattr hencode globals hused) rfl hfirst
  obtain ⟨others, rfl, hothers⟩ := encodeAttributes_stable
    (fun attr hattr => ObjectConfig.tcpIpAttributes_stable hattr) hlast
  refine ⟨parts ++ others, ?_, ?_⟩
  · rw [List.nil_append, List.flatten_append]
  · rw [← List.take_append_drop 6 objects.tcpIpAttributes, List.filter_append]
    exact List.rel_append hparts hothers

theorem ObjectConfig.Instance.parts {classCode : UInt32} (h : objects.Instance classCode attributes)
    (hencoded : encodeAttributes cipClass globals attributes [] = .ok message') :
    ∃ parts, message' = parts.flatten ∧
      List.Forall₂ (Encodes globals) (attributes.filter cipClass.takes) parts := by
  cases h with
  | none => exact encodeAttributes_stable (List.forall_mem_nil _) hencoded
  | identity => exact encodeAttributes_stable (fun _ => identityAttributes_stable) hencoded
  | tcpIp => exact encodeAttributes_tcpIp hencoded
  | ethernetLink => exact encodeAttributes_stable (fun _ => ethernetLinkAttributes_stable) hencoded
  | qos => exact encodeAttributes_stable (fun _ => qosAttributes_stable) hencoded

end Parts

section Replies

variable {objects : ObjectConfig} {device : DeviceData} {platform : Platform}
  {d d' : Device ObjectData} {epath : Epath} {request : MessageRouterRequest}
  {registered : RegisteredClass ObjectData} {inst : CipInstance ObjectGlobals}
  {service : CipServiceFunction} {attr : CipAttributeStruct ObjectGlobals}
  {status : EipStatus} {response : MessageRouterResponse}

/-- What the reply holds of an attribute: what its register reads, or zeros for an attribute that
has no register. -/
def ServedRequest.Part (served : ServedRequest) (registers : Registers)
    (attr : CipAttributeStruct ObjectGlobals) (part : List UInt8) : Prop :=
  part = (registers { served.epath with attributeNumber := attr.attributeNumber }).getD
    (List.replicate part.length 0)

/-- The attributes of the instance that the request takes, in the order of their insertion. -/
def ServedRequest.taken (served : ServedRequest) (objects : ObjectConfig) :
    List (CipAttributeStruct ObjectGlobals) :=
  allAttributes (insertions (objects.setup served.epath)) served.epath.instanceNumber

theorem reachable_valid (h : objects.Reachable device d) :
    ∃ platform, d.globals.application.Valid objects platform := by
  obtain ⟨platform, confFile, first, hstart, hreaches⟩ := h
  obtain ⟨hclasses, hdata⟩ := ObjectConfig.start_spec hstart
  refine (ObjectConfig.powerRun_invariant
    (P := fun data => ∃ platform, data.Valid objects platform) hclasses
    ⟨platform, hdata ▸ startObjects_valid confFile 0⟩ ?_ hreaches).2
  rintro action d data' ⟨platform, hvalid⟩ - hpower
  exact ⟨_, hpower.valid hvalid⟩

theorem StackClasses.registrations_nodup {σ : Type} {classes : StackClasses σ} :
    (classes.registrations.map ClassRegistration.classCode).Nodup := by
  cases hdlr : classes.isDlrDevice with
  | true =>
      rw [StackClasses.registrations, hdlr]
      exact show List.Nodup [messageRouterClassCode, identityClassCode, tcpIpInterfaceClassCode,
        ethernetLinkClassCode, connectionManagerClassCode, assemblyClassCode, dlrClassCode,
        qosClassCode] by decide
  | false =>
      rw [StackClasses.registrations, hdlr]
      exact show List.Nodup [messageRouterClassCode, identityClassCode, tcpIpInterfaceClassCode,
        ethernetLinkClassCode, connectionManagerClassCode, assemblyClassCode, qosClassCode]
        by decide

/-- A class is registered once. -/
theorem StackClasses.registration_eq {σ : Type} {classes : StackClasses σ}
    {registration other : ClassRegistration σ} (hmem : registration ∈ classes.registrations)
    (hother : other ∈ classes.registrations) (hcode : registration.classCode = other.classCode) :
    registration = other :=
  List.inj_on_of_nodup_map registrations_nodup hmem hother hcode

/-- The assemblies are not read as a whole. -/
theorem StackClasses.registrations_all {σ : Type} {classes : StackClasses σ}
    {registration : ClassRegistration σ} (hmem : registration ∈ classes.registrations)
    (hclass : registration.classCode = assemblyClassCode) {instanceNumber : UInt16} {code : UInt8} :
    Assignments.lastAssigned (registration.services instanceNumber) code ≠
      some .getAttributeAll := by
  intro hassigned
  have hassembly : assemblyRegistration classes.assemblyInstances ∈ classes.registrations := by
    simp [StackClasses.registrations]
  cases StackClasses.registration_eq hmem hassembly hclass
  have hentry := lastAssigned_mem hassigned
  rw [ClassRegistration.services] at hentry
  split at hentry
  · simp [assemblyRegistration] at hentry
  · simp [assemblyRegistration] at hentry

theorem ethernetLink_numberOfAttributes {registration : ClassRegistration ObjectData}
    (hmem : registration ∈ objects.stackClasses.registrations)
    (hclass : registration.classCode = ethernetLinkClassCode) :
    registration.numberOfInstanceAttributes = 11 := by
  have hlink : ethernetLinkRegistration objects.stackClasses.interfaceControl
      objects.stackClasses.ethernetLinkInstances ∈ objects.stackClasses.registrations := by
    simp [StackClasses.registrations]
  rw [StackClasses.registration_eq hmem hlink hclass]
  rfl

/-- The attributes of the instance that is called are those of one object. -/
theorem Device.Calls.instanceAttributes
    (h : d.Calls objects.stackClasses epath request registered inst service)
    (hclass : epath.classId.toUInt32 ≠ assemblyClassCode) (hinstance : epath.instanceNumber ≠ 0) :
    objects.Instance epath.classId.toUInt32
      (Opener.instanceAttributes (insertions (objects.setup epath)) epath.instanceNumber) := by
  have hsetup : objects.setup epath = (objects.attributes epath.classId.toUInt32).instanceSetup :=
    if_neg hinstance
  rw [hsetup]
  refine ObjectConfig.instanceAttributes_instance hclass fun hcode => ?_
  obtain ⟨inserted, hcreated, -⟩ := h.classOf
  obtain ⟨hmem, hnumber⟩ := h.instance_mem
  obtain ⟨registration, hregistered, hregistration, hclasses, -⟩ := h.created
  obtain ⟨free, hslots⟩ := hcreated.holds.slots inst hmem
  have hlength := hcreated.all.slots inst hmem
  rw [hslots, List.length_append, RegisteredClass.classOf, if_neg hinstance,
    hclasses.numberOfAttributes,
    ethernetLink_numberOfAttributes hregistered (hregistration.trans hcode), hnumber, hsetup]
    at hlength
  rw [Opener.instanceAttributes]
  omega

theorem Device.Calls.unique
    (h : d.Calls objects.stackClasses epath request registered inst service)
    (hclass : epath.classId.toUInt32 ≠ assemblyClassCode) : UniqueNumbers
      (Opener.instanceAttributes (insertions (objects.setup epath)) epath.instanceNumber) := by
  by_cases hinstance : epath.instanceNumber = 0
  · rw [ObjectConfig.setup, ClassAttributes.setup, if_pos hinstance, hinstance]
    exact objects.classObject_unique _
  · exact (h.instanceAttributes hclass hinstance).unique

/-- The parts of the reply, one for each attribute that is taken. -/
theorem Device.Calls.parts
    (h : d.Calls objects.stackClasses epath request registered inst service)
    (hclass : epath.classId.toUInt32 ≠ assemblyClassCode) {cipClass : CipClass ObjectGlobals}
    {message : List UInt8}
    (hencoded : encodeAttributes cipClass d.globals (Opener.instanceAttributes
      (insertions (objects.setup epath)) epath.instanceNumber) [] = .ok message) :
    ∃ parts, message = parts.flatten ∧ List.Forall₂ (Encodes d.globals)
      ((Opener.instanceAttributes (insertions (objects.setup epath))
        epath.instanceNumber).filter cipClass.takes) parts := by
  by_cases hinstance : epath.instanceNumber = 0
  · refine encodeAttributes_stable (fun attr hattr => ?_) hencoded
    have hmem := mem_instanceAttributes.mp hattr
    rw [ObjectConfig.setup, ClassAttributes.setup, if_pos hinstance] at hmem
    rcases objects.classSetup_eq epath.classId.toUInt32 with hnone | ⟨_, _, _, _, _, -, heq⟩
    · rw [hnone] at hmem
      cases hmem
    · rw [heq] at hmem
      exact ObjectConfig.insertClassAttributes_stable hmem
  · exact (h.instanceAttributes hclass hinstance).parts hencoded

/-- An attribute that is taken reads as its register, or fills the reply with zeros. -/
theorem Device.Calls.part (hstarted : d.Started objects)
    (hvalid : d.globals.application.Valid objects platform)
    (h : d.Calls objects.stackClasses epath request registered inst service)
    (hclass : epath.classId.toUInt32 ≠ assemblyClassCode)
    (hattr : attr ∈ (ServedRequest.mk epath request response).taken objects) {part : List UInt8}
    (hpart : Encodes d.globals attr part) :
    (ServedRequest.mk epath request response).Part d.registers attr part := by
  obtain ⟨encode, hencode, rfl⟩ := hpart
  obtain ⟨hmem, htaken⟩ := List.mem_filter.mp hattr
  have hregister : d.registers { epath with attributeNumber := attr.attributeNumber } =
      insertedValue (objects.setup epath) epath.instanceNumber attr.attributeNumber d.globals := by
    rw [hstarted.registers]
    exact if_neg hclass
  rw [ServedRequest.Part, hregister, insertedValue]
  cases hsingle : allows (insertions (objects.setup epath)) getableSingle attr.attributeNumber with
  | true =>
      rw [insertedAttribute_of_nodup (h.unique hclass).nodup hmem, Option.bind_some, hencode]
      rfl
  | false =>
      have hinserted := mem_instanceAttributes.mp hmem
      have hflag : attr.has getableSingle = false := by
        have hcall := List.any_eq_false.mp hsingle (epath.instanceNumber, attr)
          (mem_insertions.mpr hinserted)
        simpa using hcall
      exact ObjectConfig.setup_fills hvalid hclass hinserted htaken hflag encode hencode

theorem getAttributeAll_parts (hstarted : d.Started objects)
    (hvalid : d.globals.application.Valid objects platform)
    (h : d.Calls objects.stackClasses epath request registered inst .getAttributeAll)
    (hclass : epath.classId.toUInt32 ≠ assemblyClassCode) {globals' : ObjectGlobals}
    (hserved : getAttributeAll (registered.classOf epath.instanceNumber).toCipClass
      (registered.classOf epath.instanceNumber).numberOfAttributes inst request d.globals =
        .ok (response, globals'))
    (hsuccess : response.generalStatus = GeneralStatus.success) :
    ∃ parts, response.message = parts.flatten ∧
      List.Forall₂ ((ServedRequest.mk epath request response).Part d.registers)
        ((ServedRequest.mk epath request response).taken objects) parts := by
  obtain ⟨inserted, hcreated, -⟩ := h.classOf
  obtain ⟨hmem, hnumber⟩ := h.instance_mem
  have hzero : allows (insertions (objects.setup epath)) (getableAll ||| getableAllDummy) 0 =
      false := by
    refine List.any_eq_false.mpr fun ⟨number, attr⟩ hcall hmatch => ?_
    rw [Bool.and_eq_true, decide_eq_true_eq] at hmatch
    exact ObjectConfig.setup_number hclass (mem_insertions.mp hcall) hmatch.1
  obtain ⟨-, hencoded⟩ :=
    getAttributeAll_message hcreated.holds hcreated.all hzero hmem hserved hsuccess
  rw [hnumber] at hencoded
  obtain ⟨parts, hmessage, hparts⟩ := h.parts hclass hencoded
  have htakes : (Opener.instanceAttributes (insertions (objects.setup epath))
      epath.instanceNumber).filter (registered.classOf epath.instanceNumber).toCipClass.takes =
        (ServedRequest.mk epath request response).taken objects :=
    List.filter_congr fun attr _ => hcreated.all.mask attr.attributeNumber
  rw [htakes] at hparts
  refine ⟨parts, hmessage, ?_⟩
  have htaken := (List.forall₂_and_left
    (p := (· ∈ (ServedRequest.mk epath request response).taken objects)) _ _).mpr
    ⟨fun _ hattr => hattr, hparts⟩
  exact htaken.imp fun attr part ⟨hattr, hpart⟩ => h.part hstarted hvalid hclass hattr hpart

/-- In every reachable state, Get_Attributes_All answers with what Get_Attribute_Single reads
of the attributes of the instance, one behind the other, and changes no register. -/
theorem attributesAll_agree (hreachable : objects.Reachable device d) {cfg : Config}
    {env : Environment} {front : List UInt8} {data : Message} {dataLength : UInt16}
    {originatorAddress : SockaddrIn} {encapsulationSession : UInt32}
    (hparse : createMessageRouterRequestStructure data dataLength = .ok (epath, request))
    (hservice : request.service = CIPServiceCode.getAttributeAll)
    (hcall : d.notifyMessageRouter cfg env front data dataLength originatorAddress
      encapsulationSession = .ok (status, response, d'))
    (hsuccess : response.generalStatus = GeneralStatus.success) :
    d'.registers = d.registers ∧ ∃ parts, response.message = parts.flatten ∧
      List.Forall₂ ((ServedRequest.mk epath request response).Part d.registers)
        ((ServedRequest.mk epath request response).taken objects) parts := by
  have hstarted := reachable_started hreachable
  obtain ⟨platform, hvalid⟩ := reachable_valid hreachable
  obtain ⟨-, hstep⟩ := notifyMessageRouter_registers hstarted hparse hcall
  refine ⟨?_, ?_⟩
  · rw [hstep.writes]
    refine write_other ?_ ?_ d.registers
    · exact hservice ▸ show CIPServiceCode.getAttributeAll ≠ _ by decide
    · exact hservice ▸ show CIPServiceCode.getAttributeAll ≠ _ by decide
  · rcases Device.notifyMessageRouter_cases hstarted.classes hparse hcall with
      ⟨-, hstatus, -⟩ | ⟨registered, inst, service, front', hcalls, hserved⟩
    · exact absurd hsuccess hstatus
    · cases hcalls.code.all.mp hservice
      obtain ⟨⟨answer, globals⟩, hanswered, hanswer⟩ := Device.map_ok hserved
      cases hanswer
      have hclass : epath.classId.toUInt32 ≠ assemblyClassCode := by
        intro hassembly
        obtain ⟨registration, hmem, hcode, -, hassigned⟩ := hcalls.created
        exact StackClasses.registrations_all hmem (hcode.trans hassembly) hassigned
      exact getAttributeAll_parts hstarted hvalid hcalls hclass hanswered hsuccess

end Replies

section Sample

namespace SampleApplication

/-- A domain name of three characters is set with an address and a DSCP value, and the device is
reset to its initial configuration. -/
def setAndReset : List (Environment × List UInt8 × StackState.Action) :=
  [register, send 1 (setRequest 0xF5 3 [0, 0, 0, 0]),
    send 1 (setRequest 0xF5 5 ([7, 0, 0, 10, 0, 0, 0, 255] ++ List.replicate 12 0 ++
      [3, 0, 0x61, 0x2E, 0x62, 0])),
    send 1 (setRequest 0x48 4 [10]), send 1 [0x05, 2, 0x20, 1, 0x24, 1, 1]].map
    fun label => (label.1, [], label.2)

/-- A Get_Attributes_All request for the TCP/IP interface object. -/
def getAllRequest : Message := [0x01, 2, 0x20, 0xF5, 0x24, 1]

/-- The reply of the device, if the request is served. -/
def repliesAll (check : List UInt8 → Bool) (d : Device ObjectData) : Bool :=
  match createMessageRouterRequestStructure getAllRequest 6,
    d.notifyMessageRouter config objects.environment [] getAllRequest 6 originator 1 with
  | .ok (_, request), .ok (_, response, _) =>
      request.service = CIPServiceCode.getAttributeAll &&
        response.generalStatus = GeneralStatus.success && check response.message
  | _, _ => false

end SampleApplication

open SampleApplication in
/-- The domain name of three characters is padded, and the host name follows. -/
theorem attributesAll_agree_padded :
    ∃ (d d' : Device ObjectData) (served : ServedRequest),
      (served.response.message.drop 38).take 8 = [3, 0, 0x61, 0x2E, 0x62, 0, 6, 0] ∧
      d'.registers = d.registers ∧ ∃ parts, served.response.message = parts.flatten ∧
        List.Forall₂ (served.Part d.registers) (served.taken objects) parts := by
  obtain ⟨first, d, hstart, hrun, hcheck⟩ := run_of_powerEnds none (setAndReset.map onStep)
    (repliesAll fun message => (message.drop 38).take 8 = [3, 0, 0x61, 0x2E, 0x62, 0, 6, 0])
    (by decide +kernel)
  rw [repliesAll] at hcheck
  split at hcheck
  · rename_i epath request status response d' hparse hcall
    simp only [Bool.and_eq_true, decide_eq_true_eq] at hcheck
    obtain ⟨⟨hservice, hsuccess⟩, hbytes⟩ := hcheck
    have hreachable : objects.Reachable deviceData d :=
      ⟨platform, none, first, hstart, Runs.reaches_of_runLabels hrun⟩
    exact ⟨d, d', ⟨epath, request, response⟩, hbytes,
      attributesAll_agree hreachable hparse hservice hcall hsuccess⟩
  · cases hcheck

end Sample

end Opener

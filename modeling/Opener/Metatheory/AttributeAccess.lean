import Opener.Core.EthernetLink

/-!
Who may get and set an attribute. The masks of a class collect the permissions of all its
instances, so an attribute is guarded by what any instance allows for its number.
-/

namespace Opener

open CIPAttributeFlag

variable {σ : Type}

/-- The attributes that were inserted, with the instance of each. -/
def insertions (calls : List (ClassSetup σ)) : List (UInt16 × CipAttributeStruct σ) :=
  calls.filterMap fun call =>
    match call with
    | .insertAttribute instanceNumber attr => some (instanceNumber, attr)
    | .insertGetSetCallback _ _ => none

/-- Some instance has the number with one of the flags. -/
def allows (log : List (UInt16 × CipAttributeStruct σ)) (flags : UInt8)
    (attributeNumber : UInt16) : Bool :=
  log.any fun call => call.2.attributeNumber = attributeNumber && call.2.has flags

/-- The class is what the insertions made of it. -/
structure CipClass.Holds (cipClass : CipClass σ)
    (log : List (UInt16 × CipAttributeStruct σ)) : Prop where
  sameSize : cipClass.setBitMask.length = cipClass.getSingleBitMask.length
  getMask : ∀ number : UInt16,
    BitTable.test cipClass.getSingleBitMask number.toNat = allows log getableSingle number
  setMask : ∀ number : UInt16,
    BitTable.test cipClass.setBitMask number.toNat = allows log setable number
  used : ∀ call ∈ log, call.2.data.isSome
  slots : ∀ inst ∈ cipClass.instances, ∃ free,
    inst.attributes = (log.filter fun call => call.1 = inst.instanceNumber).map Prod.snd ++
      List.replicate free .unused

theorem createCipClass_holds (numberOfAttributes : Nat) (highestAttributeNumber : UInt32)
    (instanceNumbers : List UInt16) :
    (createCipClass (σ := σ) numberOfAttributes highestAttributeNumber instanceNumbers).Holds
      [] := by
  refine ⟨rfl, ?_, ?_, List.forall_mem_nil _, ?_⟩
  · exact fun number => BitTable.test_replicate _ _
  · exact fun number => BitTable.test_replicate _ _
  · intro inst hinst
    obtain ⟨instanceNumber, -, rfl⟩ := List.mem_map.mp hinst
    exact ⟨numberOfAttributes, rfl⟩

theorem fillSlot_append {attr : CipAttributeStruct σ} {used slots : List (CipAttributeStruct σ)}
    (hused : ∀ slot ∈ used, slot.data.isSome) {free : Nat}
    (h : fillSlot attr (used ++ List.replicate free .unused) = some slots) :
    ∃ left, slots = used ++ [attr] ++ List.replicate left .unused := by
  induction used generalizing slots with
  | nil =>
      cases free with
      | zero => cases h
      | succ free =>
          cases h
          exact ⟨free, rfl⟩
  | cons slot used ih =>
      obtain ⟨hslot, hused⟩ := List.forall_mem_cons.mp hused
      have hfull : ¬slot.data.isNone = true := by
        rw [Option.isNone_iff_eq_none]
        intro hnone
        rw [hnone] at hslot
        cases hslot
      rw [List.cons_append, fillSlot, if_neg hfull] at h
      obtain ⟨rest, hrest, rfl⟩ := Option.map_eq_some_iff.mp h
      obtain ⟨left, rfl⟩ := ih hused hrest
      exact ⟨left, rfl⟩

theorem insertAttribute_ok {cipClass cipClass' : CipClass σ} {instanceNumber : UInt16}
    {attr : CipAttributeStruct σ}
    (h : insertAttribute cipClass instanceNumber attr = .ok cipClass') :
    ∃ inst attributes, cipClass.getCipInstance instanceNumber = some inst ∧
      attr.data.isSome ∧ fillSlot attr inst.attributes = some attributes ∧
      calculateIndex attr.attributeNumber < cipClass.getSingleBitMask.length ∧
      cipClass'.instances = (cipClass.setAttributes instanceNumber attributes).instances ∧
      cipClass'.getSingleBitMask = BitTable.mark cipClass.getSingleBitMask
        attr.attributeNumber.toNat (attr.has getableSingle) ∧
      cipClass'.setBitMask = BitTable.mark cipClass.setBitMask attr.attributeNumber.toNat
        (attr.has setable) := by
  simp only [insertAttribute] at h
  split at h
  · cases h
  · rename_i inst hinst
    split at h
    · cases h
    · rename_i hdata
      split at h
      · cases h
      · rename_i attributes hfill
        split at h
        · cases h
        · split at h
          · cases h
          · rename_i hindex
            cases h
            rw [Bool.not_eq_true, Option.isNone_eq_false_iff] at hdata
            exact ⟨inst, attributes, hinst, hdata, hfill, not_not.mp hindex, rfl, rfl, rfl⟩

theorem test_mark_allows {mask : List UInt8} {log : List (UInt16 × CipAttributeStruct σ)}
    {flags : UInt8} {attr : CipAttributeStruct σ}
    (hindex : calculateIndex attr.attributeNumber < mask.length)
    (hmask : ∀ number : UInt16, BitTable.test mask number.toNat = allows log flags number)
    (instanceNumber number : UInt16) :
    BitTable.test (BitTable.mark mask attr.attributeNumber.toNat (attr.has flags))
        number.toNat =
      allows (log ++ [(instanceNumber, attr)]) flags number := by
  have hsame : (attr.attributeNumber.toNat == number.toNat) =
      decide (attr.attributeNumber = number) := by
    rw [Bool.eq_iff_iff, beq_iff_eq, decide_eq_true_iff, UInt16.toNat_inj]
  rw [BitTable.test_mark hindex, hmask, hsame, Bool.and_comm]
  simp only [allows, List.any_append, List.any_cons, List.any_nil, Bool.or_false]

theorem CipClass.Holds.insert {cipClass cipClass' : CipClass σ}
    {log : List (UInt16 × CipAttributeStruct σ)} (hholds : cipClass.Holds log)
    {instanceNumber : UInt16} {attr : CipAttributeStruct σ}
    (h : insertAttribute cipClass instanceNumber attr = .ok cipClass') :
    cipClass'.Holds (log ++ [(instanceNumber, attr)]) := by
  obtain ⟨inst, attributes, hinst, hdata, hfill, hindex, hinstances, hget, hset⟩ :=
    insertAttribute_ok h
  refine ⟨?_, ?_, ?_, ?_, ?_⟩
  · rw [hget, hset, BitTable.length_mark, BitTable.length_mark, hholds.sameSize]
  · rw [hget]
    exact test_mark_allows hindex hholds.getMask instanceNumber
  · rw [hset]
    exact test_mark_allows (hholds.sameSize ▸ hindex) hholds.setMask instanceNumber
  · intro call hcall
    obtain hcall | hcall := List.mem_append.mp hcall
    · exact hholds.used call hcall
    · rw [List.mem_singleton.mp hcall]
      exact hdata
  · intro other hother
    rw [hinstances] at hother
    obtain ⟨before, hbefore, rfl⟩ := List.mem_map.mp hother
    split
    · rename_i hnumber
      rw [CipClass.getCipInstance] at hinst
      have hfound : inst.instanceNumber = instanceNumber := by simpa using List.find?_some hinst
      obtain ⟨free, hslots⟩ := hholds.slots inst (List.mem_of_find?_eq_some hinst)
      have hused : ∀ slot ∈ (log.filter fun call => call.1 = inst.instanceNumber).map Prod.snd,
          slot.data.isSome := by
        intro slot hslot
        obtain ⟨call, hcall, rfl⟩ := List.mem_map.mp hslot
        exact hholds.used call (List.mem_of_mem_filter hcall)
      rw [hslots] at hfill
      obtain ⟨left, rfl⟩ := fillSlot_append hused hfill
      refine ⟨left, ?_⟩
      simp [List.filter_append, hnumber, hfound]
    · rename_i hnumber
      obtain ⟨free, hslots⟩ := hholds.slots before hbefore
      refine ⟨free, ?_⟩
      simp [List.filter_append, hslots, Ne.symm hnumber]

theorem CipClass.Holds.callback {cipClass : CipClass σ}
    {log : List (UInt16 × CipAttributeStruct σ)} (hholds : cipClass.Holds log)
    (callback : CipGetSetCallback σ) (callbacksToInstall : UInt8) :
    (insertGetSetCallback cipClass callback callbacksToInstall).Holds log :=
  ⟨hholds.sameSize, hholds.getMask, hholds.setMask, hholds.used, hholds.slots⟩

theorem setUpClass_holds {calls : List (ClassSetup σ)} {cipClass cipClass' : CipClass σ}
    {log : List (UInt16 × CipAttributeStruct σ)} (hholds : cipClass.Holds log)
    (h : setUpClass cipClass calls = .ok cipClass') :
    cipClass'.Holds (log ++ insertions calls) := by
  induction calls generalizing cipClass log with
  | nil =>
      cases h
      rwa [insertions, List.filterMap_nil, List.append_nil]
  | cons call calls ih =>
      cases call with
      | insertAttribute instanceNumber attr =>
          rw [setUpClass] at h
          cases hinsert : insertAttribute cipClass instanceNumber attr with
          | error fault =>
              rw [hinsert] at h
              cases h
          | ok next =>
              rw [hinsert] at h
              have hrest := ih (hholds.insert hinsert) h
              rwa [List.append_assoc] at hrest
      | insertGetSetCallback callback callbacksToInstall =>
          exact ih (hholds.callback callback callbacksToInstall) h

/-- The attribute of an instance is the one inserted there first with the number. -/
theorem CipClass.Holds.lookup {cipClass : CipClass σ}
    {log : List (UInt16 × CipAttributeStruct σ)} (hholds : cipClass.Holds log)
    {inst : CipInstance σ} (hinst : inst ∈ cipClass.instances) {attributeNumber : UInt16}
    {call : UInt16 × CipAttributeStruct σ}
    (h : log.find? (fun call =>
      call.1 = inst.instanceNumber && call.2.attributeNumber = attributeNumber) = some call) :
    getCipAttribute inst attributeNumber = some call.2 := by
  obtain ⟨free, hslots⟩ := hholds.slots inst hinst
  have hused : (((log.filter fun call => call.1 = inst.instanceNumber).map Prod.snd).find?
      fun attr => attr.attributeNumber = attributeNumber) = some call.2 := by
    simp only [List.find?_map, List.find?_filter, Function.comp_def, decide_eq_true_eq,
      Bool.decide_and, h, Option.map_some]
  rw [getCipAttribute, hslots, List.find?_append, hused]
  rfl

/-- The attribute may be got, or set, only when its own flags say so, and what may be got
is always returned. -/
structure FollowsFlags (cipClass : CipClass σ) (inst : CipInstance σ)
    (attr : CipAttributeStruct σ) : Prop where
  get : ∀ request state response state',
    getAttributeSingle cipClass inst attr.attributeNumber request state =
      .ok (response, state') →
    response.generalStatus = GeneralStatus.success → attr.has getableSingle = true
  set : ∀ request state response state',
    setAttributeSingle cipClass inst attr.attributeNumber request state =
      .ok (response, state') →
    state' ≠ state → attr.has setable = true
  returned : attr.has getableSingle = true → ∀ request state, ∃ response state',
    getAttributeSingle cipClass inst attr.attributeNumber request state =
        .ok (response, state') ∧
      response.generalStatus = GeneralStatus.success

/-- What the other instances allow for the number does not reach beyond the own flags. -/
structure FlagsAgree (cipClass : CipClass σ) (inst : CipInstance σ)
    (log : List (UInt16 × CipAttributeStruct σ)) (attr : CipAttributeStruct σ) : Prop where
  encodes : attr.has getableSingle = true → attr.encode.isSome
  get : attr.has getableSingle = true ∨ attr.encode = none ∨
    allows log getableSingle attr.attributeNumber = false
  set : attr.has setable = true ∨
    attr.attributeFlags ∈ [getableAllDummy, notSetOrGetable, getableAll] ∨
    allows log setable attr.attributeNumber = false ∨
    ∀ decode, attr.decode = some decode → ∀ request state,
      (decodeAttribute cipClass inst attr decode request state).2 = state

section Services

variable {cipClass : CipClass σ} {inst : CipInstance σ} {attr : CipAttributeStruct σ}
  (request : MessageRouterRequest) (state : σ)

theorem getAttributeSingle_masked
    (hlookup : getCipAttribute inst attr.attributeNumber = some attr)
    (hmask : BitTable.test cipClass.getSingleBitMask attr.attributeNumber.toNat = false) :
    getAttributeSingle cipClass inst attr.attributeNumber request state =
      .ok (attributeSingleHeader request, state) := by
  simp only [getAttributeSingle, hlookup, hmask]
  split <;> rfl

theorem getAttributeSingle_granted
    (hlookup : getCipAttribute inst attr.attributeNumber = some attr)
    (hdata : attr.data.isSome)
    (hmask : BitTable.test cipClass.getSingleBitMask attr.attributeNumber.toNat = true)
    {encode : CipAttributeEncodeInMessage σ} (hencode : attr.encode = some encode) :
    ∃ response state',
      getAttributeSingle cipClass inst attr.attributeNumber request state =
          .ok (response, state') ∧
        response.generalStatus = GeneralStatus.success := by
  have hslot : ¬attr.data.isNone = true := by rw [Option.isNone_eq_false_iff.mpr hdata]; nofun
  simp only [getAttributeSingle, hlookup, if_neg hslot, hmask, if_true, hencode]
  exact ⟨_, _, rfl, rfl⟩

theorem getAttributeSingle_null
    (hlookup : getCipAttribute inst attr.attributeNumber = some attr)
    (hdata : attr.data.isSome)
    (hmask : BitTable.test cipClass.getSingleBitMask attr.attributeNumber.toNat = true)
    (hencode : attr.encode = none) :
    getAttributeSingle cipClass inst attr.attributeNumber request state =
      .error .nullFunctionCall := by
  have hslot : ¬attr.data.isNone = true := by rw [Option.isNone_eq_false_iff.mpr hdata]; nofun
  simp only [getAttributeSingle, hlookup, if_neg hslot, hmask, if_true, hencode]

theorem setAttributeSingle_refused
    (hlookup : getCipAttribute inst attr.attributeNumber = some attr)
    (hrefused : attr.attributeFlags ∈ [getableAllDummy, notSetOrGetable, getableAll] ∨
      BitTable.test cipClass.setBitMask attr.attributeNumber.toNat = false) :
    ∃ response, setAttributeSingle cipClass inst attr.attributeNumber request state =
      .ok (response, state) := by
  simp only [setAttributeSingle, hlookup]
  split
  · exact ⟨_, rfl⟩
  · split
    · exact ⟨_, rfl⟩
    · rename_i hflags
      have hmask := hrefused.resolve_left fun hmem => hflags (by simpa using hmem)
      rw [hmask]
      exact ⟨_, rfl⟩

theorem setAttributeSingle_granted
    (hlookup : getCipAttribute inst attr.attributeNumber = some attr)
    (hdata : attr.data.isSome)
    (hflags : attr.attributeFlags ∉ [getableAllDummy, notSetOrGetable, getableAll])
    (hmask : BitTable.test cipClass.setBitMask attr.attributeNumber.toNat = true)
    {decode : CipAttributeDecodeFromMessage σ} (hdecode : attr.decode = some decode) :
    ∃ response, setAttributeSingle cipClass inst attr.attributeNumber request state =
      .ok (response, (decodeAttribute cipClass inst attr decode request state).2) := by
  have hslot : ¬attr.data.isNone = true := by rw [Option.isNone_eq_false_iff.mpr hdata]; nofun
  have hflags' : ¬(attr.attributeFlags = getableAllDummy ∨
      attr.attributeFlags = notSetOrGetable ∨ attr.attributeFlags = getableAll) := by
    simpa using hflags
  simp only [setAttributeSingle, hlookup, if_neg hslot, if_neg hflags', hmask, if_true,
    hdecode]
  exact ⟨_, rfl⟩

theorem setAttributeSingle_null
    (hlookup : getCipAttribute inst attr.attributeNumber = some attr)
    (hdata : attr.data.isSome)
    (hflags : attr.attributeFlags ∉ [getableAllDummy, notSetOrGetable, getableAll])
    (hmask : BitTable.test cipClass.setBitMask attr.attributeNumber.toNat = true)
    (hdecode : attr.decode = none) :
    setAttributeSingle cipClass inst attr.attributeNumber request state =
      .error .nullFunctionCall := by
  have hslot : ¬attr.data.isNone = true := by rw [Option.isNone_eq_false_iff.mpr hdata]; nofun
  have hflags' : ¬(attr.attributeFlags = getableAllDummy ∨
      attr.attributeFlags = notSetOrGetable ∨ attr.attributeFlags = getableAll) := by
    simpa using hflags
  simp only [setAttributeSingle, hlookup, if_neg hslot, if_neg hflags', hmask, if_true,
    hdecode]

end Services

/-- The guards of an attribute against the flags that it was inserted with. -/
theorem CipClass.Holds.followsFlags_iff [Inhabited σ] {cipClass : CipClass σ}
    {log : List (UInt16 × CipAttributeStruct σ)} (hholds : cipClass.Holds log)
    {inst : CipInstance σ} {call : UInt16 × CipAttributeStruct σ} (hcall : call ∈ log)
    (hlookup : getCipAttribute inst call.2.attributeNumber = some call.2) :
    FollowsFlags cipClass inst call.2 ↔ FlagsAgree cipClass inst log call.2 := by
  have hdata := hholds.used call hcall
  have hget := hholds.getMask call.2.attributeNumber
  have hset := hholds.setMask call.2.attributeNumber
  have hown : call.2.has getableSingle = true →
      allows log getableSingle call.2.attributeNumber = true := by
    intro hhas
    rw [allows, List.any_eq_true]
    exact ⟨call, hcall, by simp [hhas]⟩
  let request : MessageRouterRequest := ⟨0, 0, []⟩
  constructor
  · intro h
    refine ⟨?_, ?_, ?_⟩
    · intro hhas
      cases hencode : call.2.encode with
      | some encode => rfl
      | none =>
          obtain ⟨response, state', hok, -⟩ := h.returned hhas request default
          rw [getAttributeSingle_null _ _ hlookup hdata (hget.trans (hown hhas)) hencode] at hok
          cases hok
    · cases hencode : call.2.encode with
      | none => exact .inr (.inl rfl)
      | some encode =>
          cases hallows : allows log getableSingle call.2.attributeNumber with
          | false => exact .inr (.inr rfl)
          | true =>
              obtain ⟨response, state', hok, hsuccess⟩ :=
                getAttributeSingle_granted request default hlookup hdata
                  (hget.trans hallows) hencode
              exact .inl (h.get request default response state' hok hsuccess)
    · by_cases hflags : call.2.attributeFlags ∈ [getableAllDummy, notSetOrGetable, getableAll]
      · exact .inr (.inl hflags)
      · cases hallows : allows log setable call.2.attributeNumber with
        | false => exact .inr (.inr (.inl rfl))
        | true =>
            by_cases hhas : call.2.has setable = true
            · exact .inl hhas
            · refine .inr (.inr (.inr fun decode hdecode request state => ?_))
              by_contra hchanged
              obtain ⟨response, hok⟩ := setAttributeSingle_granted request state hlookup hdata
                hflags (hset.trans hallows) hdecode
              exact hhas (h.set request state response _ hok hchanged)
  · intro h
    refine ⟨?_, ?_, ?_⟩
    · intro request state response state' hok hsuccess
      obtain hhas | hencode | hallows := h.get
      · exact hhas
      · cases hmask : BitTable.test cipClass.getSingleBitMask call.2.attributeNumber.toNat with
        | false =>
            cases (getAttributeSingle_masked request state hlookup hmask).symm.trans hok
            cases hsuccess
        | true =>
            cases (getAttributeSingle_null request state hlookup hdata hmask hencode).symm.trans
              hok
      · cases (getAttributeSingle_masked request state hlookup (hget.trans hallows)).symm.trans
          hok
        cases hsuccess
    · intro request state response state' hok hchanged
      -- a refused attribute is unchanged, and so is one whose decoding changes nothing
      have hunchanged : ∀ {response₁ : MessageRouterResponse},
          setAttributeSingle cipClass inst call.2.attributeNumber request state =
            .ok (response₁, state) → call.2.has setable = true := by
        intro response₁ hok₁
        cases hok₁.symm.trans hok
        exact absurd rfl hchanged
      obtain hhas | hflags | hallows | hinert := h.set
      · exact hhas
      · obtain ⟨_, hok₁⟩ := setAttributeSingle_refused request state hlookup (.inl hflags)
        exact hunchanged hok₁
      · obtain ⟨_, hok₁⟩ := setAttributeSingle_refused request state hlookup
          (.inr (hset.trans hallows))
        exact hunchanged hok₁
      · by_cases hrefused : call.2.attributeFlags ∈
            [getableAllDummy, notSetOrGetable, getableAll] ∨
          BitTable.test cipClass.setBitMask call.2.attributeNumber.toNat = false
        · obtain ⟨_, hok₁⟩ := setAttributeSingle_refused request state hlookup hrefused
          exact hunchanged hok₁
        · obtain ⟨hflags, hmask⟩ := not_or.mp hrefused
          rw [Bool.not_eq_false] at hmask
          cases hdecode : call.2.decode with
          | none =>
              cases (setAttributeSingle_null request state hlookup hdata hflags hmask
                hdecode).symm.trans hok
          | some decode =>
              obtain ⟨_, hok₁⟩ := setAttributeSingle_granted request state hlookup hdata hflags
                hmask hdecode
              rw [hinert decode hdecode] at hok₁
              exact hunchanged hok₁
    · intro hhas request state
      obtain ⟨encode, hencode⟩ := Option.isSome_iff_exists.mp (h.encodes hhas)
      exact getAttributeSingle_granted request state hlookup hdata (hget.trans (hown hhas)) hencode

/-- In a class that was set up by any calls, the first attribute with its number in an
instance is guarded by its own flags exactly when those of the other instances agree. -/
theorem attribute_followsFlags_iff [Inhabited σ] {numberOfAttributes : Nat}
    {highestAttributeNumber : UInt32} {instanceNumbers : List UInt16}
    {calls : List (ClassSetup σ)} {cipClass : CipClass σ}
    (hsetup : setUpClass (createCipClass numberOfAttributes highestAttributeNumber
      instanceNumbers) calls = .ok cipClass)
    {inst : CipInstance σ} (hinst : inst ∈ cipClass.instances) {attributeNumber : UInt16}
    {call : UInt16 × CipAttributeStruct σ}
    (hcall : (insertions calls).find? (fun call =>
      call.1 = inst.instanceNumber && call.2.attributeNumber = attributeNumber) = some call) :
    FollowsFlags cipClass inst call.2 ↔
      FlagsAgree cipClass inst (insertions calls) call.2 := by
  have hholds := setUpClass_holds
    (createCipClass_holds numberOfAttributes highestAttributeNumber instanceNumbers) hsetup
  rw [List.nil_append] at hholds
  have hnumber : call.2.attributeNumber = attributeNumber := by
    have hfound := List.find?_some hcall
    rw [Bool.and_eq_true, decide_eq_true_eq, decide_eq_true_eq] at hfound
    exact hfound.2
  have hlookup := hholds.lookup hinst hcall
  rw [← hnumber] at hlookup
  exact hholds.followsFlags_iff (List.mem_of_find?_eq_some hcall) hlookup

/-- The interface control of the first of two external ports. -/
theorem attribute_followsFlags_port :
    ∃ cipClass inst,
      setUpClass (createCipClass 11 11 [1, 2]) (insertInterfaceControl 2) = .ok cipClass ∧
        inst ∈ cipClass.instances ∧ inst.instanceNumber = 1 ∧
        FollowsFlags cipClass inst (interfaceControlAttribute 0) := by
  have hiff := @attribute_followsFlags_iff _ _ 11 11 [1, 2] (insertInterfaceControl 2) _ rfl _
    (List.mem_cons_self ..) 6 (1, interfaceControlAttribute 0) rfl
  exact ⟨_, _, rfl, List.mem_cons_self .., rfl, hiff.mpr ⟨fun _ => rfl, .inl rfl, .inl rfl⟩⟩

/-- The interface control of the internal port is set, though it was inserted without
`kSetable`. -/
theorem internalPort_settable :
    ∃ cipClass inst response,
      setUpClass (createCipClass 11 11 [1, 2, 3]) (insertInterfaceControl 3) = .ok cipClass ∧
      cipClass.getCipInstance 3 = some inst ∧
      getCipAttribute inst 6 = some (interfaceControlAttribute 2) ∧
      (interfaceControlAttribute 2).has setable = false ∧
      setAttributeSingle cipClass inst 6 ⟨0x10, 4, [0x02, 0x00, 0x64, 0x00]⟩
          [⟨1, 0⟩, ⟨1, 0⟩, ⟨1, 0⟩] =
        .ok (response, [⟨1, 0⟩, ⟨1, 0⟩, ⟨2, 100⟩]) := by
  exact ⟨_, _, _, rfl, rfl, rfl, rfl, rfl⟩

end Opener

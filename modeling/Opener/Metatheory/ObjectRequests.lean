import Opener.Metatheory.AllAttributes
import Opener.Metatheory.ApplicationVariables
import Opener.Metatheory.ServiceDispatch

/-!
The requests for the attributes of a started device. A class answers with the services and the
attributes that were inserted into it, and of the registered classes every one is found.
-/

namespace Opener

open CIPAttributeFlag

section Attributes

variable {σ : Type} {cipClass : CipClass σ} {inst : CipInstance σ} {attributeNumber : UInt16}
  {setup : List (ClassSetup σ)}

/-- What Get_Attribute_Single reads, if the attribute can be got. -/
def readAttribute (cipClass : CipClass σ) (inst : CipInstance σ) (attributeNumber : UInt16)
    (state : σ) : Option (List UInt8) :=
  if BitTable.test cipClass.getSingleBitMask attributeNumber.toNat then
    (getCipAttribute inst attributeNumber).bind fun attr =>
      attr.data.bind fun _ => attr.encode.map fun encode => encode state 0
  else none

/-- The attribute with the number that was inserted into the instance first. -/
def insertedAttribute (setup : List (ClassSetup σ)) (instanceNumber attributeNumber : UInt16) :
    Option (CipAttributeStruct σ) :=
  ((insertions setup).find? fun call =>
    call.1 = instanceNumber && call.2.attributeNumber = attributeNumber).map Prod.snd

def insertedValue (setup : List (ClassSetup σ)) (instanceNumber attributeNumber : UInt16)
    (state : σ) : Option (List UInt8) :=
  if allows (insertions setup) getableSingle attributeNumber then
    (insertedAttribute setup instanceNumber attributeNumber).bind fun attr =>
      attr.encode.map fun encode => encode state 0
  else none

theorem insertedAttribute_mem {instanceNumber : UInt16} {attr : CipAttributeStruct σ}
    (h : insertedAttribute setup instanceNumber attributeNumber = some attr) :
    .insertAttribute instanceNumber attr ∈ setup ∧ attr.attributeNumber = attributeNumber := by
  obtain ⟨⟨number, inserted⟩, hfind, rfl⟩ := Option.map_eq_some_iff.mp h
  have hmatch := List.find?_some hfind
  rw [Bool.and_eq_true, decide_eq_true_eq, decide_eq_true_eq] at hmatch
  exact ⟨hmatch.1 ▸ mem_insertions.mp (List.mem_of_find?_eq_some hfind), hmatch.2⟩

/-- Without an attribute that was inserted, only an unused slot can be found. -/
theorem CipClass.Holds.getCipAttribute (hholds : cipClass.Holds (insertions setup))
    (hinst : inst ∈ cipClass.instances) (attributeNumber : UInt16) :
    (∃ attr, insertedAttribute setup inst.instanceNumber attributeNumber = some attr ∧
        getCipAttribute inst attributeNumber = some attr ∧ attr.data.isSome) ∨
      insertedAttribute setup inst.instanceNumber attributeNumber = none ∧
        ∀ attr, Opener.getCipAttribute inst attributeNumber = some attr → attr = .unused := by
  cases hfind : (insertions setup).find? fun call =>
      call.1 = inst.instanceNumber && call.2.attributeNumber = attributeNumber with
  | some call =>
      refine .inl ⟨call.2, ?_, hholds.lookup hinst hfind,
        hholds.used call (List.mem_of_find?_eq_some hfind)⟩
      rw [insertedAttribute, hfind]
      rfl
  | none =>
      refine .inr ⟨by rw [insertedAttribute, hfind]; rfl, fun attr hattr => ?_⟩
      obtain ⟨free, hslots⟩ := hholds.slots inst hinst
      have hnumber : attr.attributeNumber = attributeNumber := by
        simpa using List.find?_some hattr
      have hmem := getCipAttribute_mem hattr
      rw [hslots, List.mem_append] at hmem
      refine List.eq_of_mem_replicate (hmem.resolve_left fun hused => ?_)
      obtain ⟨call, hcall, rfl⟩ := List.mem_map.mp hused
      rw [List.mem_filter, decide_eq_true_eq] at hcall
      exact List.find?_eq_none.mp hfind call hcall.1 (by simp [hcall.2, hnumber])

theorem CipClass.Holds.readAttribute (hholds : cipClass.Holds (insertions setup))
    (hinst : inst ∈ cipClass.instances) (attributeNumber : UInt16) (state : σ) :
    Opener.readAttribute cipClass inst attributeNumber state =
      insertedValue setup inst.instanceNumber attributeNumber state := by
  rw [Opener.readAttribute, insertedValue, hholds.getMask]
  refine if_congr Iff.rfl ?_ rfl
  rcases hholds.getCipAttribute hinst attributeNumber with
    ⟨attr, hinserted, hfound, hdata⟩ | ⟨hinserted, hunused⟩
  · rw [hinserted, hfound, Option.bind_some, Option.bind_some]
    obtain ⟨data, hdata⟩ := Option.isSome_iff_exists.mp hdata
    rw [hdata]
    rfl
  · rw [hinserted, Option.bind_none, Option.bind_eq_none_iff]
    intro attr hattr
    rw [hunused attr hattr]
    rfl

theorem attributeSingleHeader_refuses (request : MessageRouterRequest) :
    (attributeSingleHeader request).generalStatus ≠ GeneralStatus.success :=
  show GeneralStatus.attributeNotSupported ≠ GeneralStatus.success by decide

theorem setAttributeSingle_ok {request : MessageRouterRequest}
    {response : MessageRouterResponse} {state state' : σ}
    (hcall : setAttributeSingle cipClass inst attributeNumber request state =
      .ok (response, state')) :
    state' = state ∧ response.generalStatus ≠ GeneralStatus.success ∨
      ∃ attr decode, getCipAttribute inst attributeNumber = some attr ∧
        attr.decode = some decode ∧ (response.generalStatus, state') =
          decodeAttribute cipClass inst attr decode request state := by
  have hheader := attributeSingleHeader_refuses request
  simp only [setAttributeSingle] at hcall
  split at hcall
  · cases hcall
    exact .inl ⟨rfl, hheader⟩
  · rename_i attr hattr
    split at hcall
    · cases hcall
      exact .inl ⟨rfl, hheader⟩
    · split at hcall
      · cases hcall
        exact .inl ⟨rfl, hheader⟩
      · split at hcall
        · split at hcall
          · cases hcall
          · rename_i decode hdecode
            cases hcall
            exact .inr ⟨attr, decode, hattr, hdecode, rfl⟩
        · cases hcall
          exact .inl ⟨rfl, show GeneralStatus.attributeNotSetable ≠ _ by decide⟩

section Single

variable {V : σ → σ → Prop} {request : MessageRouterRequest} {response : MessageRouterResponse}
  {state state' : σ}
  (hrefl : ∀ state, V state state)
  (hcallback : ∀ callback, some callback ∈ cipClass.getSetCallbacks →
    ∀ instanceNumber attributeNumber service state,
      V state (callback instanceNumber attributeNumber service state))
include hrefl hcallback

theorem callBack_keeps {callback : Option (CipGetSetCallback σ)}
    (hmem : callback ∈ cipClass.getSetCallbacks) (flags : UInt8) (inst : CipInstance σ)
    (attr : CipAttributeStruct σ) (service : UInt8) (state : σ) :
    V state (callBack callback flags inst attr service state) :=
  callBack_respects hrefl fun f hf => hcallback f (hf ▸ hmem)

theorem getAttributeSingle_reads
    (hcall : getAttributeSingle cipClass inst attributeNumber request state =
      .ok (response, state')) :
    ∃ before, V state before ∧ V before state' ∧
      response.message = (readAttribute cipClass inst attributeNumber before).getD [] ∧
      (response.generalStatus = GeneralStatus.success ↔
        (readAttribute cipClass inst attributeNumber before).isSome) := by
  have hnone : readAttribute cipClass inst attributeNumber state = none →
      ∃ before, V state before ∧ V before state ∧
        (attributeSingleHeader request).message =
          (readAttribute cipClass inst attributeNumber before).getD [] ∧
        ((attributeSingleHeader request).generalStatus = GeneralStatus.success ↔
          (readAttribute cipClass inst attributeNumber before).isSome) := by
    intro hread
    refine ⟨state, hrefl state, hrefl state, by rw [hread]; rfl, ?_⟩
    rw [hread]
    exact iff_of_false (attributeSingleHeader_refuses request) (by decide)
  simp only [getAttributeSingle] at hcall
  split at hcall
  · rename_i hattr
    cases hcall
    exact hnone (by simp [readAttribute, hattr])
  · rename_i attr hattr
    split at hcall
    · rename_i hdata
      cases hcall
      rw [Option.isNone_iff_eq_none] at hdata
      exact hnone (by simp [readAttribute, hattr, hdata])
    · rename_i hdata
      split at hcall
      · rename_i hmask
        split at hcall
        · cases hcall
        · rename_i encode hencode
          cases hcall
          have hread : ∀ state, readAttribute cipClass inst attributeNumber state =
              some (encode state 0) := by
            intro state
            obtain ⟨data, hdata⟩ := Option.ne_none_iff_exists'.mp
              (mt Option.isNone_iff_eq_none.mpr hdata)
            rw [readAttribute, if_pos hmask, hattr, Option.bind_some, hdata, Option.bind_some,
              hencode]
            rfl
          refine ⟨_, callBack_keeps hrefl hcallback (by simp [CipClass.getSetCallbacks]) _ _ _ _ _,
            callBack_keeps hrefl hcallback (by simp [CipClass.getSetCallbacks]) _ _ _ _ _, ?_, ?_⟩
          · rw [hread]
            rfl
          · rw [hread]
            exact iff_of_true rfl rfl
      · rename_i hmask
        cases hcall
        exact hnone (by rw [readAttribute, if_neg hmask])

/-- A value that is set goes through the decode function of the attribute. -/
theorem setAttributeSingle_decodes
    (hcall : setAttributeSingle cipClass inst attributeNumber request state =
      .ok (response, state')) :
    state' = state ∧ response.generalStatus ≠ GeneralStatus.success ∨
      ∃ attr decode before, getCipAttribute inst attributeNumber = some attr ∧
        attr.decode = some decode ∧ V state before ∧
        response.generalStatus = (decode before request).generalStatus ∧
        V (decode before request).data state' := by
  refine (setAttributeSingle_ok hcall).imp_right fun ⟨attr, decode, hattr, hdecode, hdecoded⟩ => ?_
  have hstatus := congrArg Prod.fst hdecoded
  have hstate : (decodeAttribute cipClass inst attr decode request state).2 = state' :=
    (congrArg Prod.snd hdecoded).symm
  refine ⟨attr, decode, _, hattr, hdecode,
    callBack_keeps hrefl hcallback (by simp [CipClass.getSetCallbacks]) _ _ _ _ _, hstatus, ?_⟩
  rw [← hstate]
  exact callBack_keeps hrefl hcallback (by simp [CipClass.getSetCallbacks]) _ _ _ _ _

end Single

end Attributes

section Created

variable {σ : Type}

/-- A class with what was inserted into it. -/
structure ServingClass.Created (cipClass : ServingClass σ) (setup : List (ClassSetup (Globals σ)))
    (inserted : List (UInt8 × CipServiceFunction)) : Prop where
  holds : cipClass.toCipClass.Holds (insertions setup)
  all : cipClass.toCipClass.HoldsAll cipClass.numberOfAttributes (insertions setup)
  instances : ∀ call ∈ insertions setup,
    (cipClass.getCipInstance call.1).isSome
  callbacks : cipClass.getSetCallbacks = (callbackClass setup).getSetCallbacks
  services : ∀ code service, searchServices code cipClass.services = .ok (.called service) ↔
    Assignments.lastAssigned inserted code = some service

theorem insertAttribute_instances {cipClass cipClass' : CipClass σ} {instanceNumber : UInt16}
    {attr : CipAttributeStruct σ}
    (h : insertAttribute cipClass instanceNumber attr = .ok cipClass') (number : UInt16) :
    (cipClass'.getCipInstance number).isSome = (cipClass.getCipInstance number).isSome := by
  obtain ⟨inst, attributes, -, -, -, -, hinstances, -, -⟩ := insertAttribute_ok h
  rw [CipClass.getCipInstance, CipClass.getCipInstance, hinstances, CipClass.setAttributes,
    List.find?_map, Option.isSome_map]
  refine congrArg Option.isSome (congrArg (List.find? · _) (funext fun other => ?_))
  simp only [Function.comp_apply]
  split <;> rfl

/-- Every attribute was inserted into an instance of the class. -/
theorem setUpClass_instances {setup : List (ClassSetup σ)} {cipClass cipClass' : CipClass σ}
    (h : setUpClass cipClass setup = .ok cipClass') :
    (∀ number, (cipClass'.getCipInstance number).isSome =
        (cipClass.getCipInstance number).isSome) ∧
      ∀ call ∈ insertions setup, (cipClass'.getCipInstance call.1).isSome := by
  induction setup generalizing cipClass with
  | nil =>
      cases h
      exact ⟨fun _ => rfl, List.forall_mem_nil _⟩
  | cons call setup ih =>
      cases call with
      | insertAttribute instanceNumber attr =>
          rw [setUpClass] at h
          obtain ⟨next, hinsert, hrest⟩ := CursorAccounts.bind_ok h
          obtain ⟨hsame, hinserted⟩ := ih hrest
          obtain ⟨inst, -, hinst, -⟩ := insertAttribute_ok hinsert
          refine ⟨fun number => (hsame number).trans (insertAttribute_instances hinsert number),
            List.forall_mem_cons.mpr ⟨?_, hinserted⟩⟩
          rw [hsame, insertAttribute_instances hinsert, hinst]
          rfl
      | insertGetSetCallback callback callbacksToInstall =>
          obtain ⟨hsame, hinserted⟩ := ih h
          exact ⟨hsame, hinserted⟩

theorem createServingClass_created {numberOfAttributes numberOfServices : Nat}
    {highestAttributeNumber : UInt32} {instanceNumbers : List UInt16}
    {setup : List (ClassSetup (Globals σ))} {inserted : List (UInt8 × CipServiceFunction)}
    {cipClass : ServingClass σ}
    (hroom : (Assignments.assignAll inserted).length ≤ numberOfServices)
    (h : createServingClass numberOfAttributes highestAttributeNumber numberOfServices
      instanceNumbers setup inserted = .ok cipClass) : cipClass.Created setup inserted := by
  simp only [createServingClass] at h
  split at h
  · cases h
  · rename_i created hcreated
    rw [insertServices_slots inserted hroom] at h
    cases h
    have hblank : (createCipClass numberOfAttributes highestAttributeNumber instanceNumbers :
        CipClass (Globals σ)).getSetCallbacks = (createCipClass 0 0 []).getSetCallbacks := rfl
    refine ⟨setUpClass_holds (createCipClass_holds _ _ _) hcreated,
      setUpClass_holdsAll (createCipClass_holdsAll _ _ _) hcreated,
      (setUpClass_instances hcreated).2, setUpClass_getSetCallbacks hblank hcreated,
      fun code service => ?_⟩
    rw [searchServices_slots, Assignments.lookup_assignAll]
    split
    · rename_i called hcalled
      rw [hcalled]
      simp
    · rename_i hnone
      rw [hnone]
      split <;> simp

theorem ServingClass.Created.callback {cipClass : ServingClass σ}
    {setup : List (ClassSetup (Globals σ))} {inserted : List (UInt8 × CipServiceFunction)}
    (h : cipClass.Created setup inserted) {callback : CipGetSetCallback (Globals σ)}
    (hmem : some callback ∈ cipClass.getSetCallbacks) :
    ∃ flags, .insertGetSetCallback callback flags ∈ setup := by
  rw [h.callbacks] at hmem
  refine (installCallbacks_mem hmem).resolve_right fun hnew => ?_
  simp [createCipClass, CipClass.getSetCallbacks] at hnew

/-- What is inserted into the class object or into the instances. -/
def ClassAttributes.setup (attributes : ClassAttributes σ) (instanceNumber : UInt16) :
    List (ClassSetup (Globals σ)) :=
  if instanceNumber = 0 then attributes.classSetup else attributes.instanceSetup

def ClassRegistration.services (registration : ClassRegistration σ) (instanceNumber : UInt16) :
    List (UInt8 × CipServiceFunction) :=
  if instanceNumber = 0 then registration.classServices else registration.instanceServices

/-- A class that was registered. -/
structure RegisteredClass.Created (registered : RegisteredClass σ)
    (registration : ClassRegistration σ) (attributes : ClassAttributes σ) : Prop where
  classCode : registered.classCode = registration.classCode
  classOf : ∀ instanceNumber, (registered.classOf instanceNumber).Created
    (attributes.setup instanceNumber) (registration.services instanceNumber)
  used : registered.isFreed = false
  numberOfAttributes :
    registered.cipClass.numberOfAttributes = registration.numberOfInstanceAttributes
  reset : registered.cipClass.preResetCallback = registration.preResetCallback ∧
    registered.cipClass.postResetCallback = none

/-- The services fit into the arrays. -/
def ClassRegistration.hasRoom (registration : ClassRegistration σ) : Bool :=
  (Assignments.assignAll registration.classServices).length ≤
      registration.numberOfClassServices &&
    (Assignments.assignAll registration.instanceServices).length ≤
      registration.numberOfInstanceServices

theorem ClassRegistration.create_created {registration : ClassRegistration σ}
    {attributes : ClassAttributes σ} {registered : RegisteredClass σ}
    (hroom : registration.hasRoom = true)
    (h : registration.create attributes = .ok registered) :
    registered.Created registration attributes := by
  rw [hasRoom, Bool.and_eq_true, decide_eq_true_eq, decide_eq_true_eq] at hroom
  simp only [ClassRegistration.create] at h
  split at h
  · cases h
  · rename_i metaClass hmeta
    split at h
    · cases h
    · rename_i cipClass hclass
      have hmetaCreated := createServingClass_created hroom.1 hmeta
      have hclassCreated := createServingClass_created hroom.2 hclass
      have hfields : cipClass.numberOfAttributes = registration.numberOfInstanceAttributes ∧
          cipClass.postResetCallback = none := by
        simp only [createServingClass] at hclass
        split at hclass
        · cases hclass
        · split at hclass
          · cases hclass
          · cases hclass
            exact ⟨rfl, rfl⟩
      cases h
      refine ⟨rfl, fun instanceNumber => ?_, ?_, hfields.1, rfl, hfields.2⟩
      · rw [RegisteredClass.classOf, ClassAttributes.setup, ClassRegistration.services]
        split
        · exact hmetaCreated
        · exact ⟨hclassCreated.holds, hclassCreated.all, hclassCreated.instances,
            hclassCreated.callbacks, hclassCreated.services⟩
      -- the class object is the only instance of its class
      · have hfound : (metaClass.getCipInstance 0).isSome = true := by
          simp only [createServingClass] at hmeta
          split at hmeta
          · cases hmeta
          · rename_i created hcreated
            split at hmeta
            · cases hmeta
            · cases hmeta
              exact (setUpClass_instances hcreated).1 0
        rw [RegisteredClass.isFreed, RegisteredClass.getCipInstance, RegisteredClass.classOf,
          if_pos rfl, Option.isNone_eq_false_iff]
        exact hfound

theorem StackClasses.registrations_room {classes : StackClasses σ} :
    ∀ registration ∈ classes.registrations, registration.hasRoom = true := by
  intro registration hmem
  simp only [StackClasses.registrations, List.mem_append, List.mem_cons, List.not_mem_nil,
    or_false, or_assoc] at hmem
  rcases hmem with rfl | rfl | rfl | rfl | rfl | rfl | hdlr | rfl
  · rfl
  · rfl
  · rfl
  · cases hcontrol : classes.interfaceControl with
    | true => rfl
    | false => rfl
  · rfl
  · rfl
  · split at hdlr
    · cases List.mem_singleton.mp hdlr
      rfl
    · cases hdlr
  · rfl

theorem cipStackInit_created {classes : StackClasses σ} {registered : List (RegisteredClass σ)}
    (hinit : cipStackInit classes = .ok registered) :
    List.Forall₂ (fun registration registeredClass => registeredClass.Created registration
      (classes.attributes registration.classCode)) classes.registrations registered := by
  rw [cipStackInit] at hinit
  have hroom := classes.registrations_room
  generalize classes.registrations = registrations at hinit hroom
  induction registrations generalizing registered with
  | nil =>
      cases hinit
      exact .nil
  | cons registration registrations ih =>
      rw [List.mapM_cons] at hinit
      obtain ⟨first, hfirst, hinit⟩ := CursorAccounts.bind_ok hinit
      obtain ⟨later, hlater, hinit⟩ := CursorAccounts.bind_ok hinit
      cases hinit
      rw [List.forall_mem_cons] at hroom
      exact .cons (registration.create_created hroom.1 hfirst) (ih hlater hroom.2)

/-- A class is found by its code, when it was registered. -/
theorem getRegisteredObject_created {registrations : List (ClassRegistration σ)}
    {registered : List (RegisteredClass σ)} {attributes : UInt32 → ClassAttributes σ}
    (h : List.Forall₂ (fun registration registeredClass => registeredClass.Created registration
      (attributes registration.classCode)) registrations registered) (classId : UInt32) :
    getRegisteredObject classId registered = .ok none ∧
        classId ∉ registrations.map ClassRegistration.classCode ∨
      ∃ registeredClass, getRegisteredObject classId registered = .ok (some registeredClass) ∧
        ∃ registration ∈ registrations, registration.classCode = classId ∧
          registeredClass.Created registration (attributes classId) := by
  induction h with
  | nil => exact .inl ⟨rfl, List.not_mem_nil⟩
  | @cons registration registeredClass registrations registered hcreated _ ih =>
      rw [getRegisteredObject, if_neg (by rw [hcreated.used]; exact Bool.false_ne_true)]
      by_cases hcode : registration.classCode = classId
      · rw [if_pos (hcreated.classCode.trans hcode)]
        exact .inr ⟨registeredClass, rfl, registration, List.mem_cons_self, hcode,
          hcode ▸ hcreated⟩
      · rw [if_neg (hcreated.classCode ▸ hcode)]
        rcases ih with ⟨hnone, hnot⟩ | ⟨found, hfound, other, hother, hsame⟩
        · refine .inl ⟨hnone, ?_⟩
          rw [List.map_cons, List.mem_cons, not_or]
          exact ⟨Ne.symm hcode, hnot⟩
        · exact .inr ⟨found, hfound, other, List.mem_cons_of_mem _ hother, hsame⟩

end Created

section Requests

variable {σ : Type} {classes : StackClasses σ}

theorem lastAssigned_mem {inserted : List (UInt8 × CipServiceFunction)} {code : UInt8}
    {service : CipServiceFunction}
    (h : Assignments.lastAssigned inserted code = some service) : (code, service) ∈ inserted := by
  obtain ⟨before, after, hentries, -⟩ := List.lookup_eq_some_iff.mp h
  exact List.mem_reverse.mp (hentries ▸ List.mem_append_right _ List.mem_cons_self)

/-- The services for attributes and the one that resets stand under their codes, the one that
gets a single attribute in every class, and none creates or deletes an instance. -/
def followsCodes (inserted : List (UInt8 × CipServiceFunction)) : Bool :=
  Assignments.lastAssigned inserted CIPServiceCode.getAttributeSingle =
      some .getAttributeSingle &&
    inserted.all fun entry =>
      (entry.1 = CIPServiceCode.getAttributeSingle ↔ entry.2 = .getAttributeSingle) &&
        (entry.1 = CIPServiceCode.setAttributeSingle ↔ entry.2 = .setAttributeSingle) &&
        (entry.1 = CIPServiceCode.reset ↔ entry.2 = .cipResetService) &&
        (entry.1 = CIPServiceCode.getAttributeAll ↔ entry.2 = .getAttributeAll) &&
        entry.2 ∉ [CipServiceFunction.cipCreateService, .cipDeleteService]

theorem StackClasses.registrations_codes :
    ∀ registration ∈ classes.registrations, ∀ instanceNumber,
      followsCodes (registration.services instanceNumber) = true := by
  have hboth : ∀ registration : ClassRegistration σ,
      (followsCodes registration.classServices &&
        followsCodes registration.instanceServices) = true →
      ∀ instanceNumber, followsCodes (registration.services instanceNumber) = true := by
    intro registration h instanceNumber
    rw [Bool.and_eq_true] at h
    rw [ClassRegistration.services]
    split
    · exact h.1
    · exact h.2
  intro registration hmem
  simp only [StackClasses.registrations, List.mem_append, List.mem_cons, List.not_mem_nil,
    or_false, or_assoc] at hmem
  rcases hmem with rfl | rfl | rfl | rfl | rfl | rfl | hdlr | rfl
  · exact hboth _ rfl
  · exact hboth _ rfl
  · exact hboth _ rfl
  · cases hcontrol : classes.interfaceControl with
    | true => exact hboth _ rfl
    | false => exact hboth _ rfl
  · exact hboth _ rfl
  · exact hboth _ rfl
  · split at hdlr
    · cases List.mem_singleton.mp hdlr
      exact hboth _ rfl
    · cases hdlr
  · exact hboth _ rfl

theorem StackClasses.registrations_reset {registration : ClassRegistration σ}
    (hmem : registration ∈ classes.registrations) {instanceNumber : UInt16} {code : UInt8}
    (h : Assignments.lastAssigned (registration.services instanceNumber) code =
      some .cipResetService) :
    instanceNumber ≠ 0 ∧ registration.preResetCallback =
      some (identityObjectPreResetCallback classes.resetDevice
        classes.resetDeviceToInitialConfiguration) := by
  have hnone : ∀ {inserted : List (UInt8 × CipServiceFunction)},
      (inserted.all fun entry => entry.2 ≠ .cipResetService) = true →
        Assignments.lastAssigned inserted code ≠ some .cipResetService := by
    intro inserted hall hassigned
    have hentry := List.all_eq_true.mp hall _ (lastAssigned_mem hassigned)
    exact absurd rfl (of_decide_eq_true hentry)
  have hplain : ∀ {registration : ClassRegistration σ},
      (registration.classServices.all (·.2 ≠ .cipResetService) &&
        registration.instanceServices.all (·.2 ≠ .cipResetService)) = true →
      Assignments.lastAssigned (registration.services instanceNumber) code ≠
        some .cipResetService := by
    intro registration hall
    rw [Bool.and_eq_true] at hall
    rw [ClassRegistration.services]
    split
    · exact hnone hall.1
    · exact hnone hall.2
  simp only [StackClasses.registrations, List.mem_append, List.mem_cons, List.not_mem_nil,
    or_false, or_assoc] at hmem
  rcases hmem with rfl | rfl | rfl | rfl | rfl | rfl | hdlr | rfl
  · exact absurd h (hplain rfl)
  · refine ⟨fun hzero => ?_, rfl⟩
    rw [ClassRegistration.services, if_pos hzero] at h
    exact hnone rfl h
  · exact absurd h (hplain rfl)
  · cases hcontrol : classes.interfaceControl with
    | true => exact absurd (hcontrol ▸ h) (hplain rfl)
    | false => exact absurd (hcontrol ▸ h) (hplain rfl)
  · exact absurd h (hplain rfl)
  · exact absurd h (hplain rfl)
  · split at hdlr
    · cases List.mem_singleton.mp hdlr
      exact absurd h (hplain rfl)
    · cases hdlr
  · exact absurd h (hplain rfl)

/-- The code of a service and its function. -/
structure FollowsCode (code : UInt8) (service : CipServiceFunction) : Prop where
  get : code = CIPServiceCode.getAttributeSingle ↔ service = .getAttributeSingle
  set : code = CIPServiceCode.setAttributeSingle ↔ service = .setAttributeSingle
  reset : code = CIPServiceCode.reset ↔ service = .cipResetService
  all : code = CIPServiceCode.getAttributeAll ↔ service = .getAttributeAll
  fixed : service ∉ [CipServiceFunction.cipCreateService, .cipDeleteService]

theorem followsCode_of_lastAssigned {inserted : List (UInt8 × CipServiceFunction)} {code : UInt8}
    {service : CipServiceFunction} (h : followsCodes inserted = true)
    (hassigned : Assignments.lastAssigned inserted code = some service) :
    FollowsCode code service := by
  rw [followsCodes, Bool.and_eq_true] at h
  have hentry := List.all_eq_true.mp h.2 _ (lastAssigned_mem hassigned)
  simp only [Bool.and_eq_true, decide_eq_true_eq] at hentry
  exact ⟨hentry.1.1.1.1, hentry.1.1.1.2, hentry.1.1.2, hentry.1.2, hentry.2⟩

theorem searchServices_refused {φ : Type} {code generalStatus : UInt8}
    {services : List (CipServiceStruct φ)}
    (h : searchServices code services = .ok (.refused generalStatus)) :
    generalStatus = GeneralStatus.serviceNotSupported := by
  induction services with
  | nil =>
      cases h
      rfl
  | cons slot services ih =>
      rw [searchServices] at h
      split at h
      · split at h <;> cases h
      · exact ih h

/-- What Get_Attribute_Single reads at a path. -/
def Device.readPath (d : Device σ) (path : Epath) : Option (List UInt8) :=
  match getRegisteredObject path.classId.toUInt32 d.classes with
  | .ok (some registered) =>
      (registered.getCipInstance path.instanceNumber).bind fun inst =>
        readAttribute (registered.classOf path.instanceNumber).toCipClass inst
          path.attributeNumber d.globals
  | _ => none

theorem RegisteredClass.Created.readAttribute {registered : RegisteredClass σ}
    {registration : ClassRegistration σ} {attributes : ClassAttributes σ}
    (h : registered.Created registration attributes) (instanceNumber attributeNumber : UInt16)
    (globals : Globals σ) :
    ((registered.getCipInstance instanceNumber).bind fun inst =>
      Opener.readAttribute (registered.classOf instanceNumber).toCipClass inst attributeNumber
        globals) =
      insertedValue (attributes.setup instanceNumber) instanceNumber attributeNumber globals := by
  have hcreated := h.classOf instanceNumber
  rw [RegisteredClass.getCipInstance]
  cases hinst : (registered.classOf instanceNumber).getCipInstance instanceNumber with
  | some inst =>
      have hnumber : inst.instanceNumber = instanceNumber := by simpa using List.find?_some hinst
      rw [Option.bind_some, hcreated.holds.readAttribute (List.mem_of_find?_eq_some hinst),
        hnumber]
  | none =>
      -- no attribute was inserted into an instance that does not exist
      have hmissing : insertedAttribute (attributes.setup instanceNumber) instanceNumber
          attributeNumber = none := by
        rw [insertedAttribute, Option.map_eq_none_iff, List.find?_eq_none]
        intro call hcall hmatch
        rw [Bool.and_eq_true, decide_eq_true_eq] at hmatch
        have hsome := hcreated.instances call hcall
        rw [hmatch.1, hinst] at hsome
        cases hsome
      rw [Option.bind_none, insertedValue, hmissing, Option.bind_none, ite_self]

/-- The classes that are not registered have no attributes. -/
def StackClasses.Listed (classes : StackClasses σ) : Prop :=
  ∀ classCode, classCode ∉ classes.registrations.map ClassRegistration.classCode →
    classes.attributes classCode = {}

theorem Device.readPath_eq (hlisted : classes.Listed) {d : Device σ}
    (hinit : cipStackInit classes = .ok d.classes) (path : Epath) :
    d.readPath path =
      insertedValue ((classes.attributes path.classId.toUInt32).setup path.instanceNumber)
        path.instanceNumber path.attributeNumber d.globals := by
  rw [Device.readPath]
  rcases getRegisteredObject_created (cipStackInit_created hinit) path.classId.toUInt32 with
    ⟨hnone, hnot⟩ | ⟨registered, hfound, registration, -, -, hcreated⟩
  · rw [hnone, hlisted _ hnot, ClassAttributes.setup, ite_self]
    rfl
  · rw [hfound]
    exact hcreated.readAttribute _ _ _

/-- The service that a request calls, and what it is called on. -/
structure Device.Calls (classes : StackClasses σ) (d : Device σ) (epath : Epath)
    (request : MessageRouterRequest) (registered : RegisteredClass σ)
    (inst : CipInstance (Globals σ)) (service : CipServiceFunction) : Prop where
  found : getRegisteredObject epath.classId.toUInt32 d.classes = .ok (some registered)
  foundInstance : registered.getCipInstance epath.instanceNumber = some inst
  created : ∃ registration ∈ classes.registrations,
    registration.classCode = epath.classId.toUInt32 ∧
      registered.Created registration (classes.attributes epath.classId.toUInt32) ∧
      Assignments.lastAssigned (registration.services epath.instanceNumber) request.service =
        some service
  code : FollowsCode request.service service

theorem Device.notifyMessageRouter_cases {cfg : Config} {env : Environment} {front : List UInt8}
    {data : Message} {dataLength : UInt16} {originatorAddress : SockaddrIn}
    {encapsulationSession : UInt32} {epath : Epath} {request : MessageRouterRequest}
    {d d' : Device σ} {status : EipStatus} {response : MessageRouterResponse}
    (hinit : cipStackInit classes = .ok d.classes)
    (hparse : createMessageRouterRequestStructure data dataLength = .ok (epath, request))
    (hcall : d.notifyMessageRouter cfg env front data dataLength originatorAddress
      encapsulationSession = .ok (status, response, d')) :
    d' = d ∧ response.generalStatus ≠ GeneralStatus.success ∧ response.message = [] ∧
        (request.service = CIPServiceCode.getAttributeSingle → d.readPath epath = none) ∨
      ∃ registered inst service front, d.Calls classes epath request registered inst service ∧
        d.serve cfg env service registered inst epath front request originatorAddress
          encapsulationSession = .ok (status, response, d') := by
  have hunknown : GeneralStatus.pathDestinationUnknown ≠ GeneralStatus.success := by decide
  rw [notifyMessageRouter, hparse] at hcall
  rcases getRegisteredObject_created (cipStackInit_created hinit) epath.classId.toUInt32 with
    ⟨hnone, -⟩ | ⟨registered, hfound, registration, hmem, hcode, hcreated⟩
  · simp only [hnone] at hcall
    cases hcall
    exact .inl ⟨rfl, hunknown, rfl, fun _ => by rw [readPath, hnone]⟩
  · simp only [hfound, notifyClass] at hcall
    split at hcall
    · rename_i hinst
      cases hcall
      exact .inl ⟨rfl, hunknown, rfl, fun _ => by simp only [readPath, hfound, hinst]; rfl⟩
    · rename_i inst hinst
      have hcodes := StackClasses.registrations_codes registration hmem epath.instanceNumber
      have hservices := (hcreated.classOf epath.instanceNumber).services request.service
      split at hcall
      · cases hcall
      · rename_i generalStatus hrefused
        cases hcall
        refine .inl ⟨rfl, ?_, rfl, fun hget => ?_⟩
        · rw [searchServices_refused hrefused]
          exact show GeneralStatus.serviceNotSupported ≠ _ by decide
        · rw [followsCodes, Bool.and_eq_true, decide_eq_true_eq, ← hget] at hcodes
          cases hrefused.symm.trans ((hservices _).mpr hcodes.1)
      · rename_i service hcalled
        have hassigned := (hservices service).mp hcalled
        exact .inr ⟨registered, inst, service, _, ⟨hfound, hinst,
          ⟨registration, hmem, hcode, hcreated, hassigned⟩,
          followsCode_of_lastAssigned hcodes hassigned⟩, hcall⟩

end Requests

end Opener

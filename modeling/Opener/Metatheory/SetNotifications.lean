import Opener.Core.SampleApplication
import Opener.Metatheory.AttributeAccess
import Opener.Metatheory.ShortData

/-!
What is notified of a Set_Attribute_Single. The PostSetCallback of a class is called after
the decode function whatever that has answered, and for assembly data it tells the
application a second time, or of data that was refused.
-/

namespace Opener

open CIPAttributeFlag

variable {σ : Type}

/-- A state of a class together with the calls of its PostSetCallback. -/
structure Observed (σ : Type) where
  state : σ
  postSets : Nat

section Observe

variable (runs : σ → Bool)

def CipGetSetCallback.observed (callback : CipGetSetCallback σ) :
    CipGetSetCallback (Observed σ) :=
  fun instanceNumber attributeNumber service o =>
    { o with state := callback instanceNumber attributeNumber service o.state }

/-- A device that has failed calls nothing. -/
def CipGetSetCallback.counted (callback : CipGetSetCallback σ) :
    CipGetSetCallback (Observed σ) :=
  fun instanceNumber attributeNumber service o =>
    { state := callback instanceNumber attributeNumber service o.state
      postSets := if runs o.state then o.postSets + 1 else o.postSets }

def CipAttributeDecodeFromMessage.observed (decode : CipAttributeDecodeFromMessage σ) :
    CipAttributeDecodeFromMessage (Observed σ) := fun o request =>
  let decoded := decode o.state request
  { decoded with data := { o with state := decoded.data } }

def CipAttributeStruct.observed (attr : CipAttributeStruct σ) :
    CipAttributeStruct (Observed σ) :=
  { attributeNumber := attr.attributeNumber
    type := attr.type
    encode := attr.encode.map fun encode o => encode o.state
    decode := attr.decode.map CipAttributeDecodeFromMessage.observed
    attributeFlags := attr.attributeFlags
    data := attr.data.map fun data o => data o.state }

def CipInstance.observed (inst : CipInstance σ) : CipInstance (Observed σ) :=
  { instanceNumber := inst.instanceNumber
    attributes := inst.attributes.map CipAttributeStruct.observed }

/-- The class with its PostSetCallback counted. -/
def CipClass.observed (cipClass : CipClass σ) : CipClass (Observed σ) :=
  { highestAttributeNumber := cipClass.highestAttributeNumber
    getSingleBitMask := cipClass.getSingleBitMask
    setBitMask := cipClass.setBitMask
    getAllBitMask := cipClass.getAllBitMask
    instances := cipClass.instances.map CipInstance.observed
    preGetCallback := cipClass.preGetCallback.map CipGetSetCallback.observed
    postGetCallback := cipClass.postGetCallback.map CipGetSetCallback.observed
    preSetCallback := cipClass.preSetCallback.map CipGetSetCallback.observed
    postSetCallback := cipClass.postSetCallback.map (CipGetSetCallback.counted runs) }

theorem getCipAttribute_observed (inst : CipInstance σ) (attributeNumber : UInt16) :
    getCipAttribute inst.observed attributeNumber =
      (getCipAttribute inst attributeNumber).map CipAttributeStruct.observed := by
  simp only [getCipAttribute, CipInstance.observed, List.find?_map]
  rfl

theorem settableAttribute_observed (cipClass : CipClass σ) (inst : CipInstance σ)
    (attributeNumber : UInt16) :
    settableAttribute (cipClass.observed runs) inst.observed attributeNumber =
      (settableAttribute cipClass inst attributeNumber).map CipAttributeStruct.observed := by
  rw [settableAttribute, settableAttribute, getCipAttribute_observed]
  cases getCipAttribute inst attributeNumber with
  | none => rfl
  | some attr =>
      simp only [Option.map_some, Option.filter_some, CipAttributeStruct.observed,
        Option.isSome_map, CipClass.observed]
      split
      · rfl
      · rfl

end Observe

/-- The state that the decode function of the attribute finds. -/
def found (cipClass : CipClass σ) (inst : CipInstance σ) (attr : CipAttributeStruct σ)
    (request : MessageRouterRequest) (state : σ) : σ :=
  callBack cipClass.preSetCallback preSetFunc inst attr request.service state

theorem found_observed (runs : σ → Bool) (cipClass : CipClass σ) (inst : CipInstance σ)
    (attr : CipAttributeStruct σ) (request : MessageRouterRequest) (o : Observed σ) :
    found (cipClass.observed runs) inst.observed attr.observed request o =
      { o with state := found cipClass inst attr request o.state } := by
  have hsame : attr.observed.has preSetFunc = attr.has preSetFunc := rfl
  simp only [found, CipClass.observed]
  cases cipClass.preSetCallback with
  | none => rfl
  | some callback =>
      simp only [callBack, Option.map_some, hsame]
      split
      · rfl
      · rfl

/-- The PostSetCallback is called once after the decode function, if the device still
runs. -/
theorem decodeAttribute_observed (runs : σ → Bool) {cipClass : CipClass σ}
    {attr : CipAttributeStruct σ} (hpost : cipClass.postSetCallback.isSome)
    (hflag : attr.has (postSetFunc ||| nvDataFunc) = true) (inst : CipInstance σ)
    (decode : CipAttributeDecodeFromMessage σ) (request : MessageRouterRequest)
    (o : Observed σ) :
    (decodeAttribute (cipClass.observed runs) inst.observed attr.observed decode.observed request
        o).2.postSets =
      if runs (decode (found cipClass inst attr request o.state) request).data then
        o.postSets + 1
      else o.postSets := by
  have hfound := found_observed runs cipClass inst attr request o
  have hsame : attr.observed.has (postSetFunc ||| nvDataFunc) = true := hflag
  obtain ⟨callback, hcallback⟩ := Option.isSome_iff_exists.mp hpost
  rw [found] at hfound
  simp only [decodeAttribute, hfound]
  simp only [CipClass.observed, hcallback, Option.map_some, callBack, hsame, if_true]
  rfl

namespace DecodeFunction

/-- The device still runs; an empty host name stops it. -/
def runs : (f : DecodeFunction) → f.State → Bool
  | .hostName _, .error _ => false
  | _, _ => true

variable {f : DecodeFunction} {state : f.State} {request : MessageRouterRequest}

theorem runs_of_refuses (h : f.refuses state request = true) : f.runs state = true := by
  cases f with
  | hostName beyond =>
      cases state with
      | error fault => cases h
      | ok tcpip => rfl
  | ofType _ _ | qosAttribute _ | configurationControl | interfaceConfiguration _ _ _
  | encapsulationInactivityTimeout | interfaceControl _ | assemblyAttribute3 _ _ => rfl

/-- The function stores a new value. -/
def stores (f : DecodeFunction) (state : f.State) (request : MessageRouterRequest) : Bool :=
  !f.refuses state request && f.runs (f.decode state request).data

/-- The PostSetCallback is called once if a new value was stored, else not at all. -/
def NotifiesSets (f : DecodeFunction) (cipClass : CipClass f.State) (inst : CipInstance f.State)
    (attributeNumber : UInt16) (request : MessageRouterRequest) (state : f.State) : Prop :=
  ∃ response o, setAttributeSingle (cipClass.observed f.runs) inst.observed attributeNumber
      request ⟨state, 0⟩ = .ok (response, o) ∧
    o.postSets =
      if (settableAttribute cipClass inst attributeNumber).any fun attr =>
        f.stores (found cipClass inst attr request state) request
      then 1 else 0

/-- Sets are notified as they should exactly if the decode function does not refuse the
value. -/
theorem notifiesSets_iff {cipClass : CipClass f.State} {inst : CipInstance f.State}
    {attributeNumber : UInt16} (hpost : cipClass.postSetCallback.isSome)
    (hattr : ∀ attr, settableAttribute cipClass inst attributeNumber = some attr →
      attr.decode = some f.decode ∧ attr.has (postSetFunc ||| nvDataFunc) = true) :
    f.NotifiesSets cipClass inst attributeNumber request state ↔
      ∀ attr, settableAttribute cipClass inst attributeNumber = some attr →
        f.refuses (found cipClass inst attr request state) request = false := by
  have hobserved := settableAttribute_observed f.runs cipClass inst attributeNumber
  cases hsettable : settableAttribute cipClass inst attributeNumber with
  | none =>
      rw [hsettable] at hobserved
      obtain ⟨response, hok, -⟩ := setAttributeSingle_unsettable hobserved request ⟨state, 0⟩
      refine iff_of_true ⟨response, _, hok, ?_⟩ fun attr hnone => by cases hnone
      rw [hsettable]
      rfl
  | some attr =>
      obtain ⟨hdecode, hflag⟩ := hattr attr hsettable
      rw [hsettable] at hobserved
      have hdecode' : attr.observed.decode = some f.decode.observed := by
        rw [CipAttributeStruct.observed, hdecode]
        rfl
      have hok := setAttributeSingle_settable hobserved hdecode' request ⟨state, 0⟩
      have hcount := decodeAttribute_observed f.runs hpost hflag inst f.decode request ⟨state, 0⟩
      simp only at hcount
      simp only [NotifiesSets, hok, hsettable, Option.any_some, stores, Option.some.injEq,
        forall_eq', Except.ok.injEq, Prod.mk.injEq]
      generalize hs : found cipClass inst attr request state = s at hcount ⊢
      constructor
      · rintro ⟨response, o, ⟨-, rfl⟩, hposts⟩
        rw [hcount] at hposts
        by_contra hrefuses
        rw [Bool.not_eq_false] at hrefuses
        obtain ⟨-, hdata⟩ := decode_refused hrefuses
        rw [hdata, runs_of_refuses hrefuses, hrefuses] at hposts
        cases hposts
      · intro haccepts
        refine ⟨_, _, ⟨rfl, rfl⟩, ?_⟩
        rw [hcount, haccepts]
        rfl

end DecodeFunction

section SetUp

variable {cipClass cipClass' : CipClass σ}

/-- An insertion leaves the callbacks and the numbers of the instances alone. -/
theorem insertAttribute_frame {instanceNumber : UInt16} {attr : CipAttributeStruct σ}
    (h : insertAttribute cipClass instanceNumber attr = .ok cipClass') :
    cipClass'.preSetCallback = cipClass.preSetCallback ∧
      cipClass'.postSetCallback = cipClass.postSetCallback ∧
      cipClass'.instances.map CipInstance.instanceNumber =
        cipClass.instances.map CipInstance.instanceNumber := by
  have hnumbers : ∀ attributes, (cipClass.setAttributes instanceNumber attributes).instances.map
      CipInstance.instanceNumber = cipClass.instances.map CipInstance.instanceNumber := by
    intro attributes
    simp only [CipClass.setAttributes, List.map_map]
    refine List.map_congr_left fun inst _ => ?_
    simp only [Function.comp_apply]
    split
    · rfl
    · rfl
  simp only [insertAttribute] at h
  split at h
  · cases h
  · split at h
    · cases h
    · split at h
      · cases h
      · split at h
        · cases h
        · split at h
          · cases h
          · cases h
            exact ⟨rfl, rfl, hnumbers _⟩

theorem setUpClass_frame {attributes : List (UInt16 × CipAttributeStruct σ)}
    (h : setUpClass cipClass (attributes.map fun call => .insertAttribute call.1 call.2) =
      .ok cipClass') :
    cipClass'.preSetCallback = cipClass.preSetCallback ∧
      cipClass'.postSetCallback = cipClass.postSetCallback ∧
      cipClass'.instances.map CipInstance.instanceNumber =
        cipClass.instances.map CipInstance.instanceNumber := by
  induction attributes generalizing cipClass with
  | nil =>
      cases h
      exact ⟨rfl, rfl, rfl⟩
  | cons call attributes ih =>
      rw [List.map_cons, setUpClass] at h
      cases hinsert : insertAttribute cipClass call.1 call.2 with
      | error fault =>
          rw [hinsert] at h
          cases h
      | ok next =>
          rw [hinsert] at h
          obtain ⟨hbefore, hafter, hnumbers⟩ := ih h
          obtain ⟨hbefore', hafter', hnumbers'⟩ := insertAttribute_frame hinsert
          exact ⟨hbefore.trans hbefore', hafter.trans hafter', hnumbers.trans hnumbers'⟩

end SetUp

section Assemblies

variable {env : Environment} {instanceNumbers : List UInt16} {cipClass : CipClass CipAssembly}
  {inst : CipInstance CipAssembly}

/-- The attributes of the assembly objects. -/
def assemblyAttributes (env : Environment) (instanceNumbers : List UInt16) :
    List (UInt16 × CipAttributeStruct CipAssembly) :=
  instanceNumbers.flatMap fun instanceNumber =>
    [(instanceNumber, assemblyAttribute3 env instanceNumber),
      (instanceNumber, assemblyAttribute4 instanceNumber)]

theorem setUpAssemblies_eq (env : Environment) (instanceNumbers : List UInt16) :
    setUpAssemblies env instanceNumbers =
      [.insertGetSetCallback (assemblyPreGetCallback env) preGetFunc,
        .insertGetSetCallback (assemblyPostSetCallback env) postSetFunc] ++
      (assemblyAttributes env instanceNumbers).map fun call => .insertAttribute call.1 call.2 := by
  rw [setUpAssemblies, assemblyAttributes, List.map_flatMap]
  rfl

theorem find_assemblyAttributes (env : Environment) {instanceNumber : UInt16}
    (h : instanceNumber ∈ instanceNumbers) :
    ((assemblyAttributes env instanceNumbers).find? fun call =>
      call.1 = instanceNumber && call.2.attributeNumber = 3) =
      some (instanceNumber, assemblyAttribute3 env instanceNumber) := by
  induction instanceNumbers with
  | nil => cases h
  | cons number instanceNumbers ih =>
      by_cases hnumber : number = instanceNumber
      · subst hnumber
        simp [assemblyAttributes, assemblyAttribute3]
      · have hrest := ih ((List.mem_cons.mp h).resolve_left fun hsame => hnumber hsame.symm)
        simpa [assemblyAttributes, hnumber] using hrest

theorem assemblyAttribute3_flags (env : Environment) (instanceNumber : UInt16) :
    (assemblyAttribute3 env instanceNumber).attributeFlags = 0x97 := rfl

/-- The data of an assembly object is settable, and the application is told after it. -/
theorem createAssemblies_spec (hcreate : createAssemblies env instanceNumbers = .ok cipClass)
    (hinst : inst ∈ cipClass.instances) :
    settableAttribute cipClass inst 3 = some (assemblyAttribute3 env inst.instanceNumber) ∧
      cipClass.preSetCallback = none ∧
      cipClass.postSetCallback = some (assemblyPostSetCallback env) := by
  rw [createAssemblies, setUpAssemblies_eq] at hcreate
  have hholds := setUpClass_holds (createCipClass_holds 2 4 instanceNumbers) hcreate
  obtain ⟨hbefore, hafter, hnumbers⟩ := setUpClass_frame hcreate
  have hlog : insertions ([.insertGetSetCallback (assemblyPreGetCallback env) preGetFunc,
      .insertGetSetCallback (assemblyPostSetCallback env) postSetFunc] ++
      (assemblyAttributes env instanceNumbers).map fun call => .insertAttribute call.1 call.2) =
      assemblyAttributes env instanceNumbers := by
    simp [insertions, List.filterMap_map]
  have hmem : inst.instanceNumber ∈ instanceNumbers := by
    have hmem' := List.mem_map_of_mem (f := CipInstance.instanceNumber) hinst
    rw [hnumbers] at hmem'
    simpa [insertGetSetCallback, createCipClass] using hmem'
  rw [List.nil_append, hlog] at hholds
  have hfind := find_assemblyAttributes env hmem
  refine ⟨settableAttribute_eq_some_iff.mpr ⟨hholds.lookup hinst hfind, rfl, ?_, ?_⟩, hbefore,
    hafter⟩
  · rw [assemblyAttribute3_flags]
    decide
  · rw [hholds.setMask, allows, List.any_eq_true]
    refine ⟨_, List.mem_of_find?_eq_some hfind, ?_⟩
    rw [Bool.and_eq_true, decide_eq_true_eq, CipAttributeStruct.has, assemblyAttribute3_flags]
    exact ⟨rfl, by decide⟩

/-- The assembly class of the sample application is quiet for every instance that a request
can address. -/
theorem quiet_sampleAssemblies {rand : UInt16} {udpSocket : Int}
    (hcreate : createAssemblies (SampleApplication.environment rand udpSocket) instanceNumbers =
      .ok cipClass) (hinst : inst ∈ cipClass.instances) :
    (DecodeFunction.assemblyAttribute3 (SampleApplication.environment rand udpSocket)
      inst.instanceNumber).Quiet cipClass inst.instanceNumber := by
  obtain ⟨-, hbefore, hafter⟩ := createAssemblies_spec hcreate hinst
  exact DecodeFunction.quiet_assemblyAttribute3 hbefore hafter
    (DecodeFunction.sampleApplication_keeps inst.instanceNumber)

/-- The application is told once of data that was accepted, and never of data that was
refused. -/
def NotifiesWrites (cipClass : CipClass CipAssembly) (inst : CipInstance CipAssembly)
    (request : MessageRouterRequest) (assembly : CipAssembly) : Prop :=
  ∃ response assembly', setAttributeSingle cipClass inst 3 request assembly =
      .ok (response, assembly') ∧
    assembly'.received = assembly.received ++
      if response.generalStatus = GeneralStatus.success then [inst.instanceNumber] else []

/-- The application is told by the decode function of data of the right length, whether it
accepts it or not. -/
theorem decodeCipAssemblyAttribute3_received (env : Environment) (instanceNumber : UInt16)
    (assembly : CipAssembly) (request : MessageRouterRequest) :
    (decodeCipAssemblyAttribute3 env instanceNumber assembly request).data.received =
      assembly.received ++
        if request.requestDataSize.toNat = (assembly.data instanceNumber).length then
          [instanceNumber]
        else [] := by
  simp only [decodeCipAssemblyAttribute3]
  split
  · rename_i hshort
    rw [if_neg (Nat.ne_of_lt hshort), List.append_nil]
  · rename_i hleast
    split
    · rename_i hlong
      rw [if_neg (Nat.ne_of_gt hlong), List.append_nil]
    · rename_i hmost
      rw [if_pos (Nat.le_antisymm (Nat.not_lt.mp hmost) (Nat.not_lt.mp hleast))]
      rfl

theorem decodeCipAssemblyAttribute3_status {instanceNumber : UInt16} {assembly : CipAssembly}
    {request : MessageRouterRequest}
    (h : (decodeCipAssemblyAttribute3 env instanceNumber assembly request).generalStatus =
      GeneralStatus.success) :
    request.requestDataSize.toNat = (assembly.data instanceNumber).length := by
  by_contra hsize
  exact (DecodeFunction.decode_refused (f := .assemblyAttribute3 env instanceNumber)
    (decide_eq_true hsize)).1 h

theorem not_notifiesWrites (hcreate : createAssemblies env instanceNumbers = .ok cipClass)
    (hinst : inst ∈ cipClass.instances) (request : MessageRouterRequest)
    (assembly : CipAssembly) : ¬NotifiesWrites cipClass inst request assembly := by
  rintro ⟨response, assembly', hanswer, hreceived⟩
  obtain ⟨hsettable, hbefore, hafter⟩ := createAssemblies_spec hcreate hinst
  have hok := setAttributeSingle_settable hsettable rfl request assembly
  cases hok.symm.trans hanswer
  have hflag : (assemblyAttribute3 env inst.instanceNumber).has (postSetFunc ||| nvDataFunc) =
      true := by
    rw [CipAttributeStruct.has, assemblyAttribute3_flags]
    decide
  have hdecoded := decodeCipAssemblyAttribute3_received env inst.instanceNumber assembly request
  simp only [decodeAttribute, hbefore, hafter, callBack, hflag, if_true] at hreceived
  change (decodeCipAssemblyAttribute3 env inst.instanceNumber assembly request).data.received ++
    [inst.instanceNumber] = _ at hreceived
  rw [hdecoded, List.append_assoc, List.append_cancel_left_eq] at hreceived
  split at hreceived
  · split at hreceived
    · cases hreceived
    · cases hreceived
  · rename_i hsize
    split at hreceived
    · rename_i hsuccess
      exact hsize (decodeCipAssemblyAttribute3_status hsuccess)
    · cases hreceived

end Assemblies

/-- Sets are notified as they should exactly if the decode function is not reached or does
not refuse the value, and writes of assembly data never are. -/
theorem setNotifications_exact (request : MessageRouterRequest) :
    (∀ (f : DecodeFunction) (cipClass : CipClass f.State) (inst : CipInstance f.State)
      (attributeNumber : UInt16) (state : f.State),
      cipClass.postSetCallback.isSome →
      (∀ attr, settableAttribute cipClass inst attributeNumber = some attr →
        attr.decode = some f.decode ∧ attr.has (postSetFunc ||| nvDataFunc) = true) →
      (f.NotifiesSets cipClass inst attributeNumber request state ↔
        ∀ attr, settableAttribute cipClass inst attributeNumber = some attr →
          f.refuses (found cipClass inst attr request state) request = false)) ∧
    ∀ (env : Environment) (instanceNumbers : List UInt16) (cipClass : CipClass CipAssembly)
      (inst : CipInstance CipAssembly) (assembly : CipAssembly),
      createAssemblies env instanceNumbers = .ok cipClass → inst ∈ cipClass.instances →
      ¬NotifiesWrites cipClass inst request assembly := by
  refine ⟨?_, ?_⟩
  · intro f cipClass inst attributeNumber state hpost hattr
    exact DecodeFunction.notifiesSets_iff hpost hattr
  · intro env instanceNumbers cipClass inst assembly hcreate hinst
    exact not_notifiesWrites hcreate hinst request assembly

section Sample

/-- The settable attributes of the quality of service object, with the callback of the
sample application. -/
def qosSetup : List (ClassSetup CipQosDscpValues) :=
  insertQosAttributes ++ [.insertGetSetCallback nvQosSetCallback nvDataFunc]

/-- The configuration assembly of the sample application. -/
def configurationAssembly : CipAssembly :=
  { data := SampleApplication.assemblyData, received := [] }

/-- A DSCP value of 10 is stored and notified once. A write of ten bytes to the
configuration assembly is not notified as it should. -/
theorem setNotifications_stored :
    (∃ cipClass inst, setUpClass (createCipClass 8 8 [1]) qosSetup = .ok cipClass ∧
      cipClass.getCipInstance 1 = some inst ∧
      (DecodeFunction.qosAttribute .urgent).NotifiesSets cipClass inst 4 ⟨0x10, 1, [10]⟩
        CipQosDscpValues.defaults) ∧
    ∃ cipClass inst, createAssemblies (SampleApplication.environment 0 20) [100, 150, 151] =
        .ok cipClass ∧
      cipClass.getCipInstance 151 = some inst ∧
      ¬NotifiesWrites cipClass inst ⟨0x10, 10, List.replicate 10 7⟩ configurationAssembly := by
  refine ⟨⟨_, _, rfl, rfl, ((setNotifications_exact _).1 _ _ _ _ _ rfl ?_).mpr ?_⟩,
    ⟨_, _, rfl, rfl, (setNotifications_exact _).2 (SampleApplication.environment 0 20)
      [100, 150, 151] _ _ _ rfl ?_⟩⟩
  · intro attr hattr
    cases hattr
    exact ⟨rfl, rfl⟩
  · intro attr hattr
    cases hattr
    rfl
  · exact List.mem_of_find?_eq_some (p := fun inst => inst.instanceNumber = 151) rfl

/-- A DSCP value of 64 is refused and notified all the same, and so are nine bytes for the
configuration assembly; ten bytes are accepted and notified twice. -/
theorem setNotifications_refused :
    (∃ cipClass inst response, setUpClass (createCipClass 8 8 [1]) qosSetup = .ok cipClass ∧
      cipClass.getCipInstance 1 = some inst ∧
      setAttributeSingle cipClass inst 4 ⟨0x10, 1, [64]⟩ CipQosDscpValues.defaults =
        .ok (response, CipQosDscpValues.defaults) ∧
      response.generalStatus = GeneralStatus.invalidAttributeValue ∧
      ¬(DecodeFunction.qosAttribute .urgent).NotifiesSets cipClass inst 4 ⟨0x10, 1, [64]⟩
        CipQosDscpValues.defaults) ∧
    ∃ cipClass inst short shortly accepted twice,
      createAssemblies (SampleApplication.environment 0 20) [100, 150, 151] = .ok cipClass ∧
      cipClass.getCipInstance 151 = some inst ∧
      setAttributeSingle cipClass inst 3 ⟨0x10, 9, List.replicate 9 7⟩ configurationAssembly =
        .ok (short, shortly) ∧
      short.generalStatus = GeneralStatus.notEnoughData ∧ shortly.received = [151] ∧
      setAttributeSingle cipClass inst 3 ⟨0x10, 10, List.replicate 10 7⟩ configurationAssembly =
        .ok (accepted, twice) ∧
      accepted.generalStatus = GeneralStatus.success ∧ twice.received = [151, 151] := by
  refine ⟨⟨_, _, _, rfl, rfl, rfl, rfl, ?_⟩,
    ⟨_, _, _, _, _, _, rfl, rfl, rfl, rfl, rfl, rfl, rfl, rfl⟩⟩
  rintro ⟨response, o, hok, hcount⟩
  cases hok
  cases hcount

end Sample

end Opener

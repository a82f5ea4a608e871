import Opener.Core.Registration
import Opener.Metatheory.AttributeAccess
import Opener.Metatheory.ObjectServices

/-!
The classes of the stack conform, whatever attributes they are given: a service with a code of
its own is inserted under that code only.
-/

namespace Opener

section Services

variable {φ : Type} {services services' : List (CipServiceStruct φ)}
  {P : CipServiceStruct φ → Prop}

theorem insertService_forall {serviceNumber : UInt8} {serviceFunction : φ}
    (h : ∀ slot ∈ services, P slot)
    (hinserted : P { serviceNumber, serviceFunction := some serviceFunction })
    (hinsert : insertService serviceNumber serviceFunction services = .ok services') :
    ∀ slot ∈ services', P slot := by
  induction services generalizing services' with
  | nil => cases hinsert
  | cons first services ih =>
      rw [insertService] at hinsert
      have hrest : ∀ slot ∈ services, P slot := fun slot hslot =>
        h slot (List.mem_cons_of_mem _ hslot)
      split at hinsert
      · cases hinsert
        exact List.forall_mem_cons.mpr ⟨hinserted, hrest⟩
      · cases hlater : insertService serviceNumber serviceFunction services with
        | error fault =>
            rw [hlater] at hinsert
            cases hinsert
        | ok later =>
            rw [hlater] at hinsert
            cases hinsert
            exact List.forall_mem_cons.mpr ⟨h first List.mem_cons_self, ih hrest hlater⟩

theorem insertServices_forall {inserted : List (UInt8 × φ)} (h : ∀ slot ∈ services, P slot)
    (hinserted : ∀ service ∈ inserted,
      P { serviceNumber := service.1, serviceFunction := some service.2 })
    (hinsert : insertServices inserted services = .ok services') :
    ∀ slot ∈ services', P slot := by
  induction inserted generalizing services with
  | nil =>
      cases hinsert
      exact h
  | cons service inserted ih =>
      rw [insertServices, List.foldlM_cons] at hinsert
      obtain ⟨next, hnext, hrest⟩ := CursorAccounts.bind_ok hinsert
      rw [List.forall_mem_cons] at hinserted
      exact ih (insertService_forall h hinserted.1 hnext) hinserted.2 hrest

end Services

section Setup

variable {σ : Type} {R : σ → σ → Prop} {setup : List (ClassSetup σ)}
  {cipClass cipClass' : CipClass σ}

/-- The functions that these calls bring to a class. -/
structure SetupRespects (R : σ → σ → Prop) (setup : List (ClassSetup σ)) : Prop where
  decode : ∀ instanceNumber attr, .insertAttribute instanceNumber attr ∈ setup →
    ∀ decode, attr.decode = some decode → ∀ state request, R state (decode state request).data
  callback : ∀ callback callbacksToInstall,
    .insertGetSetCallback callback callbacksToInstall ∈ setup →
      ∀ instanceNumber attributeNumber service state,
        R state (callback instanceNumber attributeNumber service state)

theorem SetupRespects.nil : SetupRespects R [] :=
  ⟨fun _ _ h => absurd h List.not_mem_nil, fun _ _ h => absurd h List.not_mem_nil⟩

theorem SetupRespects.of_cons {call : ClassSetup σ} (h : SetupRespects R (call :: setup)) :
    SetupRespects R setup :=
  ⟨fun _ _ hmem => h.decode _ _ (List.mem_cons_of_mem _ hmem),
    fun _ _ hmem => h.callback _ _ (List.mem_cons_of_mem _ hmem)⟩

/-- The callbacks of a class. -/
def CipClass.getSetCallbacks (cipClass : CipClass σ) : List (Option (CipGetSetCallback σ)) :=
  [cipClass.preGetCallback, cipClass.postGetCallback, cipClass.preSetCallback,
    cipClass.postSetCallback]

theorem insertAttribute_getSetCallbacks {instanceNumber : UInt16} {attr : CipAttributeStruct σ}
    (h : insertAttribute cipClass instanceNumber attr = .ok cipClass') :
    cipClass'.getSetCallbacks = cipClass.getSetCallbacks := by
  simp only [insertAttribute] at h
  split at h
  · cases h
  · split at h
    · cases h
    · split at h
      · cases h
      · split at h
        · cases h
        · split at h
          · cases h
          · cases h
            rfl

theorem insertGetSetCallback_mem {callback installed : CipGetSetCallback σ}
    {callbacksToInstall : UInt8}
    (h : some installed ∈
      (insertGetSetCallback cipClass callback callbacksToInstall).getSetCallbacks) :
    installed = callback ∨ some installed ∈ cipClass.getSetCallbacks := by
  simp only [insertGetSetCallback, CipClass.getSetCallbacks, List.mem_cons, List.not_mem_nil,
    or_false] at h ⊢
  have hinstalled : ∀ {p : Prop} [Decidable p] {old : Option (CipGetSetCallback σ)},
      some installed = (if p then some callback else old) →
        installed = callback ∨ some installed = old := by
    intro p _ old hinstalled
    split at hinstalled
    · exact .inl (Option.some.inj hinstalled)
    · exact .inr hinstalled
  rcases h with h | h | h | h
  · exact (hinstalled h).imp_right .inl
  · exact (hinstalled h).imp_right fun h => .inr (.inl h)
  · exact (hinstalled h).imp_right fun h => .inr (.inr (.inl h))
  · exact (hinstalled h).imp_right fun h => .inr (.inr (.inr h))

theorem setUpClass_callback (hsetup : SetupRespects R setup)
    (hclass : ∀ callback, some callback ∈ cipClass.getSetCallbacks →
      ∀ instanceNumber attributeNumber service state,
        R state (callback instanceNumber attributeNumber service state))
    (h : setUpClass cipClass setup = .ok cipClass') :
    ∀ callback, some callback ∈ cipClass'.getSetCallbacks →
      ∀ instanceNumber attributeNumber service state,
        R state (callback instanceNumber attributeNumber service state) := by
  induction setup generalizing cipClass with
  | nil =>
      cases h
      exact hclass
  | cons call setup ih =>
      cases call with
      | insertAttribute instanceNumber attr =>
          rw [setUpClass] at h
          obtain ⟨next, hinsert, hrest⟩ := CursorAccounts.bind_ok h
          refine ih hsetup.of_cons ?_ hrest
          rw [insertAttribute_getSetCallbacks hinsert]
          exact hclass
      | insertGetSetCallback callback callbacksToInstall =>
          refine ih hsetup.of_cons (fun installed hinstalled => ?_) h
          rcases insertGetSetCallback_mem hinstalled with rfl | hold
          · exact hsetup.callback installed callbacksToInstall List.mem_cons_self
          · exact hclass installed hold

/-- A new class has the functions that its setup brings. -/
theorem setUpClass_respects {numberOfAttributes : Nat} {highestAttributeNumber : UInt32}
    {instanceNumbers : List UInt16} (hsetup : SetupRespects R setup)
    (h : setUpClass (createCipClass numberOfAttributes highestAttributeNumber instanceNumbers)
      setup = .ok cipClass') : cipClass'.Respects R := by
  refine ⟨fun inst hinst attr hattr decode hdecode => ?_, ?_⟩
  · have hholds := setUpClass_holds (createCipClass_holds _ _ _) h
    obtain ⟨free, hslots⟩ := hholds.slots inst hinst
    rw [hslots, List.mem_append] at hattr
    rcases hattr with hattr | hattr
    · obtain ⟨inserted, hinserted, rfl⟩ := List.mem_map.mp hattr
      have hlogged := List.mem_of_mem_filter hinserted
      rw [List.nil_append, insertions, List.mem_filterMap] at hlogged
      obtain ⟨call, hcall, hcalled⟩ := hlogged
      cases call with
      | insertAttribute instanceNumber attr =>
          cases hcalled
          exact hsetup.decode instanceNumber attr hcall decode hdecode
      | insertGetSetCallback callback callbacksToInstall => cases hcalled
    · cases List.eq_of_mem_replicate hattr
      cases hdecode
  · refine setUpClass_callback hsetup (fun callback hmem => ?_) h
    simp [createCipClass, CipClass.getSetCallbacks] at hmem

end Setup

variable {σ : Type} {cfg : Config}

/-- A service with a code of its own stands under that code. -/
def FixedCodes (inserted : List (UInt8 × CipServiceFunction)) : Prop :=
  ∀ service ∈ inserted, ∀ code, service.2.fixedCode = some code → service.1 = code

theorem createServingClass_conforms {numberOfAttributes numberOfServices : Nat}
    {highestAttributeNumber : UInt32} {instanceNumbers : List UInt16}
    {setup : List (ClassSetup (Globals σ))} {inserted : List (UInt8 × CipServiceFunction)}
    {cipClass : ServingClass σ} (hsetup : SetupRespects (Globals.Driven cfg) setup)
    (hcodes : FixedCodes inserted)
    (h : createServingClass numberOfAttributes highestAttributeNumber numberOfServices
      instanceNumbers setup inserted = .ok cipClass) :
    cipClass.Conforms cfg ∧ ∀ callback, some callback ∉ cipClass.callbacks := by
  simp only [createServingClass] at h
  split at h
  · cases h
  · rename_i created hcreated
    split at h
    · cases h
    · rename_i services hservices
      have hnone : ∀ callback : CipCallback σ, some callback ∉
          ({ created with numberOfAttributes, services } : ServingClass σ).callbacks := by
        simp [ServingClass.callbacks]
      cases h
      refine ⟨⟨setUpClass_respects hsetup hcreated, fun callback hmem => ?_, ?_⟩, hnone⟩
      · exact absurd hmem (hnone callback)
      · refine insertServices_forall (fun slot hslot service hservice => ?_)
          (fun service hservice function hfunction code hcode => ?_) hservices
        · cases List.eq_of_mem_replicate hslot
          cases hservice
        · cases hfunction
          exact hcodes service hservice code hcode

/-- What has to hold of a registration. -/
structure ClassRegistration.Sound (cfg : Config) (registration : ClassRegistration σ) :
    Prop where
  classCode : registration.classCode ≠ 0
  classServices : FixedCodes registration.classServices
  instanceServices : FixedCodes registration.instanceServices
  preResetCallback : ∀ callback ∈ registration.preResetCallback, CipCallback.Conforms cfg callback

def ClassRegistration.hasFixedCodes (registration : ClassRegistration σ) : Bool :=
  registration.classCode != 0 &&
    (registration.classServices ++ registration.instanceServices).all fun service =>
      service.2.fixedCode.all (service.1 == ·)

theorem ClassRegistration.Sound.of_hasFixedCodes {registration : ClassRegistration σ}
    (hcodes : registration.hasFixedCodes = true)
    (hcallback : ∀ callback ∈ registration.preResetCallback,
      CipCallback.Conforms cfg callback) : registration.Sound cfg := by
  rw [ClassRegistration.hasFixedCodes, Bool.and_eq_true, bne_iff_ne, List.all_append,
    Bool.and_eq_true] at hcodes
  have hfixed : ∀ inserted : List (UInt8 × CipServiceFunction),
      (inserted.all fun service => service.2.fixedCode.all (service.1 == ·)) = true →
        FixedCodes inserted := by
    intro inserted hall service hservice code hcode
    have hservice := List.all_eq_true.mp hall service hservice
    rw [hcode, Option.all_some] at hservice
    exact beq_iff_eq.mp hservice
  exact ⟨hcodes.1, hfixed _ hcodes.2.1, hfixed _ hcodes.2.2, hcallback⟩

/-- The functions of the attributes use the stack as an application does. -/
structure ClassAttributes.Driven (cfg : Config) (attributes : ClassAttributes σ) : Prop where
  classSetup : SetupRespects (Globals.Driven cfg) attributes.classSetup
  instanceSetup : SetupRespects (Globals.Driven cfg) attributes.instanceSetup

theorem ClassRegistration.create_conforms {registration : ClassRegistration σ}
    {attributes : ClassAttributes σ} {registered : RegisteredClass σ}
    (hsound : registration.Sound cfg) (hattributes : attributes.Driven cfg)
    (h : registration.create attributes = .ok registered) : registered.Conforms cfg := by
  simp only [ClassRegistration.create] at h
  split at h
  · cases h
  · rename_i metaClass hmeta
    split at h
    · cases h
    · rename_i cipClass hclass
      have hmetaConforms :=
        createServingClass_conforms hattributes.classSetup hsound.classServices hmeta
      obtain ⟨hconforms, hnone⟩ :=
        createServingClass_conforms hattributes.instanceSetup hsound.instanceServices hclass
      cases h
      refine ⟨⟨hconforms.respects, fun callback hmem => ?_, hconforms.code⟩, hmetaConforms.1,
        hsound.classCode⟩
      by_cases hreset : some callback = registration.preResetCallback
      · exact hsound.preResetCallback callback hreset.symm
      -- no other callback is set
      · refine absurd ?_ (hnone callback)
        simp only [ServingClass.callbacks, List.mem_cons, List.not_mem_nil, or_false] at hmem ⊢
        tauto

theorem resetAnswer_named {response response' : MessageRouterResponse}
    {result : Except Fault (EipStatus × Globals σ)} {status : EipStatus}
    {globals globals' : Globals σ}
    (hresult : ∀ status globals', result = .ok (status, globals') →
      Globals.Driven cfg globals globals')
    (h : resetAnswer response result = .ok (status, response', globals')) :
    response'.replyService = response.replyService ∧ Globals.Driven cfg globals globals' := by
  unfold resetAnswer at h
  split at h
  · cases h
  · cases h
    exact ⟨rfl, hresult _ _ rfl⟩
  · cases h
    exact ⟨rfl, hresult _ _ rfl⟩

theorem identityObjectPreResetCallback_conforms
    {resetDevice resetDeviceToInitialConfiguration :
      Globals σ → Except Fault (EipStatus × Globals σ)}
    (hreset : ∀ globals status globals', resetDevice globals = .ok (status, globals') →
      Globals.Driven cfg globals globals')
    (hinitial : ∀ globals status globals',
      resetDeviceToInitialConfiguration globals = .ok (status, globals') →
        Globals.Driven cfg globals globals') :
    CipCallback.Conforms cfg
      (identityObjectPreResetCallback resetDevice resetDeviceToInitialConfiguration) := by
  intro instanceNumber request response globals status response' globals' h
  simp only [identityObjectPreResetCallback] at h
  generalize (if request.requestDataSize = 1 then request.data.byteAt 0 else 0) = resetType at h
  split at h
  · cases h
    exact ⟨rfl, .refl _⟩
  · split at h
    · exact resetAnswer_named (hreset globals) h
    · split at h
      · exact resetAnswer_named (hinitial globals) h
      · cases h
        exact ⟨rfl, .refl _⟩

/-- The functions of the application that the classes are given. -/
structure StackClasses.Driven (cfg : Config) (classes : StackClasses σ) : Prop where
  resetDevice : ∀ globals status globals',
    classes.resetDevice globals = .ok (status, globals') → Globals.Driven cfg globals globals'
  resetDeviceToInitialConfiguration : ∀ globals status globals',
    classes.resetDeviceToInitialConfiguration globals = .ok (status, globals') →
      Globals.Driven cfg globals globals'
  attributes : ∀ classCode, (classes.attributes classCode).Driven cfg

theorem StackClasses.Driven.registrations {classes : StackClasses σ}
    (h : classes.Driven cfg) :
    ∀ registration ∈ classes.registrations, registration.Sound cfg := by
  have hplain : ∀ registration : ClassRegistration σ, registration.hasFixedCodes = true →
      registration.preResetCallback = none → registration.Sound cfg :=
    fun registration hcodes hnone =>
      .of_hasFixedCodes hcodes fun callback hcallback => by simp [hnone] at hcallback
  intro registration hmem
  simp only [StackClasses.registrations, List.mem_append, List.mem_cons, List.not_mem_nil,
    or_false, or_assoc] at hmem
  rcases hmem with rfl | rfl | rfl | rfl | rfl | rfl | hdlr | rfl
  · exact hplain _ rfl rfl
  · refine .of_hasFixedCodes rfl fun callback hcallback => ?_
    cases hcallback
    exact identityObjectPreResetCallback_conforms h.resetDevice
      h.resetDeviceToInitialConfiguration
  · exact hplain _ rfl rfl
  · cases hcontrol : classes.interfaceControl with
    | true => exact hplain _ rfl rfl
    | false => exact hplain _ rfl rfl
  · exact hplain _ rfl rfl
  · exact hplain _ rfl rfl
  · split at hdlr
    · cases List.mem_singleton.mp hdlr
      exact hplain _ rfl rfl
    · cases hdlr
  · exact hplain _ rfl rfl

/-- The classes that `CipStackInit` registers conform. -/
theorem cipStackInit_conforms {classes : StackClasses σ} (h : classes.Driven cfg)
    {registered : List (RegisteredClass σ)} (hinit : cipStackInit classes = .ok registered) :
    ∀ registeredClass ∈ registered, registeredClass.Conforms cfg := by
  rw [cipStackInit] at hinit
  have hregistrations := h.registrations
  generalize classes.registrations = registrations at hinit hregistrations
  induction registrations generalizing registered with
  | nil =>
      cases hinit
      exact List.forall_mem_nil _
  | cons registration registrations ih =>
      rw [List.mapM_cons] at hinit
      obtain ⟨first, hfirst, hinit⟩ := CursorAccounts.bind_ok hinit
      obtain ⟨later, hlater, hinit⟩ := CursorAccounts.bind_ok hinit
      cases hinit
      rw [List.forall_mem_cons] at hregistrations ⊢
      exact ⟨ClassRegistration.create_conforms hregistrations.1 (h.attributes _) hfirst,
        ih hlater hregistrations.2⟩

end Opener

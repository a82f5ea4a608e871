import Opener.Metatheory.Registrations
import Opener.Metatheory.ReplyServices

/-!
What a device does to the variables of its application. In a step it works on the stack and
serves requests; a relation that the services of its classes keep is kept by every step, and
classes that create and delete no instances stay as they are. Setting an attribute is one
thing with the callbacks around it.
-/

namespace Opener

namespace Device

section Serving

variable {σ : Type} {cfg : Config} {env : Environment} {front : List UInt8} {data : Message}
  {dataLength : UInt16} {originatorAddress : SockaddrIn} {encapsulationSession : UInt32}
  {d d' : Device σ}

/-- A relation between a device and what it becomes by a message of the router. -/
structure Serves (cfg : Config) (env : Environment) (P : Device σ → Device σ → Prop) :
    Prop where
  refl : ∀ d, P d d
  trans : ∀ {d d₁ d'}, P d d₁ → P d₁ d' → P d d'
  stack : ∀ d st, P d (d.setStack st)
  route : ∀ {d front data dataLength originatorAddress encapsulationSession status response d'},
    d.notifyMessageRouter cfg env front data dataLength originatorAddress
      encapsulationSession = .ok (status, response, d') → P d d'

variable {P : Device σ → Device σ → Prop}

/-- What holds of a request that is refused, and of one that is served, holds of a message. -/
theorem notifyMessageRouter_serves {status : EipStatus} {response : MessageRouterResponse}
    (hrefl : ∀ d, P d d)
    (hserve : ∀ {d service registered inst epath front request originatorAddress
      encapsulationSession status response d'}, registered ∈ d.classes →
        registered.getCipInstance epath.instanceNumber = some inst →
        (∃ slot ∈ (registered.classOf epath.instanceNumber).services,
          slot.serviceFunction = some service) →
        d.serve cfg env service registered inst epath front request originatorAddress
          encapsulationSession = .ok (status, response, d') → P d d')
    (hcall : d.notifyMessageRouter cfg env front data dataLength originatorAddress
      encapsulationSession = .ok (status, response, d')) : P d d' := by
  rw [Device.notifyMessageRouter] at hcall
  split at hcall
  · cases hcall
    exact hrefl d
  · split at hcall
    · cases hcall
    · cases hcall
      exact hrefl d
    · rename_i registered hregistered
      rw [notifyClass] at hcall
      split at hcall
      · cases hcall
        exact hrefl d
      · rename_i inst hinst
        split at hcall
        · cases hcall
        · cases hcall
          exact hrefl d
        · rename_i service hsearch
          obtain ⟨slot, hslot, hfunction, -⟩ := searchServices_called hsearch
          exact hserve (getRegisteredObject_mem hregistered) hinst ⟨slot, hslot, hfunction⟩ hcall

theorem Serves.notifyCommonPacketFormat (hP : Serves cfg env P) {reply : Option (List UInt8)}
    (hcall : d.notifyCommonPacketFormat cfg env front data originatorAddress
      encapsulationSession = .ok (reply, d')) : P d d' := by
  simp only [Device.notifyCommonPacketFormat] at hcall
  generalize CommonPacketFormatData.createCommonPacketFormatStructure data data.length
    d.stack.cpf = created at hcall
  have hstart := hP.stack d { d.stack with cpf := created.2 }
  split at hcall
  · cases hcall
    exact hstart
  · split at hcall
    · split at hcall
      · cases hcall
      · rename_i hrouted
        have hserved := hP.trans hstart (hP.route hrouted)
        split at hcall <;> cases hcall <;> exact hserved
    · cases hcall
      exact hstart

theorem Serves.notifyConnectedRequest (hP : Serves cfg env P) {r : ConnRef} {sequence : UInt16}
    {reply : Option (List UInt8)}
    (hcall : d.notifyConnectedRequest cfg env r sequence front data dataLength
      originatorAddress encapsulationSession = .ok (reply, d')) : P d d' := by
  simp only [Device.notifyConnectedRequest] at hcall
  split at hcall
  · cases hcall
    exact hP.refl d
  · split at hcall
    · cases hcall
    · rename_i hrouted
      have hserved := hP.trans (hP.stack d _) (hP.route hrouted)
      split at hcall
      · cases hcall
        exact hserved
      · cases hcall
        exact hP.trans hserved (hP.stack _ _)

theorem Serves.notifyConnectedCommonPacketFormat (hP : Serves cfg env P)
    {reply : Option (List UInt8)}
    (hcall : d.notifyConnectedCommonPacketFormat cfg env front data originatorAddress
      encapsulationSession = .ok (reply, d')) : P d d' := by
  simp only [Device.notifyConnectedCommonPacketFormat] at hcall
  generalize CommonPacketFormatData.createCommonPacketFormatStructure data data.length
    d.stack.cpf = created at hcall
  have hstart := hP.stack d { d.stack with cpf := created.2 }
  split at hcall
  · cases hcall
    exact hstart
  · split at hcall
    · cases hcall
      exact hstart
    · split at hcall
      · cases hcall
        exact hP.trans hstart (hP.stack _ _)
      · exact hP.trans hstart (hP.trans (hP.stack _ _) (hP.notifyConnectedRequest hcall))

theorem map_ok {ε α β : Type} {result : Except ε α} {f : α → β} {b : β}
    (h : result.map f = .ok b) : ∃ a, result = .ok a ∧ f a = b := by
  cases result with
  | error e => cases h
  | ok a => exact ⟨a, rfl, Except.ok.inj h⟩

/-- Every step of the stack is related. -/
theorem Serves.step (hP : Serves cfg env P) {action : StackState.Action}
    (hstep : d.step cfg (env, .stack front action) = .ok d') : P d d' := by
  have hstack : ∀ {result : Except Fault StackState}, result.map d.setStack = .ok d' → P d d' := by
    intro result h
    obtain ⟨st, -, rfl⟩ := map_ok h
    exact hP.stack d st
  cases action with
  | sendRRData session originatorAddress data =>
      rw [Device.step] at hstep
      split at hstep
      · obtain ⟨⟨reply, d₁⟩, hcall, rfl⟩ := map_ok hstep
        exact hP.notifyCommonPacketFormat hcall
      · cases hstep
        exact hP.refl d
  | sendUnitData session originatorAddress data =>
      rw [Device.step] at hstep
      split at hstep
      · obtain ⟨⟨reply, d₁⟩, hcall, rfl⟩ := map_ok hstep
        exact hP.notifyConnectedCommonPacketFormat hcall
      · cases hstep
        exact hP.refl d
  | triggerConnections _ _ | setLastUpdate _ | writeAssemblies _ =>
      cases hstep
      exact hP.stack d _
  | _ => exact hstack hstep

end Serving

end Device

/-- Where nothing can be set, setting a list changes nothing. -/
theorem setAttributeList_readOnly {σ : Type} {V : σ → σ → Prop} (hrefl : ∀ state, V state state)
    (htrans : ∀ {state₁ state₂ state₃}, V state₁ state₂ → V state₂ state₃ → V state₁ state₃)
    {cipClass : CipClass σ} {inst : CipInstance σ}
    (hdecode : ∀ attr ∈ inst.attributes, attr.decode = none) {front : List UInt8}
    {request : MessageRouterRequest} {state : σ} {reply : ListReply σ}
    (hcall : setAttributeList cipClass inst front request state = .ok reply) :
    V state reply.state := by
  refine (attributeList_respects hrefl htrans
    (fun attr hattr attributeNumber s record s' returns hserved => ?_) hcall).2
  simp only [setListedAttribute, hdecode attr hattr] at hserved
  split at hserved
  · cases hserved
  · split at hserved
    · cases hserved
      exact hrefl _
    · cases hserved
      exact hrefl _

theorem getAttributeSingle_related {σ : Type} {V : σ → σ → Prop} (hrefl : ∀ state, V state state)
    (htrans : ∀ {state₁ state₂ state₃}, V state₁ state₂ → V state₂ state₃ → V state₁ state₃)
    {cipClass : CipClass σ} {inst : CipInstance σ} {attributeNumber : UInt16}
    {request : MessageRouterRequest} {response : MessageRouterResponse} {state state' : σ}
    (hget : ∀ callback, some callback ∈ [cipClass.preGetCallback, cipClass.postGetCallback] →
      ∀ instanceNumber attributeNumber service state,
        V state (callback instanceNumber attributeNumber service state))
    (hcall : getAttributeSingle cipClass inst attributeNumber request state =
      .ok (response, state')) : V state state' := by
  have hcallBack : ∀ {callback flags attr service state},
      callback ∈ [cipClass.preGetCallback, cipClass.postGetCallback] →
        V state (callBack callback flags inst attr service state) :=
    fun hmem => callBack_respects hrefl fun f hf => hget f (hf ▸ hmem)
  simp only [getAttributeSingle] at hcall
  split at hcall
  · cases hcall
    exact hrefl _
  · split at hcall
    · cases hcall
      exact hrefl _
    · split at hcall
      · split at hcall
        · cases hcall
        · cases hcall
          exact htrans (hcallBack (by simp)) (hcallBack (by simp))
      · cases hcall
        exact hrefl _

section Keeping

variable {σ : Type} {R : σ → σ → Prop}

/-- The values of the application's variables in two states are related. -/
def Globals.Related (R : σ → σ → Prop) (globals globals' : Globals σ) : Prop :=
  R globals.application globals'.application

def CipCallback.Keeps (R : σ → σ → Prop) (callback : CipCallback σ) : Prop :=
  ∀ instanceNumber request response globals status response' globals',
    callback instanceNumber request response globals = .ok (status, response', globals') →
      Globals.Related R globals globals'

/-- The services of a class keep the relation, and none creates or deletes an instance. A list
service decodes without the callbacks. -/
structure ServingClass.Keeps (R : σ → σ → Prop) (cipClass : ServingClass σ) : Prop where
  set : ∀ inst ∈ cipClass.instances, ∀ attr ∈ inst.attributes, ∀ decode,
    attr.decode = some decode → ∀ request globals, Globals.Related R globals
      (decodeAttribute cipClass.toCipClass inst attr decode request globals).2
  listed : (∀ slot ∈ cipClass.services, slot.serviceFunction ≠ some .setAttributeList) ∨
    ∀ inst ∈ cipClass.instances, ∀ attr ∈ inst.attributes, attr.decode = none
  get : ∀ callback, some callback ∈ [cipClass.preGetCallback, cipClass.postGetCallback] →
    ∀ instanceNumber attributeNumber service globals,
      Globals.Related R globals (callback instanceNumber attributeNumber service globals)
  callback : ∀ callback : CipCallback σ, some callback ∈ cipClass.callbacks → callback.Keeps R
  services : ∀ slot ∈ cipClass.services, ∀ service, slot.serviceFunction = some service →
    service ∉ [CipServiceFunction.cipCreateService, .cipDeleteService]

structure RegisteredClass.Keeps (R : σ → σ → Prop) (registered : RegisteredClass σ) :
    Prop where
  cipClass : registered.cipClass.Keeps R
  metaClass : registered.metaClass.Keeps R

theorem RegisteredClass.Keeps.classOf {registered : RegisteredClass σ} (h : registered.Keeps R)
    (instanceNumber : UInt16) : (registered.classOf instanceNumber).Keeps R := by
  rw [RegisteredClass.classOf]
  split
  · exact h.metaClass
  · exact h.cipClass

variable (hrefl : ∀ state, R state state)
  (htrans : ∀ {state₁ state₂ state₃}, R state₁ state₂ → R state₂ state₃ → R state₁ state₃)
include hrefl

theorem ServingClass.Keeps.notifyCallback {cipClass : ServingClass σ} (h : cipClass.Keeps R)
    {callback : Option (CipCallback σ)} (hmem : callback ∈ cipClass.callbacks)
    {instanceNumber : UInt16} {request : MessageRouterRequest}
    {response response' : MessageRouterResponse} {globals globals' : Globals σ}
    {status : EipStatus}
    (hcall : notifyCallback callback instanceNumber request response globals =
      .ok (status, response', globals')) : Globals.Related R globals globals' := by
  cases callback with
  | none =>
      cases hcall
      exact hrefl _
  | some callback => exact h.callback callback hmem _ _ _ _ _ _ _ hcall

include htrans

omit htrans in
theorem ServingClass.Keeps.setAttributeSingle {cipClass : ServingClass σ} (h : cipClass.Keeps R)
    {inst : CipInstance (Globals σ)} (hinst : inst ∈ cipClass.instances)
    {attributeNumber : UInt16} {request : MessageRouterRequest}
    {response : MessageRouterResponse} {globals globals' : Globals σ}
    (hcall : setAttributeSingle cipClass.toCipClass inst attributeNumber request globals =
      .ok (response, globals')) : Globals.Related R globals globals' := by
  simp only [Opener.setAttributeSingle] at hcall
  split at hcall
  · cases hcall
    exact hrefl _
  · rename_i attr hattr
    split at hcall
    · cases hcall
      exact hrefl _
    · split at hcall
      · cases hcall
        exact hrefl _
      · split at hcall
        · split at hcall
          · cases hcall
          · rename_i decode hdecode
            have hset := h.set inst hinst attr (getCipAttribute_mem hattr) decode hdecode request
              globals
            cases hcall
            exact hset
        · cases hcall
          exact hrefl _

theorem ServingClass.Keeps.cipResetService {cipClass : ServingClass σ} (h : cipClass.Keeps R)
    {instanceNumber : UInt16} {request : MessageRouterRequest}
    {response : MessageRouterResponse} {globals globals' : Globals σ} {status : EipStatus}
    (hcall : cipResetService cipClass instanceNumber request globals =
      .ok (status, response, globals')) : Globals.Related R globals globals' := by
  simp only [Opener.cipResetService] at hcall
  split at hcall
  · cases hcall
  · rename_i hpre
    have hbefore := h.notifyCallback hrefl (by simp [ServingClass.callbacks]) hpre
    split at hcall
    · split at hcall
      · cases hcall
      · rename_i hpost
        have hafter := h.notifyCallback hrefl (by simp [ServingClass.callbacks]) hpost
        cases hcall
        exact htrans hbefore hafter
    · cases hcall
      exact hbefore

omit hrefl htrans in
/-- A class with the service that sets lists has no attribute that it could set. -/
theorem ServingClass.Keeps.readOnly {cipClass : ServingClass σ} (h : cipClass.Keeps R)
    (hservice : ∃ slot ∈ cipClass.services, slot.serviceFunction = some .setAttributeList) :
    ∀ inst ∈ cipClass.instances, ∀ attr ∈ inst.attributes, attr.decode = none := by
  refine h.listed.resolve_left fun hnone => ?_
  obtain ⟨slot, hslot, hfunction⟩ := hservice
  exact hnone slot hslot hfunction

/-- A service keeps the relation and leaves the classes. -/
theorem serve_keeps {cfg : Config} {env : Environment} {service : CipServiceFunction}
    {registered : RegisteredClass σ} {inst : CipInstance (Globals σ)} {epath : Epath}
    {front : List UInt8} {request : MessageRouterRequest} {originatorAddress : SockaddrIn}
    {encapsulationSession : UInt32} {d d' : Device σ} {status : EipStatus}
    {response : MessageRouterResponse} (hregistered : registered.Keeps R)
    (hinst : registered.getCipInstance epath.instanceNumber = some inst)
    (hservice : ∃ slot ∈ (registered.classOf epath.instanceNumber).services,
      slot.serviceFunction = some service)
    (hcall : d.serve cfg env service registered inst epath front request originatorAddress
      encapsulationSession = .ok (status, response, d')) :
    d'.classes = d.classes ∧ Globals.Related R d.globals d'.globals := by
  have hclass := hregistered.classOf epath.instanceNumber
  have hmem : inst ∈ (registered.classOf epath.instanceNumber).instances :=
    List.mem_of_find?_eq_some hinst
  have hfixed : service ∉ [CipServiceFunction.cipCreateService, .cipDeleteService] := by
    obtain ⟨slot, hslot, hfunction⟩ := hservice
    exact hclass.services slot hslot service hfunction
  cases service with
  | getAttributeSingle =>
      obtain ⟨⟨answer, globals⟩, hserved, hanswer⟩ := Device.map_ok hcall
      cases hanswer
      exact ⟨rfl, getAttributeSingle_related (V := Globals.Related R) (fun _ => hrefl _) htrans
        hclass.get hserved⟩
  | setAttributeSingle =>
      obtain ⟨⟨answer, globals⟩, hserved, hanswer⟩ := Device.map_ok hcall
      cases hanswer
      exact ⟨rfl, hclass.setAttributeSingle hrefl hmem hserved⟩
  | getAttributeAll =>
      obtain ⟨⟨answer, globals⟩, hserved, hanswer⟩ := Device.map_ok hcall
      cases hanswer
      exact ⟨rfl, (getAttributeAll_respects (fun globals => hrefl globals.application) hserved).2⟩
  | getAttributeList =>
      obtain ⟨reply, hserved, hanswer⟩ := Device.map_ok hcall
      cases hanswer
      exact ⟨rfl, (getAttributeList_respects (R := Globals.Related R)
        (fun globals => hrefl globals.application) (fun h h' => htrans h h') hserved).2⟩
  | setAttributeList =>
      obtain ⟨reply, hserved, hanswer⟩ := Device.map_ok hcall
      cases hanswer
      exact ⟨rfl, setAttributeList_readOnly (V := Globals.Related R)
        (fun globals => hrefl globals.application) (fun h h' => htrans h h')
        (hclass.readOnly hservice inst hmem) hserved⟩
  | cipCreateService => exact absurd List.mem_cons_self hfixed
  | cipDeleteService => exact absurd (List.mem_cons_of_mem _ List.mem_cons_self) hfixed
  | cipResetService =>
      obtain ⟨⟨answer, globals⟩, hserved, hanswer⟩ := Device.map_ok hcall
      cases hanswer
      exact ⟨rfl, hclass.cipResetService hrefl htrans hserved⟩
  | forwardOpen | largeForwardOpen | forwardClose =>
      obtain ⟨⟨answer, st⟩, hserved, hanswer⟩ := Device.map_ok hcall
      cases hanswer
      exact ⟨rfl, hrefl _⟩
  | getConnectionOwner | getConnectionData | searchConnectionData =>
      cases hcall
      exact ⟨rfl, hrefl _⟩

/-- When the classes keep the relation, it holds between the variables. -/
def Device.Moves (R : σ → σ → Prop) (d d' : Device σ) : Prop :=
  (∀ registered ∈ d.classes, registered.Keeps R) →
    d'.classes = d.classes ∧ Globals.Related R d.globals d'.globals

theorem Device.serves_moves (cfg : Config) (env : Environment) :
    Serves cfg env (Device.Moves R) where
  refl _ _ := ⟨rfl, hrefl _⟩
  trans h h' hclasses := by
    obtain ⟨hfirst, hrelated⟩ := h hclasses
    obtain ⟨hsecond, hrelated'⟩ := h' (hfirst ▸ hclasses)
    exact ⟨hsecond.trans hfirst, htrans hrelated hrelated'⟩
  stack _ _ _ := ⟨rfl, hrefl _⟩
  route hcall := by
    refine notifyMessageRouter_serves (P := Device.Moves R) (fun _ _ => ⟨rfl, hrefl _⟩) ?_ hcall
    intro _ _ _ _ _ _ _ _ _ _ _ _ hmem hinst hservice hserved hclasses
    exact serve_keeps hrefl htrans (hclasses _ hmem) hinst hservice hserved

/-- So does every step of the stack. -/
theorem Device.step_keeps {cfg : Config} {env : Environment} {front : List UInt8}
    {action : StackState.Action} {d d' : Device σ}
    (hclasses : ∀ registered ∈ d.classes, registered.Keeps R)
    (hstep : d.step cfg (env, .stack front action) = .ok d') :
    d'.classes = d.classes ∧ Globals.Related R d.globals d'.globals :=
  (serves_moves hrefl htrans cfg env).step hstep hclasses

end Keeping

section Registration

variable {σ : Type} {R : σ → σ → Prop}

/-- A class with the callbacks that these calls install. -/
def installCallbacks {σ : Type} : List (ClassSetup σ) → CipClass σ → CipClass σ
  | [], cipClass => cipClass
  | .insertAttribute _ _ :: calls, cipClass => installCallbacks calls cipClass
  | .insertGetSetCallback callback callbacksToInstall :: calls, cipClass =>
      installCallbacks calls (insertGetSetCallback cipClass callback callbacksToInstall)

/-- A class that has nothing but the callbacks. -/
def callbackClass {σ : Type} (setup : List (ClassSetup σ)) : CipClass σ :=
  installCallbacks setup (createCipClass 0 0 [])

theorem installCallbacks_append {τ : Type} (first second : List (ClassSetup τ))
    (cipClass : CipClass τ) :
    installCallbacks (first ++ second) cipClass =
      installCallbacks second (installCallbacks first cipClass) := by
  induction first generalizing cipClass with
  | nil => rfl
  | cons call first ih =>
      cases call with
      | insertAttribute instanceNumber attr => exact ih cipClass
      | insertGetSetCallback callback callbacksToInstall => exact ih _

/-- Attributes install no callback. -/
theorem installCallbacks_attributes {τ : Type} {setup : List (ClassSetup τ)}
    (h : ∀ call ∈ setup, ∃ instanceNumber attr, call = .insertAttribute instanceNumber attr)
    (cipClass : CipClass τ) : installCallbacks setup cipClass = cipClass := by
  induction setup with
  | nil => rfl
  | cons call setup ih =>
      obtain ⟨⟨instanceNumber, attr, rfl⟩, hrest⟩ := List.forall_mem_cons.mp h
      exact ih hrest

theorem installCallbacks_mem {τ : Type} {setup : List (ClassSetup τ)} {cipClass : CipClass τ}
    {callback : CipGetSetCallback τ}
    (h : some callback ∈ (installCallbacks setup cipClass).getSetCallbacks) :
    (∃ callbacksToInstall, .insertGetSetCallback callback callbacksToInstall ∈ setup) ∨
      some callback ∈ cipClass.getSetCallbacks := by
  induction setup generalizing cipClass with
  | nil => exact .inr h
  | cons call setup ih =>
      cases call with
      | insertAttribute instanceNumber attr =>
          exact (ih h).imp_left fun ⟨flags, hmem⟩ => ⟨flags, List.mem_cons_of_mem _ hmem⟩
      | insertGetSetCallback installed callbacksToInstall =>
          rcases ih h with ⟨flags, hmem⟩ | hmem
          · exact .inl ⟨flags, List.mem_cons_of_mem _ hmem⟩
          · rcases insertGetSetCallback_mem hmem with rfl | hold
            · exact .inl ⟨_, List.mem_cons_self⟩
            · exact .inr hold

theorem insertGetSetCallback_getSetCallbacks {σ : Type} {cipClass cipClass' : CipClass σ}
    (h : cipClass.getSetCallbacks = cipClass'.getSetCallbacks) (callback : CipGetSetCallback σ)
    (callbacksToInstall : UInt8) :
    (insertGetSetCallback cipClass callback callbacksToInstall).getSetCallbacks =
      (insertGetSetCallback cipClass' callback callbacksToInstall).getSetCallbacks := by
  simp only [CipClass.getSetCallbacks, List.cons.injEq, and_true] at h
  obtain ⟨hpreGet, hpostGet, hpreSet, hpostSet⟩ := h
  simp only [insertGetSetCallback, CipClass.getSetCallbacks, hpreGet, hpostGet, hpreSet, hpostSet]

/-- A class that was set up has these callbacks. -/
theorem setUpClass_getSetCallbacks {σ : Type} {setup : List (ClassSetup σ)}
    {cipClass cipClass' blank : CipClass σ}
    (hblank : cipClass.getSetCallbacks = blank.getSetCallbacks)
    (h : setUpClass cipClass setup = .ok cipClass') :
    cipClass'.getSetCallbacks = (installCallbacks setup blank).getSetCallbacks := by
  induction setup generalizing cipClass blank with
  | nil =>
      cases h
      exact hblank
  | cons call setup ih =>
      cases call with
      | insertAttribute instanceNumber attr =>
          rw [setUpClass] at h
          obtain ⟨next, hinsert, hrest⟩ := CursorAccounts.bind_ok h
          exact ih ((insertAttribute_getSetCallbacks hinsert).trans hblank) hrest
      | insertGetSetCallback callback callbacksToInstall =>
          exact ih (insertGetSetCallback_getSetCallbacks hblank _ _) h

theorem decodeAttribute_congr {σ : Type} {cipClass cipClass' : CipClass σ}
    (h : cipClass.getSetCallbacks = cipClass'.getSetCallbacks) (inst : CipInstance σ)
    (attr : CipAttributeStruct σ) (decode : CipAttributeDecodeFromMessage σ)
    (request : MessageRouterRequest) (state : σ) :
    decodeAttribute cipClass inst attr decode request state =
      decodeAttribute cipClass' inst attr decode request state := by
  simp only [CipClass.getSetCallbacks, List.cons.injEq, and_true] at h
  simp only [decodeAttribute, h.2.2.1, h.2.2.2]

/-- What these calls bring to a class keeps the relation. -/
structure SetupKeeps (R : σ → σ → Prop) (setup : List (ClassSetup (Globals σ))) : Prop where
  set : ∀ instanceNumber attr, .insertAttribute instanceNumber attr ∈ setup → ∀ decode,
    attr.decode = some decode → ∀ inst request globals, Globals.Related R globals
      (decodeAttribute (callbackClass setup) inst attr decode request globals).2
  get : ∀ callback, some callback ∈ [(callbackClass setup).preGetCallback,
      (callbackClass setup).postGetCallback] → ∀ instanceNumber attributeNumber service globals,
    Globals.Related R globals (callback instanceNumber attributeNumber service globals)

/-- No attribute is decoded. -/
def IsReadOnly {σ : Type} (setup : List (ClassSetup σ)) : Prop :=
  ∀ instanceNumber attr, .insertAttribute instanceNumber attr ∈ setup → attr.decode = none

/-- The services that a class is given create and delete no instances, and set no lists unless
nothing can be set. -/
def FixedInstances {σ : Type} (inserted : List (UInt8 × CipServiceFunction))
    (setup : List (ClassSetup σ)) : Prop :=
  (∀ service ∈ inserted, service.2 ∉ [CipServiceFunction.cipCreateService, .cipDeleteService]) ∧
    ((∀ service ∈ inserted, service.2 ≠ .setAttributeList) ∨ IsReadOnly setup)

/-- Each attribute of a class was inserted, or its slot is not used. -/
theorem setUpClass_inserted {σ : Type} {setup : List (ClassSetup σ)} {cipClass : CipClass σ}
    {numberOfAttributes : Nat} {highestAttributeNumber : UInt32} {instanceNumbers : List UInt16}
    (h : setUpClass (createCipClass numberOfAttributes highestAttributeNumber instanceNumbers)
      setup = .ok cipClass) :
    ∀ inst ∈ cipClass.instances, ∀ attr ∈ inst.attributes,
      (∃ instanceNumber, .insertAttribute instanceNumber attr ∈ setup) ∨ attr = .unused := by
  intro inst hinst attr hattr
  obtain ⟨free, hslots⟩ := (setUpClass_holds (createCipClass_holds _ _ _) h).slots inst hinst
  rw [hslots, List.mem_append] at hattr
  rcases hattr with hattr | hattr
  · obtain ⟨inserted, hinserted, rfl⟩ := List.mem_map.mp hattr
    have hlogged := List.mem_of_mem_filter hinserted
    rw [List.nil_append, insertions, List.mem_filterMap] at hlogged
    obtain ⟨call, hcall, hcalled⟩ := hlogged
    cases call with
    | insertAttribute instanceNumber attr =>
        cases hcalled
        exact .inl ⟨instanceNumber, hcall⟩
    | insertGetSetCallback callback callbacksToInstall => cases hcalled
  · exact .inr (List.eq_of_mem_replicate hattr)

theorem createServingClass_keeps {numberOfAttributes numberOfServices : Nat}
    {highestAttributeNumber : UInt32} {instanceNumbers : List UInt16}
    {setup : List (ClassSetup (Globals σ))} {inserted : List (UInt8 × CipServiceFunction)}
    {cipClass : ServingClass σ} (hsetup : SetupKeeps R setup)
    (hinserted : FixedInstances inserted setup)
    (h : createServingClass numberOfAttributes highestAttributeNumber numberOfServices
      instanceNumbers setup inserted = .ok cipClass) :
    cipClass.Keeps R ∧ ∀ callback, some callback ∉ cipClass.callbacks := by
  simp only [createServingClass] at h
  split at h
  · cases h
  · rename_i created hcreated
    split at h
    · cases h
    · rename_i services hservices
      have hnone : ∀ callback : CipCallback σ, some callback ∉
          ({ created with numberOfAttributes, services } : ServingClass σ).callbacks := by
        simp [ServingClass.callbacks]
      have hattributes := setUpClass_inserted hcreated
      have hblank : (createCipClass numberOfAttributes highestAttributeNumber instanceNumbers :
          CipClass (Globals σ)).getSetCallbacks = (createCipClass 0 0 []).getSetCallbacks := rfl
      have hcallbacks : created.getSetCallbacks = (callbackClass setup).getSetCallbacks :=
        setUpClass_getSetCallbacks hblank hcreated
      have hlists : ∀ P : CipServiceFunction → Prop, (∀ service ∈ inserted, P service.2) →
          ∀ slot ∈ services, ∀ service, slot.serviceFunction = some service → P service :=
        fun P hP => insertServices_forall
          (fun slot hslot service hservice => by
            cases List.eq_of_mem_replicate hslot
            cases hservice)
          (fun service hservice function hfunction => by
            cases hfunction
            exact hP service hservice) hservices
      cases h
      refine ⟨⟨fun inst hinst attr hattr decode hdecode request globals => ?_, ?_, ?_,
        fun callback hmem => absurd hmem (hnone callback), hlists _ hinserted.1⟩, hnone⟩
      · rcases hattributes inst hinst attr hattr with ⟨instanceNumber, hcall⟩ | rfl
        · rw [decodeAttribute_congr hcallbacks]
          exact hsetup.set instanceNumber attr hcall decode hdecode inst request globals
        · cases hdecode
      · refine hinserted.2.imp (fun hplain slot hslot hfunction => ?_)
          fun hreadOnly inst hinst attr hattr => ?_
        · exact hlists (· ≠ .setAttributeList) hplain slot hslot _ hfunction rfl
        · rcases hattributes inst hinst attr hattr with ⟨instanceNumber, hcall⟩ | rfl
          · exact hreadOnly instanceNumber attr hcall
          · rfl
      · simp only [CipClass.getSetCallbacks, List.cons.injEq, and_true] at hcallbacks
        rw [hcallbacks.1, hcallbacks.2.1]
        exact hsetup.get

/-- What has to hold of a class and its attributes. -/
structure ClassRegistration.Keeps (R : σ → σ → Prop) (registration : ClassRegistration σ)
    (attributes : ClassAttributes σ) : Prop where
  classSetup : SetupKeeps R attributes.classSetup
  instanceSetup : SetupKeeps R attributes.instanceSetup
  classServices : FixedInstances registration.classServices attributes.classSetup
  instanceServices : FixedInstances registration.instanceServices attributes.instanceSetup
  preResetCallback : ∀ callback ∈ registration.preResetCallback, CipCallback.Keeps R callback

theorem ClassRegistration.Keeps.create {registration : ClassRegistration σ}
    {attributes : ClassAttributes σ} {registered : RegisteredClass σ}
    (hkeeps : registration.Keeps R attributes)
    (h : registration.create attributes = .ok registered) : registered.Keeps R := by
  simp only [ClassRegistration.create] at h
  split at h
  · cases h
  · rename_i metaClass hmeta
    split at h
    · cases h
    · rename_i cipClass hclass
      have hmetaKeeps := createServingClass_keeps hkeeps.classSetup hkeeps.classServices hmeta
      obtain ⟨hclassKeeps, hnone⟩ :=
        createServingClass_keeps hkeeps.instanceSetup hkeeps.instanceServices hclass
      cases h
      refine ⟨⟨hclassKeeps.set, hclassKeeps.listed, hclassKeeps.get, fun callback hmem => ?_,
        hclassKeeps.services⟩, hmetaKeeps.1⟩
      by_cases hreset : some callback = registration.preResetCallback
      · exact hkeeps.preResetCallback callback hreset.symm
      -- no other callback is set
      · refine absurd ?_ (hnone callback)
        simp only [ServingClass.callbacks, List.mem_cons, List.not_mem_nil, or_false] at hmem ⊢
        tauto

theorem identityObjectPreResetCallback_keeps
    {resetDevice resetDeviceToInitialConfiguration :
      Globals σ → Except Fault (EipStatus × Globals σ)} (hrefl : ∀ state, R state state)
    (hreset : ∀ globals status globals', resetDevice globals = .ok (status, globals') →
      Globals.Related R globals globals')
    (hinitial : ∀ globals status globals',
      resetDeviceToInitialConfiguration globals = .ok (status, globals') →
        Globals.Related R globals globals') :
    CipCallback.Keeps R
      (identityObjectPreResetCallback resetDevice resetDeviceToInitialConfiguration) := by
  have hanswer : ∀ {response response' : MessageRouterResponse} {status : EipStatus}
      {globals globals' : Globals σ} {result : Except Fault (EipStatus × Globals σ)},
      (∀ status globals', result = .ok (status, globals') → Globals.Related R globals globals') →
        resetAnswer response result = .ok (status, response', globals') →
          Globals.Related R globals globals' := by
    intro response response' status globals globals' result hresult h
    unfold resetAnswer at h
    split at h
    · cases h
    · cases h
      exact hresult _ _ rfl
    · cases h
      exact hresult _ _ rfl
  intro instanceNumber request response globals status response' globals' h
  simp only [identityObjectPreResetCallback] at h
  generalize (if request.requestDataSize = 1 then request.data.byteAt 0 else 0) = resetType at h
  split at h
  · cases h
    exact hrefl _
  · split at h
    · exact hanswer (hreset globals) h
    · split at h
      · exact hanswer (hinitial globals) h
      · cases h
        exact hrefl _

/-- What has to hold of what the build and the application settle. -/
structure StackClasses.Keeps (R : σ → σ → Prop) (classes : StackClasses σ) : Prop where
  refl : ∀ state, R state state
  resetDevice : ∀ globals status globals',
    classes.resetDevice globals = .ok (status, globals') → Globals.Related R globals globals'
  resetDeviceToInitialConfiguration : ∀ globals status globals',
    classes.resetDeviceToInitialConfiguration globals = .ok (status, globals') →
      Globals.Related R globals globals'
  classSetup : ∀ classCode, SetupKeeps R (classes.attributes classCode).classSetup
  instanceSetup : ∀ classCode, SetupKeeps R (classes.attributes classCode).instanceSetup
  identity : IsReadOnly (classes.attributes identityClassCode).instanceSetup

theorem StackClasses.Keeps.registrations {classes : StackClasses σ} (h : classes.Keeps R) :
    ∀ registration ∈ classes.registrations,
      registration.Keeps R (classes.attributes registration.classCode) := by
  have hnotIn : ∀ (forbidden : List CipServiceFunction)
      (inserted : List (UInt8 × CipServiceFunction)),
      (inserted.all fun service => service.2 ∉ forbidden) = true →
        ∀ service ∈ inserted, service.2 ∉ forbidden := fun forbidden inserted hall service hmem =>
    of_decide_eq_true (List.all_eq_true.mp hall service hmem)
  have hfixed : ∀ (inserted : List (UInt8 × CipServiceFunction))
      (setup : List (ClassSetup (Globals σ))),
      (inserted.all fun service => service.2 ∉ [CipServiceFunction.cipCreateService,
        .cipDeleteService, .setAttributeList]) = true → FixedInstances inserted setup := by
    intro inserted setup hall
    have hservices := hnotIn _ inserted hall
    simp only [List.mem_cons, List.not_mem_nil, or_false, not_or] at hservices
    refine ⟨fun service hmem => ?_, .inl fun service hmem => (hservices service hmem).2.2⟩
    simp only [List.mem_cons, List.not_mem_nil, or_false, not_or]
    exact ⟨(hservices service hmem).1, (hservices service hmem).2.1⟩
  have hplain : ∀ registration : ClassRegistration σ,
      ((registration.classServices ++ registration.instanceServices).all fun service =>
        service.2 ∉ [CipServiceFunction.cipCreateService, .cipDeleteService,
          .setAttributeList]) = true →
      (∀ callback ∈ registration.preResetCallback, CipCallback.Keeps R callback) →
        registration.Keeps R (classes.attributes registration.classCode) := by
    intro registration hservices hcallback
    rw [List.all_append, Bool.and_eq_true] at hservices
    exact ⟨h.classSetup _, h.instanceSetup _, hfixed _ _ hservices.1, hfixed _ _ hservices.2,
      hcallback⟩
  have hnone : ∀ callback : CipCallback σ, callback ∈ (none : Option (CipCallback σ)) →
      callback.Keeps R := fun _ hmem => nomatch hmem
  intro registration hmem
  simp only [StackClasses.registrations, List.mem_append, List.mem_cons, List.not_mem_nil,
    or_false, or_assoc] at hmem
  rcases hmem with rfl | rfl | rfl | rfl | rfl | rfl | hdlr | rfl
  · exact hplain _ rfl hnone
  -- the identity object has the service that sets lists, and nothing to set
  · refine ⟨h.classSetup _, h.instanceSetup _, hfixed _ _ rfl, ⟨hnotIn _ _ rfl, .inr h.identity⟩,
      fun callback hcallback => ?_⟩
    cases hcallback
    exact identityObjectPreResetCallback_keeps h.refl h.resetDevice
      h.resetDeviceToInitialConfiguration
  · exact hplain _ rfl hnone
  · cases hcontrol : classes.interfaceControl with
    | true => exact hplain _ rfl hnone
    | false => exact hplain _ rfl hnone
  · exact hplain _ rfl hnone
  · exact hplain _ rfl hnone
  · split at hdlr
    · cases List.mem_singleton.mp hdlr
      exact hplain _ rfl hnone
    · cases hdlr
  · exact hplain _ rfl hnone

theorem cipStackInit_keeps {classes : StackClasses σ} (h : classes.Keeps R)
    {registered : List (RegisteredClass σ)} (hinit : cipStackInit classes = .ok registered) :
    ∀ registeredClass ∈ registered, registeredClass.Keeps R := by
  rw [cipStackInit] at hinit
  have hregistrations := h.registrations
  generalize classes.registrations = registrations at hinit hregistrations
  induction registrations generalizing registered with
  | nil =>
      cases hinit
      exact List.forall_mem_nil _
  | cons registration registrations ih =>
      rw [List.mapM_cons] at hinit
      obtain ⟨first, hfirst, hinit⟩ := CursorAccounts.bind_ok hinit
      obtain ⟨later, hlater, hinit⟩ := CursorAccounts.bind_ok hinit
      cases hinit
      rw [List.forall_mem_cons] at hregistrations ⊢
      exact ⟨hregistrations.1.create hfirst, ih hlater hregistrations.2⟩

end Registration

end Opener

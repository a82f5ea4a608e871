import Opener.Core.MessageRouter
import Opener.Library.CursorAccounts
import Opener.Metatheory.Shutdown

/-!
What the services of the objects do to the variables. A relation that the decode functions
and the callbacks of a class keep is kept by its services; for a device it is that the stack
is only driven through what the application may call.
-/

namespace Opener

section Attributes

variable {σ : Type}

/-- The functions that the class and its attributes have take a state to a related one. -/
structure CipClass.Respects (R : σ → σ → Prop) (cipClass : CipClass σ) : Prop where
  decode : ∀ inst ∈ cipClass.instances, ∀ attr ∈ inst.attributes, ∀ decode,
    attr.decode = some decode → ∀ state request, R state (decode state request).data
  callback : ∀ callback, some callback ∈ [cipClass.preGetCallback, cipClass.postGetCallback,
    cipClass.preSetCallback, cipClass.postSetCallback] →
    ∀ instanceNumber attributeNumber service state,
      R state (callback instanceNumber attributeNumber service state)

variable {R : σ → σ → Prop} {cipClass : CipClass σ} {inst : CipInstance σ}
  {attr : CipAttributeStruct σ} {attributeNumber : UInt16} {request : MessageRouterRequest}
  {response : MessageRouterResponse} {state state' : σ} {front : List UInt8}

theorem getCipAttribute_mem (h : getCipAttribute inst attributeNumber = some attr) :
    attr ∈ inst.attributes :=
  List.mem_of_find?_eq_some h

section Relation

variable (hrefl : ∀ state, R state state)
  (htrans : ∀ {state₁ state₂ state₃}, R state₁ state₂ → R state₂ state₃ → R state₁ state₃)
  (hrespects : cipClass.Respects R)
include hrefl

theorem callBack_respects {callback : Option (CipGetSetCallback σ)} {flags service : UInt8}
    (hcallback : ∀ f, callback = some f → ∀ instanceNumber attributeNumber service state,
      R state (f instanceNumber attributeNumber service state)) :
    R state (callBack callback flags inst attr service state) := by
  cases callback with
  | none => exact hrefl state
  | some f =>
      rw [callBack]
      split
      · exact hcallback f rfl _ _ _ _
      · exact hrefl state

theorem getAttributeAll_respects {numberOfAttributes : Nat}
    (h : getAttributeAll cipClass numberOfAttributes inst request state = .ok (response, state')) :
    response.replyService = 0x80 ||| request.service ∧ R state state' := by
  rw [getAttributeAll] at h
  split at h
  · cases h
    exact ⟨rfl, hrefl state⟩
  · split at h
    · cases h
    · split at h
      · cases h
      · cases h
        exact ⟨rfl, hrefl state⟩

include htrans hrespects

theorem getAttributeSingle_respects
    (h : getAttributeSingle cipClass inst attributeNumber request state = .ok (response, state')) :
    response.replyService = 0x80 ||| request.service ∧ R state state' := by
  simp only [getAttributeSingle] at h
  split at h
  · cases h
    exact ⟨rfl, hrefl state⟩
  · rename_i attr hattr
    split at h
    · cases h
      exact ⟨rfl, hrefl state⟩
    · split at h
      · split at h
        · cases h
        · cases h
          refine ⟨rfl, htrans (callBack_respects hrefl fun f hf => ?_)
            (callBack_respects hrefl fun f hf => ?_)⟩
          · exact hrespects.callback f (by simp [hf])
          · exact hrespects.callback f (by simp [hf])
      · cases h
        exact ⟨rfl, hrefl state⟩

variable (hinst : inst ∈ cipClass.instances)
include hinst

theorem decodeAttribute_respects {decode : CipAttributeDecodeFromMessage σ}
    (hattr : attr ∈ inst.attributes) (hdecode : attr.decode = some decode) :
    R state (decodeAttribute cipClass inst attr decode request state).2 := by
  rw [decodeAttribute]
  refine htrans (callBack_respects hrefl fun f hf => ?_)
    (htrans (hrespects.decode inst hinst attr hattr decode hdecode _ request)
      (callBack_respects hrefl fun f hf => ?_))
  · exact hrespects.callback f (by simp [hf])
  · exact hrespects.callback f (by simp [hf])

theorem setAttributeSingle_respects
    (h : setAttributeSingle cipClass inst attributeNumber request state = .ok (response, state')) :
    response.replyService = 0x80 ||| request.service ∧ R state state' := by
  simp only [setAttributeSingle] at h
  split at h
  · cases h
    exact ⟨rfl, hrefl state⟩
  · rename_i attr hattr
    split at h
    · cases h
      exact ⟨rfl, hrefl state⟩
    · split at h
      · cases h
        exact ⟨rfl, hrefl state⟩
      · split at h
        · split at h
          · cases h
          · rename_i decode hdecode
            have hdecoded : R state (decodeAttribute cipClass inst attr decode request state).2 :=
              decodeAttribute_respects hrefl htrans hrespects hinst (getCipAttribute_mem hattr)
                hdecode
            cases h
            exact ⟨rfl, hdecoded⟩
        · cases h
          exact ⟨rfl, hrefl state⟩

end Relation

section Lists

variable {serve : ListService σ} {buffer : Message} {reply : ListReply σ}
  {s s' : ListState σ} {record : AttributeRecord} {returns : Bool}

/-- What a list service does with the attributes of an instance keeps the relation. -/
def ListService.Respects (R : σ → σ → Prop) (serve : ListService σ) (inst : CipInstance σ) :
    Prop :=
  ∀ attr ∈ inst.attributes, ∀ attributeNumber s record s' returns,
    serve attr attributeNumber s = .ok (record, s', returns) → R s.state s'.state

variable (hrefl : ∀ state, R state state)
  (htrans : ∀ {state₁ state₂ state₃}, R state₁ state₂ → R state₂ state₃ → R state₁ state₃)
include hrefl

theorem serveAttribute_respects (hserve : serve.Respects R inst)
    (h : serveAttribute serve inst attributeNumber s = .ok (record, s', returns)) :
    R s.state s'.state := by
  rw [serveAttribute] at h
  split at h
  · rename_i attr hattr
    exact hserve attr (getCipAttribute_mem hattr) _ _ _ _ _ h
  · cases h
    exact hrefl _

include htrans

theorem attributeListLoop_respects (hserve : serve.Respects R inst) {count : Nat}
    {records : List AttributeRecord} {exit : ListExit}
    (h : attributeListLoop serve inst buffer count s = .ok (records, s', exit)) :
    R s.state s'.state := by
  induction count generalizing s records with
  | zero =>
      cases h
      exact hrefl _
  | succ count ih =>
      simp only [attributeListLoop] at h
      split at h
      · cases h
        exact hrefl _
      · obtain ⟨⟨record, s₁, returns⟩, hserved, h⟩ := CursorAccounts.bind_ok h
        have hstep := serveAttribute_respects hrefl hserve hserved
        cases returns with
        | true =>
            cases h
            exact hstep
        | false =>
            obtain ⟨⟨records, s₂, exit⟩, hrest, h⟩ := CursorAccounts.bind_ok h
            cases h
            have hlater := ih hrest
            exact htrans hstep hlater

theorem attributeList_respects (hserve : serve.Respects R inst)
    (h : attributeList serve inst front request state = .ok reply) :
    reply.response.replyService = 0x80 ||| request.service ∧ R state reply.state := by
  simp only [attributeList] at h
  split at h
  · obtain ⟨⟨records, s, exit⟩, hloop, h⟩ := CursorAccounts.bind_ok h
    cases h
    exact ⟨rfl, attributeListLoop_respects hrefl htrans hserve hloop⟩
  · cases h
    exact ⟨rfl, hrefl state⟩

theorem getAttributeList_respects
    (h : getAttributeList cipClass inst front request state = .ok reply) :
    reply.response.replyService = 0x80 ||| request.service ∧ R state reply.state := by
  refine attributeList_respects hrefl htrans (fun attr _ attributeNumber s record s' returns
    hserved => ?_) h
  simp only [getListedAttribute] at hserved
  split at hserved
  · split at hserved
    · cases hserved
    · cases hserved
      exact hrefl _
  · cases hserved
    exact hrefl _

theorem setAttributeList_respects (hrespects : cipClass.Respects R)
    (hinst : inst ∈ cipClass.instances)
    (h : setAttributeList cipClass inst front request state = .ok reply) :
    reply.response.replyService = 0x80 ||| request.service ∧ R state reply.state := by
  refine attributeList_respects hrefl htrans (fun attr hattr attributeNumber s record s' returns
    hserved => ?_) h
  simp only [setListedAttribute] at hserved
  split at hserved
  · split at hserved
    · cases hserved
    · rename_i decode hdecode
      cases hserved
      exact hrespects.decode inst hinst attr hattr decode hdecode _ _
  · split at hserved
    · cases hserved
      exact hrefl _
    · cases hserved
      exact hrefl _

end Lists

end Attributes

namespace StackState

/-- The steps that an application takes by calling the stack, or on its own data. -/
def Action.isApplicationCall : Action → Bool
  | .triggerConnections _ _ | .closeAllConnections | .writeAssemblies _ => true
  | _ => false

/-- What the code of an application does to the stack. -/
def ApplicationRun (cfg : Config) (st st' : StackState) : Prop :=
  Runs.Reaches (step cfg) (fun label _ => label.2.isApplicationCall = true) st st'

variable {cfg : Config} {st st' st₁ : StackState}

theorem ApplicationRun.refl : ApplicationRun cfg st st := Runs.Reaches.refl

theorem ApplicationRun.trans (h : ApplicationRun cfg st st₁) (h' : ApplicationRun cfg st₁ st') :
    ApplicationRun cfg st st' :=
  Runs.Reaches.trans h h'

theorem ApplicationRun.sound (h : ApplicationRun cfg st st') (hsound : st.Sound cfg) :
    st'.Sound cfg :=
  h.invariant (Sound cfg) hsound fun _ _ _ hs _ hstep => (step_spec hs hstep).1

/-- An application has no access to the structure that a reply is assembled from. -/
theorem ApplicationRun.cpf (h : ApplicationRun cfg st st') (hsound : st.Sound cfg) :
    st'.cpf = st.cpf := by
  refine (h.invariant (fun s => s.Sound cfg ∧ s.cpf = st.cpf) ⟨hsound, rfl⟩ ?_).2
  intro label s s' hs hcall hstep
  refine ⟨(step_spec hs.1 hstep).1, ?_⟩
  obtain ⟨env, action⟩ := label
  cases action with
  | triggerConnections outputAssembly inputAssembly =>
      cases hstep
      rw [← hs.2, triggerConnections]
      split
      · rfl
      · split
        · rfl
        · rfl
  | closeAllConnections =>
      obtain ⟨ns, hlisted⟩ := hs.1.wellFormed
      obtain ⟨s₁, hclose, -, -, hframe⟩ :=
        closeFirstConnections_ok hlisted hs.1.regular hlisted.length_le
      cases hclose.symm.trans hstep
      rw [← hs.2, hframe.cpf]
  | writeAssemblies data =>
      cases hstep
      exact hs.2
  | _ => cases hcall

end StackState

open StackState

variable {σ : Type} {cfg : Config}

/-- The stack was driven by the application only. -/
def Globals.Driven (cfg : Config) (globals globals' : Globals σ) : Prop :=
  ApplicationRun cfg globals.stack globals'.stack

theorem Globals.Driven.refl (globals : Globals σ) : Globals.Driven cfg globals globals :=
  ApplicationRun.refl

theorem Globals.Driven.trans {globals globals₁ globals' : Globals σ}
    (h : Globals.Driven cfg globals globals₁) (h' : Globals.Driven cfg globals₁ globals') :
    Globals.Driven cfg globals globals' :=
  ApplicationRun.trans h h'

/-- The code that a function writes into its replies, where it does not take the one of the
request. -/
def CipServiceFunction.fixedCode : CipServiceFunction → Option UInt8
  | .forwardOpen => some 0x54
  | .largeForwardOpen => some 0x5B
  | .getConnectionData => some 0x56
  | .searchConnectionData => some 0x57
  | _ => none

/-- A callback that does not touch the code of the reply. -/
def CipCallback.Conforms (cfg : Config) (callback : CipCallback σ) : Prop :=
  ∀ instanceNumber request response globals status response' globals',
    callback instanceNumber request response globals = .ok (status, response', globals') →
      response'.replyService = response.replyService ∧ Globals.Driven cfg globals globals'

namespace ServingClass

/-- The callbacks of Create, Delete and Reset. -/
def callbacks (cipClass : ServingClass σ) : List (Option (CipCallback σ)) :=
  [cipClass.preCreateCallback, cipClass.postCreateCallback, cipClass.preDeleteCallback,
    cipClass.postDeleteCallback, cipClass.preResetCallback, cipClass.postResetCallback]

/-- The functions of the class use the stack as an application does, and a function with a
code of its own is registered under that code. -/
structure Conforms (cfg : Config) (cipClass : ServingClass σ) : Prop where
  respects : cipClass.toCipClass.Respects (Globals.Driven cfg)
  callback : ∀ callback : CipCallback σ, some callback ∈ cipClass.callbacks →
    callback.Conforms cfg
  code : ∀ slot ∈ cipClass.services, ∀ service, slot.serviceFunction = some service →
    ∀ code, service.fixedCode = some code → slot.serviceNumber = code

theorem Conforms.setInstances {cipClass : ServingClass σ} (h : cipClass.Conforms cfg)
    (nodes : List CipInstanceNode) : (cipClass.setInstances nodes).Conforms cfg := by
  refine ⟨⟨fun inst hinst attr hattr decode hdecode => ?_, h.respects.callback⟩, h.callback,
    h.code⟩
  obtain ⟨node, -, rfl⟩ := List.mem_map.mp hinst
  rw [List.getD_eq_getElem?_getD] at hattr
  cases hold : cipClass.instances[node.address]? with
  | some old =>
      rw [hold] at hattr
      exact h.respects.decode old (List.mem_of_getElem? hold) attr hattr decode hdecode
  | none =>
      rw [hold] at hattr
      cases List.eq_of_mem_replicate hattr
      cases hdecode

end ServingClass

/-- Of a class as it is registered. -/
structure RegisteredClass.Conforms (cfg : Config) (registered : RegisteredClass σ) : Prop where
  cipClass : registered.cipClass.Conforms cfg
  metaClass : registered.metaClass.Conforms cfg
  classCode : registered.classCode ≠ 0

theorem RegisteredClass.Conforms.classOf {registered : RegisteredClass σ}
    (h : registered.Conforms cfg) (instanceNumber : UInt16) :
    (registered.classOf instanceNumber).Conforms cfg := by
  rw [RegisteredClass.classOf]
  split
  · exact h.metaClass
  · exact h.cipClass

def Device.Conforms (cfg : Config) (d : Device σ) : Prop :=
  ∀ registered ∈ d.classes, registered.Conforms cfg

theorem Device.Conforms.setInstances {d : Device σ} (h : d.Conforms cfg)
    {registered : RegisteredClass σ} (hregistered : registered.Conforms cfg)
    (instanceNumber : UInt16) (nodes : List CipInstanceNode) :
    (d.setInstances registered instanceNumber nodes).Conforms cfg := by
  intro changed hchanged
  obtain ⟨other, hother, rfl⟩ := List.mem_map.mp hchanged
  have hclass := (hregistered.classOf instanceNumber).setInstances nodes
  split
  · rw [RegisteredClass.setClassOf]
    split
    · exact ⟨hregistered.cipClass, hclass, hregistered.classCode⟩
    · exact ⟨hclass, hregistered.metaClass, hregistered.classCode⟩
  · exact h other hother

section Callbacks

variable {cipClass : ServingClass σ} {registered : RegisteredClass σ} {d d' : Device σ}
  {instanceNumber : UInt16} {request : MessageRouterRequest}
  {response response' : MessageRouterResponse} {globals globals' : Globals σ} {status : EipStatus}

theorem ServingClass.Conforms.notifyCallback (h : cipClass.Conforms cfg)
    {callback : Option (CipCallback σ)} (hmem : callback ∈ cipClass.callbacks)
    (hcall : notifyCallback callback instanceNumber request response globals =
      .ok (status, response', globals')) :
    response'.replyService = response.replyService ∧ Globals.Driven cfg globals globals' := by
  cases callback with
  | none =>
      cases hcall
      exact ⟨rfl, .refl _⟩
  | some callback => exact h.callback callback hmem _ _ _ _ _ _ _ hcall

/-- A reply that names the requested service, from a device whose application alone drove the
stack. -/
structure ObjectServed (cfg : Config) (request : MessageRouterRequest) (d : Device σ)
    (response : MessageRouterResponse) (d' : Device σ) : Prop where
  named : response.replyService = 0x80 ||| request.service
  conforms : d'.Conforms cfg
  driven : ApplicationRun cfg d.stack d'.stack

/-- A service of an object leaves its response and the globals. -/
theorem ObjectServed.of_map {α : Type} {result : Except Fault α} {sent : α → EipStatus}
    {answer : α → MessageRouterResponse} {left : α → Globals σ} (hd : d.Conforms cfg)
    (hresult : ∀ served, result = .ok served →
      (answer served).replyService = 0x80 ||| request.service ∧
        Globals.Driven cfg d.globals (left served))
    (hcall : result.map (fun served => (sent served, answer served, d.setGlobals (left served))) =
      .ok (status, response, d')) : ObjectServed cfg request d response d' := by
  cases result with
  | error fault => cases hcall
  | ok served =>
      obtain ⟨hnamed, hdriven⟩ := hresult served rfl
      cases hcall
      exact ⟨hnamed, hd, hdriven⟩

theorem cipResetService_named (h : cipClass.Conforms cfg)
    (hcall : cipResetService cipClass instanceNumber request globals =
      .ok (status, response, globals')) :
    response.replyService = 0x80 ||| request.service ∧ Globals.Driven cfg globals globals' := by
  simp only [cipResetService] at hcall
  split at hcall
  · cases hcall
  · rename_i hpre
    obtain ⟨hnamed, hdriven⟩ := h.notifyCallback (by simp [ServingClass.callbacks]) hpre
    split at hcall
    · split at hcall
      · cases hcall
      · rename_i hpost
        obtain ⟨hnamed', hdriven'⟩ := h.notifyCallback (by simp [ServingClass.callbacks]) hpost
        cases hcall
        exact ⟨hnamed'.trans hnamed, hdriven.trans hdriven'⟩
    · cases hcall
      exact ⟨hnamed, hdriven⟩

theorem cipCreateService_served (hd : d.Conforms cfg) (hregistered : registered.Conforms cfg)
    (hcall : d.cipCreateService registered instanceNumber request = .ok (status, response, d')) :
    ObjectServed cfg request d response d' := by
  have hclass := hregistered.cipClass
  simp only [Device.cipCreateService] at hcall
  split at hcall
  · cases hcall
  · rename_i hpre
    obtain ⟨hnamed, hdriven⟩ := hclass.notifyCallback (by simp [ServingClass.callbacks]) hpre
    split at hcall
    · cases hcall
      exact ⟨hnamed, hd, hdriven⟩
    · split at hcall
      · cases hcall
      · cases hcall
      · split at hcall
        · cases hcall
        · rename_i hpost
          obtain ⟨hnamed', hdriven'⟩ :=
            hclass.notifyCallback (by simp [ServingClass.callbacks]) hpost
          cases hcall
          exact ⟨hnamed'.trans hnamed, hd.setInstances hregistered _ _,
            ApplicationRun.trans hdriven hdriven'⟩

theorem cipDeleteService_served (hd : d.Conforms cfg) (hregistered : registered.Conforms cfg)
    (hcall : d.cipDeleteService registered instanceNumber request = .ok (status, response, d')) :
    ObjectServed cfg request d response d' := by
  have hclass := hregistered.classOf instanceNumber
  simp only [Device.cipDeleteService] at hcall
  split at hcall
  · cases hcall
  · rename_i hpre
    obtain ⟨hnamed, hdriven⟩ := hclass.notifyCallback (by simp [ServingClass.callbacks]) hpre
    split at hcall
    · cases hcall
      exact ⟨hnamed, hd, hdriven⟩
    · split at hcall
      · cases hcall
      · split at hcall
        · cases hcall
        · rename_i hpost
          obtain ⟨hnamed', hdriven'⟩ :=
            hclass.notifyCallback (by simp [ServingClass.callbacks]) hpost
          have hconforms := hd.setInstances hregistered
          cases hcall
          refine ⟨hnamed'.trans hnamed, ?_, ?_⟩
          · split
            · exact hconforms _ _
            · exact hconforms _ _
          · split
            · exact ApplicationRun.trans hdriven hdriven'
            · exact ApplicationRun.trans hdriven hdriven'

end Callbacks

section Serve

variable {env : Environment} {service : CipServiceFunction} {registered : RegisteredClass σ}
  {inst : CipInstance (Globals σ)} {epath : Epath} {front : List UInt8}
  {request : MessageRouterRequest} {originatorAddress : SockaddrIn}
  {encapsulationSession : UInt32} {d d' : Device σ} {status : EipStatus}
  {response : MessageRouterResponse}

/-- The services that go to the connection manager. -/
def CipServiceFunction.isConnectionService : CipServiceFunction → Bool
  | .forwardOpen | .largeForwardOpen | .forwardClose | .getConnectionOwner | .getConnectionData
  | .searchConnectionData => true
  | _ => false

/-- Every other service is one of the objects. -/
theorem serve_object (hobject : service.isConnectionService = false) (hd : d.Conforms cfg)
    (hregistered : registered.Conforms cfg)
    (hinst : registered.getCipInstance epath.instanceNumber = some inst)
    (hcall : d.serve cfg env service registered inst epath front request originatorAddress
      encapsulationSession = .ok (status, response, d')) :
    ObjectServed cfg request d response d' := by
  have hrespects := (hregistered.classOf epath.instanceNumber).respects
  have hmem : inst ∈ (registered.classOf epath.instanceNumber).instances :=
    List.mem_of_find?_eq_some hinst
  cases service with
  | getAttributeSingle =>
      refine .of_map hd (fun served hserved => ?_) hcall
      exact getAttributeSingle_respects .refl .trans hrespects hserved
  | setAttributeSingle =>
      refine .of_map hd (fun served hserved => ?_) hcall
      exact setAttributeSingle_respects .refl .trans hrespects hmem hserved
  | getAttributeAll =>
      refine .of_map hd (fun served hserved => ?_) hcall
      exact getAttributeAll_respects .refl hserved
  | getAttributeList =>
      refine .of_map hd (fun served hserved => ?_) hcall
      exact getAttributeList_respects .refl .trans hserved
  | setAttributeList =>
      refine .of_map hd (fun served hserved => ?_) hcall
      exact setAttributeList_respects .refl .trans hrespects hmem hserved
  | cipCreateService => exact cipCreateService_served hd hregistered hcall
  | cipDeleteService => exact cipDeleteService_served hd hregistered hcall
  | cipResetService =>
      refine .of_map hd (fun served hserved => ?_) hcall
      exact cipResetService_named (hregistered.classOf epath.instanceNumber) hserved
  | forwardOpen | largeForwardOpen | forwardClose | getConnectionOwner | getConnectionData
  | searchConnectionData => cases hobject

end Serve

end Opener

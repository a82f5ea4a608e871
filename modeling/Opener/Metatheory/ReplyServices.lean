import Opener.Metatheory.ObjectServices
import Opener.Metatheory.OpenReturns
import Opener.Metatheory.RequestLengths
import Opener.Metatheory.RequestTimers

/-!
The service that a reply names. Most services take it from the request, those of the
connection manager write a code of their own; the code of a Forward Open is that of the
object which the reply is read from.
-/

namespace Opener

namespace StackState

variable {cfg : Config} {env : Environment} {st st₁ st' : StackState} {isLarge : Bool}
  {request : MessageRouterRequest} {originatorAddress : SockaddrIn}
  {encapsulationSession : UInt32}

theorem forwardOpenRequest_isLarge {refusal : Option OpenStatus}
    (h : st.forwardOpenRequest cfg env isLarge request originatorAddress encapsulationSession =
      .ok (refusal, st₁)) : st₁.dummy.isLargeForwardOpen = isLarge := by
  simp only [forwardOpenRequest] at h
  split at h
  · cases h
  · rename_i message st₀ hreceive
    have hlarge := receiveForwardOpen_isLarge hreceive
    have hrouted := parseConnectionPath_routed cfg message request.requestDataSize st₀.dummy
      st₀.configData
    have hparsed : ∀ {d : CipConnectionObject}, d.unrouted = st₀.dummy.unrouted →
        d.isLargeForwardOpen = isLarge := by
      intro d hd
      rw [← hlarge]
      exact CipConnectionObject.unrouted_field hd (·.isLargeForwardOpen) fun _ => rfl
    split at h
    · cases h
      exact hlarge
    · split at h
      · cases h
        exact hlarge
      · split at h
        · rename_i failure hparse
          cases h
          rw [hparse] at hrouted
          exact hparsed hrouted
        · rename_i s hparse
          cases h
          rw [hparse] at hrouted
          exact hparsed hrouted

/-- The service that `AssembleForwardOpenResponse` names. -/
def openService (isLarge : Bool) : UInt8 := if isLarge then 0x5B else 0x54

theorem assembleForwardOpenResponse_replyService (c : CipConnectionObject) (status : OpenStatus)
    (st : StackState) :
    (st.assembleForwardOpenResponse c status).1.replyService =
      0x80 ||| openService c.isLargeForwardOpen := by
  simp only [assembleForwardOpenResponse]
  split
  · rfl
  · rfl

/-- The reply to a Forward Open is read from the object of the request or from the new
connection, and both are marked with the service. -/
theorem forwardOpenRoutine_replyService (hsound : st.Sound cfg)
    (hzero : cfg.getCipClass 0 = none) {response : MessageRouterResponse}
    (hcall : st.forwardOpenRoutine cfg env isLarge request originatorAddress
      encapsulationSession = .ok (response, st')) :
    response.replyService = 0x80 ||| openService isLarge := by
  rw [forwardOpenRoutine_eq] at hcall
  split at hcall
  · cases hcall
  · rename_i status st₁ hrequest
    have hreply := assembleForwardOpenResponse_replyService st₁.dummy status st₁
    rw [Except.ok.injEq, refuse] at hcall
    rw [hcall, forwardOpenRequest_isLarge hrequest] at hreply
    exact hreply
  · rename_i st₁ hrequest
    obtain ⟨hreceives, hclass⟩ := forwardOpenRequest_receives hrequest
    obtain ⟨hsound₁, hrequested⟩ := hreceives.requested hsound
    have hlarge := forwardOpenRequest_isLarge hrequest
    split at hcall
    · cases hcall
    · rename_i status st₂ hopen
      obtain ⟨ns, hlisted⟩ := hsound₁.wellFormed
      obtain ⟨hwell, -, hanswered⟩ :=
        openConnection_spec hlisted hsound₁.regular hrequested (hclass rfl) hopen
      by_cases hfailed : status.general ≠ GeneralStatus.success
      · have hasked := (openConnection_pacing hsound₁ hrequested hopen).1
        have hlarge₂ : st₂.dummy.isLargeForwardOpen = st₁.dummy.isLargeForwardOpen :=
          CipConnectionObject.asked_field hasked (·.isLargeForwardOpen) fun _ => rfl
        have hreply := assembleForwardOpenResponse_replyService st₂.dummy status st₂
        rw [answerOpenConnection, if_pos hfailed, Except.ok.injEq, refuse] at hcall
        rw [hcall, hlarge₂, hlarge] at hreply
        exact hreply
      · have hsuccess := not_not.mp hfailed
        rcases hanswered.outcome with ⟨-, V₁, r, hentered⟩ | ⟨hnobody, -⟩
        · have hmembers : st₂.connectionList cfg = r :: V₁.members := hentered.members
          have hhead : (st₂.connectionList cfg).head? = some r := by
            rw [hmembers]
            rfl
          have hanswer := answerOpenConnection_head hwell hhead hsuccess hcall
          have hconn : (st₂.conn r).isLargeForwardOpen = st₁.dummy.isLargeForwardOpen :=
            CipConnectionObject.terms_field hentered.granted.terms (·.isLargeForwardOpen)
              fun _ => rfl
          have hreply := assembleForwardOpenResponse_replyService (st₂.conn r) {} st₂
          rw [← hanswer, hconn, hlarge] at hreply
          exact hreply
        -- no class has the code that the unused entries of the management list have
        · obtain ⟨instances, hfound, -⟩ := forwardOpenRequest_found hrequest
          rw [hnobody hsuccess, hzero] at hfound
          cases hfound

/-- A Forward Close is answered in one way. -/
theorem forwardClose_response {response : MessageRouterResponse}
    (hcall : st.forwardClose cfg request originatorAddress = .ok (response, st')) :
    ∃ serialNumber vendorId originatorSerialNumber remainingPathSize extended st₁,
      assembleForwardCloseResponse serialNumber vendorId originatorSerialNumber request.service
        remainingPathSize extended st₁ = (response, st') := by
  simp only [forwardClose] at hcall
  split at hcall
  · exact ⟨_, _, _, _, _, _, Except.ok.inj hcall⟩
  · split at hcall
    · split at hcall
      · cases hcall
      · exact ⟨_, _, _, _, _, _, Except.ok.inj hcall⟩
    · exact ⟨_, _, _, _, _, _, Except.ok.inj hcall⟩

theorem forwardClose_replyService {response : MessageRouterResponse}
    (hcall : st.forwardClose cfg request originatorAddress = .ok (response, st')) :
    response.replyService = 0x80 ||| request.service := by
  obtain ⟨_, _, _, _, _, _, hassemble⟩ := forwardClose_response hcall
  simp only [assembleForwardCloseResponse, Prod.mk.injEq] at hassemble
  rw [← hassemble.1]
  split
  · rfl
  · split
    · rfl
    · rfl

theorem getConnectionData_replyService (cfg : Config) (request : MessageRouterRequest)
    (st : StackState) : (st.getConnectionData cfg request).replyService = 0x80 ||| 0x56 := by
  simp only [getConnectionData]
  split
  · rfl
  · rfl

theorem searchConnectionData_replyService (cfg : Config) (request : MessageRouterRequest)
    (st : StackState) : (st.searchConnectionData cfg request).replyService = 0x80 ||| 0x57 := by
  simp only [searchConnectionData]
  split
  · rfl
  · rfl

/-- A reply that is assembled here carries its response: the items have the types of a request,
or those that a Forward Open or Forward Close is answered with. -/
structure Addressed (cpf : CommonPacketFormatData) : Prop where
  address : cpf.addressItem.typeId = ItemId.nullAddress ∨
    cpf.addressItem.typeId = ItemId.connectionAddress
  data : cpf.dataItem.typeId = ItemId.unconnectedDataItem ∨
    cpf.dataItem.typeId = ItemId.connectedDataItem

theorem assembleForwardOpenResponse_addressed (c : CipConnectionObject) (status : OpenStatus)
    (st : StackState) : Addressed (st.assembleForwardOpenResponse c status).2.cpf := by
  simp only [assembleForwardOpenResponse]
  split
  · exact ⟨.inl rfl, .inl rfl⟩
  · exact ⟨.inl rfl, .inl rfl⟩

theorem forwardOpenRoutine_addressed {response : MessageRouterResponse}
    (hcall : st.forwardOpenRoutine cfg env isLarge request originatorAddress
      encapsulationSession = .ok (response, st')) : Addressed st'.cpf := by
  rw [forwardOpenRoutine_eq] at hcall
  split at hcall
  · cases hcall
  · rename_i status st₁ hrequest
    have haddressed := assembleForwardOpenResponse_addressed st₁.dummy status st₁
    rw [Except.ok.injEq, refuse] at hcall
    rw [hcall] at haddressed
    exact haddressed
  · split at hcall
    · cases hcall
    · rename_i status st₂ hopen
      obtain ⟨c, status', hassemble, -⟩ := answerOpenConnection_response hcall
      have haddressed := assembleForwardOpenResponse_addressed c status' st₂
      rw [hassemble] at haddressed
      exact haddressed

theorem forwardClose_addressed {response : MessageRouterResponse}
    (hcall : st.forwardClose cfg request originatorAddress = .ok (response, st')) :
    Addressed st'.cpf := by
  obtain ⟨_, _, _, _, _, _, hassemble⟩ := forwardClose_response hcall
  cases hassemble
  exact ⟨.inl rfl, .inl rfl⟩

/-- The connection table does not depend on the registered classes. -/
theorem Sound.of_classes (h : st.Sound cfg) (classes : List (UInt32 × List UInt16)) :
    st.Sound { cfg with classes } := by
  refine ⟨h.wellFormed, ⟨h.regular.nodup, fun r hr => ?_, h.regular.idle, h.regular.copied⟩,
    h.close, h.instances⟩
  have hkind := h.regular.kind r hr
  exact ⟨hkind.valid, hkind.state, hkind.instanceType, hkind.close, hkind.timeout, hkind.silent,
    hkind.transport, hkind.input, hkind.output, hkind.consuming⟩

end StackState

open StackState

variable {σ : Type} {cfg : Config} {env : Environment}

theorem Device.sound_config {st : StackState} {d : Device σ} :
    st.Sound (d.config cfg) ↔ st.Sound cfg :=
  ⟨fun h => h.of_classes cfg.classes, fun h => h.of_classes _⟩

/-- No class has the code 0. -/
theorem Device.Conforms.getCipClass_zero {d : Device σ} (h : d.Conforms cfg) :
    (d.config cfg).getCipClass 0 = none := by
  rw [Config.getCipClass, Option.map_eq_none_iff, List.find?_eq_none]
  intro entry hentry
  obtain ⟨registered, hregistered, rfl⟩ := List.mem_map.mp hentry
  have hcode := (h registered hregistered).classCode
  simpa using hcode

section Serve

variable {service : CipServiceFunction} {registered : RegisteredClass σ}
  {inst : CipInstance (Globals σ)} {epath : Epath} {front : List UInt8} {data : Message}
  {dataLength : UInt16} {request : MessageRouterRequest} {originatorAddress : SockaddrIn}
  {encapsulationSession : UInt32} {d d' : Device σ} {status : EipStatus}
  {response : MessageRouterResponse}

/-- What every step keeps of a device. -/
structure Device.Sound (cfg : Config) (d : Device σ) : Prop where
  conforms : d.Conforms cfg
  stack : d.stack.Sound cfg

/-- A reply of the connection manager. Get Connection Owner leaves it without a service. -/
structure ConnectionServed (cfg : Config) (service : CipServiceFunction)
    (request : MessageRouterRequest) (d : Device σ) (response : MessageRouterResponse)
    (d' : Device σ) : Prop where
  sound : d'.Sound cfg
  named : service ≠ .getConnectionOwner → response.replyService = 0x80 ||| request.service
  addressed : Addressed d.stack.cpf → Addressed d'.stack.cpf

theorem serve_connection (hconnection : service.isConnectionService = true)
    (hd : d.Sound cfg)
    (hcode : ∀ code, service.fixedCode = some code → request.service = code)
    (hcall : d.serve cfg env service registered inst epath front request originatorAddress
      encapsulationSession = .ok (status, response, d')) :
    ConnectionServed cfg service request d response d' := by
  have hsound := Device.sound_config (d := d).mpr hd.stack
  have hzero := hd.conforms.getCipClass_zero
  have hopen : ∀ {isLarge : Bool}, request.service = openService isLarge →
      (d.stack.forwardOpenRoutine (d.config cfg) env isLarge request originatorAddress
          encapsulationSession).map
        (fun served => (EipStatus.okSend, served.1, d.setStack served.2)) =
          .ok (status, response, d') → ConnectionServed cfg service request d response d' := by
    intro isLarge hservice hcall
    cases hroutine : d.stack.forwardOpenRoutine (d.config cfg) env isLarge request
        originatorAddress encapsulationSession with
    | error fault =>
        rw [hroutine] at hcall
        cases hcall
    | ok served =>
        have hkept := (forwardOpenRoutine_spec hsound hroutine).1
        have hnamed := forwardOpenRoutine_replyService hsound hzero hroutine
        have haddressed := forwardOpenRoutine_addressed hroutine
        rw [hroutine] at hcall
        cases hcall
        exact ⟨⟨hd.conforms, Device.sound_config.mp hkept⟩, fun _ => by rw [hnamed, hservice],
          fun _ => haddressed⟩
  cases service with
  | forwardOpen => exact hopen (hcode _ rfl) hcall
  | largeForwardOpen => exact hopen (hcode _ rfl) hcall
  | forwardClose =>
      simp only [Device.serve] at hcall
      cases hclose : d.stack.forwardClose (d.config cfg) request originatorAddress with
      | error fault =>
          rw [hclose] at hcall
          cases hcall
      | ok served =>
          obtain ⟨ns, hlisted⟩ := hsound.wellFormed
          obtain ⟨ns', hcalm⟩ := forwardClose_calm hlisted hsound.regular hclose
          have hkept := hcalm.sound hsound
          have hnamed := forwardClose_replyService hclose
          have haddressed := forwardClose_addressed hclose
          rw [hclose] at hcall
          cases hcall
          exact ⟨⟨hd.conforms, Device.sound_config.mp hkept⟩, fun _ => hnamed, fun _ => haddressed⟩
  | getConnectionOwner =>
      cases hcall
      exact ⟨hd, fun hne => absurd rfl hne, id⟩
  | getConnectionData =>
      have hnamed := getConnectionData_replyService (d.config cfg) request d.stack
      cases hcall
      exact ⟨hd, fun _ => by rw [hnamed, hcode _ rfl], id⟩
  | searchConnectionData =>
      have hnamed := searchConnectionData_replyService (d.config cfg) request d.stack
      cases hcall
      exact ⟨hd, fun _ => by rw [hnamed, hcode _ rfl], id⟩
  | getAttributeSingle | setAttributeSingle | getAttributeAll | getAttributeList
  | setAttributeList | cipCreateService | cipDeleteService | cipResetService =>
      cases hconnection

theorem createMessageRouterRequestStructure_service
    (h : createMessageRouterRequestStructure data dataLength = .ok (epath, request)) :
    request.service = data.byteAt 0 := by
  simp only [createMessageRouterRequestStructure] at h
  split at h
  · cases h
  · split at h
    · cases h
    · cases h
      rfl

theorem getRegisteredObject_mem {classId : UInt32} {classes : List (RegisteredClass σ)}
    (h : getRegisteredObject classId classes = .ok (some registered)) : registered ∈ classes := by
  induction classes with
  | nil => cases h
  | cons first classes ih =>
      rw [getRegisteredObject] at h
      split at h
      · cases h
      · split at h
        · cases h
          exact List.mem_cons_self
        · exact List.mem_cons_of_mem _ (ih h)

theorem searchServices_called {code : UInt8} {services : List (CipServiceStruct CipServiceFunction)}
    (h : searchServices code services = .ok (.called service)) :
    ∃ slot ∈ services, slot.serviceFunction = some service ∧ code = slot.serviceNumber := by
  induction services with
  | nil => cases h
  | cons slot services ih =>
      rw [searchServices] at h
      split at h
      · rename_i hnumber
        split at h
        · cases h
        · rename_i hfunction
          cases h
          exact ⟨slot, List.mem_cons_self, hfunction, hnumber⟩
      · obtain ⟨other, hmem, hother⟩ := ih h
        exact ⟨other, List.mem_cons_of_mem _ hmem, hother⟩

namespace Device

/-- The function that the request for an existing instance calls. -/
def calls (service : CipServiceFunction) (data : Message) (dataLength : UInt16) (d : Device σ) :
    Prop :=
  ∃ epath request registered inst,
    createMessageRouterRequestStructure data dataLength = .ok (epath, request) ∧
      getRegisteredObject epath.classId.toUInt32 d.classes = .ok (some registered) ∧
      registered.getCipInstance epath.instanceNumber = some inst ∧
      searchServices request.service (registered.classOf epath.instanceNumber).services =
        .ok (.called service)

/-- A reply of the message router. -/
structure Routed (cfg : Config) (data : Message) (dataLength : UInt16) (d : Device σ)
    (response : MessageRouterResponse) (d' : Device σ) : Prop where
  sound : d'.Sound cfg
  named : ¬d.calls .getConnectionOwner data dataLength →
    response.replyService = 0x80 ||| data.byteAt 0
  addressed : Addressed d.stack.cpf → Addressed d'.stack.cpf

theorem Sound.notifyMessageRouter (hd : d.Sound cfg)
    (hcall : d.notifyMessageRouter cfg env front data dataLength originatorAddress
      encapsulationSession = .ok (status, response, d')) :
    Routed cfg data dataLength d response d' := by
  rw [Device.notifyMessageRouter] at hcall
  split at hcall
  · cases hcall
    exact ⟨hd, fun _ => rfl, id⟩
  · rename_i epath request hparse
    have hservice := createMessageRouterRequestStructure_service hparse
    have hrefused : (successHeader request).replyService = 0x80 ||| data.byteAt 0 := by
      rw [successHeader, hservice]
    split at hcall
    · cases hcall
    · cases hcall
      exact ⟨hd, fun _ => hrefused, id⟩
    · rename_i registered hregistered
      have hconforms := hd.conforms registered (getRegisteredObject_mem hregistered)
      rw [notifyClass] at hcall
      split at hcall
      · cases hcall
        exact ⟨hd, fun _ => hrefused, id⟩
      · rename_i inst hinst
        split at hcall
        · cases hcall
        · cases hcall
          exact ⟨hd, fun _ => hrefused, id⟩
        · rename_i service hsearch
          cases hkind : service.isConnectionService with
          | true =>
              obtain ⟨slot, hslot, hfunction, hnumber⟩ := searchServices_called hsearch
              have hcode : ∀ code, service.fixedCode = some code → request.service = code :=
                fun code hfixed => hnumber.trans
                  ((hconforms.classOf _).code slot hslot service hfunction code hfixed)
              have hserved := serve_connection hkind hd hcode hcall
              refine ⟨hserved.sound, fun hother => ?_, hserved.addressed⟩
              rw [← hservice]
              refine hserved.named fun howner => hother ?_
              exact ⟨epath, request, registered, inst, hparse, hregistered, hinst,
                howner ▸ hsearch⟩
          | false =>
              have hserved := serve_object hkind hd.conforms hconforms hinst hcall
              refine ⟨⟨hserved.conforms, hserved.driven.sound hd.stack⟩, fun _ => ?_,
                fun haddressed => ?_⟩
              · rw [← hservice]
                exact hserved.named
              · have hcpf := hserved.driven.cpf hd.stack
                exact ⟨hcpf ▸ haddressed.address, hcpf ▸ haddressed.data⟩

end Device

end Serve

end Opener

import Opener.Metatheory.Triads

/-!
The reply to a Forward Open. The request is decoded into the scratch object, an
open function copies it to a slot and lists that at the head, and the reply is read
from there; a request that is refused is answered from the scratch object. So the
reply and the connection list tell the same story.
-/

namespace Opener

open LinkedCells

/-- What an originator writes into a Forward Open and gets a connection for. -/
structure ForwardOpenFields where
  triad : UInt16 × UInt16 × UInt32
  connectionTimeoutMultiplier : UInt8
  oToTRequestedPacketInterval : UInt32
  tToORequestedPacketInterval : UInt32
  transportClassTrigger : UInt8
deriving DecidableEq, Repr

/-- The fields at their places on the wire; the network connection parameters take
two bytes, in a Large Forward Open four. -/
def forwardOpenFields (isLarge : Bool) (message : Message) : ForwardOpenFields :=
  let parameters := if isLarge then 4 else 2
  { triad := ((Message.getUint (message.drop 10)).1, (Message.getUint (message.drop 12)).1,
      (Message.getUdint (message.drop 14)).1)
    connectionTimeoutMultiplier := (Message.getUsint (message.drop 18)).1
    oToTRequestedPacketInterval := (Message.getUdint (message.drop 22)).1
    tToORequestedPacketInterval := (Message.getUdint (message.drop (26 + parameters))).1
    transportClassTrigger := (Message.getUsint (message.drop (30 + 2 * parameters))).1 }

namespace CipConnectionObject

def fields (c : CipConnectionObject) : ForwardOpenFields :=
  { triad := c.triad
    connectionTimeoutMultiplier := c.connectionTimeoutMultiplier
    oToTRequestedPacketInterval := c.oToTRequestedPacketInterval
    tToORequestedPacketInterval := c.tToORequestedPacketInterval
    transportClassTrigger := c.transportClassTrigger }

theorem setExpectedPacketRate_fields (cfg : Config) (c : CipConnectionObject)
    (parameters : UInt32) (trigger : UInt8) :
    fields { c.setExpectedPacketRate cfg with
      tToONetworkConnectionParameters := parameters
      transportClassTrigger := trigger } =
      { c.fields with transportClassTrigger := trigger } := by
  simp only [setExpectedPacketRate]
  split
  · rfl
  · rfl

/-- `ConnectionObjectInitializeFromMessage` reads the fields from their places. -/
theorem initializeFromMessage_fields (cfg : Config) (message : Message)
    (connectionNumber : UInt16) (c : CipConnectionObject) :
    (initializeFromMessage cfg message connectionNumber c).1.fields =
      forwardOpenFields c.isLargeForwardOpen message := by
  have hlarge : ∀ c : CipConnectionObject,
      c.setInitialInactivityWatchdogTimerValue.isLargeForwardOpen = c.isLargeForwardOpen :=
    fun _ => rfl
  simp only [initializeFromMessage, setExpectedPacketRate_fields, hlarge]
  cases c.isLargeForwardOpen with
  | false =>
      simp [forwardOpenFields, fields, triad, setInitialInactivityWatchdogTimerValue,
        Message.getUint, Message.getUdint, Message.getUsint, List.drop_drop]
  | true =>
      simp [forwardOpenFields, fields, triad, setInitialInactivityWatchdogTimerValue,
        Message.getUint, Message.getUdint, Message.getUsint, List.drop_drop]

end CipConnectionObject

/-- Where the parser fails, it fails with a status that is not success. -/
abbrev Refuses {α : Type} (result : Except PathFailure α) : Prop :=
  Outcome (fun failure => failure.generalStatus ≠ GeneralStatus.success) (fun _ => True) result

namespace PathState

variable (cfg : Config) (s : PathState)

theorem refuses_fail {α : Type} {generalStatus : UInt8}
    (h : generalStatus ≠ GeneralStatus.success) (extendedStatus : UInt16) :
    Refuses (s.fail generalStatus extendedStatus : Except PathFailure α) := h

theorem parseElectronicKey_refuses : Refuses (s.parseElectronicKey cfg) := by
  simp only [parseElectronicKey]
  split
  · split
    · exact refuses_fail s (by decide) _
    · split
      · trivial
      · exact refuses_fail _ (by decide) _
  · trivial

theorem parseClass_refuses : Refuses (s.parseClass cfg) := by
  simp only [parseClass]
  split
  · split
    · split
      · exact refuses_fail s (by decide) _
      · exact refuses_fail s (by decide) _
    · trivial
  · exact refuses_fail s (by decide) _

theorem parseConfigurationInstance_refuses (instances : List UInt16) :
    Refuses (s.parseConfigurationInstance instances) := by
  simp only [parseConfigurationInstance]
  split
  · split
    · exact refuses_fail s (by decide) _
    · trivial
  · trivial

theorem parseClass3EndPoint_refuses (classId : UInt32) (instanceId : UInt16) :
    Refuses (s.parseClass3EndPoint classId instanceId) := by
  simp only [parseClass3EndPoint]
  split
  · exact refuses_fail s (by decide) _
  · split
    · exact refuses_fail s (by decide) _
    · trivial

theorem parseConnectionPoint_refuses (classId : UInt32) (instances : List UInt16)
    (path : EncodedPath) : Refuses (s.parseConnectionPoint classId instances path) := by
  simp only [parseConnectionPoint]
  split
  · split
    · exact refuses_fail s (by decide) _
    · split
      · exact refuses_fail _ (by decide) _
      · trivial
  · exact refuses_fail s (by decide) _

theorem parseConnectionPoints_refuses (classId : UInt32) (instances : List UInt16)
    (paths : List EncodedPath) : Refuses (parseConnectionPoints classId instances paths s) := by
  induction paths generalizing s with
  | nil => trivial
  | cons path paths ih =>
      have hpoint := s.parseConnectionPoint_refuses classId instances path
      simp only [parseConnectionPoints]
      generalize s.parseConnectionPoint classId instances path = result at hpoint ⊢
      cases result with
      | error failure => exact hpoint
      | ok s₁ => exact ih s₁

theorem parseConfigurationData_refuses (connectionPathSize : UInt64) (fuel : Nat) :
    Refuses (parseConfigurationData connectionPathSize fuel s) := by
  induction fuel generalizing s with
  | zero =>
      unfold parseConfigurationData
      split
      · trivial
      · exact refuses_fail s (by decide) _
  | succ fuel ih =>
      unfold parseConfigurationData
      split
      · trivial
      · simp only
        split
        · split
          · exact ih _
          · exact refuses_fail s (by decide) _
        · split
          · split
            · exact ih _
            · exact refuses_fail s (by decide) _
          · exact refuses_fail s (by decide) _
        · exact refuses_fail s (by decide) _

theorem parseIoEndPoints_refuses (connectionPathSize : UInt64) (classId : UInt32)
    (instanceId : UInt16) (instances : List UInt16) :
    Refuses (s.parseIoEndPoints connectionPathSize classId instanceId instances) := by
  simp only [parseIoEndPoints]
  split
  · rename_i failure hpoints
    have hrefuses := parseConnectionPoints_refuses
      { s with object :=
        { s.object with
          configurationPath := { classId, instanceId }
          consumedConnectionPathLength := 0 } } classId instances (encodedPaths
        { s.object with
          configurationPath := { classId, instanceId }
          consumedConnectionPathLength := 0 })
    rw [hpoints] at hrefuses
    exact hrefuses
  · exact parseConfigurationData_refuses _ connectionPathSize _

theorem parseSegments_refuses (connectionPathSize : UInt64) :
    Refuses (s.parseSegments cfg connectionPathSize) := by
  have hkey := s.parseElectronicKey_refuses cfg
  simp only [parseSegments]
  generalize s.parseElectronicKey cfg = keyed at hkey ⊢
  cases keyed with
  | error failure => exact hkey
  | ok s₁ =>
      have hclass := s₁.parseProductionInhibitTime.parseClass_refuses cfg
      simp only
      generalize s₁.parseProductionInhibitTime.parseClass cfg = found at hclass ⊢
      cases found with
      | error failure => exact hclass
      | ok found =>
          obtain ⟨classId, instances, s₂⟩ := found
          have hinstance := s₂.parseConfigurationInstance_refuses instances
          simp only
          generalize s₂.parseConfigurationInstance instances = configured at hinstance ⊢
          cases configured with
          | error failure => exact hinstance
          | ok configured =>
              obtain ⟨instanceId, s₃⟩ := configured
              simp only
              split
              · exact s₃.parseClass3EndPoint_refuses classId instanceId
              · exact s₃.parseIoEndPoints_refuses connectionPathSize classId instanceId
                  instances

end PathState

theorem parseConnectionPath_refuses (cfg : Config) (message : Message)
    (requestDataSize : UInt64) (object : CipConnectionObject)
    (configData : Option (List UInt8)) :
    Refuses (parseConnectionPath cfg message requestDataSize object configData) := by
  simp only [parseConnectionPath]
  generalize (if object.isLargeForwardOpen = true then (40 : UInt64) else 36) = headerLength
  split
  · exact PathState.refuses_fail _ (by decide) _
  · split
    · exact PathState.refuses_fail _ (by decide) _
    · split
      · exact PathState.refuses_fail _ (by decide) _
      · exact PathState.parseSegments_refuses cfg _ _

namespace StackState

variable {cfg : Config} {env : Environment} {st : StackState}

theorem forwardOpenRefusal_refuses {status : OpenStatus}
    (h : st.forwardOpenRefusal cfg = some status) :
    status.general ≠ GeneralStatus.success := by
  simp only [forwardOpenRefusal] at h
  split_ifs at h
  · cases h
    exact connectionFailure_ne_success _
  · cases h
    exact connectionFailure_ne_success _
  · cases h
    exact connectionFailure_ne_success _
  · cases h
    exact connectionFailure_ne_success _
  · cases h
    exact connectionFailure_ne_success _

/-- The number that is drawn is not in use. -/
theorem generateRandomConnectionNumber_fresh {used : List UInt16} {fuel : Nat}
    {rand rest : List UInt16} {number : UInt16}
    (h : generateRandomConnectionNumber used fuel rand = some (number, rest)) :
    number ∉ used := by
  induction fuel generalizing rand rest number with
  | zero => cases h
  | succ fuel ih =>
      cases rand with
      | nil => cases h
      | cons first rand =>
          rw [generateRandomConnectionNumber] at h
          -- the numbers compared so far are no obstacle, nor any once it was redrawn
          have hfold : ∀ (checked remaining : List UInt16) (drawn result : UInt16 × List UInt16),
              used = checked ++ remaining → drawn.1 ∉ checked →
              remaining.foldlM (fun drawn inUse =>
                if inUse = drawn.1 then generateRandomConnectionNumber used fuel drawn.2
                else some drawn) drawn = some result → result.1 ∉ used := by
            intro checked remaining
            induction remaining generalizing checked with
            | nil =>
                intro drawn result hused hdrawn hresult
                cases hresult
                rwa [hused, List.append_nil]
            | cons inUse remaining ih' =>
                intro drawn result hused hdrawn hresult
                rw [List.foldlM_cons] at hresult
                by_cases heq : inUse = drawn.1
                · rw [if_pos heq] at hresult
                  cases hredraw : generateRandomConnectionNumber used fuel drawn.2 with
                  | none =>
                      rw [hredraw] at hresult
                      cases hresult
                  | some redrawn =>
                      rw [hredraw] at hresult
                      have hfresh : redrawn.1 ∉ used := ih hredraw
                      refine ih' (checked ++ [inUse]) redrawn result ?_ ?_ hresult
                      · rw [hused, List.append_assoc]
                        rfl
                      · intro hmem
                        refine hfresh ?_
                        rw [hused]
                        rcases List.mem_append.mp hmem with hmem | hmem
                        · exact List.mem_append_left _ hmem
                        · rw [List.mem_singleton.mp hmem]
                          exact List.mem_append_right _ (List.mem_cons_self ..)
                · rw [if_neg heq] at hresult
                  refine ih' (checked ++ [inUse]) drawn result ?_ ?_ hresult
                  · rw [hused, List.append_assoc]
                    rfl
                  · intro hmem
                    rcases List.mem_append.mp hmem with hmem | hmem
                    · exact hdrawn hmem
                    · exact heq (List.mem_singleton.mp hmem).symm
          exact hfold [] used (first, rand) (number, rest) rfl (List.not_mem_nil) h

/-- What the scratch object holds of the request when it is refused or handed to an
open function. -/
structure Demanded (cfg : Config) (isLarge : Bool) (request : MessageRouterRequest)
    (originatorAddress : SockaddrIn) (encapsulationSession : UInt32) (st : StackState)
    (d : CipConnectionObject) : Prop where
  fields : d.fields = forwardOpenFields isLarge request.data
  originatorAddress : d.originatorAddress = originatorAddress
  session : d.associatedEncapsulationSession = encapsulationSession
  number : ∀ s ∈ st.connectionList cfg, (st.conn s).connectionNumber ≠ d.connectionNumber

theorem initializeFromMessage_number (cfg : Config) (message : Message)
    (connectionNumber : UInt16) (c : CipConnectionObject) :
    (CipConnectionObject.initializeFromMessage cfg message connectionNumber
      c).1.connectionNumber = connectionNumber := by
  have hrate : ∀ c' : CipConnectionObject,
      (c'.setExpectedPacketRate cfg).connectionNumber = c'.connectionNumber := by
    intro c'
    simp only [CipConnectionObject.setExpectedPacketRate]
    split
    · rfl
    · rfl
  simp only [CipConnectionObject.initializeFromMessage, hrate]
  rfl

theorem forwardOpenRequest_demanded {isLarge : Bool} {request : MessageRouterRequest}
    {originatorAddress : SockaddrIn} {encapsulationSession : UInt32}
    {refusal : Option OpenStatus} {st₁ : StackState}
    (h : st.forwardOpenRequest cfg env isLarge request originatorAddress
      encapsulationSession = .ok (refusal, st₁)) :
    Demanded cfg isLarge request originatorAddress encapsulationSession st st₁.dummy ∧
      ∀ status, refusal = some status → status.general ≠ GeneralStatus.success := by
  simp only [forwardOpenRequest] at h
  split at h
  · cases h
  · rename_i message st₀ hreceive
    have hdemanded : Demanded cfg isLarge request originatorAddress encapsulationSession st
        st₀.dummy := by
      simp only [receiveForwardOpen] at hreceive
      split at hreceive
      · cases hreceive
      · rename_i connectionNumber rest hdraw
        cases hreceive
        refine ⟨CipConnectionObject.initializeFromMessage_fields cfg request.data _ _, rfl, rfl,
          fun s hs heq => ?_⟩
        refine generateRandomConnectionNumber_fresh hdraw ?_
        refine List.mem_map.mpr ⟨s, hs, ?_⟩
        exact heq.trans (initializeFromMessage_number cfg _ connectionNumber _)
    have hparsed : ∀ {d : CipConnectionObject}, d.unrouted = st₀.dummy.unrouted →
        Demanded cfg isLarge request originatorAddress encapsulationSession st d := by
      intro d hrouted
      refine ⟨?_, ?_, ?_, ?_⟩
      · rw [← hdemanded.fields]
        exact CipConnectionObject.unrouted_field hrouted (·.fields) fun _ => rfl
      · rw [← hdemanded.originatorAddress]
        exact CipConnectionObject.unrouted_field hrouted (·.originatorAddress) fun _ => rfl
      · rw [← hdemanded.session]
        exact CipConnectionObject.unrouted_field hrouted
          (·.associatedEncapsulationSession) fun _ => rfl
      · rw [CipConnectionObject.unrouted_field hrouted (·.connectionNumber) fun _ => rfl]
        exact hdemanded.number
    split at h
    · rename_i status hrefusal
      cases h
      refine ⟨hdemanded, fun status' heq => ?_⟩
      cases heq
      exact forwardOpenRefusal_refuses hrefusal
    · split at h
      · cases h
        refine ⟨hdemanded, fun status' heq => ?_⟩
        cases heq
        exact connectionFailure_ne_success _
      · have hrouted := parseConnectionPath_routed cfg message
          request.requestDataSize st₀.dummy st₀.configData
        have hrefuses := parseConnectionPath_refuses cfg message
          request.requestDataSize st₀.dummy st₀.configData
        split at h
        · rename_i failure hparse
          cases h
          rw [hparse] at hrouted hrefuses
          refine ⟨hparsed hrouted, fun status' heq => ?_⟩
          cases heq
          exact hrefuses
        · rename_i s hparse
          cases h
          rw [hparse] at hrouted
          exact ⟨hparsed hrouted, fun status' heq => (by cases heq)⟩

/-- The connections of `st'` that `st` does not list. A slot can be used again, the
connection number then tells the new connection from the old one. -/
def opened (cfg : Config) (st st' : StackState) : List ConnRef :=
  (st'.connectionList cfg).filter fun r =>
    !((st.connectionList cfg).contains r &&
      (st.conn r).connectionNumber = (st'.conn r).connectionNumber)

/-- `r` is the one connection that a Forward Open adds, and it is what the request
asks for. -/
structure OpenedAsAsked (cfg : Config) (isLarge : Bool) (request : MessageRouterRequest)
    (originatorAddress : SockaddrIn) (encapsulationSession : UInt32) (st st' : StackState)
    (r : ConnRef) : Prop where
  only : opened cfg st st' = [r]
  head : (st'.connectionList cfg).head? = some r
  established : (st'.conn r).state = .established
  fields : (st'.conn r).fields = forwardOpenFields isLarge request.data
  originator : (st'.conn r).originatorAddress.sinAddr = originatorAddress.sinAddr
  session : (st'.conn r).associatedEncapsulationSession = encapsulationSession

/-- The wire form of a triad. -/
def triadBytes (triad : UInt16 × UInt16 × UInt32) : Message :=
  intBytes triad.1 ++ intBytes triad.2.1 ++ dintBytes triad.2.2

/-- The data of a successful reply, as the connection has it. -/
def successData (c : CipConnectionObject) : Message :=
  dintBytes c.cipConsumedConnectionId ++ dintBytes c.cipProducedConnectionId ++
    triadBytes c.triad ++ dintBytes c.oToTRequestedPacketInterval ++
    dintBytes c.tToORequestedPacketInterval ++ [0, 0]

/-- The data of a failed reply. -/
def failureData (triad : UInt16 × UInt16 × UInt32) : Message := triadBytes triad ++ [0, 0]

theorem refuse_reply (st : StackState) {status : OpenStatus}
    (h : status.general ≠ GeneralStatus.success) :
    (st.refuse status).1.generalStatus = status.general ∧
      (st.refuse status).1.message = failureData st.dummy.triad := by
  simp only [refuse, assembleForwardOpenResponse, if_neg h, true_and]
  simp [failureData, triadBytes, CipConnectionObject.triad, sintBytes]

theorem assembleForwardOpenResponse_success (st : StackState) (c : CipConnectionObject) :
    (st.assembleForwardOpenResponse c {}).1.generalStatus = GeneralStatus.success ∧
      (st.assembleForwardOpenResponse c {}).1.message = successData c := by
  simp only [assembleForwardOpenResponse]
  refine ⟨rfl, ?_⟩
  simp [successData, triadBytes, CipConnectionObject.triad, sintBytes, GeneralStatus.success]

/-- The reply is read from the head of the list. -/
theorem answerOpenConnection_head (hwell : st.WellFormed cfg) {status : OpenStatus} {r : ConnRef}
    {answer : MessageRouterResponse × StackState}
    (hhead : (st.connectionList cfg).head? = some r)
    (hstatus : status.general = GeneralStatus.success)
    (hcall : st.answerOpenConnection status = .ok answer) :
    answer = st.assembleForwardOpenResponse (st.conn r) {} := by
  obtain ⟨ns, hlisted⟩ := hwell
  rw [answerOpenConnection, if_neg (not_not.mpr hstatus)] at hcall
  split at hcall
  · cases hcall
  · rename_i n hfirst
    split at hcall
    · cases hcall
    · rename_i r' hdata
      have hns : ns.head? = some n := hlisted.links.first_eq.symm.trans hfirst
      obtain ⟨ns', rfl⟩ := List.head?_eq_some_iff.mp hns
      have hmembers : st.connectionList cfg = contents st.nodes (n :: ns') :=
        hlisted.members_eq
      rw [hmembers, contents_cons hdata] at hhead
      cases hhead
      cases hcall
      rfl

theorem answerOpenConnection_success (hwell : st.WellFormed cfg) {status : OpenStatus}
    {response : MessageRouterResponse} {st' : StackState} {r : ConnRef}
    (hhead : (st.connectionList cfg).head? = some r)
    (hstatus : status.general = GeneralStatus.success)
    (hcall : st.answerOpenConnection status = .ok (response, st')) :
    response.generalStatus = GeneralStatus.success ∧
      response.message = successData (st.conn r) := by
  have hanswer := answerOpenConnection_head hwell hhead hstatus hcall
  have hresponse := congrArg Prod.fst hanswer
  dsimp only at hresponse
  rw [hresponse]
  exact assembleForwardOpenResponse_success st (st.conn r)

/-- A connection that stays listed is not new. -/
theorem not_opened_of_persists {st' : StackState}
    (hpersists : Persists (st.view cfg) (st'.view cfg)) : opened cfg st st' = [] := by
  rw [opened, List.filter_eq_nil_iff]
  intro s hs
  have hmem : s ∈ st.connectionList cfg := hpersists.sublist.subset hs
  have hnumber := CipConnectionObject.lasting_field (hpersists.lasting s hs)
    (·.connectionNumber) fun _ => rfl
  have hsame : (st.conn s).connectionNumber = (st'.conn s).connectionNumber := hnumber.symm
  simp [hmem, hsame]

/-- The connection that enters the table is the one that is new. -/
theorem opened_of_entered {st' : StackState} {d : CipConnectionObject} {V₁ : View}
    {r : ConnRef} (h : Entered cfg env d (st.view cfg) V₁ r (st'.view cfg))
    (hnumber : ∀ s ∈ st.connectionList cfg,
      (st.conn s).connectionNumber ≠ d.connectionNumber) : opened cfg st st' = [r] := by
  have hmembers : st'.connectionList cfg = r :: V₁.members := h.members
  have hgranted : (st'.conn r).connectionNumber = d.connectionNumber :=
    CipConnectionObject.terms_field h.granted.terms (·.connectionNumber) fun _ => rfl
  have hothers : V₁.members.filter (fun s => !((st.connectionList cfg).contains s &&
      (st.conn s).connectionNumber = (st'.conn s).connectionNumber)) = [] := by
    rw [List.filter_eq_nil_iff]
    intro s hs
    have hmem : s ∈ st.connectionList cfg := h.persists.sublist.subset hs
    have hlasting := (h.others s hs).1.trans (h.persists.lasting s hs)
    have hsame : (st'.conn s).connectionNumber = (st.conn s).connectionNumber :=
      CipConnectionObject.lasting_field hlasting (·.connectionNumber) fun _ => rfl
    simp [hmem, hsame]
  rw [opened, hmembers, List.filter_cons_of_pos, hothers]
  by_cases hr : r ∈ st.connectionList cfg
  · have hne := hnumber r hr
    rw [← hgranted] at hne
    simp [hne]
  · simp [hr]

/-- A Forward Open succeeds exactly when it adds one connection, at the head of the
list and as asked for. The reply is about that connection, or about the request. -/
structure ReplyAgrees (cfg : Config) (isLarge : Bool) (request : MessageRouterRequest)
    (originatorAddress : SockaddrIn) (encapsulationSession : UInt32) (st : StackState)
    (response : MessageRouterResponse) (st' : StackState) : Prop where
  success_iff : response.generalStatus = GeneralStatus.success ↔
    ∃ r, OpenedAsAsked cfg isLarge request originatorAddress encapsulationSession st st' r
  success_data : response.generalStatus = GeneralStatus.success →
    ∀ r, (st'.connectionList cfg).head? = some r →
      response.message = successData (st'.conn r)
  failure_data : response.generalStatus ≠ GeneralStatus.success →
    response.message = failureData (forwardOpenFields isLarge request.data).triad ∧
      opened cfg st st' = []

section Agreement

variable {isLarge : Bool} {request : MessageRouterRequest} {originatorAddress : SockaddrIn}
  {encapsulationSession : UInt32} {response : MessageRouterResponse} {st' : StackState}

theorem ReplyAgrees.of_failed {st₂ : StackState} {d : CipConnectionObject}
    (hdemanded : Demanded cfg isLarge request originatorAddress encapsulationSession st d)
    {status : OpenStatus} (hfailed : status.general ≠ GeneralStatus.success)
    (htriad : st₂.dummy.triad = d.triad)
    (hpersists : Persists (st.view cfg) (st₂.view cfg)) :
    ReplyAgrees cfg isLarge request originatorAddress encapsulationSession st
      (st₂.refuse status).1 (st₂.refuse status).2 := by
  obtain ⟨hstatus, hmessage⟩ := refuse_reply st₂ hfailed
  have hnobody : opened cfg st (st₂.refuse status).2 = [] := by
    refine not_opened_of_persists ?_
    rw [refuse, (assembleForwardOpenResponse_answers st₂ st₂.dummy status).view_eq]
    exact hpersists
  have hrefused : (st₂.refuse status).1.generalStatus ≠ GeneralStatus.success := by
    rw [hstatus]
    exact hfailed
  refine ⟨iff_of_false hrefused ?_, fun h => absurd h hrefused, fun _ => ⟨?_, hnobody⟩⟩
  · rintro ⟨r, hr⟩
    rw [hr.only] at hnobody
    cases hnobody
  · rw [hmessage, htriad, ← hdemanded.fields]
    rfl

theorem ReplyAgrees.of_entered {st₂ : StackState} {d : CipConnectionObject} {V₁ : View}
    {r : ConnRef} {status : OpenStatus} (hwell : st₂.WellFormed cfg)
    (hpeer : env.peerAddress = originatorAddress.sinAddr)
    (hdemanded : Demanded cfg isLarge request originatorAddress encapsulationSession st d)
    (hentered : Entered cfg env d (st.view cfg) V₁ r (st₂.view cfg))
    (hstatus : status.general = GeneralStatus.success)
    (hcall : st₂.answerOpenConnection status = .ok (response, st')) :
    ReplyAgrees cfg isLarge request originatorAddress encapsulationSession st response
      st' := by
  have hanswers := answerOpenConnection_answers hcall
  have hview : st'.view cfg = st₂.view cfg := hanswers.view_eq
  have hmembers : st₂.connectionList cfg = r :: V₁.members := hentered.members
  have hhead : (st₂.connectionList cfg).head? = some r := by
    rw [hmembers]
    rfl
  obtain ⟨hsuccess, hdata⟩ := answerOpenConnection_success hwell hhead hstatus hcall
  have hconn : st'.conn r = st₂.conn r := congrArg (·.object r) hview
  have hlist : st'.connectionList cfg = st₂.connectionList cfg :=
    congrArg (·.members) hview
  have hterms := hentered.granted.terms
  have hopened : OpenedAsAsked cfg isLarge request originatorAddress encapsulationSession
      st st' r := by
    rw [← hview] at hentered
    refine ⟨opened_of_entered hentered hdemanded.number, hlist ▸ hhead,
      hentered.established, ?_, ?_, ?_⟩
    · rw [← hdemanded.fields]
      exact CipConnectionObject.terms_field hentered.granted.terms (·.fields) fun _ => rfl
    · rcases hentered.granted.channel.originator with heq | heq
      · rw [← hdemanded.originatorAddress]
        exact heq
      · rw [← hpeer]
        exact heq
    · rw [← hdemanded.session]
      exact CipConnectionObject.terms_field hentered.granted.terms
        (·.associatedEncapsulationSession) fun _ => rfl
  refine ⟨iff_of_true hsuccess ⟨r, hopened⟩, fun _ s hs => ?_, fun h => absurd hsuccess h⟩
  rw [hopened.head] at hs
  cases hs
  rw [hconn]
  exact hdata

/-- The reply and the connection list agree, whatever is requested. -/
theorem forwardOpen_reply_agrees (hreachable : Reachable cfg st)
    (hpeer : env.peerAddress = originatorAddress.sinAddr)
    (hhandled : ∀ st₁, st.forwardOpenRequest cfg env isLarge request originatorAddress
      encapsulationSession = .ok (none, st₁) → st₁.dummy.configurationPath.classId ≠ 0)
    (hcall : st.forwardOpenRoutine cfg env isLarge request originatorAddress
      encapsulationSession = .ok (response, st')) :
    ReplyAgrees cfg isLarge request originatorAddress encapsulationSession st response
      st' := by
  rw [forwardOpenRoutine_eq] at hcall
  cases hrequest : st.forwardOpenRequest cfg env isLarge request originatorAddress
      encapsulationSession with
  | error fault => simp [hrequest] at hcall
  | ok result =>
      obtain ⟨refusal, st₁⟩ := result
      obtain ⟨hreceives, hclass⟩ := forwardOpenRequest_receives hrequest
      obtain ⟨hdemanded, hrefuses⟩ := forwardOpenRequest_demanded hrequest
      have hview : st₁.view cfg = st.view cfg := hreceives.view_eq
      cases refusal with
      | some status =>
          simp only [hrequest, Except.ok.injEq] at hcall
          have hagrees : ReplyAgrees cfg isLarge request originatorAddress
              encapsulationSession st (st₁.refuse status).1 (st₁.refuse status).2 :=
            .of_failed hdemanded (hrefuses status rfl) rfl (hview ▸ .refl _)
          rw [hcall] at hagrees
          exact hagrees
      | none =>
          simp only [hrequest] at hcall
          obtain ⟨hsound₁, hrequested⟩ := hreceives.requested hreachable.sound
          split at hcall
          · cases hcall
          · rename_i status st₂ hopen
            obtain ⟨ns, hlisted⟩ := hsound₁.wellFormed
            obtain ⟨hwell, hafter, hanswered⟩ :=
              openConnection_spec hlisted hsound₁.regular hrequested (hclass rfl) hopen
            rcases hanswered.outcome with ⟨rfl, V₁, r, hentered⟩ | ⟨hnobody, hpersists⟩
            · rw [hview] at hentered
              exact .of_entered hwell hpeer hdemanded hentered rfl hcall
            · have hfailed : status.general ≠ GeneralStatus.success := fun hsuccess =>
                hhandled st₁ hrequest (hnobody hsuccess)
              rw [answerOpenConnection, if_pos hfailed, Except.ok.injEq] at hcall
              rw [hview] at hpersists
              have hagrees : ReplyAgrees cfg isLarge request originatorAddress
                  encapsulationSession st (st₂.refuse status).1 (st₂.refuse status).2 :=
                .of_failed hdemanded hfailed hafter.2.2 hpersists
              rw [hcall] at hagrees
              exact hagrees

end Agreement

end StackState

end Opener

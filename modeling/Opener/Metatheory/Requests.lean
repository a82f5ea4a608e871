import Opener.Metatheory.Establishing

/-!
A Forward Open from the message to the open function. The path parser only
writes path fields of the request, and a connection of transport class 3 ends at
the message router. `forwardOpenEntry` is the state in which the open function is
called, when the request gets that far.
-/

namespace Opener

namespace CipConnectionObject

/-- The request without what the path parser writes. -/
def unrouted (c : CipConnectionObject) : CipConnectionObject :=
  { c with
    electronicKeyFormat := 0
    productionInhibitTime := 0
    configurationPath := {}
    producedPath := {}
    consumedPath := {}
    consumedConnectionPathLength := 0 }

theorem unrouted_field {β : Type} {c d : CipConnectionObject} (h : d.unrouted = c.unrouted)
    (f : CipConnectionObject → β) (hf : ∀ c, f c.unrouted = f c) : f d = f c := by
  rw [← hf d, h, hf c]

end CipConnectionObject

/-- A parser stage, failed or not, leaves the rest of the request alone. -/
def Routed (c : CipConnectionObject) : Except PathFailure PathState → Prop
  | .error failure => failure.object.unrouted = c.unrouted
  | .ok s => s.object.unrouted = c.unrouted

theorem Routed.of_eq {c d : CipConnectionObject} {result : Except PathFailure PathState}
    (h : Routed d result) (hd : d.unrouted = c.unrouted) : Routed c result := by
  cases result with
  | error failure => exact Eq.trans h hd
  | ok s => exact Eq.trans h hd

namespace PathState

variable {cfg : Config} {s : PathState}

theorem parseElectronicKey_routed (cfg : Config) (s : PathState) :
    Routed s.object (s.parseElectronicKey cfg) := by
  simp only [parseElectronicKey]
  split
  · split
    · rfl
    · cases checkElectronicKeyData cfg.identity
        (getElectronicKeyFormat4FromMessage s.message).1 with
      | error extendedStatus => rfl
      | ok u => rfl
  · rfl

theorem parseProductionInhibitTime_routed :
    s.parseProductionInhibitTime.object.unrouted = s.object.unrouted := by
  simp only [parseProductionInhibitTime]
  split <;> rfl

theorem parseClass_routed {result : Except PathFailure (UInt32 × List UInt16 × PathState)}
    (h : s.parseClass cfg = result) :
    (∀ failure, result = .error failure → failure.object = s.object) ∧
      ∀ classId instances s', result = .ok (classId, instances, s') →
        s'.object = s.object := by
  subst h
  simp only [parseClass]
  split
  · split
    · split
      · exact ⟨fun _ h => (by cases h; rfl), fun _ _ _ h => by cases h⟩
      · exact ⟨fun _ h => (by cases h; rfl), fun _ _ _ h => by cases h⟩
    · exact ⟨fun _ h => (by cases h), fun _ _ _ h => by cases h; rfl⟩
  · exact ⟨fun _ h => (by cases h; rfl), fun _ _ _ h => by cases h⟩

theorem parseConfigurationInstance_routed {instances : List UInt16}
    {result : Except PathFailure (UInt16 × PathState)}
    (h : s.parseConfigurationInstance instances = result) :
    (∀ failure, result = .error failure → failure.object = s.object) ∧
      ∀ instanceId s', result = .ok (instanceId, s') → s'.object = s.object := by
  subst h
  simp only [parseConfigurationInstance]
  split
  · split
    · exact ⟨fun _ h => (by cases h; rfl), fun _ _ h => by cases h⟩
    · exact ⟨fun _ h => (by cases h), fun _ _ h => by cases h; rfl⟩
  · exact ⟨fun _ h => (by cases h), fun _ _ h => by cases h; rfl⟩

theorem parseClass3EndPoint_routed (classId : UInt32) (instanceId : UInt16) :
    Routed s.object (s.parseClass3EndPoint classId instanceId) := by
  simp only [parseClass3EndPoint]
  split
  · rfl
  · split <;> rfl

theorem parseClass3EndPoint_classId {classId : UInt32} {instanceId : UInt16} {s' : PathState}
    (h : s.parseClass3EndPoint classId instanceId = .ok s') :
    s'.object.configurationPath.classId = messageRouterClassCode := by
  simp only [parseClass3EndPoint] at h
  split at h
  · cases h
  · split at h
    · cases h
    · rename_i hrouter
      cases h
      exact not_not.mp fun hne => hrouter (.inl hne)

theorem setPath_unrouted (path : EncodedPath) (epath : ConnectionPathEpath) :
    (s.setPath path epath).object.unrouted = s.object.unrouted := by
  cases path <;> rfl

theorem parseConnectionPoint_routed (classId : UInt32) (instances : List UInt16)
    (path : EncodedPath) :
    Routed s.object (s.parseConnectionPoint classId instances path) := by
  simp only [parseConnectionPoint]
  split
  · split
    · rfl
    · split
      · exact setPath_unrouted path _
      · exact setPath_unrouted path _
  · rfl

theorem parseConnectionPoints_routed (classId : UInt32) (instances : List UInt16)
    (paths : List EncodedPath) :
    Routed s.object (parseConnectionPoints classId instances paths s) := by
  induction paths generalizing s with
  | nil => rfl
  | cons path paths ih =>
      have hpoint := parseConnectionPoint_routed (s := s) classId instances path
      simp only [parseConnectionPoints]
      cases hparse : s.parseConnectionPoint classId instances path with
      | error failure =>
          rw [hparse] at hpoint
          exact hpoint
      | ok s₁ =>
          rw [hparse] at hpoint
          exact ih.of_eq hpoint

theorem parseConfigurationData_routed (connectionPathSize : UInt64) (fuel : Nat) :
    Routed s.object (parseConfigurationData connectionPathSize fuel s) := by
  induction fuel generalizing s with
  | zero =>
      unfold parseConfigurationData
      split <;> rfl
  | succ fuel ih =>
      unfold parseConfigurationData
      split
      · rfl
      · simp only
        split
        · split
          · exact ih
          · rfl
        · split
          · split
            · exact ih
            · rfl
          · rfl
        · rfl

theorem parseIoEndPoints_routed (connectionPathSize : UInt64) (classId : UInt32)
    (instanceId : UInt16) (instances : List UInt16) :
    Routed s.object (s.parseIoEndPoints connectionPathSize classId instanceId instances) := by
  simp only [parseIoEndPoints]
  split
  · rename_i failure hpoints
    rw [← hpoints]
    exact (parseConnectionPoints_routed classId instances _).of_eq rfl
  · rename_i s₂ hpoints
    have h₂ : Routed s.object (.ok s₂) := by
      rw [← hpoints]
      exact (parseConnectionPoints_routed classId instances _).of_eq rfl
    exact (parseConfigurationData_routed connectionPathSize (s₂.message.length + 1)).of_eq h₂

theorem parseSegments_routed (connectionPathSize : UInt64) :
    Routed s.object (s.parseSegments cfg connectionPathSize) := by
  have hkey := parseElectronicKey_routed cfg s
  simp only [parseSegments]
  cases hk : s.parseElectronicKey cfg with
  | error failure =>
      rw [hk] at hkey
      exact hkey
  | ok s₁ =>
      rw [hk] at hkey
      have hinhibit := (parseProductionInhibitTime_routed (s := s₁)).trans hkey
      simp only
      cases hc : s₁.parseProductionInhibitTime.parseClass cfg with
      | error failure =>
          have hobject := (parseClass_routed hc).1 failure rfl
          change failure.object.unrouted = _
          rw [hobject]
          exact hinhibit
      | ok found =>
          obtain ⟨classId, instances, s₂⟩ := found
          have hobject₂ := (parseClass_routed hc).2 classId instances s₂ rfl
          simp only
          cases hi : s₂.parseConfigurationInstance instances with
          | error failure =>
              have hobject := (parseConfigurationInstance_routed hi).1 failure rfl
              change failure.object.unrouted = _
              rw [hobject, hobject₂]
              exact hinhibit
          | ok found =>
              obtain ⟨instanceId, s₃⟩ := found
              have hobject₃ := (parseConfigurationInstance_routed hi).2 instanceId s₃ rfl
              have h₃ : s₃.object.unrouted = s.object.unrouted := by
                rw [hobject₃, hobject₂]
                exact hinhibit
              simp only
              split
              · exact (parseClass3EndPoint_routed classId instanceId).of_eq h₃
              · exact (parseIoEndPoints_routed _ classId instanceId instances).of_eq h₃

/-- A parsed path of a class 3 connection ends at the message router. -/
theorem parseSegments_class3 {connectionPathSize : UInt64} {s' : PathState}
    (h : s.parseSegments cfg connectionPathSize = .ok s')
    (hclass : s.object.transportClass = .class3) :
    s'.object.configurationPath.classId = messageRouterClassCode := by
  have hkey := parseElectronicKey_routed cfg s
  simp only [parseSegments] at h
  split at h
  · cases h
  · rename_i s₁ hk
    rw [hk] at hkey
    have hinhibit := (parseProductionInhibitTime_routed (s := s₁)).trans hkey
    split at h
    · cases h
    · rename_i classId instances s₂ hc
      have hobject₂ := (parseClass_routed hc).2 classId instances s₂ rfl
      split at h
      · cases h
      · rename_i instanceId s₃ hi
        have hobject₃ := (parseConfigurationInstance_routed hi).2 instanceId s₃ rfl
        have hclass₃ : s₃.object.transportClass = .class3 := by
          rw [hobject₃, hobject₂]
          rw [CipConnectionObject.unrouted_field hinhibit (·.transportClass) fun _ => rfl]
          exact hclass
        rw [if_pos hclass₃] at h
        exact parseClass3EndPoint_classId h

end PathState

variable {cfg : Config}

theorem parseConnectionPath_routed (cfg : Config) (message : Message)
    (requestDataSize : UInt64) (object : CipConnectionObject) (configData : Option (List UInt8)) :
    Routed object (parseConnectionPath cfg message requestDataSize object configData) := by
  simp only [parseConnectionPath]
  generalize (if object.isLargeForwardOpen = true then (40 : UInt64) else 36) = headerLength
  split
  · rfl
  · split
    · rfl
    · split
      · rfl
      · exact (PathState.parseSegments_routed _).of_eq rfl

theorem parseConnectionPath_class3 {message : Message} {requestDataSize : UInt64}
    {object : CipConnectionObject} {configData : Option (List UInt8)} {s : PathState}
    (h : parseConnectionPath cfg message requestDataSize object configData = .ok s)
    (hclass : s.object.transportClass = .class3) :
    s.object.configurationPath.classId = messageRouterClassCode := by
  have hrouted := parseConnectionPath_routed cfg message requestDataSize object
    configData
  rw [h] at hrouted
  rw [CipConnectionObject.unrouted_field hrouted (·.transportClass) fun _ => rfl] at hclass
  simp only [parseConnectionPath] at h
  generalize (if object.isLargeForwardOpen = true then (40 : UInt64) else 36) = headerLength at h
  split at h
  · cases h
  · split at h
    · cases h
    · split at h
      · cases h
      · exact PathState.parseSegments_class3 h hclass

namespace StackState

variable {env : Environment} {st : StackState}

/-- `ForwardOpenRoutine` up to the open function: the status of a refusal, or
none, and the globals as the request left them. -/
def forwardOpenRequest (cfg : Config) (env : Environment) (isLarge : Bool)
    (request : MessageRouterRequest) (originatorAddress : SockaddrIn)
    (encapsulationSession : UInt32) (st : StackState) :
    Except Fault (Option OpenStatus × StackState) :=
  match st.receiveForwardOpen cfg env isLarge request.data originatorAddress
      encapsulationSession with
  | .error fault => .error fault
  | .ok (message, st) =>
      match st.forwardOpenRefusal cfg with
      | some status => .ok (some status, st)
      | none =>
          if st.dummy.productionTrigger = .invalid then
            .ok (some (connectionFailure
              ExtendedStatus.transportClassAndTriggerCombinationNotSupported), st)
          else
            match parseConnectionPath cfg message request.requestDataSize st.dummy
                st.configData with
            | .error failure =>
                .ok (some { general := failure.generalStatus
                            extended := failure.extendedStatus },
                  { st with dummy := failure.object, configData := failure.configData })
            | .ok s => .ok (none, st.storeParsedPath s)

/-- The open function's answer goes back through `answerOpenConnection`. -/
theorem forwardOpenRoutine_eq (isLarge : Bool) (request : MessageRouterRequest)
    (originatorAddress : SockaddrIn) (encapsulationSession : UInt32) :
    st.forwardOpenRoutine cfg env isLarge request originatorAddress encapsulationSession =
      match st.forwardOpenRequest cfg env isLarge request originatorAddress
          encapsulationSession with
      | .error fault => .error fault
      | .ok (some status, st) => .ok (st.refuse status)
      | .ok (none, st) =>
          match st.openConnection cfg env with
          | .error fault => .error fault
          | .ok (status, st) => st.answerOpenConnection status := by
  simp only [forwardOpenRoutine, forwardOpenRequest]
  cases st.receiveForwardOpen cfg env isLarge request.data originatorAddress
      encapsulationSession with
  | error fault => rfl
  | ok received =>
      obtain ⟨message, st₁⟩ := received
      simp only
      cases st₁.forwardOpenRefusal cfg with
      | some status => rfl
      | none =>
          simp only [handleNonNullNonMatchingForwardOpenRequest]
          by_cases htrigger : st₁.dummy.productionTrigger = .invalid
          · rw [if_pos htrigger, if_pos htrigger]
          · rw [if_neg htrigger, if_neg htrigger]
            cases parseConnectionPath cfg message request.requestDataSize st₁.dummy
                st₁.configData with
            | error failure => rfl
            | ok s => rfl

/-- The answer is the response of an object with the open function's general
status. -/
theorem answerOpenConnection_response {status : OpenStatus} {response : MessageRouterResponse}
    {st' : StackState} (h : st.answerOpenConnection status = .ok (response, st')) :
    ∃ c status', st.assembleForwardOpenResponse c status' = (response, st') ∧
      status'.general = status.general := by
  rw [answerOpenConnection] at h
  split at h
  · rw [Except.ok.injEq] at h
    exact ⟨st.dummy, status, h, rfl⟩
  · rename_i hsuccess
    split at h
    · cases h
    · split at h
      · cases h
      · rename_i r _
        rw [Except.ok.injEq] at h
        exact ⟨st.conn r, {}, h, (not_not.mp hsuccess).symm⟩

/-- The globals that receiving a request writes. -/
structure Receives (st st' : StackState) : Prop where
  eq : st' = { st with dummy := st'.dummy, configData := st'.configData }
  state : st'.dummy.state = .nonExistent
  close : st'.dummy.connectionCloseFunction = st.dummy.connectionCloseFunction
  instances : st'.dummy.instances = st.dummy.instances

theorem setExpectedPacketRate_state (c : CipConnectionObject) :
    (c.setExpectedPacketRate cfg).state = c.state ∧
      (c.setExpectedPacketRate cfg).connectionCloseFunction = c.connectionCloseFunction ∧
      (c.setExpectedPacketRate cfg).instances = c.instances := by
  simp only [CipConnectionObject.setExpectedPacketRate]
  split <;> exact ⟨rfl, rfl, rfl⟩

theorem receiveForwardOpen_spec {isLarge : Bool} {message message' : Message}
    {originatorAddress : SockaddrIn} {encapsulationSession : UInt32} {st' : StackState}
    (h : st.receiveForwardOpen cfg env isLarge message originatorAddress
      encapsulationSession = .ok (message', st')) : Receives st st' := by
  simp only [receiveForwardOpen] at h
  split at h
  · cases h
  · cases h
    simp only [CipConnectionObject.initializeFromMessage]
    exact ⟨rfl, (setExpectedPacketRate_state _).1, (setExpectedPacketRate_state _).2.1,
      (setExpectedPacketRate_state _).2.2⟩

/-- A request leaves the connection table alone until the open function runs. -/
theorem forwardOpenRequest_receives {isLarge : Bool} {request : MessageRouterRequest}
    {originatorAddress : SockaddrIn} {encapsulationSession : UInt32}
    {refusal : Option OpenStatus} {st' : StackState}
    (h : st.forwardOpenRequest cfg env isLarge request originatorAddress
      encapsulationSession = .ok (refusal, st')) :
    Receives st st' ∧ (refusal = none →
      st'.dummy.configurationPath.classId = assemblyClassCode →
      st'.dummy.transportClass ≠ .class3) := by
  simp only [forwardOpenRequest] at h
  split at h
  · cases h
  · rename_i message st₁ hreceive
    have hr := receiveForwardOpen_spec hreceive
    split at h
    · cases h
      exact ⟨hr, fun hnone => by cases hnone⟩
    · split at h
      · cases h
        exact ⟨hr, fun hnone => by cases hnone⟩
      · have hrouted := parseConnectionPath_routed cfg message
          request.requestDataSize st₁.dummy st₁.configData
        split at h
        · rename_i failure hparse
          cases h
          rw [hparse] at hrouted
          refine ⟨⟨?_, ?_, ?_, ?_⟩, fun hnone => by cases hnone⟩
          · rw [hr.eq]
          · rw [← hr.state]
            exact CipConnectionObject.unrouted_field hrouted (·.state) fun _ => rfl
          · rw [← hr.close]
            exact CipConnectionObject.unrouted_field hrouted (·.connectionCloseFunction)
              fun _ => rfl
          · rw [← hr.instances]
            exact CipConnectionObject.unrouted_field hrouted (·.instances)
              fun _ => rfl
        · rename_i s hparse
          cases h
          rw [hparse] at hrouted
          refine ⟨⟨?_, ?_, ?_, ?_⟩, fun _ hassembly hclass => ?_⟩
          · unfold storeParsedPath
            rw [hr.eq]
          · rw [← hr.state]
            exact CipConnectionObject.unrouted_field hrouted (·.state) fun _ => rfl
          · rw [← hr.close]
            exact CipConnectionObject.unrouted_field hrouted (·.connectionCloseFunction)
              fun _ => rfl
          · rw [← hr.instances]
            exact CipConnectionObject.unrouted_field hrouted (·.instances)
              fun _ => rfl
          · have hrouter := parseConnectionPath_class3 hparse hclass
            rw [show s.object.configurationPath.classId = assemblyClassCode from hassembly]
              at hrouter
            exact absurd hrouter (by decide)

end StackState

end Opener

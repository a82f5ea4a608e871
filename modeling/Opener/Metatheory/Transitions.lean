import Opener.Core.SampleApplication
import Opener.Metatheory.Requests

/-!
One step of the stack on the connection table: moves, with at most one Forward
Open among them. `Sound` is the invariant of every run.
-/

namespace Opener

open StackState (Established Requested AfterRequest)

namespace Regular

variable {cfg : Config} {V : View}

theorem scratch (h : Regular cfg V) {r : ConnRef} (hr : r ∉ V.members)
    {c : CipConnectionObject} (hc : Idle c) (connectionId : UInt16) :
    Regular cfg (V.scratch r c connectionId) := by
  refine ⟨h.nodup, ?_, ?_, ?_⟩
  · intro s hs
    have hsr : s ≠ r := fun heq => hr (heq ▸ hs)
    change Kind cfg s (Function.update V.object r c s)
    rw [Function.update_of_ne hsr]
    exact h.kind s hs
  · intro s hs
    change Idle (Function.update V.object r c s)
    by_cases hsr : s = r
    · subst hsr
      rw [Function.update_self]
      exact hc
    · rw [Function.update_of_ne hsr]
      exact h.idle s hs
  · intro s hmem
    rcases List.mem_append.mp hmem with hmem | hmem
    · exact h.copied s hmem
    · simp at hmem

theorem insert (h : Regular cfg V) {r : ConnRef} (hr : r ∉ V.members)
    {c : CipConnectionObject} (hc : Kind cfg r c) (connectionId : UInt16) :
    Regular cfg (V.insert r c connectionId) := by
  refine ⟨List.nodup_cons.mpr ⟨hr, h.nodup⟩, ?_, ?_, ?_⟩
  · intro s hs
    change Kind cfg s (Function.update V.object r c s)
    by_cases hsr : s = r
    · subst hsr
      rw [Function.update_self]
      exact hc
    · rw [Function.update_of_ne hsr]
      exact h.kind s ((List.mem_cons.mp hs).resolve_left hsr)
  · intro s hs
    obtain ⟨hsr, hs⟩ := not_or.mp (mt List.mem_cons.mpr hs)
    change Idle (Function.update V.object r c s)
    rw [Function.update_of_ne hsr]
    exact h.idle s hs
  · intro s hmem
    rcases List.mem_append.mp hmem with hmem | hmem
    · exact h.copied s hmem
    · simp at hmem

theorem leftBehind (h : Regular cfg V) {producer : ConnRef} (hp : producer ∈ V.members)
    (c : CipConnectionObject) :
    Regular cfg (V.modify producer (StackState.leftBehind c)) := by
  refine h.modify hp ?_
  unfold StackState.leftBehind
  split
  · exact (h.kind producer hp).retire
  · exact h.kind producer hp

theorem opens (h : Regular cfg V) {d : CipConnectionObject} {udpSocket : Int} {r : ConnRef}
    {V' : View} (hr : r ∉ V.members) (hopens : Opens cfg d udpSocket V r V') :
    Regular cfg V' := by
  cases hopens with
  | plain admitted single identifier => exact h.insert hr admitted.kind _
  | first admitted multicast agrees lonely identifier socket =>
      exact h.insert hr admitted.kind _
  | @join c producer admitted multicast agrees existing identifier socket =>
      exact (h.leftBehind (List.mem_of_find?_eq_some existing) c).insert hr admitted.kind _

end Regular

theorem StackState.Established.regular {cfg : Config} {env : Environment} {st : StackState}
    {status : OpenStatus} {V : View} (h : Established cfg env st status V)
    (hregular : Regular cfg (st.view cfg)) : Regular cfg V := by
  cases h with
  | nothing failed lookup => exact hregular
  | refused failed chosen finds instanceType vacated idle =>
      exact (vacated.regular hregular).scratch vacated.not_mem idle _
  | opened chosen finds instanceType vacated opens =>
      exact (vacated.regular hregular).opens vacated.not_mem opens

namespace StackState

variable {cfg : Config} {env : Environment} {st : StackState}

/-- What an open function does to the table: nothing, an attempt to establish an
I/O connection, or a class 3 connection. -/
inductive Answered (cfg : Config) (env : Environment) (st : StackState) :
    OpenStatus → View → Prop
  | unchanged {status : OpenStatus}
      (failed : status.general = GeneralStatus.success →
        st.dummy.configurationPath.classId = 0) : Answered cfg env st status (st.view cfg)
  | io {status : OpenStatus} {V : View}
      (assembly : st.dummy.configurationPath.classId = assemblyClassCode)
      (established : Established cfg env st status V) : Answered cfg env st status V
  | class3 {r : ConnRef} {c : CipConnectionObject} (unlisted : r ∉ st.connectionList cfg)
      (explicit : r.isIo = false) (kind : Kind cfg r c) (established : c.state = .established)
      (granted : Granted cfg env st.dummy st.connectionId c)
      (router : st.dummy.configurationPath.classId = messageRouterClassCode) :
      Answered cfg env st {} ((st.view cfg).insert r c
        (st.dummy.connectionIdAfter st.connectionId))

theorem Answered.regular {status : OpenStatus} {V : View} (h : Answered cfg env st status V)
    (hregular : Regular cfg (st.view cfg)) : Regular cfg V := by
  cases h with
  | unchanged => exact hregular
  | io assembly established => exact established.regular hregular
  | class3 unlisted explicit kind established => exact hregular.insert unlisted kind _

/-- An entry of the connection management list with the open function of I/O
connections is that of the Assembly class. -/
theorem connectionManagementList_io {classId : UInt32}
    (h : (classId, some OpenConnectionFunction.establishIoConnection) ∈
      cfg.connectionManagementList) : classId = assemblyClassCode := by
  simp only [Config.connectionManagementList, List.cons_append, List.nil_append,
    List.mem_cons, Prod.mk.injEq, List.mem_replicate] at h
  rcases h with ⟨-, h⟩ | ⟨h, -⟩ | ⟨-, -, h⟩
  · cases h
  · exact h
  · cases h

theorem connectionManagementList_class3 {classId : UInt32}
    (h : (classId, some OpenConnectionFunction.establishClass3Connection) ∈
      cfg.connectionManagementList) : classId = messageRouterClassCode := by
  simp only [Config.connectionManagementList, List.cons_append, List.nil_append,
    List.mem_cons, Prod.mk.injEq, List.mem_replicate] at h
  rcases h with ⟨h, -⟩ | ⟨-, h⟩ | ⟨-, -, h⟩
  · exact h
  · cases h
  · cases h

/-- The entries without a function are those of class zero. -/
theorem connectionManagementList_none {classId : UInt32}
    (h : (classId, none) ∈ cfg.connectionManagementList) : classId = 0 := by
  simp only [Config.connectionManagementList, List.cons_append, List.nil_append,
    List.mem_cons, Prod.mk.injEq, List.mem_replicate] at h
  rcases h with ⟨-, h⟩ | ⟨-, h⟩ | ⟨-, h, -⟩
  · cases h
  · cases h
  · exact h

theorem openConnection_spec {ns : List Nat} (h : st.Listed cfg ns)
    (hregular : Regular cfg (st.view cfg)) (hrequest : Requested st.dummy)
    (hclass : st.dummy.configurationPath.classId = assemblyClassCode →
      st.dummy.transportClass ≠ .class3)
    {status : OpenStatus} {st' : StackState}
    (hcall : st.openConnection cfg env = .ok (status, st')) :
    st'.WellFormed cfg ∧ AfterRequest st st' ∧
      Answered cfg env st status (st'.view cfg) := by
  unfold openConnection at hcall
  split at hcall
  · cases hcall
    exact ⟨⟨ns, h⟩, ⟨rfl, rfl, rfl⟩, .unchanged fun hsuccess => absurd hsuccess (by decide)⟩
  · rename_i classId hfind
    cases hcall
    have hzero := connectionManagementList_none (List.mem_of_find?_eq_some hfind)
    have hclassId := List.find?_some hfind
    rw [decide_eq_true_eq, hzero] at hclassId
    exact ⟨⟨ns, h⟩, ⟨rfl, rfl, rfl⟩, .unchanged fun _ => hclassId.symm⟩
  · rename_i classId hfind
    have hrouter := connectionManagementList_class3 (List.mem_of_find?_eq_some hfind)
    have hclassId := List.find?_some hfind
    rw [decide_eq_true_eq, hrouter] at hclassId
    obtain ⟨hlisted, hafter,
        ⟨hfailed, rfl⟩ | ⟨rfl, r, c, hr, hio, hkind, hstate, -, hgranted, hview⟩⟩ :=
      establishClass3Connection_spec env h hregular hrequest hcall
    · exact ⟨hlisted, hafter, .unchanged fun hsuccess => absurd hsuccess hfailed⟩
    · rw [hview]
      exact ⟨hlisted, hafter, .class3 hr hio hkind hstate hgranted hclassId.symm⟩
  · rename_i classId hfind
    have hassembly := connectionManagementList_io (List.mem_of_find?_eq_some hfind)
    have hclassId := List.find?_some hfind
    rw [decide_eq_true_eq, hassembly] at hclassId
    obtain ⟨hlisted, hafter, hestablished⟩ :=
      establishIoConnection_spec h hregular hrequest (hclass hclassId.symm) hcall
    exact ⟨hlisted, hafter, .io hclassId.symm hestablished⟩

/-- Answering a request only writes the packet and the state of the request. -/
structure Answers (st st' : StackState) : Prop where
  store : st'.store = st.store
  events : st'.events = st.events
  connectionId : st'.connectionId = st.connectionId
  assemblyData : st'.assemblyData = st.assemblyData
  after : AfterRequest st st'

theorem Answers.view_eq {st' : StackState} (h : Answers st st') :
    st'.view cfg = st.view cfg := by
  unfold view connectionList conn
  rw [h.store, h.events, h.connectionId]

theorem Answers.wellFormed {st' : StackState} (h : Answers st st')
    (hwell : st.WellFormed cfg) : st'.WellFormed cfg := by
  unfold WellFormed Listed
  rw [h.store]
  exact hwell

theorem assembleForwardOpenResponse_answers (st : StackState) (c : CipConnectionObject)
    (status : OpenStatus) :
    Answers st (st.assembleForwardOpenResponse c status).2 := by
  simp only [assembleForwardOpenResponse]
  split
  · exact ⟨rfl, rfl, rfl, rfl, rfl, rfl, rfl⟩
  · exact ⟨rfl, rfl, rfl, rfl, rfl, rfl, rfl⟩

theorem answerOpenConnection_answers {status : OpenStatus}
    {response : MessageRouterResponse} {st' : StackState}
    (hcall : st.answerOpenConnection status = .ok (response, st')) : Answers st st' := by
  unfold answerOpenConnection at hcall
  split at hcall
  · have hanswers := assembleForwardOpenResponse_answers st st.dummy status
    rw [Except.ok.injEq, refuse] at hcall
    rw [hcall] at hanswers
    exact hanswers
  · split at hcall
    · cases hcall
    · split at hcall
      · cases hcall
      · rename_i r hr
        have hanswers := assembleForwardOpenResponse_answers st (st.conn r) {}
        rw [Except.ok.injEq] at hcall
        rw [hcall] at hanswers
        exact hanswers

/-- The state in which a message calls an open function, if it does. -/
def messageEntry (cfg : Config) (env : Environment) (data : Message) (dataLength : UInt16)
    (originatorAddress : SockaddrIn) (encapsulationSession : UInt32) (st : StackState) :
    Option StackState :=
  match createMessageRouterRequestStructure data dataLength with
  | .error _ => none
  | .ok (epath, request) =>
      if (epath.classId.toUInt32 = connectionManagerClassCode ∧ epath.instanceNumber = 1) ∧
          (request.service = 0x54 ∨ request.service = 0x5B) then
        match st.forwardOpenRequest cfg env (request.service = 0x5B) request
            originatorAddress encapsulationSession with
        | .ok (none, st) => some st
        | _ => none
      else none

/-- The state in which a step calls an open function, if it does. -/
def openEntry (cfg : Config) (label : Environment × Action) (st : StackState) :
    Option StackState :=
  match label with
  | (env, .sendRRData session originatorAddress data) =>
      let (status, cpf) :=
        CommonPacketFormatData.createCommonPacketFormatStructure data data.length st.cpf
      if st.checkRegisteredSessions session ∧ status ≠ .error ∧
          cpf.addressItem.typeId = ItemId.nullAddress ∧
          cpf.dataItem.typeId = ItemId.unconnectedDataItem then
        messageEntry cfg env cpf.dataItem.data cpf.dataItem.length originatorAddress session
          { st with cpf := cpf }
      else none
  | (env, .sendUnitData session originatorAddress data) =>
      let (status, cpf) :=
        CommonPacketFormatData.createCommonPacketFormatStructure data data.length st.cpf
      if st.checkRegisteredSessions session ∧ ¬(status = .error ∨
          cpf.addressItem.typeId ≠ ItemId.connectionAddress) ∧
          cpf.dataItem.typeId = ItemId.connectedDataItem then
        match st.getConnectedObject cfg cpf.addressItem.connectionIdentifier with
        | none => none
        | some r =>
            let (sequence, buffer) := Message.getUint cpf.dataItem.data
            let st := receiveConnectedRequest r sequence { st with cpf := cpf }
            if (st.conn r).sequenceCountConsuming = sequence then none
            else
              messageEntry cfg env buffer (cpf.dataItem.length - 2) originatorAddress session
                (st.modifyConn r fun c => { c with sequenceCountConsuming := sequence })
      else none
  | _ => none

/-- How a step changes the connection table. -/
inductive Transition (cfg : Config) (label : Environment × Action) (st : StackState) :
    View → Prop
  | quiet {V : View} (moves : Moves (st.view cfg) V) : Transition cfg label st V
  | opening {st₁ : StackState} {status : OpenStatus} {V V' : View}
      (entry : openEntry cfg label st = some st₁)
      (before : Moves (st.view cfg) (st₁.view cfg))
      (answered : Answered cfg label.1 st₁ status V) (after : Moves V V') :
      Transition cfg label st V'

/-- The invariant of every run. -/
structure Sound (cfg : Config) (st : StackState) : Prop where
  wellFormed : st.WellFormed cfg
  regular : Regular cfg (st.view cfg)
  close : st.dummy.connectionCloseFunction = none
  instances : st.dummy.instances = (none, none)

theorem Receives.view_eq {st' : StackState} (h : Receives st st') :
    st'.view cfg = st.view cfg := by
  rw [h.eq]
  rfl

theorem Receives.requested {st' : StackState} (h : Receives st st') (hsound : st.Sound cfg) :
    st'.Sound cfg ∧ Requested st'.dummy := by
  have hclose := h.close.trans hsound.close
  have hinstances := h.instances.trans hsound.instances
  refine ⟨⟨?_, ?_, hclose, hinstances⟩, h.state, hclose, hinstances⟩
  · have hwell := hsound.wellFormed
    unfold WellFormed Listed at hwell ⊢
    rw [h.eq]
    exact hwell
  · rw [h.view_eq]
    exact hsound.regular

/-- `ForwardOpenRoutine` either changes nothing in the table, or answers from an
open function. -/
theorem forwardOpenRoutine_spec (hsound : st.Sound cfg) {isLarge : Bool}
    {request : MessageRouterRequest} {originatorAddress : SockaddrIn}
    {encapsulationSession : UInt32} {response : MessageRouterResponse} {st' : StackState}
    (hcall : st.forwardOpenRoutine cfg env isLarge request originatorAddress
      encapsulationSession = .ok (response, st')) :
    st'.Sound cfg ∧
      ((st'.view cfg = st.view cfg) ∨
        ∃ st₁ status V, st.forwardOpenRequest cfg env isLarge request originatorAddress
            encapsulationSession = .ok (none, st₁) ∧ st₁.view cfg = st.view cfg ∧
          Answered cfg env st₁ status V ∧ st'.view cfg = V) := by
  rw [forwardOpenRoutine_eq] at hcall
  split at hcall
  · cases hcall
  · rename_i status st₁ hrequest
    obtain ⟨hreceives, -⟩ := forwardOpenRequest_receives hrequest
    obtain ⟨hsound₁, -⟩ := hreceives.requested hsound
    have hanswers := assembleForwardOpenResponse_answers st₁ st₁.dummy status
    rw [Except.ok.injEq, refuse] at hcall
    rw [hcall] at hanswers
    have hview : st'.view cfg = st₁.view cfg := hanswers.view_eq
    refine ⟨⟨hanswers.wellFormed hsound₁.wellFormed, ?_, ?_, ?_⟩, .inl ?_⟩
    · rw [hview]
      exact hsound₁.regular
    · exact hanswers.after.1.trans hsound₁.close
    · exact hanswers.after.2.1.trans hsound₁.instances
    · rw [hview, hreceives.view_eq]
  · rename_i st₁ hrequest
    obtain ⟨hreceives, hclass⟩ := forwardOpenRequest_receives hrequest
    obtain ⟨hsound₁, hrequested⟩ := hreceives.requested hsound
    split at hcall
    · cases hcall
    · rename_i status st₂ hopen
      obtain ⟨ns, hlisted⟩ := hsound₁.wellFormed
      obtain ⟨hwell, hafter, hanswered⟩ :=
        openConnection_spec hlisted hsound₁.regular hrequested (hclass rfl) hopen
      have hanswers := answerOpenConnection_answers hcall
      have hview : st'.view cfg = st₂.view cfg := hanswers.view_eq
      refine ⟨⟨hanswers.wellFormed hwell, ?_, ?_, ?_⟩, .inr ⟨st₁, status, st₂.view cfg,
        hrequest, hreceives.view_eq, hanswered, hview⟩⟩
      · rw [hview]
        exact hanswered.regular hsound₁.regular
      · exact hanswers.after.1.trans (hafter.1.trans hsound₁.close)
      · exact hanswers.after.2.1.trans (hafter.2.1.trans hsound₁.instances)

theorem Calm.sound {ns ns' : List Nat} {st' : StackState} (h : Calm cfg st ns st' ns')
    (hsound : st.Sound cfg) : st'.Sound cfg :=
  ⟨⟨ns', h.listed⟩, h.regular hsound.regular, h.dummy ▸ hsound.close,
    h.dummy ▸ hsound.instances⟩

/-- A message to the connection manager: moves, or one open function. -/
theorem notifyMessageRouter_spec (hsound : st.Sound cfg) {data : Message}
    {dataLength : UInt16} {originatorAddress : SockaddrIn} {encapsulationSession : UInt32}
    {response : Option MessageRouterResponse} {st' : StackState}
    (hcall : st.notifyMessageRouter cfg env data dataLength originatorAddress
      encapsulationSession = .ok (response, st')) :
    st'.Sound cfg ∧
      (Moves (st.view cfg) (st'.view cfg) ∨
        ∃ st₁ status V, messageEntry cfg env data dataLength originatorAddress
            encapsulationSession st = some st₁ ∧ st₁.view cfg = st.view cfg ∧
          Answered cfg env st₁ status V ∧ st'.view cfg = V) := by
  simp only [notifyMessageRouter] at hcall
  simp only [messageEntry]
  cases hparse : createMessageRouterRequestStructure data dataLength with
  | error generalStatus =>
      simp only [hparse] at hcall
      cases hcall
      exact ⟨hsound, .inl .refl⟩
  | ok parsed =>
      obtain ⟨epath, request⟩ := parsed
      simp only [hparse] at hcall ⊢
      have hopen : ∀ isLarge, isLarge = decide (request.service = 0x5B) →
          (request.service = 0x54 ∨ request.service = 0x5B) →
          (epath.classId.toUInt32 = connectionManagerClassCode ∧ epath.instanceNumber = 1) →
          ∀ {answer}, st.forwardOpenRoutine cfg env isLarge request originatorAddress
            encapsulationSession = .ok (answer, st') → st'.Sound cfg ∧
          (Moves (st.view cfg) (st'.view cfg) ∨ ∃ st₁ status V,
            (if (epath.classId.toUInt32 = connectionManagerClassCode ∧
                epath.instanceNumber = 1) ∧
                (request.service = 0x54 ∨ request.service = 0x5B) then
              match st.forwardOpenRequest cfg env (request.service = 0x5B) request
                  originatorAddress encapsulationSession with
              | .ok (none, st) => some st
              | _ => none
            else none) = some st₁ ∧ st₁.view cfg = st.view cfg ∧
            Answered cfg env st₁ status V ∧ st'.view cfg = V) := by
        intro isLarge hlarge hservice hclass answer hroutine
        obtain ⟨hsound', hview | ⟨st₁, status, V, hrequest, hview, hanswered, hV⟩⟩ :=
          forwardOpenRoutine_spec hsound hroutine
        · exact ⟨hsound', .inl (hview ▸ .refl)⟩
        · refine ⟨hsound', .inr ⟨st₁, status, V, ?_, hview, hanswered, hV⟩⟩
          rw [if_pos ⟨hclass, hservice⟩, ← hlarge, hrequest]
      split at hcall
      · rename_i hclass
        split at hcall
        · rename_i hservice
          cases hroutine : st.forwardOpenRoutine cfg env false request originatorAddress
              encapsulationSession with
          | error fault => simp [hroutine] at hcall
          | ok result =>
              simp only [hroutine] at hcall
              cases hcall
              exact hopen false (by rw [hservice]; rfl) (.inl hservice) hclass hroutine
        · split at hcall
          · rename_i hservice
            cases hroutine : st.forwardOpenRoutine cfg env true request originatorAddress
                encapsulationSession with
            | error fault => simp [hroutine] at hcall
            | ok result =>
                simp only [hroutine] at hcall
                cases hcall
                exact hopen true (by rw [hservice]; rfl) (.inr hservice) hclass hroutine
          · split at hcall
            · cases hroutine : st.forwardClose cfg request originatorAddress with
              | error fault => simp [hroutine] at hcall
              | ok result =>
                  simp only [hroutine] at hcall
                  cases hcall
                  obtain ⟨ns, hlisted⟩ := hsound.wellFormed
                  obtain ⟨ns', hcalm⟩ := forwardClose_calm hlisted hsound.regular hroutine
                  exact ⟨hcalm.sound hsound, .inl hcalm.moves⟩
            · cases hcall
              exact ⟨hsound, .inl .refl⟩
      · cases hcall
        exact ⟨hsound, .inl .refl⟩

theorem Touched.sound {st' : StackState} (h : Touched st st') (hsound : st.Sound cfg) :
    st'.Sound cfg ∧ Moves (st.view cfg) (st'.view cfg) := by
  obtain ⟨ns, hlisted⟩ := hsound.wellFormed
  have hcalm := h.calm hlisted
  exact ⟨hcalm.sound hsound, hcalm.moves⟩

theorem messageEntry_sound (hsound : st.Sound cfg) {data : Message} {dataLength : UInt16}
    {originatorAddress : SockaddrIn} {encapsulationSession : UInt32} {st₁ : StackState}
    (h : messageEntry cfg env data dataLength originatorAddress encapsulationSession st =
      some st₁) :
    st₁.Sound cfg ∧ Requested st₁.dummy ∧
      (st₁.dummy.configurationPath.classId = assemblyClassCode →
        st₁.dummy.transportClass ≠ .class3) ∧ st₁.view cfg = st.view cfg := by
  simp only [messageEntry] at h
  split at h
  · cases h
  · split at h
    · split at h
      · rename_i hrequest
        cases h
        obtain ⟨hreceives, hclass⟩ := forwardOpenRequest_receives hrequest
        obtain ⟨hsound₁, hrequested⟩ := hreceives.requested hsound
        exact ⟨hsound₁, hrequested, hclass rfl, hreceives.view_eq⟩
      · cases h
    · cases h

theorem Touched.same_table {st' : StackState} (h : Touched st st') :
    (st'.view cfg).members = (st.view cfg).members ∧
      ∀ r, ((st'.view cfg).object r).core = ((st.view cfg).object r).core := by
  refine ⟨?_, h.object⟩
  rw [view_members, view_members, connectionList, connectionList, h.list]

/-- An open function is called in a sound state with a fresh request, before which
only timers and consumption counters changed. -/
theorem openEntry_sound (hsound : st.Sound cfg) {label : Environment × Action}
    {st₁ : StackState} (h : openEntry cfg label st = some st₁) :
    st₁.Sound cfg ∧ Requested st₁.dummy ∧
      (st₁.dummy.configurationPath.classId = assemblyClassCode →
        st₁.dummy.transportClass ≠ .class3) ∧
      (st₁.view cfg).members = (st.view cfg).members ∧
        ∀ r, ((st₁.view cfg).object r).core = ((st.view cfg).object r).core := by
  obtain ⟨env, action⟩ := label
  cases action with
  | sendRRData session originatorAddress data =>
      simp only [openEntry] at h
      split at h
      · have htouched := touched_cpf st (CommonPacketFormatData.createCommonPacketFormatStructure
          data data.length st.cpf).2
        obtain ⟨hsound₁, -⟩ := htouched.sound hsound
        obtain ⟨hsound₂, hrequest, hclass, hview⟩ := messageEntry_sound hsound₁ h
        refine ⟨hsound₂, hrequest, hclass, ?_⟩
        rw [hview]
        exact htouched.same_table
      · cases h
  | sendUnitData session originatorAddress data =>
      simp only [openEntry] at h
      split at h
      · split at h
        · cases h
        · rename_i r hr
          split at h
          · cases h
          · have htouched : Touched st ((receiveConnectedRequest r (Message.getUint
                (CommonPacketFormatData.createCommonPacketFormatStructure data data.length
                  st.cpf).2.dataItem.data).1 { st with cpf :=
                (CommonPacketFormatData.createCommonPacketFormatStructure data data.length
                  st.cpf).2 }).modifyConn r fun c => { c with sequenceCountConsuming :=
                (Message.getUint (CommonPacketFormatData.createCommonPacketFormatStructure
                  data data.length st.cpf).2.dataItem.data).1 }) :=
              ((touched_cpf st _).trans (receiveConnectedRequest_touched r _ _)).trans
                (touched_modifyConn _ r rfl)
            obtain ⟨hsound₁, -⟩ := htouched.sound hsound
            obtain ⟨hsound₂, hrequest, hclass, hview⟩ := messageEntry_sound hsound₁ h
            refine ⟨hsound₂, hrequest, hclass, ?_⟩
            rw [hview]
            exact htouched.same_table
      · cases h
  | _ => cases h

theorem sendRRData_spec (hsound : st.Sound cfg) {session : UInt32}
    {originatorAddress : SockaddrIn} {data : Message} {st' : StackState}
    (hcall : st.step cfg (env, .sendRRData session originatorAddress data) = .ok st') :
    st'.Sound cfg ∧ Transition cfg (env, .sendRRData session originatorAddress data) st
      (st'.view cfg) := by
  simp only [step] at hcall
  split at hcall
  · rename_i hregistered
    simp only [notifyCommonPacketFormat] at hcall
    have hentry := rfl (a := openEntry cfg (env, .sendRRData session originatorAddress data) st)
    nth_rewrite 2 [openEntry] at hentry
    generalize CommonPacketFormatData.createCommonPacketFormatStructure data data.length
      st.cpf = parsed at hcall hentry
    obtain ⟨status, cpf⟩ := parsed
    simp only at hcall hentry
    obtain ⟨hsound₁, hmoves₁⟩ := (touched_cpf st cpf).sound hsound
    by_cases herror : status = .error
    · simp only [herror, if_true] at hcall
      cases hcall
      exact ⟨hsound₁, .quiet hmoves₁⟩
    · simp only [herror, if_false] at hcall
      by_cases haddressed : cpf.addressItem.typeId = ItemId.nullAddress ∧
          cpf.dataItem.typeId = ItemId.unconnectedDataItem
      · rw [if_pos haddressed] at hcall
        rw [if_pos ⟨hregistered, herror, haddressed⟩] at hentry
        cases hnotify : notifyMessageRouter cfg env cpf.dataItem.data cpf.dataItem.length
            originatorAddress session { st with cpf := cpf } with
        | error fault => simp [hnotify] at hcall
        | ok result =>
            simp only [hnotify] at hcall
            cases hcall
            obtain ⟨hsound', hmoves | ⟨st₁, status₁, V, hmessage, hview, hanswered, hV⟩⟩ :=
              notifyMessageRouter_spec hsound₁ hnotify
            · exact ⟨hsound', .quiet (hmoves₁.trans hmoves)⟩
            · refine ⟨hsound', .opening (hentry.trans hmessage) ?_ hanswered (hV ▸ .refl)⟩
              rw [hview]
              exact hmoves₁
      · rw [if_neg haddressed] at hcall
        cases hcall
        exact ⟨hsound₁, .quiet hmoves₁⟩
  · cases hcall
    exact ⟨hsound, .quiet .refl⟩

theorem notifyConnectedRequest_spec (hsound : st.Sound cfg) {r : ConnRef}
    {sequence : UInt16} {buffer : Message} {length : UInt16}
    {originatorAddress : SockaddrIn} {encapsulationSession : UInt32}
    {reply : Option (List UInt8)} {st' : StackState}
    (hcall : st.notifyConnectedRequest cfg env r sequence buffer length originatorAddress
      encapsulationSession = .ok (reply, st')) :
    st'.Sound cfg ∧
      (Moves (st.view cfg) (st'.view cfg) ∨
        (¬(st.conn r).sequenceCountConsuming = sequence ∧ ∃ st₁ status V,
          messageEntry cfg env buffer length originatorAddress encapsulationSession
            (st.modifyConn r fun c => { c with sequenceCountConsuming := sequence }) =
              some st₁ ∧
          Moves (st.view cfg) (st₁.view cfg) ∧ Answered cfg env st₁ status V ∧
          Moves V (st'.view cfg))) := by
  simp only [notifyConnectedRequest] at hcall
  split at hcall
  · cases hcall
    exact ⟨hsound, .inl .refl⟩
  · rename_i hsequence
    have h₁ : Touched st (st.modifyConn r fun c =>
        { c with sequenceCountConsuming := sequence }) := touched_modifyConn st r rfl
    obtain ⟨hsound₁, hmoves₁⟩ := h₁.sound hsound
    generalize (st.modifyConn r fun c => { c with sequenceCountConsuming := sequence }) = st₁
      at hcall hsound₁ hmoves₁ ⊢
    have hclosing : ∀ {response st₂}, st₁.notifyMessageRouter cfg env buffer length
        originatorAddress encapsulationSession = .ok (response, st₂) → st'.Sound cfg →
        Moves (st₂.view cfg) (st'.view cfg) → st'.Sound cfg ∧
          (Moves (st.view cfg) (st'.view cfg) ∨
            (¬(st.conn r).sequenceCountConsuming = sequence ∧ ∃ st₃ status V,
              messageEntry cfg env buffer length originatorAddress encapsulationSession st₁ =
                some st₃ ∧
              Moves (st.view cfg) (st₃.view cfg) ∧ Answered cfg env st₃ status V ∧
              Moves V (st'.view cfg))) := by
      intro response st₂ hnotify hsound' hmoves'
      refine ⟨hsound', ?_⟩
      obtain ⟨-, hmoves | ⟨st₃, status, V, hmessage, hview, hanswered, hV⟩⟩ :=
        notifyMessageRouter_spec hsound₁ hnotify
      · exact .inl ((hmoves₁.trans hmoves).trans hmoves')
      · refine .inr ⟨hsequence, st₃, status, V, hmessage, ?_, hanswered, hV ▸ hmoves'⟩
        rw [hview]
        exact hmoves₁
    cases hnotify : st₁.notifyMessageRouter cfg env buffer length originatorAddress
        encapsulationSession with
    | error fault => simp [hnotify] at hcall
    | ok result =>
        obtain ⟨response, st₂⟩ := result
        have hsound₂ := (notifyMessageRouter_spec hsound₁ hnotify).1
        cases response with
        | none =>
            simp only [hnotify] at hcall
            cases hcall
            exact hclosing hnotify hsound₂ .refl
        | some response =>
            simp only [hnotify] at hcall
            cases hcall
            have h₂ := (touched_cpf st₂ _).trans (touched_modifyConn
              { st₂ with cpf := { st₂.cpf with addressItem :=
                { st₂.cpf.addressItem with
                  connectionIdentifier := (st₂.conn r).cipProducedConnectionId } } } r
              (f := fun c => { c with lastReplySent :=
                CommonPacketFormatData.assembleLinearMessage response { st₂.cpf with
                  addressItem := { st₂.cpf.addressItem with
                    connectionIdentifier := (st₂.conn r).cipProducedConnectionId } } }) rfl)
            obtain ⟨hsound', hmoves'⟩ := h₂.sound hsound₂
            exact hclosing hnotify hsound' hmoves'

theorem sendUnitData_spec (hsound : st.Sound cfg) {session : UInt32}
    {originatorAddress : SockaddrIn} {data : Message} {st' : StackState}
    (hcall : st.step cfg (env, .sendUnitData session originatorAddress data) = .ok st') :
    st'.Sound cfg ∧ Transition cfg (env, .sendUnitData session originatorAddress data) st
      (st'.view cfg) := by
  simp only [step] at hcall
  split at hcall
  · rename_i hregistered
    simp only [notifyConnectedCommonPacketFormat] at hcall
    have hentry := rfl
      (a := openEntry cfg (env, .sendUnitData session originatorAddress data) st)
    nth_rewrite 2 [openEntry] at hentry
    generalize CommonPacketFormatData.createCommonPacketFormatStructure data data.length
      st.cpf = parsed at hcall hentry
    obtain ⟨status, cpf⟩ := parsed
    simp only at hcall hentry
    obtain ⟨hsound₁, hmoves₁⟩ := (touched_cpf st cpf).sound hsound
    by_cases herror : status = .error ∨ cpf.addressItem.typeId ≠ ItemId.connectionAddress
    · rw [if_pos herror] at hcall
      cases hcall
      exact ⟨hsound₁, .quiet hmoves₁⟩
    · rw [if_neg herror] at hcall
      have hfind : getConnectedObject cfg { st with cpf := cpf }
          cpf.addressItem.connectionIdentifier =
            st.getConnectedObject cfg cpf.addressItem.connectionIdentifier := rfl
      rw [hfind] at hcall
      cases hconnected : st.getConnectedObject cfg cpf.addressItem.connectionIdentifier with
      | none =>
          simp only [hconnected] at hcall
          cases hcall
          exact ⟨hsound₁, .quiet hmoves₁⟩
      | some r =>
          simp only [hconnected] at hcall hentry
          by_cases htype : cpf.dataItem.typeId = ItemId.connectedDataItem
          · rw [if_neg (not_not.mpr htype)] at hcall
            rw [if_pos ⟨hregistered, herror, htype⟩] at hentry
            have h₂ : Touched st (receiveConnectedRequest r
                (Message.getUint cpf.dataItem.data).1 { st with cpf := cpf }) :=
              (touched_cpf st cpf).trans (receiveConnectedRequest_touched r _ _)
            generalize receiveConnectedRequest r (Message.getUint cpf.dataItem.data).1
              { st with cpf := cpf } = st₂ at hcall hentry h₂
            generalize hrequest : st₂.notifyConnectedRequest cfg env r
              (Message.getUint cpf.dataItem.data).1 (Message.getUint cpf.dataItem.data).2
              (cpf.dataItem.length - 2) originatorAddress session = result at hcall
            cases result with
            | error fault => simp at hcall
            | ok result =>
                cases hcall
                obtain ⟨hsound', htransition⟩ :=
                  notifyConnectedRequest_spec (h₂.sound hsound).1 hrequest
                refine ⟨hsound', ?_⟩
                rcases htransition with hmoves | ⟨hsequence, st₁, status₁, V, hmessage, hbefore,
                  hanswered, hafter⟩
                · exact .quiet ((h₂.sound hsound).2.trans hmoves)
                · rw [if_neg hsequence] at hentry
                  exact .opening (hentry.trans hmessage)
                    ((h₂.sound hsound).2.trans hbefore) hanswered hafter
          · rw [if_pos htype] at hcall
            cases hcall
            have h₂ : Touched st (modifyConn { st with cpf := cpf } r
                fun c => c.resetInactivityWatchdogTimerValue) :=
              (touched_cpf st cpf).trans (touched_modifyConn _ r rfl)
            obtain ⟨hsound₂, hmoves₂⟩ := h₂.sound hsound
            exact ⟨hsound₂, .quiet hmoves₂⟩
  · cases hcall
    exact ⟨hsound, .quiet .refl⟩

theorem sound_of_calm (hsound : st.Sound cfg) {st' : StackState}
    {label : Environment × Action}
    (h : ∀ ns, st.Listed cfg ns → ∃ ns', Calm cfg st ns st' ns') :
    st'.Sound cfg ∧ Transition cfg label st (st'.view cfg) := by
  obtain ⟨ns, hlisted⟩ := hsound.wellFormed
  obtain ⟨ns', hcalm⟩ := h ns hlisted
  exact ⟨hcalm.sound hsound, .quiet hcalm.moves⟩

theorem Discarded.calm {ns ns' : List Nat} {st' : StackState}
    (h : Discarded cfg st ns st' ns') : Calm cfg st ns st' ns' :=
  h.departed.calm

/-- What one step does to the connection table, and that it keeps the invariant. -/
theorem step_spec (hsound : st.Sound cfg) {label : Environment × Action} {st' : StackState}
    (hstep : st.step cfg label = .ok st') :
    st'.Sound cfg ∧ Transition cfg label st (st'.view cfg) := by
  obtain ⟨env, action⟩ := label
  have hregular := hsound.regular
  cases action with
  | sendRRData session originatorAddress data => exact sendRRData_spec hsound hstep
  | sendUnitData session originatorAddress data => exact sendUnitData_spec hsound hstep
  | manageConnections elapsedTime =>
      exact sound_of_calm hsound fun ns h => manageConnections_calm h hregular hstep
  | triggerConnections outputAssembly inputAssembly =>
      have htouched : Touched st st' := by
        cases hstep
        exact triggerConnections_touched cfg outputAssembly inputAssembly st
      obtain ⟨hsound', hmoves⟩ := htouched.sound hsound
      exact ⟨hsound', .quiet hmoves⟩
  | checkAndHandleConsumingUdpSocket =>
      exact sound_of_calm hsound fun ns h =>
        checkAndHandleConsumingUdpSocket_calm h hregular hstep
  | registerSession socket =>
      obtain ⟨hsound', hmoves⟩ := (registerSession_touched hstep).sound hsound
      exact ⟨hsound', .quiet hmoves⟩
  | unregisterSession sessionHandle =>
      refine sound_of_calm hsound fun ns h => ?_
      obtain ⟨ns', hdiscarded⟩ := unregisterSession_discarded h hregular hstep
      exact ⟨ns', hdiscarded.calm⟩
  | closeSession socket =>
      refine sound_of_calm hsound fun ns h => ?_
      obtain ⟨ns', hdiscarded⟩ := closeSession_discarded h hregular hstep
      exact ⟨ns', hdiscarded.calm⟩
  | removeSession socket =>
      refine sound_of_calm hsound fun ns h => ?_
      obtain ⟨ns', hdiscarded⟩ := removeSession_discarded h hregular hstep
      exact ⟨ns', hdiscarded.calm⟩
  | disconnect socket =>
      refine sound_of_calm hsound fun ns h => ?_
      simp only [step] at hstep
      cases hclose : st.closeTcpSocket socket with
      | error fault => simp [hclose] at hstep
      | ok st₁ =>
          simp only [hclose] at hstep
          obtain ⟨ns', hdiscarded⟩ := disconnect_discarded h hregular hclose hstep
          exact ⟨ns', hdiscarded.calm⟩
  | checkEncapsulationInactivity socket =>
      refine sound_of_calm hsound fun ns h => ?_
      obtain ⟨ns', hdiscarded⟩ := checkEncapsulationInactivity_discarded h hregular hstep
      exact ⟨ns', hdiscarded.calm⟩
  | handleClosedTcpSocket socket =>
      refine sound_of_calm hsound fun ns h => ?_
      obtain ⟨ns', hdiscarded⟩ := handleClosedTcpSocket_discarded h hregular hstep
      exact ⟨ns', hdiscarded.calm⟩
  | setLastUpdate timer =>
      have htouched : Touched st st' := by
        cases hstep
        exact ⟨rfl, fun _ => rfl, rfl, rfl, rfl, rfl⟩
      obtain ⟨hsound', hmoves⟩ := htouched.sound hsound
      exact ⟨hsound', .quiet hmoves⟩
  | encapsulationShutDown =>
      refine sound_of_calm hsound fun ns h => ?_
      obtain ⟨ns', hdiscarded⟩ := shutDownSessions_discarded h hregular hstep
      exact ⟨ns', hdiscarded.calm⟩
  | closeAllConnections =>
      exact sound_of_calm hsound fun ns h => closeFirstConnections_calm h hregular hstep
  | writeAssemblies data =>
      have htouched : Touched st st' := by
        cases hstep
        exact ⟨rfl, fun _ => rfl, rfl, rfl, rfl, rfl⟩
      obtain ⟨hsound', hmoves⟩ := htouched.sound hsound
      exact ⟨hsound', .quiet hmoves⟩

theorem connectionList_initialState (cfg : Config) (assemblyData : UInt16 → List UInt8) :
    (initialState cfg assemblyData).connectionList cfg = [] := by
  refine List.eq_nil_iff_forall_not_mem.mpr fun r hr => ?_
  obtain ⟨n, hn, -⟩ := (listed_initialState cfg assemblyData).mem.mp hr
  cases hn

theorem sound_initialState (cfg : Config) (assemblyData : UInt16 → List UInt8) :
    (initialState cfg assemblyData).Sound cfg := by
  have hlisted := listed_initialState cfg assemblyData
  have hmembers := connectionList_initialState cfg assemblyData
  refine ⟨⟨[], hlisted⟩, ⟨?_, ?_, fun r _ => ⟨rfl, .inl rfl⟩, fun r hr => by cases hr⟩, rfl, rfl⟩
  · rw [view_members, hmembers]
    exact List.nodup_nil
  · intro r hr
    rw [view_members, hmembers] at hr
    cases hr

/-- What holds of the empty table, and is kept by every move and every answer of an
open function, holds in every state of a run whose steps are allowed. -/
theorem view_invariant {allowed : Environment × Action → StackState → Prop}
    (P : View → Prop)
    (hmove : ∀ V V', Regular cfg V → Move V V' → P V → P V')
    (hanswer : ∀ label st st₁ status V, allowed label st → st.Sound cfg →
      openEntry cfg label st = some st₁ → st₁.Sound cfg → Requested st₁.dummy →
      Answered cfg label.1 st₁ status V → P (st₁.view cfg) → P V)
    {start : StackState} (hsound : start.Sound cfg) (hstart : P (start.view cfg))
    (h : Runs.Reaches (step cfg) allowed start st) : st.Sound cfg ∧ P (st.view cfg) := by
  have hmoves : ∀ {V V'}, Moves V V' → Regular cfg V → P V → P V' := by
    intro V V' hmoves hregular hV
    induction hmoves with
    | refl => exact hV
    | tail hbefore hlast ih => exact hmove _ _ (hregular.moves hbefore) hlast ih
  refine h.invariant (fun st => st.Sound cfg ∧ P (st.view cfg)) ⟨hsound, hstart⟩ ?_
  rintro label s s' ⟨hsound, hP⟩ hallowed hstep
  obtain ⟨hsound', htransition⟩ := step_spec hsound hstep
  refine ⟨hsound', ?_⟩
  cases htransition with
  | quiet moves => exact hmoves moves hsound.regular hP
  | opening entry before answered after =>
      obtain ⟨hsound₁, hrequested, -, -⟩ := openEntry_sound hsound entry
      have hP₁ := hmoves before hsound.regular hP
      exact hmoves after (answered.regular hsound₁.regular)
        (hanswer _ _ _ _ _ hallowed hsound entry hsound₁ hrequested answered hP₁)

/-- Every state of every run satisfies the invariant. -/
theorem Reachable.sound (h : Reachable cfg st) : st.Sound cfg := by
  obtain ⟨assemblyData, hreaches⟩ := h
  refine hreaches.invariant (Sound cfg) (sound_initialState cfg assemblyData) ?_
  intro label s s' hsound _ hstep
  exact (step_spec hsound hstep).1

/-- The connection list and the pools agree, and no open writes over a listed
connection. -/
theorem reachable_consistent (h : Reachable cfg st) :
    (st.connectionList cfg).Nodup ∧
      (∀ r, r ∈ st.connectionList cfg ↔
        (st.conn r).state = .established ∨ (st.conn r).state = .timedOut) ∧
      (∀ r, r ∉ st.connectionList cfg → (st.conn r).state = .nonExistent) ∧
      ∀ r, Event.copied r true ∉ st.events := by
  have hsound := h.sound
  have hidle : ∀ r, r ∉ st.connectionList cfg → (st.conn r).state = .nonExistent :=
    fun r hr => (hsound.regular.idle r hr).state
  refine ⟨hsound.regular.nodup, ?_, hidle, ?_⟩
  · intro r
    constructor
    · intro hr
      exact (hsound.regular.kind r hr).state.imp_right And.left
    · intro hstate
      by_contra hr
      rw [hidle r hr] at hstate
      rcases hstate with hstate | hstate <;> cases hstate
  · intro r hmem
    exact hsound.regular.copied r (List.mem_filter.mpr ⟨hmem, rfl⟩)

open SampleApplication in
/-- A timed-out input-only connection of the sample application is replaced by its
originator, next to an exclusive owner. -/
theorem reachable_consistent_sample :
    ∃ st, Reachable config st ∧
      st.connectionList config = [.inputOnly 0 0, .exclusiveOwner 0] ∧
      (st.connectionList config).Nodup ∧
      (∀ r, r ∈ st.connectionList config ↔
        (st.conn r).state = .established ∨ (st.conn r).state = .timedOut) ∧
      (∀ r, r ∉ st.connectionList config → (st.conn r).state = .nonExistent) ∧
      ∀ r, Event.copied r true ∉ st.events := by
  obtain ⟨st, hreachable, hlist⟩ := reachable_of_ends config
    [request (inputOnly 1 1 multicast), tick 10000, request (exclusiveOwner 2 2 multicast),
      request (inputOnly 3 1 multicast)]
    (fun st => st.connectionList config = [.inputOnly 0 0, .exclusiveOwner 0])
    (by decide +kernel)
  exact ⟨st, hreachable, of_decide_eq_true hlist, reachable_consistent hreachable⟩

end StackState

end Opener

import Opener.Metatheory.ConnectionPoints

/-!
The timers of a connection that a Forward Open has just opened. They are set after
`ProcessProductionInhibitTime` and left alone by the connection points, the
configuration data and both channels.
-/

namespace Opener

namespace CipConnectionObject

/-- The production inhibit time, its timer and the transmission trigger timer. -/
def pacing (c : CipConnectionObject) : UInt16 × UInt64 × UInt64 :=
  (c.productionInhibitTime, c.productionInhibitTimer, c.transmissionTriggerTimer)

/-- The timers of a connection with the inhibit time that has not produced. -/
def initialPacing (inhibitTime : UInt16) : UInt16 × UInt64 × UInt64 :=
  (inhibitTime, inhibitTime.toUInt64, 0)

/-- The inhibit time that `ProcessProductionInhibitTime` leaves. -/
def processedInhibitTime (c : CipConnectionObject) : UInt16 :=
  (processProductionInhibitTime c).2.productionInhibitTime

theorem processProductionInhibitTime_instanceType (c : CipConnectionObject)
    (instanceType : ConnectionObjectInstanceType) :
    (processProductionInhibitTime { c with instanceType }).1 =
        (processProductionInhibitTime c).1 ∧
      processedInhibitTime { c with instanceType } = c.processedInhibitTime := by
  have htrigger : ({ c with instanceType } : CipConnectionObject).productionTrigger =
      c.productionTrigger := rfl
  simp only [processedInhibitTime, processProductionInhibitTime, htrigger]
  split
  · split
    · exact ⟨rfl, rfl⟩
    · split
      · exact ⟨rfl, rfl⟩
      · exact ⟨rfl, rfl⟩
  · exact ⟨rfl, rfl⟩

end CipConnectionObject

open CipConnectionObject

namespace StackState

variable {cfg : Config} {env : Environment} {st : StackState} {r : ConnRef}

theorem generalConfiguration_pacing (cfg : Config) (r : ConnRef) (st : StackState) :
    ((st.generalConfiguration cfg r).conn r).pacing =
      initialPacing (st.conn r).productionInhibitTime := by
  rw [(generalConfiguration_spec cfg r st).2.2]
  rfl

theorem configureIoConnection_pacing {st' : StackState} (hr : r ∉ st.connectionList cfg)
    (hcall : st.configureIoConnection cfg r = .ok (ExtendedStatus.success, st')) :
    (processProductionInhibitTime (st.conn r)).1 = ExtendedStatus.success ∧
      (st'.conn r).pacing = initialPacing (st.conn r).processedInhibitTime := by
  rw [processedInhibitTime]
  simp only [configureIoConnection] at hcall
  generalize processProductionInhibitTime (st.conn r) = processed at hcall ⊢
  obtain ⟨extended, c⟩ := processed
  simp only at hcall ⊢
  split at hcall
  · rename_i hrefused
    cases hcall
    exact absurd rfl hrefused
  · rename_i haccepted
    refine ⟨not_not.mp haccepted, ?_⟩
    have hwrites := (writes_setConn r st c).trans
      (writes_modifyConn r (st.setConn r c) setIoConnectionCallbacks)
    have htime : (((st.setConn r c).modifyConn r setIoConnectionCallbacks).conn
        r).productionInhibitTime = c.productionInhibitTime := by
      rw [conn_modifyConn_self, conn_setConn_self]
      rfl
    generalize (st.setConn r c).modifyConn r setIoConnectionCallbacks = st₁
      at hcall hwrites htime
    have hpacing := generalConfiguration_pacing cfg r st₁
    have hlist : (st₁.generalConfiguration cfg r).connectionList cfg = st.connectionList cfg :=
      (hwrites.trans (generalConfiguration_spec cfg r st₁).1).connectionList_eq
    generalize st₁.generalConfiguration cfg r = st₂ at hcall hpacing hlist
    obtain ⟨hsettles, -⟩ := setupConnectionPoints_settles (hlist ▸ hr) hcall
    rw [settled_field hsettles.settled pacing fun _ => rfl, conn_modifyConn_self, ← htime,
      ← hpacing]
    rfl

theorem openCommunicationChannels_pacing {status : UInt8} {st' : StackState}
    (hr : r ∉ st.connectionList cfg)
    (hcall : st.openCommunicationChannels cfg env r = (status, st')) :
    (st'.conn r).pacing = (st.conn r).pacing := by
  obtain ⟨st₁, hsettles, -, -, hchannel⟩ := openCommunicationChannels_spec hr hcall
  rw [← settled_field hsettles.settled pacing fun _ => rfl]
  rcases hchannel with ⟨-, rfl⟩ | ⟨-, hchannel⟩
  · rfl
  · cases hchannel with
    | refused failed others slot =>
        obtain ⟨address, hslot⟩ := slot
        rw [hslot]
        rfl
    | plain single others slot =>
        obtain ⟨socket, address, -, hslot⟩ := slot
        rw [hslot]
        rfl
    | first multicast lonely others slot =>
        obtain ⟨address, hslot⟩ := slot
        rw [hslot]
        rfl
    | join multicast producer others left slot =>
        obtain ⟨address, hslot⟩ := slot
        rw [hslot]
        rfl

theorem prepareIoConnection_pacing {status : OpenStatus} {st' : StackState}
    (hr : r ∉ st.connectionList cfg)
    (hcall : st.prepareIoConnection cfg env r = .ok (status, st'))
    (hsuccess : status.general = GeneralStatus.success) :
    (processProductionInhibitTime (st.conn r)).1 = ExtendedStatus.success ∧
      (st'.conn r).pacing = initialPacing (st.conn r).processedInhibitTime := by
  simp only [prepareIoConnection] at hcall
  split at hcall
  · cases hcall
  · rename_i extended st₁ hconfigure
    split at hcall
    · cases hcall
      exact absurd hsuccess (connectionFailure_ne_success _)
    · rename_i haccepted
      rw [not_not.mp haccepted] at hconfigure
      obtain ⟨hprocessed, hpacing⟩ := configureIoConnection_pacing hr hconfigure
      have hwrites := (configureIoConnection_spec hr hconfigure).1
      split at hcall
      · cases hcall
      · rename_i extended₂ st₂ happly
        obtain ⟨assemblyData, rfl⟩ := applyConfigData_store happly
        split at hcall
        · cases hcall
          exact absurd hsuccess (connectionFailure_ne_success _)
        · generalize hopen : openCommunicationChannels cfg env r
            { st₁ with assemblyData := assemblyData } = result at hcall
          obtain ⟨general, st₃⟩ := result
          cases hcall
          have hr₁ : r ∉ connectionList { st₁ with assemblyData := assemblyData } cfg := by
            change r ∉ st₁.connectionList cfg
            rw [hwrites.connectionList_eq]
            exact hr
          exact ⟨hprocessed, (openCommunicationChannels_pacing hr₁ hopen).trans hpacing⟩

/-- An established I/O connection is the new head of the list, with its timers set. -/
theorem establishIoConnection_pacing (hsound : st.Sound cfg) (hrequest : Requested st.dummy)
    {status : OpenStatus} {st' : StackState}
    (hcall : st.establishIoConnection cfg env = .ok (status, st'))
    (hsuccess : status.general = GeneralStatus.success) :
    ∃ r, (st'.connectionList cfg).head? = some r ∧
      (processProductionInhibitTime st.dummy).1 = ExtendedStatus.success ∧
      (st'.conn r).pacing = initialPacing st.dummy.processedInhibitTime := by
  obtain ⟨ns, hlisted⟩ := hsound.wellFormed
  simp only [establishIoConnection] at hcall
  split at hcall
  · cases hcall
  · cases hcall
    exact absurd hsuccess (connectionFailure_ne_success _)
  · rename_i r st₁ hresolve
    obtain ⟨hframe, hnone | hsome⟩ := resolveIoConnection_spec hlisted hsound.regular hresolve
    · obtain ⟨extended, herror, -⟩ := hnone
      cases herror
    · obtain ⟨r', ns₁, hr', hchosen, htype, hlisted₁, hfinds, hvacated⟩ := hsome
      cases hr'
      have hdummy₁ : st₁.dummy = { st.dummy with instanceType := r.instanceType } :=
        htype ▸ hframe.dummy
      have hr₁ : r ∉ (st₁.deepCopyDummy cfg r).connectionList cfg := hvacated.not_mem
      have hconn₁ : (st₁.deepCopyDummy cfg r).conn r =
          { st.dummy with instanceType := r.instanceType } :=
        (conn_setConn_self _ r _).trans hdummy₁
      have hlisted₂ : (st₁.deepCopyDummy cfg r).Listed cfg ns₁ := hlisted₁
      generalize st₁.deepCopyDummy cfg r = st₂ at hcall hr₁ hconn₁ hlisted₂
      split at hcall
      · cases hcall
      · rename_i status₁ st₃ hprepare
        split at hcall
        · rename_i hfailed
          cases hcall
          exact absurd hsuccess hfailed
        · rename_i hprepared
          obtain ⟨hprocessed, hpacing⟩ :=
            prepareIoConnection_pacing hr₁ hprepare (not_not.mp hprepared)
          obtain ⟨hsame, htime⟩ :=
            processProductionInhibitTime_instanceType st.dummy r.instanceType
          rw [hconn₁, hsame] at hprocessed
          rw [hconn₁, htime] at hpacing
          obtain ⟨hfailed, -⟩ | ⟨-, st₄, hready, hkeeps, -⟩ := prepareIoConnection_spec hr₁
            (by rw [hconn₁]; exact hrequest.state) (by rw [hconn₁]; exact hrequest.close)
            hprepare
          · exact absurd hfailed hprepared
          · have hlist₃ : st₃.store.connectionList = st₂.store.connectionList :=
              hkeeps.list.trans hready.writes.list
            have hlisted₃ : st₃.Listed cfg ns₁ := by
              rw [Listed, hlist₃]
              exact hlisted₂
            have hr₃ : r ∉ st₃.connectionList cfg := by
              rw [connectionList, hlist₃]
              exact hr₁
            obtain ⟨-, -, -, hview⟩ := activateIoConnection_spec hlisted₃ hr₃ hcall
            have hobject : st'.conn r = (st₃.conn r).setState .established :=
              (congrArg (fun V => V.object r) hview).trans (Function.update_self r _ _)
            refine ⟨r, ?_, hprocessed, ?_⟩
            · exact congrArg (fun V => V.members.head?) hview
            · rw [hobject]
              exact hpacing

/-- A Forward Open in a state of a run is granted the I/O connection `r`. The fixed part
of the request ends before `message` and leaves `st₀`, its path is parsed into `s`. -/
structure GrantsIo (cfg : Config) (env : Environment) (isLarge : Bool)
    (request : MessageRouterRequest) (originatorAddress : SockaddrIn)
    (encapsulationSession : UInt32) (st : StackState) (message : Message)
    (st₀ : StackState) (s : PathState) (st' : StackState) (r : ConnRef) : Prop where
  reachable : Reachable cfg st
  receives : st.receiveForwardOpen cfg env isLarge request.data originatorAddress
    encapsulationSession = .ok (message, st₀)
  parses : parseConnectionPath cfg message request.requestDataSize st₀.dummy st₀.configData =
    .ok s
  assembly : s.object.configurationPath.classId = assemblyClassCode
  granted : ∃ response, st.forwardOpenRoutine cfg env isLarge request originatorAddress
    encapsulationSession = .ok (response, st') ∧
      response.generalStatus = GeneralStatus.success
  head : (st'.connectionList cfg).head? = some r

/-- What the request fixes, and the timers. -/
structure GrantedIo (s : PathState) (c : CipConnectionObject) : Prop where
  established : c.state = .established
  terms : c.terms = s.object.terms
  processed : (processProductionInhibitTime s.object).1 = ExtendedStatus.success
  pacing : c.pacing = initialPacing s.object.processedInhibitTime

theorem GrantsIo.grantedIo {isLarge : Bool} {request : MessageRouterRequest}
    {originatorAddress : SockaddrIn} {encapsulationSession : UInt32} {message : Message}
    {st₀ st' : StackState} {s : PathState}
    (h : GrantsIo cfg env isLarge request originatorAddress encapsulationSession st message
      st₀ s st' r) : GrantedIo s (st'.conn r) := by
  obtain ⟨hreachable, hreceives, hparses, hassembly, ⟨response, hcall, hsuccess⟩, hhead⟩ := h
  rw [forwardOpenRoutine_eq] at hcall
  have hrequest : ∀ refusal st₁, st.forwardOpenRequest cfg env isLarge request
      originatorAddress encapsulationSession = .ok (refusal, st₁) →
      refusal = none → st₁ = st₀.storeParsedPath s := by
    intro refusal st₁ hrequest hnone
    simp only [forwardOpenRequest, hreceives, hparses] at hrequest
    split at hrequest
    · cases hrequest
      cases hnone
    · split at hrequest
      · cases hrequest
        cases hnone
      · cases hrequest
        rfl
  have hrefuse : ∀ {st₁ : StackState} {status : OpenStatus},
      status.general ≠ GeneralStatus.success → st₁.refuse status = (response, st') →
      response.generalStatus ≠ GeneralStatus.success := by
    intro st₁ status hfailed heq
    have hreply := (refuse_reply st₁ hfailed).1
    rw [heq] at hreply
    rw [hreply]
    exact hfailed
  split at hcall
  · cases hcall
  · rename_i status st₁ hrefused
    exact absurd hsuccess (hrefuse ((forwardOpenRequest_demanded hrefused).2 status rfl)
      (Except.ok.inj hcall))
  · rename_i st₁ hopens
    have hstored := hrequest none st₁ hopens rfl
    obtain ⟨hreceives₁, hclass⟩ := forwardOpenRequest_receives hopens
    obtain ⟨hsound₁, hrequested⟩ := hreceives₁.requested hreachable.sound
    have hdummy : st₁.dummy = s.object := by
      rw [hstored]
      rfl
    have hassembly₁ : st₁.dummy.configurationPath.classId = assemblyClassCode := by
      rw [hdummy]
      exact hassembly
    split at hcall
    · cases hcall
    · rename_i status st₂ hopen
      have hopened : status.general = GeneralStatus.success := by
        by_contra hfailed
        rw [answerOpenConnection, if_pos hfailed] at hcall
        exact hrefuse hfailed (Except.ok.inj hcall) hsuccess
      have hstore := (answerOpenConnection_answers hcall).store
      have hconn : ∀ q, st'.conn q = st₂.conn q := fun q => by rw [conn, hstore, conn]
      have hhead₂ : (st₂.connectionList cfg).head? = some r := by
        rw [connectionList, ← hstore]
        exact hhead
      obtain ⟨ns, hlisted⟩ := hsound₁.wellFormed
      obtain ⟨-, -, hanswered⟩ :=
        openConnection_spec hlisted hsound₁.regular hrequested (hclass rfl) hopen
      rw [openConnection_assembly hassembly₁] at hopen
      obtain ⟨r', hhead', hprocessed, hpacing⟩ :=
        establishIoConnection_pacing hsound₁ hrequested hopen hopened
      cases hhead₂.symm.trans hhead'
      rw [hdummy] at hprocessed hpacing
      rw [hconn]
      obtain ⟨-, V₁, q, hentered⟩ | ⟨hzero, -⟩ := hanswered.outcome
      · have hmembers : st₂.connectionList cfg = q :: V₁.members := hentered.members
        rw [hmembers] at hhead₂
        cases hhead₂
        have hterms := hentered.granted.terms
        rw [hdummy] at hterms
        exact ⟨hentered.established, hterms, hprocessed, hpacing⟩
      · rw [hzero hopened] at hassembly₁
        cases hassembly₁

open SampleApplication in
/-- The request is granted an I/O connection, with the property of the path, of what was
parsed and of the connection. -/
def grantsIo (cfg : Config) (env : Environment) (isLarge : Bool)
    (request : MessageRouterRequest) (originatorAddress : SockaddrIn)
    (encapsulationSession : UInt32)
    (p : Message → StackState → PathState → StackState → ConnRef → Bool) (st : StackState) :
    Bool :=
  returns (st.receiveForwardOpen cfg env isLarge request.data originatorAddress
    encapsulationSession) fun received =>
      (parseConnectionPath cfg received.1 request.requestDataSize received.2.dummy
        received.2.configData).toOption.any fun s =>
          s.object.configurationPath.classId = assemblyClassCode &&
            returns (st.forwardOpenRoutine cfg env isLarge request originatorAddress
              encapsulationSession) fun opened =>
                opened.1.generalStatus = GeneralStatus.success &&
                  (opened.2.connectionList cfg).head?.any fun r =>
                    p received.1 received.2 s opened.2 r

open SampleApplication in
theorem grantsIo_of_decision {isLarge : Bool} {request : MessageRouterRequest}
    {originatorAddress : SockaddrIn} {encapsulationSession : UInt32}
    {p : Message → StackState → PathState → StackState → ConnRef → Bool}
    (hreachable : Reachable cfg st)
    (h : grantsIo cfg env isLarge request originatorAddress encapsulationSession p st = true) :
    ∃ message st₀ s st' r, GrantsIo cfg env isLarge request originatorAddress
      encapsulationSession st message st₀ s st' r ∧ p message st₀ s st' r = true := by
  obtain ⟨⟨message, st₀⟩, hreceives, h⟩ := returns_iff.mp h
  obtain ⟨s, hparsed, h⟩ := (Option.any_eq_true _ _).mp h
  simp only [Bool.and_eq_true, decide_eq_true_eq] at h
  obtain ⟨hassembly, h⟩ := h
  obtain ⟨⟨response, st'⟩, hopened, h⟩ := returns_iff.mp h
  simp only [Bool.and_eq_true, decide_eq_true_eq] at h
  obtain ⟨hsuccess, h⟩ := h
  obtain ⟨r, hhead, h⟩ := (Option.any_eq_true _ _).mp h
  refine ⟨message, st₀, s, st', r, ⟨hreachable, hreceives, ?_, hassembly,
    ⟨response, hopened, hsuccess⟩, hhead⟩, h⟩
  cases hparse : parseConnectionPath cfg message request.requestDataSize st₀.dummy
      st₀.configData with
  | error failure =>
      rw [hparse] at hparsed
      cases hparsed
  | ok parsed =>
      rw [hparse] at hparsed
      exact congrArg Except.ok (Option.some.inj hparsed)

end StackState

end Opener

import Opener.Metatheory.Departures

/-!
Every step of the stack is a course of departures with at most one open behind
them: the message services, the round of `ManageConnections`, the consuming
sockets, the session commands and `CloseAllConnections`, one after the other.
-/

namespace Opener

open LinkedCells

namespace StackState

variable {cfg : Config} {env : Environment} {label : Environment × Action}
variable {st st₁ st' : StackState}

theorem mem_departures_of_target {m : RoutedMessage} {r : ConnRef}
    (hrouted : routedMessage cfg label st = some m) (hr : closeTarget cfg m = some r) :
    .closed r m.state.clearAddressInfoItems ∈ departures cfg label st := by
  have hmem : Departure.closed r m.state.clearAddressInfoItems ∈
      (closeTarget cfg m).toList.map (Departure.closed · m.state.clearAddressInfoItems) := by
    rw [hr]
    exact List.mem_singleton.mpr rfl
  obtain ⟨env, action⟩ := label
  cases action with
  | sendRRData session originatorAddress data =>
      simp only [departures, hrouted]
      exact List.mem_append_left _ hmem
  | sendUnitData session originatorAddress data =>
      simp only [departures, hrouted]
      exact List.mem_append_left _ hmem
  | _ => cases hrouted

theorem mem_departures_of_replaced {r : ConnRef} (hentry : openEntry cfg label st = some st₁)
    (hr : st₁.replaced cfg = some r) : .closed r st₁ ∈ departures cfg label st := by
  have hmem : Departure.closed r st₁ ∈ (st₁.replaced cfg).toList.map (Departure.closed · st₁) := by
    rw [hr]
    exact List.mem_singleton.mpr rfl
  obtain ⟨env, action⟩ := label
  cases action with
  | sendRRData session originatorAddress data =>
      simp only [departures, hentry]
      exact List.mem_append_right _ hmem
  | sendUnitData session originatorAddress data =>
      simp only [departures, hentry]
      exact List.mem_append_right _ hmem
  | _ => cases hentry

/-- The close function of a listed connection: silent for an explicit one. -/
theorem Course.closes (hsound : st₁.Sound cfg) {r : ConnRef} (hr : r ∈ st₁.connectionList cfg)
    (hdeparts : .closed r st₁ ∈ departures cfg label st)
    (hcall : st₁.connectionCloseFunction cfg r = .ok st') :
    st'.Sound cfg ∧ Course cfg label st st₁ st' := by
  obtain ⟨ns, hlisted⟩ := hsound.wellFormed
  obtain ⟨ns', hcalm⟩ := connectionCloseFunction_calm hlisted hsound.regular hr hcall
  have hsound' := hcalm.sound hsound
  refine ⟨hsound', ?_⟩
  cases hio : r.isIo with
  | true => exact .single (.closes hsound' hdeparts hio hcall)
  | false =>
      rw [connectionCloseFunction_explicit hsound hr hio, Except.ok.injEq] at hcall
      subst hcall
      exact .silent hsound' (closeConnection_silent hsound hio).2

theorem assembleForwardCloseResponse_touched {serialNumber vendorId : UInt16}
    {originatorSerialNumber : UInt32} {service remainingPathSize : UInt8} {extended : UInt16}
    {response : MessageRouterResponse}
    (hcall : st.assembleForwardCloseResponse serialNumber vendorId originatorSerialNumber service
      remainingPathSize extended = (response, st')) : Touched st st' := by
  rw [assembleForwardCloseResponse, Prod.mk.injEq] at hcall
  rw [← hcall.2]
  exact touched_cpf st _

theorem forwardClose_course {m : RoutedMessage} (hrouted : routedMessage cfg label st = some m)
    (hsound : m.state.Sound cfg) {epath : Epath} {request : MessageRouterRequest}
    (hparse : createMessageRouterRequestStructure m.data m.dataLength = .ok (epath, request))
    (hclass : epath.classId.toUInt32 = connectionManagerClassCode ∧ epath.instanceNumber = 1)
    (hservice : request.service = 0x4E) {response : MessageRouterResponse}
    (hcall : m.state.forwardClose cfg request m.originatorAddress = .ok (response, st')) :
    st'.Sound cfg ∧ Course cfg label st m.state st' := by
  have htarget : closeTarget cfg m =
      (m.state.firstWithTriad cfg request.closingTriad).filter fun r =>
        m.originatorAddress.sinAddr = (m.state.conn r).originatorAddress.sinAddr := by
    simp only [closeTarget, hparse]
    exact if_pos ⟨hclass, hservice⟩
  have hcleared : Touched m.state m.state.clearAddressInfoItems := touched_cpf _ _
  have hbefore := (hcleared.sound hsound).1
  simp only [forwardClose] at hcall
  generalize hfind : findConnection cfg _ _ = found at hcall
  have hfirst : m.state.firstWithTriad cfg request.closingTriad = found :=
    (forwardClose_search hsound.regular request.closingTriad).symm.trans hfind
  rw [hfirst] at htarget
  cases found with
  | none =>
      rw [Except.ok.injEq] at hcall
      have hafter := hcleared.trans (assembleForwardCloseResponse_touched hcall)
      exact ⟨(hafter.sound hsound).1, .silent (hafter.sound hsound).1 (.of_touched hafter)⟩
  | some r =>
      have hr : r ∈ m.state.clearAddressInfoItems.connectionList cfg :=
        List.mem_of_find?_eq_some hfirst
      simp only at hcall
      split at hcall
      · rename_i haddress
        split at hcall
        · cases hcall
        · rename_i st₁ hclose
          rw [Except.ok.injEq] at hcall
          rw [Option.filter_some] at htarget
          have hcloses := htarget.trans (if_pos (decide_eq_true haddress))
          obtain ⟨hsound₁, hcourse⟩ := Course.closes hbefore hr
            (mem_departures_of_target hrouted hcloses) hclose
          have hafter := assembleForwardCloseResponse_touched hcall
          have hsound' := (hafter.sound hsound₁).1
          refine ⟨hsound', ?_⟩
          exact ((Course.silent hbefore (.of_touched hcleared)).trans hcourse).tail
            (.silent hsound' (.of_touched hafter))
      · rw [Except.ok.injEq] at hcall
        have hafter := hcleared.trans (assembleForwardCloseResponse_touched hcall)
        exact ⟨(hafter.sound hsound).1, .silent (hafter.sound hsound).1 (.of_touched hafter)⟩

/-- Choosing a slot closes at most the connection that has it. -/
theorem resolveIoConnection_course (hentry : openEntry cfg label st = some st₁)
    (hsound : st₁.Sound cfg)
    (hassembly : st₁.dummy.configurationPath.classId = assemblyClassCode)
    {outcome : Except UInt16 ConnRef}
    (hcall : st₁.resolveIoConnection cfg = .ok (outcome, st')) :
    st'.Sound cfg ∧ Course cfg label st st₁ st' := by
  obtain ⟨ns, hlisted⟩ := hsound.wellFormed
  obtain ⟨hframe, hcases⟩ := resolveIoConnection_spec hlisted hsound.regular hcall
  have hsound' : st'.Sound cfg := by
    have hclose : st'.dummy.connectionCloseFunction = none := by
      rw [hframe.dummy]
      exact hsound.close
    have hinstances : st'.dummy.instances = (none, none) := by
      rw [hframe.dummy]
      exact hsound.instances
    obtain ⟨extended, -, -, rfl⟩ | ⟨r, ns', -, -, -, hlisted', -, hvacated⟩ := hcases
    · exact ⟨hsound.wellFormed, hsound.regular, hclose, hinstances⟩
    · exact ⟨⟨ns', hlisted'⟩, hvacated.regular hsound.regular, hclose, hinstances⟩
  refine ⟨hsound', ?_⟩
  rw [resolveIoConnection] at hcall
  generalize hlookup : st₁.ioConnectionLookup cfg = result at hcall
  obtain ⟨lookup, instanceType⟩ := result
  simp only at hcall
  cases lookup with
  | notFound extended =>
      cases hcall
      exact .silent hsound' (.of_store rfl rfl)
  | free r =>
      cases hcall
      exact .silent hsound' (.of_store rfl rfl)
  | replace r =>
      cases hclose : st₁.connectionCloseFunction cfg r with
      | error fault => simp [hclose] at hcall
      | ok st₂ =>
          simp only [hclose] at hcall
          cases hcall
          have hsound₂ : st₂.Sound cfg :=
            ⟨hsound'.wellFormed, hsound'.regular, hsound'.close, hsound'.instances⟩
          have hreplaced : st₁.replaced cfg = some r := by
            rw [replaced, if_pos hassembly, hlookup]
          obtain ⟨r', hchosen, -, hfinds⟩ := ioConnectionLookup_found (by simp) hlookup
          have hr : r' = r := by
            cases hfinds with
            | timedOut shared state => rfl
            | abandoned exclusive some state => rfl
          subst hr
          have hepisode : Episode cfg label st st₁ st₂ :=
            .closes hsound₂ (mem_departures_of_replaced hentry hreplaced) hchosen.io hclose
          exact (Relation.ReflTransGen.single hepisode).tail
            (.silent hsound' (.of_store rfl rfl))

theorem deepCopyDummy_reports (cfg : Config) (r : ConnRef) (st : StackState) :
    (st.deepCopyDummy cfg r).reports = st.reports := by
  change (st.events ++ [_]).filterMap Event.report = st.events.filterMap Event.report
  rw [List.filterMap_append]
  exact List.append_nil _

/-- Writing to a slot that is not listed is silent. -/
theorem Silent.of_slot {r : ConnRef} (hr : r ∉ st.connectionList cfg)
    (hlist : st'.store.connectionList = st.store.connectionList)
    (hothers : ∀ s, s ≠ r → st'.conn s = st.conn s)
    (hevents : st'.reports = st.reports) : Silent cfg st st' := by
  refine .of_objects ?_ (fun s hs => ?_) hevents
  · rw [ioConnections, ioConnections, connectionList, connectionList, hlist]
  · exact hothers s fun heq => hr (heq ▸ (mem_ioConnections.mp hs).1)

theorem addNewActiveConnection_reports {r : ConnRef}
    (hadd : st.addNewActiveConnection cfg r = .ok st') : st'.reports = st.reports := by
  simp only [addNewActiveConnection] at hadd
  split at hadd
  · cases hadd
  · cases hadd
    rfl

theorem establishIoConnection_proceeds (hentry : openEntry cfg label st = some st₁)
    (hbefore : Course cfg label st st st₁) (hsound : st₁.Sound cfg)
    (hrequest : Requested st₁.dummy)
    (hassembly : st₁.dummy.configurationPath.classId = assemblyClassCode)
    (hclass : st₁.dummy.transportClass ≠ .class3) {status : OpenStatus}
    (hcall : st₁.establishIoConnection cfg label.1 = .ok (status, st')) (hsound' : st'.Sound cfg) :
    Proceeds cfg label st st' := by
  obtain ⟨ns, hlisted⟩ := hsound.wellFormed
  rw [establishIoConnection] at hcall
  cases hresolve : st₁.resolveIoConnection cfg with
  | error fault => simp [hresolve] at hcall
  | ok result =>
      obtain ⟨outcome, st₂⟩ := result
      obtain ⟨hsound₂, hcourse⟩ := resolveIoConnection_course hentry hsound hassembly hresolve
      obtain ⟨hframe, ⟨extended, rfl, hlookup, hst₂⟩ | ⟨r, ns₂, rfl, hchosen, htype, hlisted₂,
        hfinds, hvacated⟩⟩ := resolveIoConnection_spec hlisted hsound.regular hresolve
      · simp only [hresolve] at hcall
        cases hcall
        exact .departing (hbefore.trans hcourse)
      · simp only [hresolve] at hcall
        have hr : r ∉ st₂.connectionList cfg := hvacated.not_mem
        have hdummy : st₂.dummy = { st₁.dummy with instanceType := r.instanceType } :=
          htype ▸ hframe.dummy
        have hview := @view_deepCopyDummy cfg st₂ r hr
        rw [hdummy] at hview
        have hcopied : (st₂.deepCopyDummy cfg r).reports = st₂.reports :=
          deepCopyDummy_reports cfg r st₂
        have hlist : (st₂.deepCopyDummy cfg r).store.connectionList =
            st₂.store.connectionList := rfl
        have hothers : ∀ s, s ≠ r → (st₂.deepCopyDummy cfg r).conn s = st₂.conn s :=
          fun s hs => conn_deepCopyDummy_of_ne hs st₂
        have hconn : (st₂.deepCopyDummy cfg r).conn r =
            { st₁.dummy with instanceType := r.instanceType } := by
          rw [← view_object cfg, hview]
          exact Function.update_self r _ _
        have hr₃ : r ∉ (st₂.deepCopyDummy cfg r).connectionList cfg := hr
        have hlisted₃ : (st₂.deepCopyDummy cfg r).Listed cfg ns₂ := hlisted₂
        generalize st₂.deepCopyDummy cfg r = st₃
          at hcall hview hcopied hlist hothers hconn hr₃ hlisted₃
        cases hprepare : st₃.prepareIoConnection cfg label.1 r with
        | error fault => simp [hprepare] at hcall
        | ok result =>
            obtain ⟨status₁, st₄⟩ := result
            simp only [hprepare] at hcall
            rcases prepareIoConnection_spec hr₃ (by rw [hconn]; exact hrequest.state)
              (by rw [hconn]; exact hrequest.close) hprepare with
              ⟨hfailed, hwrites, -⟩ | ⟨hsuccess, st₅, hready, hkeeps, hchannel⟩
            · rw [if_pos hfailed] at hcall
              cases hcall
              refine .departing ((hbefore.trans hcourse).tail (.silent hsound' ?_))
              refine .of_slot hr (hwrites.list.trans hlist) (fun s hs => ?_) ?_
              · rw [hwrites.others s hs, hothers s hs]
              · rw [reports, hwrites.events, ← hcopied, reports]
            · rw [if_neg (not_not.mpr hsuccess)] at hcall
              have hlist₄ : st₄.store.connectionList = st₃.store.connectionList :=
                hkeeps.list.trans hready.writes.list
              have hlisted₄ : st₄.Listed cfg ns₂ := by
                rw [Listed, hlist₄]
                exact hlisted₃
              have hr₄ : r ∉ st₄.connectionList cfg := by
                rw [connectionList, hlist₄]
                exact hr₃
              obtain ⟨-, -, -, hview'⟩ := activateIoConnection_spec hlisted₄ hr₄ hcall
              have hprepared : Prepared cfg label.1 (st₂.view cfg) r st₁.dummy st₃ st₅ st₄ :=
                ⟨hr, hview, hchosen, hclass, hready, hkeeps⟩
              have hopens := hprepared.opens hchannel hview'
              have hreports : st'.reports =
                  st₄.reports ++ [((st'.conn r).assemblies, .opened)] := by
                rw [activateIoConnection] at hcall
                split at hcall
                · cases hcall
                · rename_i st₆ hadd
                  cases hcall
                  rw [← addNewActiveConnection_reports hadd]
                  exact List.filterMap_append
              refine .opening (hbefore.trans hcourse) hsound₂
                ⟨hentry, hassembly, hchosen, htype, hvacated, hopens, ?_⟩ (.refl st')
              rw [hreports, StackState.reports, hkeeps.events, hready.writes.events,
                ← StackState.reports, hcopied]

theorem events_modifyConn (st : StackState) (r : ConnRef)
    (f : CipConnectionObject → CipConnectionObject) : (st.modifyConn r f).events = st.events :=
  rfl

theorem prepareClass3Connection_events (cfg : Config) (r : ConnRef) (st : StackState) :
    (st.prepareClass3Connection cfg r).events = st.events := by
  rw [prepareClass3Connection, events_modifyConn]
  exact (generalConfiguration_spec cfg r st).1.events

/-- An explicit connection is opened. -/
theorem establishClass3Connection_silent (env : Environment) (hsound : st.Sound cfg)
    (hrequest : Requested st.dummy) {status : OpenStatus}
    (hcall : st.establishClass3Connection cfg = .ok (status, st')) : Silent cfg st st' := by
  obtain ⟨ns, hlisted⟩ := hsound.wellFormed
  obtain ⟨-, -, ⟨-, rfl⟩ | ⟨-, r, c, hr, hio, -, -, -, -, hview⟩⟩ :=
    establishClass3Connection_spec env hlisted hsound.regular hrequest hcall
  · exact .refl st'
  · refine .of_objects ?_ (fun s hs => ?_) ?_
    · have hmembers : st'.connectionList cfg = r :: st.connectionList cfg :=
        congrArg View.members hview
      rw [ioConnections, hmembers, List.filter_cons_of_neg (by simp [hio]), ioConnections]
    · have hne : s ≠ r := fun heq => hr (heq ▸ (mem_ioConnections.mp hs).1)
      have hobject : st'.conn s = Function.update st.conn r c s :=
        congrArg (fun V => V.object s) hview
      rw [hobject, Function.update_of_ne hne]
    · rw [establishClass3Connection] at hcall
      split at hcall
      · cases hcall
        rfl
      · rename_i r _
        split at hcall
        · cases hcall
        · rename_i st₁ hadd
          cases hcall
          rw [addNewActiveConnection_reports hadd, reports,
            prepareClass3Connection_events, ← reports]
          exact deepCopyDummy_reports cfg r st

theorem openConnection_proceeds (hentry : openEntry cfg label st = some st₁)
    (hbefore : Course cfg label st st st₁) (hsound : st₁.Sound cfg)
    (hrequest : Requested st₁.dummy)
    (hclass : st₁.dummy.configurationPath.classId = assemblyClassCode →
      st₁.dummy.transportClass ≠ .class3) {status : OpenStatus}
    (hcall : st₁.openConnection cfg label.1 = .ok (status, st')) :
    st'.Sound cfg ∧ Proceeds cfg label st st' := by
  obtain ⟨ns, hlisted⟩ := hsound.wellFormed
  obtain ⟨hwell, hafter, hanswered⟩ :=
    openConnection_spec hlisted hsound.regular hrequest hclass hcall
  have hsound' : st'.Sound cfg := ⟨hwell, hanswered.regular hsound.regular,
    hafter.1.trans hsound.close, hafter.2.1.trans hsound.instances⟩
  refine ⟨hsound', ?_⟩
  rw [openConnection] at hcall
  split at hcall
  · cases hcall
    exact .departing hbefore
  · cases hcall
    exact .departing hbefore
  · exact .departing (hbefore.tail (.silent hsound'
      (establishClass3Connection_silent label.1 hsound hrequest hcall)))
  · rename_i classId hfind
    have hassembly := connectionManagementList_io (List.mem_of_find?_eq_some hfind)
    have hclassId := List.find?_some hfind
    rw [decide_eq_true_eq, hassembly] at hclassId
    exact establishIoConnection_proceeds hentry hbefore hsound hrequest hclassId.symm
      (hclass hclassId.symm) hcall hsound'

theorem Answers.silent (h : Answers st st') : Silent cfg st st' :=
  .of_store h.store (by rw [reports, reports, h.events])

theorem Receives.silent (h : Receives st st') : Silent cfg st st' := by
  rw [h.eq]
  exact .of_store rfl rfl

theorem Answers.sound (h : Answers st st') (hsound : st.Sound cfg) : st'.Sound cfg := by
  refine ⟨h.wellFormed hsound.wellFormed, ?_, h.after.1.trans hsound.close,
    h.after.2.1.trans hsound.instances⟩
  rw [h.view_eq]
  exact hsound.regular

theorem forwardOpenRoutine_proceeds (hbefore : Course cfg label st st st₁)
    (hsound : st₁.Sound cfg) {isLarge : Bool} {request : MessageRouterRequest}
    {originatorAddress : SockaddrIn} {encapsulationSession : UInt32}
    (hentry : ∀ s, st₁.forwardOpenRequest cfg label.1 isLarge request originatorAddress
      encapsulationSession = .ok (none, s) → openEntry cfg label st = some s)
    {response : MessageRouterResponse}
    (hcall : st₁.forwardOpenRoutine cfg label.1 isLarge request originatorAddress
      encapsulationSession = .ok (response, st')) :
    st'.Sound cfg ∧ Proceeds cfg label st st' := by
  rw [forwardOpenRoutine_eq] at hcall
  split at hcall
  · cases hcall
  · rename_i status st₂ hrequest
    obtain ⟨hreceives, -⟩ := forwardOpenRequest_receives hrequest
    obtain ⟨hsound₂, -⟩ := hreceives.requested hsound
    have hanswers := assembleForwardOpenResponse_answers st₂ st₂.dummy status
    rw [Except.ok.injEq, refuse] at hcall
    rw [hcall] at hanswers
    have hsound' := hanswers.sound hsound₂
    exact ⟨hsound', .departing (hbefore.tail
      (.silent hsound' (hreceives.silent.trans hanswers.silent)))⟩
  · rename_i st₂ hrequest
    obtain ⟨hreceives, hclass⟩ := forwardOpenRequest_receives hrequest
    obtain ⟨hsound₂, hrequested⟩ := hreceives.requested hsound
    split at hcall
    · cases hcall
    · rename_i status st₃ hopen
      obtain ⟨hsound₃, hproceeds⟩ := openConnection_proceeds (hentry st₂ hrequest)
        (hbefore.tail (.silent hsound₂ hreceives.silent)) hsound₂ hrequested (hclass rfl) hopen
      have hanswers := answerOpenConnection_answers hcall
      have hsound' := hanswers.sound hsound₃
      exact ⟨hsound', hproceeds.after hsound' hanswers.silent⟩

theorem notifyMessageRouter_proceeds {m : RoutedMessage}
    (hrouted : routedMessage cfg label st = some m)
    (hbefore : Course cfg label st st m.state) (hsound : m.state.Sound cfg)
    {response : Option MessageRouterResponse}
    (hcall : m.state.notifyMessageRouter cfg label.1 m.data m.dataLength m.originatorAddress
      m.encapsulationSession = .ok (response, st')) :
    st'.Sound cfg ∧ Proceeds cfg label st st' := by
  have hentry : openEntry cfg label st = messageEntry cfg label.1 m.data m.dataLength
      m.originatorAddress m.encapsulationSession m.state := by
    rw [openEntry_eq, hrouted]
    rfl
  simp only [notifyMessageRouter] at hcall
  cases hparse : createMessageRouterRequestStructure m.data m.dataLength with
  | error generalStatus =>
      simp only [hparse] at hcall
      cases hcall
      exact ⟨hsound, .departing hbefore⟩
  | ok parsed =>
      obtain ⟨epath, request⟩ := parsed
      simp only [hparse] at hcall
      simp only [messageEntry, hparse] at hentry
      have hopen : ∀ isLarge, isLarge = decide (request.service = 0x5B) →
          (request.service = 0x54 ∨ request.service = 0x5B) →
          (epath.classId.toUInt32 = connectionManagerClassCode ∧ epath.instanceNumber = 1) →
          ∀ {answer}, m.state.forwardOpenRoutine cfg label.1 isLarge request
            m.originatorAddress m.encapsulationSession = .ok (answer, st') →
          st'.Sound cfg ∧ Proceeds cfg label st st' := by
        intro isLarge hlarge hservice hclass answer hroutine
        refine forwardOpenRoutine_proceeds hbefore hsound (fun s hrequest => ?_) hroutine
        rw [hentry, if_pos ⟨hclass, hservice⟩, ← hlarge, hrequest]
      split at hcall
      · rename_i hclass
        split at hcall
        · rename_i hservice
          split at hcall
          · cases hcall
          · rename_i hroutine
            cases hcall
            exact hopen false (by rw [hservice]; rfl) (.inl hservice) hclass hroutine
        · split at hcall
          · rename_i hservice
            split at hcall
            · cases hcall
            · rename_i hroutine
              cases hcall
              exact hopen true (by rw [hservice]; rfl) (.inr hservice) hclass hroutine
          · split at hcall
            · rename_i hservice
              split at hcall
              · cases hcall
              · rename_i hroutine
                cases hcall
                obtain ⟨hsound', hcourse⟩ :=
                  forwardClose_course hrouted hsound hparse hclass hservice hroutine
                exact ⟨hsound', .departing (hbefore.trans hcourse)⟩
            · cases hcall
              exact ⟨hsound, .departing hbefore⟩
      · cases hcall
        exact ⟨hsound, .departing hbefore⟩

theorem Routes.proceeds (hsound : st.Sound cfg) (h : Routes cfg label st st') :
    st'.Sound cfg ∧ Proceeds cfg label st st' := by
  obtain ⟨-, htouched⟩ | ⟨m, response, st₁, hrouted, hbefore, hnotify, hafter⟩ := h
  · have hsound' := (htouched.sound hsound).1
    exact ⟨hsound', .departing (.silent hsound' (.of_touched htouched))⟩
  · have hsound₁ := (hbefore.sound hsound).1
    obtain ⟨hsound₂, hproceeds⟩ := notifyMessageRouter_proceeds hrouted
      (.silent hsound₁ (.of_touched hbefore)) hsound₁ hnotify
    have hsound' := (hafter.sound hsound₂).1
    exact ⟨hsound', hproceeds.after hsound' (.of_touched hafter)⟩

theorem sendConnectedData_silent {r : ConnRef}
    (hcall : st.sendConnectedData cfg env r = .ok st') : Silent cfg st st' := by
  obtain ⟨packet, changed, hlist, hothers, hself, hevents, -⟩ := sendConnectedData_ok hcall
  refine ⟨?_, fun s _ => ?_, fun s _ => ?_, ?_⟩
  · rw [ioConnections, ioConnections, connectionList, connectionList, hlist]
  · by_cases hs : s = r
    · subst hs
      rw [hself]
      cases changed <;> rfl
    · rw [hothers s hs]
  · by_cases hs : s = r
    · subst hs
      rw [hself]
      cases changed <;> rfl
    · rw [hothers s hs]
  · rw [reports, hevents, List.filterMap_append]
    exact List.append_nil _

theorem produceConnection_silent {r : ConnRef} {elapsedTime : UInt64}
    (hcall : st.produceConnection cfg env elapsedTime r = .ok st') : Silent cfg st st' := by
  rw [produceConnection] at hcall
  split at hcall
  · have hinhibit := touched_modifyConn st r (core_inhibitAfter elapsedTime (st.conn r))
    simp only at hcall
    generalize st.modifyConn r (inhibitAfter elapsedTime) = st₁ at hinhibit hcall
    split at hcall
    · split at hcall
      · cases hcall
      · split at hcall
        · cases hcall
        · rename_i st₂ hsend
          cases hcall
          have hrearm := touched_modifyConn st₂ r (@core_rearmAfter cfg elapsedTime (st₂.conn r))
          exact ((Silent.of_touched hinhibit).trans (sendConnectedData_silent hsend)).trans
            (.of_touched hrearm)
    · cases hcall
      have htimer := touched_modifyConn st₁ r (f := fun c =>
        { c with transmissionTriggerTimer := c.transmissionTriggerTimer - elapsedTime }) rfl
      exact .of_touched (hinhibit.trans htimer)
  · cases hcall
    exact .refl st

/-- The watchdog of a connection in a round. -/
theorem superviseConnection_course {elapsedTime : UInt64} (hsound : st₁.Sound cfg)
    {r : ConnRef} (hr : r ∈ st₁.connectionList cfg)
    (hestablished : (st₁.conn r).state = .established)
    (hturn : (r, st₁) ∈ st.manageTurns cfg env elapsedTime)
    (hcall : st₁.superviseConnection cfg env elapsedTime r = .ok st') :
    st'.Sound cfg ∧ Course cfg (env, .manageConnections elapsedTime) st st₁ st' := by
  obtain ⟨ns, hlisted⟩ := hsound.wellFormed
  obtain ⟨ns', hcalm⟩ := superviseConnection_calm hlisted hsound.regular hr hestablished hcall
  have hsound' := hcalm.sound hsound
  refine ⟨hsound', ?_⟩
  rw [superviseConnection] at hcall
  split at hcall
  · rename_i hwatched
    split at hcall
    · rename_i helapsed
      rw [connectionTimeoutFunction_eq hsound.regular hr] at hcall
      cases hio : r.isIo with
      | false =>
          rw [hio, if_neg Bool.false_ne_true] at hcall
          have hsilent := (endures_silent cfg st₁).class3ConnectionTimeoutHandler
            ⟨hsound, .refl st₁⟩ hr hio hcall
          exact .silent hsound' hsilent.2
      | true =>
          rw [hio, if_pos rfl] at hcall
          refine .single (.expires hsound' ?_ hio hr hestablished hcall)
          refine List.mem_map.mpr ⟨(r, st₁), List.mem_filter.mpr ⟨hturn, ?_⟩, rfl⟩
          simpa [CipConnectionObject.expires, hestablished] using ⟨hwatched, helapsed⟩
    · cases hcall
      refine .silent hsound' (.of_touched (touched_modifyConn st₁ r ?_))
      rfl
  · cases hcall
    exact .refl

theorem manageConnection_course {elapsedTime : UInt64} (hsound : st₁.Sound cfg) {r : ConnRef}
    (hturn : (r, st₁) ∈ st.manageTurns cfg env elapsedTime)
    (hcall : st₁.manageConnection cfg env elapsedTime r = .ok st') :
    st'.Sound cfg ∧ Course cfg (env, .manageConnections elapsedTime) st st₁ st' := by
  rw [manageConnection] at hcall
  split at hcall
  · rename_i hestablished
    have hr := mem_of_established hsound.regular hestablished
    split at hcall
    · cases hcall
    · rename_i st₂ hsupervise
      obtain ⟨hsound₂, hcourse⟩ :=
        superviseConnection_course hsound hr hestablished hturn hsupervise
      split at hcall
      · rename_i hestablished₂
        obtain ⟨ns, hlisted⟩ := hsound₂.wellFormed
        have hr₂ := mem_of_established hsound₂.regular hestablished₂
        have hsound' := (produceConnection_calm hlisted hr₂ hestablished₂ hcall).sound hsound₂
        exact ⟨hsound', hcourse.tail (.silent hsound' (produceConnection_silent hcall))⟩
      · cases hcall
        exact ⟨hsound₂, hcourse⟩
  · cases hcall
    exact ⟨hsound, .refl⟩

theorem manageConnections_course {elapsedTime : UInt64} (hsound : st.Sound cfg)
    (hcall : st.manageConnections cfg env elapsedTime = .ok st') :
    st'.Sound cfg ∧ Course cfg (env, .manageConnections elapsedTime) st st st' := by
  have htouched : Touched st
      { st with assemblyData := env.handleApplication st.assemblyData } :=
    ⟨rfl, fun _ => rfl, rfl, rfl, rfl, rfl⟩
  have hstart := (htouched.sound hsound).1
  refine liveWalk_turns (fun s => s.Sound cfg ∧
    Course cfg (env, .manageConnections elapsedTime) st st s) ?_
    ⟨hstart, .silent hstart (.of_touched htouched)⟩ hcall
  rintro s n r s' ⟨hs, hbefore⟩ - hmem hbody
  have hturn : (r, s) ∈ st.manageTurns cfg env elapsedTime := hmem
  obtain ⟨hs', hcourse⟩ := manageConnection_course hs hturn hbody
  exact ⟨hs', hbefore.trans hcourse⟩

theorem checkAndHandleConsumingUdpSocket_course (hsound : st.Sound cfg)
    (hcall : st.checkAndHandleConsumingUdpSocket cfg env = .ok st') :
    st'.Sound cfg ∧ Course cfg (env, .checkAndHandleConsumingUdpSocket) st st st' := by
  rw [checkAndHandleConsumingUdpSocket] at hcall
  split at hcall
  · cases hcall
  · rename_i s received hwalk
    cases hcall
    refine savedWalk_turns (fun s => s.1.Sound cfg ∧
      Course cfg (env, .checkAndHandleConsumingUdpSocket) st st s.1) ?_ ⟨hsound, .refl⟩ hwalk
    rintro ⟨s, received⟩ n r turn ⟨hs, hbefore⟩ hdata hturn hbody
    obtain ⟨ns, hlisted⟩ := hs.wellFormed
    have hr := hlisted.mem.mpr ⟨n, hlisted.mem_of_data hdata, hdata⟩
    have hclosing : ∀ {s'}, closesOnReceive env r (s, received) = true →
        s.connectionCloseFunction cfg r = .ok s' → s'.Sound cfg ∧
          Course cfg (env, .checkAndHandleConsumingUdpSocket) st st s' := by
      intro s' hcloses hclose
      have hdeparts : .closed r s ∈
          departures cfg (env, .checkAndHandleConsumingUdpSocket) st :=
        List.mem_map.mpr ⟨(r, s, received), List.mem_filter.mpr ⟨hturn, hcloses⟩, rfl⟩
      obtain ⟨hs', hcourse⟩ := Course.closes hs hr hdeparts hclose
      exact ⟨hs', hbefore.trans hcourse⟩
    simp only [handleConsumingUdpSocket] at hbody
    split at hbody
    · rename_i hreadable
      split at hbody
      · cases hbody
        exact ⟨hs, hbefore⟩
      · cases hbody
        exact ⟨hs, hbefore⟩
      · split at hbody
        · cases hbody
        · rename_i hclose
          cases hbody
          exact hclosing (by simp [closesOnReceive, hreadable]) hclose
      · split at hbody
        · cases hbody
        · rename_i hclose
          cases hbody
          exact hclosing (by simp [closesOnReceive, hreadable]) hclose
      · split at hbody
        · cases hbody
        · rename_i hreceive
          cases hbody
          have htouched := handleReceivedConnectedData_touched hreceive
          have hs' := (htouched.sound hs).1
          exact ⟨hs', hbefore.tail (.silent hs' (.of_touched htouched))⟩
    · cases hbody
      exact ⟨hs, hbefore⟩

/-- The turns of a loop that closes the first connection are departures of the
whole loop. -/
theorem closeFirstConnections_course {fuel : Nat} (hsound : st₁.Sound cfg)
    (hturns : ∀ turn ∈ st₁.firstTurns cfg fuel,
      .closed turn.1 turn.2 ∈ departures cfg label st)
    (hcall : st₁.closeFirstConnections cfg fuel = .ok st') :
    st'.Sound cfg ∧ Course cfg label st st₁ st' := by
  induction fuel generalizing st₁ with
  | zero =>
      rw [closeFirstConnections] at hcall
      split at hcall
      · cases hcall
        exact ⟨hsound, .refl⟩
      · cases hcall
  | succ fuel ih =>
      rw [closeFirstConnections] at hcall
      rw [firstTurns] at hturns
      split at hcall
      · cases hcall
        exact ⟨hsound, .refl⟩
      · rename_i n hfirst
        simp only [hfirst] at hcall hturns
        cases hdata : (st₁.nodes n).data with
        | none => simp [hdata] at hcall
        | some r =>
            simp only [hdata] at hcall hturns
            obtain ⟨ns, hlisted⟩ := hsound.wellFormed
            have hr := hlisted.mem.mpr ⟨n, hlisted.mem_of_data hdata, hdata⟩
            cases hclose : st₁.connectionCloseFunction cfg r with
            | error fault => simp [hclose] at hcall
            | ok st₂ =>
                simp only [hclose] at hcall hturns
                obtain ⟨hsound₂, hcourse⟩ := Course.closes hsound hr
                  (hturns (r, st₁) List.mem_cons_self) hclose
                obtain ⟨hsound', hrest⟩ := ih hsound₂
                  (fun turn hmem => hturns turn (List.mem_cons_of_mem _ hmem)) hcall
                exact ⟨hsound', hcourse.trans hrest⟩

/-- What one step does to the I/O connections, call by call. -/
theorem step_proceeds (hsound : st.Sound cfg) (hstep : st.step cfg label = .ok st') :
    st'.Sound cfg ∧ Proceeds cfg label st st' := by
  obtain ⟨env, action⟩ := label
  have hendures := endures_silent cfg st
  have hstart : st.Sound cfg ∧ Silent cfg st st := ⟨hsound, .refl st⟩
  have hsilent : st'.Sound cfg ∧ Silent cfg st st' →
      st'.Sound cfg ∧ Proceeds cfg (env, action) st st' :=
    fun h => ⟨h.1, .departing (.silent h.1 h.2)⟩
  have htouching : Touched st st' → st'.Sound cfg ∧ Proceeds cfg (env, action) st st' :=
    fun h => hsilent ⟨(h.sound hsound).1, .of_touched h⟩
  have hdeparting : st'.Sound cfg ∧ Course cfg (env, action) st st st' →
      st'.Sound cfg ∧ Proceeds cfg (env, action) st st' :=
    fun h => ⟨h.1, .departing h.2⟩
  cases action with
  | sendRRData session originatorAddress data => exact (sendRRData_routes hstep).proceeds hsound
  | sendUnitData session originatorAddress data =>
      exact (sendUnitData_routes hstep).proceeds hsound
  | manageConnections elapsedTime => exact hdeparting (manageConnections_course hsound hstep)
  | checkAndHandleConsumingUdpSocket =>
      exact hdeparting (checkAndHandleConsumingUdpSocket_course hsound hstep)
  | registerSession socket => exact htouching (registerSession_touched hstep)
  | unregisterSession sessionHandle => exact hsilent (hendures.unregisterSession hstart hstep)
  | closeSession socket => exact hsilent (hendures.closeSession hstart hstep)
  | removeSession socket => exact hsilent (hendures.removeSession hstart hstep)
  | disconnect socket =>
      simp only [step] at hstep
      split at hstep
      · cases hstep
      · rename_i hclose
        exact hsilent (hendures.removeSession (hendures.closeTcpSocket hstart hclose) hstep)
  | checkEncapsulationInactivity socket =>
      exact hsilent (hendures.checkEncapsulationInactivity hstart hstep)
  | handleClosedTcpSocket socket => exact hsilent (hendures.handleClosedTcpSocket hstart hstep)
  | setLastUpdate timer =>
      cases hstep
      exact htouching ⟨rfl, fun _ => rfl, rfl, rfl, rfl, rfl⟩
  | triggerConnections outputAssembly inputAssembly =>
      cases hstep
      exact htouching (triggerConnections_touched cfg outputAssembly inputAssembly st)
  | closeAllConnections =>
      refine hdeparting (closeFirstConnections_course hsound (fun turn hmem => ?_) hstep)
      exact List.mem_map.mpr ⟨turn, hmem, rfl⟩
  | encapsulationShutDown => exact hsilent (hendures.shutDownSessions hstart hstep)
  | writeAssemblies data =>
      cases hstep
      exact htouching ⟨rfl, fun _ => rfl, rfl, rfl, rfl, rfl⟩

end StackState

end Opener

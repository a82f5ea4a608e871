import Opener.Metatheory.Courses
import Opener.Metatheory.RequestTimers
import Opener.Metatheory.Turns

/-!
Properties that every listed connection has. Closing, timing out, handing over, requests,
packets and triggers only write to connection objects in a few ways; a property that these
keep holds of all connections if the opened ones have it and the turns of
`ManageConnections` keep it.
-/

namespace Opener

open CipConnectionObject (Services Timed Unproduced)
open LinkedCells

/-- A property of connection objects that only opening and managing can break. -/
structure Persistent (P : CipConnectionObject → Prop) : Prop where
  inherits : ∀ old c, P old → P c → P (View.inherit old c)
  retires : ∀ c, P c → P (View.retire c)
  expires : ∀ c, P c → P (c.setState .timedOut)
  serves : ∀ c d, P c → CipConnectionObject.Service c d → P d

variable {P : CipConnectionObject → Prop}

theorem Persistent.services (hP : Persistent P) {c d : CipConnectionObject} (hc : P c)
    (h : Services c d) : P d := by
  induction h with
  | refl => exact hc
  | tail _ hlast ih => exact hP.serves _ _ ih hlast

/-- Every listed connection has the property. -/
def View.Each (P : CipConnectionObject → Prop) (V : View) : Prop :=
  ∀ r ∈ V.members, P (V.object r)

namespace View.Each

variable {V V' : View}

theorem modify (h : V.Each P) {r : ConnRef} {f : CipConnectionObject → CipConnectionObject}
    (hf : r ∈ V.members → P (f (V.object r))) : (V.modify r f).Each P := by
  intro s hs
  by_cases hsr : s = r
  · subst hsr
    rw [modify_object_self]
    exact hf hs
  · rw [modify_object_of_ne _ hsr]
    exact h s hs

theorem without (h : V.Each P) (dropped : ConnRef → Bool) : (V.without dropped).Each P := by
  intro s hs
  obtain ⟨hmem, hkept⟩ := V.mem_without.mp hs
  rw [without_object, hkept]
  exact h s hmem

theorem insert (h : V.Each P) {r : ConnRef} {c : CipConnectionObject} (hr : r ∉ V.members)
    (hc : P c) (connectionId : UInt16) : (V.insert r c connectionId).Each P := by
  intro s hs
  obtain rfl | hs := List.mem_cons.mp hs
  · rw [V.insert_object_self]
    exact hc
  · rw [V.insert_object_of_ne (ne_of_mem_of_not_mem hs hr)]
    exact h s hs

theorem scratch (h : V.Each P) {r : ConnRef} {c : CipConnectionObject} (hr : r ∉ V.members)
    (connectionId : UInt16) : (V.scratch r c connectionId).Each P := by
  intro s hs
  have hobject : (V.scratch r c connectionId).object s = V.object s :=
    Function.update_of_ne (ne_of_mem_of_not_mem hs hr) _ _
  rw [hobject]
  exact h s hs

theorem vacate (hP : Persistent P) (h : V.Each P) {r : ConnRef} (hr : r ∈ V.members) :
    (V.vacate r).Each P := by
  have hvacates := vacates_vacate V r
  generalize V.vacate r = V₁ at hvacates
  cases hvacates with
  | quiet silent => exact h
  | passed master member differs takes =>
      refine modify (h.modify fun hheir => hP.inherits _ _ (h r hr) (h _ hheir)) fun _ => ?_
      rw [modify_object_of_ne _ differs.symm]
      exact hP.retires _ (h r hr)
  | silenced master nobody => exact h.without _

theorem depart (hP : Persistent P) (h : V.Each P) (hdepart : Depart V V') : V'.Each P := by
  cases hdepart with
  | discard dropped class3 => exact h.without _
  | close member io => exact (h.vacate hP member).without _
  | @expire r member io established =>
      exact (h.vacate hP member).modify fun hr => hP.expires _ ((h.vacate hP member) r hr)

theorem departs (hP : Persistent P) (h : V.Each P) (hdeparts : Departs V V') : V'.Each P := by
  induction hdeparts with
  | refl => exact h
  | tail _ hlast ih => exact ih.depart hP hlast

theorem vacated (hP : Persistent P) (h : V.Each P) {r : ConnRef} {lookup : Lookup}
    (hvacated : Vacated V r lookup V') : V'.Each P := by
  cases hvacated with
  | free unlisted => exact h
  | closed member => exact (h.vacate hP member).without _
  | cleared unlisted => exact h.without _

theorem opens (hP : Persistent P) (h : V.Each P) {cfg : Config} {d : CipConnectionObject}
    {udpSocket : Int} {r : ConnRef} (hr : r ∉ V.members) (hopens : Opens cfg d udpSocket V r V')
    (hnew : P (V'.object r)) : V'.Each P := by
  cases hopens with
  | plain admitted single identifier socket =>
      rw [insert_object_self] at hnew
      exact h.insert hr hnew _
  | first admitted multicast agrees lonely identifier socket =>
      rw [insert_object_self] at hnew
      exact h.insert hr hnew _
  | @join c producer admitted multicast agrees existing identifier socket =>
      rw [insert_object_self] at hnew
      refine View.Each.insert (h.modify fun hproducer => ?_) hr hnew _
      rw [StackState.leftBehind]
      split
      · exact hP.retires _ (h producer hproducer)
      · exact h producer hproducer

end View.Each

namespace StackState

variable {cfg : Config} {env : Environment} {label : Environment × Action}
variable {st st₁ st' : StackState}

/-- A sound state all of whose listed connections have the property. The object of the
requests has heard of nobody. -/
structure Holds (cfg : Config) (P : CipConnectionObject → Prop) (st : StackState) : Prop where
  sound : st.Sound cfg
  each : (st.view cfg).Each P
  unheard : st.dummy.lastPackageWatchdogTimer = 0

theorem Holds.conn (h : Holds cfg P st) {r : ConnRef}
    (hstate : (st.conn r).state = .established) : P (st.conn r) :=
  h.each r (mem_of_established h.sound.regular hstate)

theorem Holds.serviced (hP : Persistent P) (h : Holds cfg P st) (hserviced : Serviced st st') :
    Holds cfg P st' := by
  refine ⟨(hserviced.touched.sound h.sound).1, fun r hr => ?_, ?_⟩
  · rw [view_members, connectionList, hserviced.list] at hr
    exact hP.services (h.each r hr) (hserviced.object r)
  · rw [hserviced.dummy]
    exact h.unheard

theorem Holds.departed (hP : Persistent P) (h : Holds cfg P st) {ns ns' : List Nat}
    (hdeparted : Departed cfg st ns st' ns') : Holds cfg P st' :=
  ⟨hdeparted.calm.sound h.sound, h.each.departs hP hdeparted.departs,
    hdeparted.frame.dummy ▸ h.unheard⟩

theorem Holds.connectionCloseFunction (hP : Persistent P) (h : Holds cfg P st) {r : ConnRef}
    (hr : r ∈ st.connectionList cfg) (hcall : st.connectionCloseFunction cfg r = .ok st') :
    Holds cfg P st' := by
  obtain ⟨ns, hlisted⟩ := h.sound.wellFormed
  obtain ⟨st₁, ns', hok, -, hdeparted⟩ :=
    connectionCloseFunction_departed hlisted h.sound.regular hr
  rw [hcall, Except.ok.injEq] at hok
  subst hok
  exact h.departed hP hdeparted

/-- Closing sessions keeps it. -/
theorem endures_holds (hP : Persistent P) (cfg : Config) : Endures cfg (Holds cfg P) := by
  refine ⟨fun s hs => hs.sound, fun s sessions timers sockets hs => ?_, fun s r hs hr hio => ?_⟩
  · exact ⟨⟨hs.sound.wellFormed, hs.sound.regular, hs.sound.close, hs.sound.instances⟩,
      hs.each, hs.unheard⟩
  · exact hs.connectionCloseFunction hP hr (connectionCloseFunction_explicit hs.sound hr hio)

theorem Holds.cpf (hP : Persistent P) (h : Holds cfg P st) (cpf : CommonPacketFormatData) :
    Holds cfg P { st with cpf := cpf } :=
  h.serviced hP (serviced_cpf st cpf)

theorem Holds.forwardClose (hP : Persistent P) (h : Holds cfg P st)
    {request : MessageRouterRequest} {originatorAddress : SockaddrIn}
    {response : MessageRouterResponse}
    (hcall : st.forwardClose cfg request originatorAddress = .ok (response, st')) :
    Holds cfg P st' := by
  have hassemble : ∀ {s : StackState} {serialNumber vendorId : UInt16}
      {originatorSerialNumber : UInt32} {service remainingPathSize : UInt8} {extended : UInt16},
      Holds cfg P s → s.assembleForwardCloseResponse serialNumber vendorId
        originatorSerialNumber service remainingPathSize extended = (response, st') →
      Holds cfg P st' := by
    intro s serialNumber vendorId originatorSerialNumber service remainingPathSize extended hs
      hassembled
    rw [assembleForwardCloseResponse, Prod.mk.injEq] at hassembled
    rw [← hassembled.2]
    exact hs.cpf hP _
  have hcleared := h.cpf hP (CommonPacketFormatData.clearAddressInfoItem 1
    (CommonPacketFormatData.clearAddressInfoItem 0 st.cpf))
  simp only [StackState.forwardClose] at hcall
  split at hcall
  · rw [Except.ok.injEq] at hcall
    exact hassemble hcleared hcall
  · rename_i r hfound
    have hr := List.mem_of_find?_eq_some hfound
    split at hcall
    · split at hcall
      · cases hcall
      · rename_i st₁ hclose
        rw [Except.ok.injEq] at hcall
        exact hassemble (hcleared.connectionCloseFunction hP hr hclose) hcall
    · rw [Except.ok.injEq] at hcall
      exact hassemble hcleared hcall

theorem Holds.checkAndHandleConsumingUdpSocket (hP : Persistent P) (h : Holds cfg P st)
    (hcall : st.checkAndHandleConsumingUdpSocket cfg env = .ok st') : Holds cfg P st' := by
  rw [StackState.checkAndHandleConsumingUdpSocket] at hcall
  split at hcall
  · cases hcall
  · rename_i s received hwalk
    cases hcall
    refine savedWalk_turns (fun s => Holds cfg P s.1) ?_ h hwalk
    rintro ⟨s, received⟩ n r turn hs hdata - hbody
    obtain ⟨ns, hlisted⟩ := hs.sound.wellFormed
    have hr := hlisted.mem.mpr ⟨n, hlisted.mem_of_data hdata, hdata⟩
    simp only [handleConsumingUdpSocket] at hbody
    split at hbody
    · split at hbody
      · cases hbody
        exact hs
      · cases hbody
        exact hs
      · split at hbody
        · cases hbody
        · rename_i hclose
          cases hbody
          exact hs.connectionCloseFunction hP hr hclose
      · split at hbody
        · cases hbody
        · rename_i hclose
          cases hbody
          exact hs.connectionCloseFunction hP hr hclose
      · split at hbody
        · cases hbody
        · rename_i hreceive
          cases hbody
          exact hs.serviced hP (handleReceivedConnectedData_serviced hreceive)
    · cases hbody
      exact hs

theorem Holds.closeFirstConnections (hP : Persistent P) {fuel : Nat} (h : Holds cfg P st)
    (hcall : st.closeFirstConnections cfg fuel = .ok st') : Holds cfg P st' := by
  induction fuel generalizing st with
  | zero =>
      rw [StackState.closeFirstConnections] at hcall
      split at hcall
      · cases hcall
        exact h
      · cases hcall
  | succ fuel ih =>
      rw [StackState.closeFirstConnections] at hcall
      split at hcall
      · cases hcall
        exact h
      · rename_i n hfirst
        cases hdata : (st.nodes n).data with
        | none => simp [hdata] at hcall
        | some r =>
            simp only [hdata] at hcall
            obtain ⟨ns, hlisted⟩ := h.sound.wellFormed
            have hr := hlisted.mem.mpr ⟨n, hlisted.mem_of_data hdata, hdata⟩
            cases hclose : st.connectionCloseFunction cfg r with
            | error fault => simp [hclose] at hcall
            | ok st₂ =>
                simp only [hclose] at hcall
                exact ih (h.connectionCloseFunction hP hr hclose) hcall

theorem Holds.answers (h : Holds cfg P st) (hanswers : Answers st st')
    (hdummy : st'.dummy.lastPackageWatchdogTimer = st.dummy.lastPackageWatchdogTimer) :
    Holds cfg P st' := by
  refine ⟨hanswers.sound h.sound, ?_, hdummy.trans h.unheard⟩
  rw [hanswers.view_eq]
  exact h.each

/-- What a Forward Open of the step opens has the property. -/
def OpensWith (P : CipConnectionObject → Prop) (cfg : Config) (label : Environment × Action)
    (st : StackState) : Prop :=
  ∀ st₁ c, openEntry cfg label st = some st₁ → Timed cfg st₁.dummy →
    st₁.dummy.lastPackageWatchdogTimer = 0 → c.state = .established →
    Unproduced st₁.dummy c → P c

theorem Holds.openConnection (hP : Persistent P) (h : Holds cfg P st₁)
    (hrequest : Requested st₁.dummy)
    (hclass : st₁.dummy.configurationPath.classId = assemblyClassCode →
      st₁.dummy.transportClass ≠ .class3)
    (hnew : ∀ c, c.state = .established → Unproduced st₁.dummy c → P c) {status : OpenStatus}
    (hcall : st₁.openConnection cfg env = .ok (status, st')) : Holds cfg P st' := by
  obtain ⟨ns, hlisted⟩ := h.sound.wellFormed
  obtain ⟨hwell, hafter, hanswered⟩ :=
    openConnection_spec hlisted h.sound.regular hrequest hclass hcall
  refine ⟨⟨hwell, hanswered.regular h.sound.regular, hafter.1.trans h.sound.close,
    hafter.2.1.trans h.sound.instances⟩, ?_,
    (CipConnectionObject.asked_field (openConnection_pacing h.sound hrequest hcall).1
      (·.lastPackageWatchdogTimer) fun _ => rfl).trans h.unheard⟩
  have hhead : status = {} → st₁.dummy.configurationPath.classId ≠ 0 → ∀ r,
      (st'.connectionList cfg).head? = some r → P (st'.conn r) := by
    intro hstatus hzero r hr
    obtain ⟨r', hr', hstate, hunproduced⟩ :=
      openConnection_unproduced h.sound hrequest hclass hcall (by rw [hstatus]) hzero
    cases hr.symm.trans hr'
    exact hnew _ hstate hunproduced
  have hmembers : (st'.view cfg).members = st'.connectionList cfg := rfl
  have hobject : (st'.view cfg).object = st'.conn := rfl
  rw [← hmembers, ← hobject] at hhead
  generalize st'.view cfg = V at hanswered hhead ⊢
  cases hanswered with
  | unchanged failed => exact h.each
  | io assembly established =>
      have hzero : st₁.dummy.configurationPath.classId ≠ 0 := by
        rw [assembly]
        decide
      cases established with
      | nothing failed lookup => exact h.each
      | refused failed chosen finds instanceType vacated idle =>
          exact (h.each.vacated hP vacated).scratch vacated.not_mem _
      | @opened r V₁ _ chosen finds instanceType vacated opens granted points =>
          refine (h.each.vacated hP vacated).opens hP vacated.not_mem opens ?_
          refine hhead rfl hzero r ?_
          rw [opens.members_eq]
          rfl
  | @class3 r c unlisted explicit kind established granted router =>
      have hzero : st₁.dummy.configurationPath.classId ≠ 0 := by
        rw [router]
        decide
      have hc := hhead rfl hzero r rfl
      rw [View.insert_object_self] at hc
      exact h.each.insert unlisted hc _

theorem Receives.each (h : Receives st st') (heach : (st.view cfg).Each P) :
    (st'.view cfg).Each P := by
  rw [h.view_eq]
  exact heach

theorem assembleForwardOpenResponse_lastPackage (st : StackState) (c : CipConnectionObject)
    (status : OpenStatus) :
    (st.assembleForwardOpenResponse c status).2.dummy.lastPackageWatchdogTimer =
      st.dummy.lastPackageWatchdogTimer := by
  simp only [assembleForwardOpenResponse]
  split
  · rfl
  · rfl

theorem answerOpenConnection_lastPackage {status : OpenStatus}
    {response : MessageRouterResponse}
    (hcall : st.answerOpenConnection status = .ok (response, st')) :
    st'.dummy.lastPackageWatchdogTimer = st.dummy.lastPackageWatchdogTimer := by
  rw [answerOpenConnection] at hcall
  split at hcall
  · have hdummy := assembleForwardOpenResponse_lastPackage st st.dummy status
    rw [Except.ok.injEq, refuse] at hcall
    rw [hcall] at hdummy
    exact hdummy
  · split at hcall
    · cases hcall
    · split at hcall
      · cases hcall
      · rename_i r hr
        have hdummy := assembleForwardOpenResponse_lastPackage st (st.conn r) {}
        rw [Except.ok.injEq] at hcall
        rw [hcall] at hdummy
        exact hdummy

theorem Holds.forwardOpenRoutine (hP : Persistent P) (h : Holds cfg P st₁) {isLarge : Bool}
    {request : MessageRouterRequest} {originatorAddress : SockaddrIn}
    {encapsulationSession : UInt32} {response : MessageRouterResponse}
    (hnew : ∀ s c, st₁.forwardOpenRequest cfg env isLarge request originatorAddress
      encapsulationSession = .ok (none, s) → Timed cfg s.dummy →
      s.dummy.lastPackageWatchdogTimer = 0 → c.state = .established →
      Unproduced s.dummy c → P c)
    (hcall : st₁.forwardOpenRoutine cfg env isLarge request originatorAddress
      encapsulationSession = .ok (response, st')) : Holds cfg P st' := by
  rw [forwardOpenRoutine_eq] at hcall
  split at hcall
  · cases hcall
  · rename_i status st₂ hrequest
    obtain ⟨hreceives, -⟩ := forwardOpenRequest_receives hrequest
    obtain ⟨hsound₂, -⟩ := hreceives.requested h.sound
    have hunheard := (forwardOpenRequest_timed hrequest).2.trans h.unheard
    have hanswers := assembleForwardOpenResponse_answers st₂ st₂.dummy status
    have hdummy := assembleForwardOpenResponse_lastPackage st₂ st₂.dummy status
    rw [Except.ok.injEq, refuse] at hcall
    rw [hcall] at hanswers hdummy
    exact Holds.answers ⟨hsound₂, hreceives.each h.each, hunheard⟩ hanswers hdummy
  · rename_i st₂ hrequest
    obtain ⟨hreceives, hclass⟩ := forwardOpenRequest_receives hrequest
    obtain ⟨hsound₂, hrequested⟩ := hreceives.requested h.sound
    obtain ⟨htimed, hlast⟩ := forwardOpenRequest_timed hrequest
    have hunheard := hlast.trans h.unheard
    split at hcall
    · cases hcall
    · rename_i status st₃ hopen
      have h₃ := Holds.openConnection hP ⟨hsound₂, hreceives.each h.each, hunheard⟩ hrequested
        (hclass rfl) (fun c hstate hc => hnew st₂ c hrequest htimed hunheard hstate hc) hopen
      exact h₃.answers (answerOpenConnection_answers hcall)
        (answerOpenConnection_lastPackage hcall)

theorem Holds.notifyMessageRouter (hP : Persistent P) {m : RoutedMessage}
    (hrouted : routedMessage cfg label st = some m) (h : Holds cfg P m.state)
    (hopens : OpensWith P cfg label st) {response : Option MessageRouterResponse}
    (hcall : m.state.notifyMessageRouter cfg label.1 m.data m.dataLength m.originatorAddress
      m.encapsulationSession = .ok (response, st')) : Holds cfg P st' := by
  have hentry : openEntry cfg label st = messageEntry cfg label.1 m.data m.dataLength
      m.originatorAddress m.encapsulationSession m.state := by
    rw [openEntry_eq, hrouted]
    rfl
  simp only [StackState.notifyMessageRouter] at hcall
  cases hparse : createMessageRouterRequestStructure m.data m.dataLength with
  | error generalStatus =>
      simp only [hparse] at hcall
      cases hcall
      exact h
  | ok parsed =>
      obtain ⟨epath, request⟩ := parsed
      simp only [hparse] at hcall
      simp only [messageEntry, hparse] at hentry
      have hopen : ∀ isLarge, isLarge = decide (request.service = 0x5B) →
          (request.service = 0x54 ∨ request.service = 0x5B) →
          (epath.classId.toUInt32 = connectionManagerClassCode ∧ epath.instanceNumber = 1) →
          ∀ {answer}, m.state.forwardOpenRoutine cfg label.1 isLarge request
            m.originatorAddress m.encapsulationSession = .ok (answer, st') →
          Holds cfg P st' := by
        intro isLarge hlarge hservice hclass answer hroutine
        refine h.forwardOpenRoutine hP (fun s c hrequest => hopens s c ?_) hroutine
        rw [hentry, if_pos ⟨hclass, hservice⟩, ← hlarge, hrequest]
      split at hcall
      · rename_i hclass
        split at hcall
        · rename_i hservice
          split at hcall
          · cases hcall
          · rename_i hroutine
            cases hcall
            exact hopen false (by rw [hservice]; rfl) (.inl hservice) hclass hroutine
        · split at hcall
          · rename_i hservice
            split at hcall
            · cases hcall
            · rename_i hroutine
              cases hcall
              exact hopen true (by rw [hservice]; rfl) (.inr hservice) hclass hroutine
          · split at hcall
            · split at hcall
              · cases hcall
              · rename_i hroutine
                cases hcall
                exact h.forwardClose hP hroutine
            · cases hcall
              exact h
      · cases hcall
        exact h

theorem Holds.routes (hP : Persistent P) (h : Holds cfg P st) (hopens : OpensWith P cfg label st)
    (hroutes : RoutesServiced cfg label st st') : Holds cfg P st' := by
  obtain ⟨-, hserviced⟩ | ⟨m, response, st₁, hrouted, hbefore, hnotify, hafter⟩ := hroutes
  · exact h.serviced hP hserviced
  · exact ((h.serviced hP hbefore).notifyMessageRouter hP hrouted hopens hnotify).serviced hP
      hafter

/-- The turns of a tick keep the property of a connection that does not expire. -/
def ManagesWith (P : CipConnectionObject → Prop) (cfg : Config)
    (label : Environment × Action) (st : StackState) : Prop :=
  ∀ elapsedTime, label.2 = .manageConnections elapsedTime →
    ∀ turn ∈ st.manageTurns cfg label.1 elapsedTime, (turn.2.conn turn.1).state = .established →
      (turn.2.conn turn.1).expires elapsedTime = false → P (turn.2.conn turn.1) →
        ∀ count dataCount, P ((turn.2.conn turn.1).managed cfg elapsedTime count dataCount)

/-- One turn of the loop. -/
theorem Holds.manageConnection (hP : Persistent P) (h : Holds cfg P st) {elapsedTime : UInt64}
    {r : ConnRef}
    (hmanages : (st.conn r).state = .established → (st.conn r).expires elapsedTime = false →
      P (st.conn r) → ∀ count dataCount, P ((st.conn r).managed cfg elapsedTime count dataCount))
    (hcall : st.manageConnection cfg env elapsedTime r = .ok st') : Holds cfg P st' := by
  have hsound' : st'.Sound cfg := by
    obtain ⟨ns, hlisted⟩ := h.sound.wellFormed
    obtain ⟨ns', hcalm⟩ := manageConnection_calm hlisted h.sound.regular hcall
    exact hcalm.sound h.sound
  cases manageConnection_turned h.sound hcall with
  | idle state same => exact same ▸ h
  | expired expires gone departs dummy =>
      exact ⟨hsound', h.each.departs hP departs, dummy ▸ h.unheard⟩
  | managed established lives managed =>
      have hr := mem_of_established h.sound.regular established
      refine ⟨hsound', fun q hq => ?_, managed.dummy ▸ h.unheard⟩
      rw [view_members, connectionList, managed.list] at hq
      rw [view_object]
      by_cases hqr : q = r
      · subst hqr
        obtain ⟨count, dataCount, hobject⟩ := managed.object
        rw [hobject]
        exact hmanages established lives (h.each q hr) count dataCount
      · rw [managed.others q hqr]
        exact h.each q hq

theorem Holds.handleApplication (hP : Persistent P) (h : Holds cfg P st) (env : Environment) :
    Holds cfg P { st with assemblyData := env.handleApplication st.assemblyData } :=
  h.serviced hP ⟨rfl, fun _ => .refl, rfl, rfl, rfl, rfl⟩

theorem Holds.manageConnections (hP : Persistent P) (h : Holds cfg P st) {elapsedTime : UInt64}
    (hmanages : ManagesWith P cfg (env, .manageConnections elapsedTime) st)
    (hcall : st.manageConnections cfg env elapsedTime = .ok st') : Holds cfg P st' := by
  refine liveWalk_turns (Holds cfg P) ?_ (h.handleApplication hP env) hcall
  intro s n r s' hs _ hturn hbody
  exact hs.manageConnection hP (hmanages elapsedTime rfl (r, s) hturn) hbody

/-- One step of the stack, by its calls. -/
theorem Holds.step (hP : Persistent P) (h : Holds cfg P st) (hopens : OpensWith P cfg label st)
    (hmanages : ManagesWith P cfg label st) (hstep : st.step cfg label = .ok st') :
    Holds cfg P st' := by
  obtain ⟨env, action⟩ := label
  have hendures := endures_holds hP cfg
  cases action with
  | sendRRData session originatorAddress data =>
      exact h.routes hP hopens (sendRRData_serviced hstep)
  | sendUnitData session originatorAddress data =>
      exact h.routes hP hopens (sendUnitData_serviced hstep)
  | manageConnections elapsedTime => exact h.manageConnections hP hmanages hstep
  | checkAndHandleConsumingUdpSocket => exact h.checkAndHandleConsumingUdpSocket hP hstep
  | registerSession socket => exact h.serviced hP (registerSession_serviced hstep)
  | unregisterSession sessionHandle => exact hendures.unregisterSession h hstep
  | closeSession socket => exact hendures.closeSession h hstep
  | removeSession socket => exact hendures.removeSession h hstep
  | disconnect socket =>
      simp only [StackState.step] at hstep
      split at hstep
      · cases hstep
      · rename_i hclose
        exact hendures.removeSession (hendures.closeTcpSocket h hclose) hstep
  | checkEncapsulationInactivity socket =>
      exact hendures.checkEncapsulationInactivity h hstep
  | handleClosedTcpSocket socket => exact hendures.handleClosedTcpSocket h hstep
  | setLastUpdate timer =>
      cases hstep
      exact h.serviced hP ⟨rfl, fun _ => .refl, rfl, rfl, rfl, rfl⟩
  | triggerConnections outputAssembly inputAssembly =>
      cases hstep
      exact h.serviced hP (triggerConnections_serviced cfg outputAssembly inputAssembly st)
  | closeAllConnections => exact h.closeFirstConnections hP hstep
  | encapsulationShutDown => exact hendures.shutDownSessions h hstep
  | writeAssemblies data =>
      cases hstep
      exact h.serviced hP ⟨rfl, fun _ => .refl, rfl, rfl, rfl, rfl⟩

theorem holds_initialState (cfg : Config) (assemblyData : UInt16 → List UInt8) :
    Holds cfg P (initialState cfg assemblyData) := by
  refine ⟨sound_initialState cfg assemblyData, fun r hr => ?_, rfl⟩
  rw [view_members, connectionList_initialState] at hr
  cases hr

/-- A run whose opens and turns give and keep the property. -/
theorem Holds.reaches (hP : Persistent P) {allowed : Environment × Action → StackState → Prop}
    (hopens : ∀ label st, allowed label st → OpensWith P cfg label st)
    (hmanages : ∀ label st, allowed label st → ManagesWith P cfg label st)
    (h : Holds cfg P st) (hreaches : Runs.Reaches (StackState.step cfg) allowed st st') :
    Holds cfg P st' :=
  hreaches.invariant (Holds cfg P) h fun label s _ hs hallowed hstep =>
    hs.step hP (hopens label s hallowed) (hmanages label s hallowed) hstep

end StackState

end Opener

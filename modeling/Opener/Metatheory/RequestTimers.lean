import Opener.Core.SampleApplication
import Opener.Metatheory.NewConnections
import Opener.Metatheory.Triads

/-!
The timers of a request and of the connection that it opens. The fixed part of a Forward
Open sets the watchdog and the packet rate, general configuration the production timers;
the watchdog of the last package keeps what the object of the requests had.
-/

namespace Opener

open LinkedCells

namespace CipConnectionObject

/-- The watchdog and the packet rate follow from the intervals. -/
structure Timed (cfg : Config) (c : CipConnectionObject) : Prop where
  watchdog : c.inactivityWatchdogTimer =
    c.setInitialInactivityWatchdogTimerValue.inactivityWatchdogTimer
  rate : c.expectedPacketRate = (c.setExpectedPacketRate cfg).expectedPacketRate

/-- What the watchdogs and the packet rate follow from. -/
def timing (c : CipConnectionObject) : UInt64 × UInt64 × UInt16 × UInt32 × UInt8 × UInt32 :=
  (c.inactivityWatchdogTimer, c.lastPackageWatchdogTimer, c.expectedPacketRate,
    c.oToTRequestedPacketInterval, c.connectionTimeoutMultiplier, c.tToORequestedPacketInterval)

/-- What an open attempt leaves of the request: all but the type of the connection and the
sizes that a refused size check reports. -/
def asked (c : CipConnectionObject) : CipConnectionObject :=
  { c.unsized with instanceType := .explicitMessaging }

theorem asked_field {β : Type} {c d : CipConnectionObject} (h : d.asked = c.asked)
    (f : CipConnectionObject → β) (hf : ∀ c, f c.asked = f c) : f d = f c := by
  rw [← hf d, h, hf c]

theorem asked_of_unsized {c d : CipConnectionObject} (h : d.unsized = c.unsized) :
    d.asked = c.asked := by
  rw [asked, h, asked]

/-- A new connection that has not produced: its timers are its request's, its production
inhibit timer runs and its production is due. -/
structure Unproduced (d c : CipConnectionObject) : Prop where
  timing : c.timing = d.timing
  inhibit : c.productionInhibitTimer = c.productionInhibitTime.toUInt64
  due : c.transmissionTriggerTimer = 0

variable {cfg : Config} {c d : CipConnectionObject}

theorem setExpectedPacketRate_rate : (c.setExpectedPacketRate cfg).expectedPacketRate =
    if c.remainderToResolution cfg = 0 then (c.tToORequestedPacketInterval / 1000).toUInt16
    else (c.tToORequestedPacketInterval / 1000 + (cfg.timerTickInMilliSeconds.toUInt32 -
      c.remainderToResolution cfg / 1000)).toUInt16 := by
  simp only [setExpectedPacketRate]
  split
  · rfl
  · rfl

theorem expectedPacketRate_eq (h : d.tToORequestedPacketInterval = c.tToORequestedPacketInterval) :
    (d.setExpectedPacketRate cfg).expectedPacketRate =
      (c.setExpectedPacketRate cfg).expectedPacketRate := by
  rw [setExpectedPacketRate_rate, setExpectedPacketRate_rate, remainderToResolution,
    remainderToResolution, h]

theorem Timed.of_timing (h : Timed cfg c) (hsame : d.timing = c.timing) : Timed cfg d := by
  simp only [timing, Prod.mk.injEq] at hsame
  obtain ⟨hwatchdog, -, hrate, hinterval, hmultiplier, hproduced⟩ := hsame
  have hregular : d.regularInactivityWatchdogTimerValue =
      c.regularInactivityWatchdogTimerValue := by
    rw [regularInactivityWatchdogTimerValue, hinterval, hmultiplier,
      regularInactivityWatchdogTimerValue]
  refine ⟨?_, ?_⟩
  · rw [hwatchdog, h.watchdog, setInitialInactivityWatchdogTimerValue,
      setInitialInactivityWatchdogTimerValue, hregular]
  · rw [hrate, h.rate, expectedPacketRate_eq hproduced]

theorem initialPacing_iff {time : UInt16} : c.pacing = initialPacing time ↔
    c.productionInhibitTime = time ∧ c.productionInhibitTimer = time.toUInt64 ∧
      c.transmissionTriggerTimer = 0 := by
  simp only [pacing, initialPacing, Prod.mk.injEq]

theorem setExpectedPacketRate_timed (cfg : Config)
    (h : c.inactivityWatchdogTimer =
      c.setInitialInactivityWatchdogTimerValue.inactivityWatchdogTimer) :
    Timed cfg (c.setExpectedPacketRate cfg) ∧
      (c.setExpectedPacketRate cfg).lastPackageWatchdogTimer = c.lastPackageWatchdogTimer := by
  have hinterval : (c.setExpectedPacketRate cfg).tToORequestedPacketInterval =
      c.tToORequestedPacketInterval := by
    simp only [setExpectedPacketRate]
    split
    · rfl
    · rfl
  refine ⟨⟨?_, (expectedPacketRate_eq hinterval).symm⟩, ?_⟩
  · simp only [setExpectedPacketRate]
    split
    · exact h
    · exact h
  · simp only [setExpectedPacketRate]
    split
    · rfl
    · rfl

theorem initializeFromMessage_timed (cfg : Config) (message : Message)
    (connectionNumber : UInt16) (c : CipConnectionObject) :
    Timed cfg (initializeFromMessage cfg message connectionNumber c).1 ∧
      (initializeFromMessage cfg message connectionNumber c).1.lastPackageWatchdogTimer =
        c.lastPackageWatchdogTimer := by
  have hset : ∀ d : CipConnectionObject, d.inactivityWatchdogTimer =
      d.setInitialInactivityWatchdogTimerValue.inactivityWatchdogTimer →
      ∀ tToOParameters trigger, Timed cfg { d.setExpectedPacketRate cfg with
          tToONetworkConnectionParameters := tToOParameters
          transportClassTrigger := trigger } ∧
        (d.setExpectedPacketRate cfg).lastPackageWatchdogTimer = d.lastPackageWatchdogTimer := by
    intro d hd tToOParameters trigger
    obtain ⟨htimed, hlast⟩ := setExpectedPacketRate_timed cfg hd
    exact ⟨htimed.of_timing rfl, hlast⟩
  simp only [initializeFromMessage]
  exact hset _ rfl _ _

end CipConnectionObject

open CipConnectionObject

namespace StackState

variable {cfg : Config} {env : Environment} {label : Environment × Action}
variable {st st₁ st' : StackState}

theorem receiveForwardOpen_timed {isLarge : Bool} {message message' : Message}
    {originatorAddress : SockaddrIn} {encapsulationSession : UInt32}
    (h : st.receiveForwardOpen cfg env isLarge message originatorAddress
      encapsulationSession = .ok (message', st')) :
    Timed cfg st'.dummy ∧
      st'.dummy.lastPackageWatchdogTimer = st.dummy.lastPackageWatchdogTimer := by
  simp only [receiveForwardOpen] at h
  split at h
  · cases h
  · cases h
    obtain ⟨htimed, hlast⟩ := initializeFromMessage_timed cfg message _
      { st.dummy with isLargeForwardOpen := isLarge }
    exact ⟨htimed.of_timing rfl, hlast⟩

theorem forwardOpenRequest_timed {isLarge : Bool} {request : MessageRouterRequest}
    {originatorAddress : SockaddrIn} {encapsulationSession : UInt32}
    {refusal : Option OpenStatus}
    (h : st.forwardOpenRequest cfg env isLarge request originatorAddress
      encapsulationSession = .ok (refusal, st')) :
    Timed cfg st'.dummy ∧
      st'.dummy.lastPackageWatchdogTimer = st.dummy.lastPackageWatchdogTimer := by
  simp only [forwardOpenRequest] at h
  split at h
  · cases h
  · rename_i message st₁ hreceive
    obtain ⟨htimed, hlast⟩ := receiveForwardOpen_timed hreceive
    have hparsed : ∀ {d : CipConnectionObject}, d.unrouted = st₁.dummy.unrouted →
        Timed cfg d ∧ d.lastPackageWatchdogTimer = st.dummy.lastPackageWatchdogTimer := by
      intro d hrouted
      refine ⟨htimed.of_timing (unrouted_field hrouted timing fun _ => rfl), ?_⟩
      rw [← hlast]
      exact unrouted_field hrouted (·.lastPackageWatchdogTimer) fun _ => rfl
    have hrouted := parseConnectionPath_routed cfg message request.requestDataSize st₁.dummy
      st₁.configData
    split at h
    · cases h
      exact ⟨htimed, hlast⟩
    · split at h
      · cases h
        exact ⟨htimed, hlast⟩
      · split at h
        · rename_i failure hparse
          cases h
          rw [hparse] at hrouted
          exact hparsed hrouted
        · rename_i s hparse
          cases h
          rw [hparse] at hrouted
          exact hparsed hrouted

theorem openEntry_timed (h : openEntry cfg label st = some st₁) :
    Timed cfg st₁.dummy ∧
      st₁.dummy.lastPackageWatchdogTimer = st.dummy.lastPackageWatchdogTimer := by
  obtain ⟨st₀, isLarge, request, originatorAddress, session, htouched, -, hrequest⟩ :=
    openEntry_request h
  rw [← htouched.dummy]
  exact forwardOpenRequest_timed hrequest

theorem establishIoConnection_asked (hsound : st.Sound cfg) (hrequest : Requested st.dummy)
    {status : OpenStatus} (hcall : st.establishIoConnection cfg env = .ok (status, st')) :
    st'.dummy.asked = st.dummy.asked := by
  obtain ⟨ns, hlisted⟩ := hsound.wellFormed
  simp only [establishIoConnection] at hcall
  split at hcall
  · cases hcall
  · rename_i hresolve
    cases hcall
    rw [(resolveIoConnection_spec hlisted hsound.regular hresolve).1.dummy]
    rfl
  · rename_i r st₁ hresolve
    obtain ⟨hframe, ⟨extended, herror, -⟩ | ⟨r', ns₁, hr', -, -, hlisted₁, -, hvacated⟩⟩ :=
      resolveIoConnection_spec hlisted hsound.regular hresolve
    · cases herror
    · cases hr'
      have hr₁ : r ∉ (st₁.deepCopyDummy cfg r).connectionList cfg := hvacated.not_mem
      have hconn₁ : (st₁.deepCopyDummy cfg r).conn r = st₁.dummy := conn_setConn_self _ r _
      have hlisted₂ : (st₁.deepCopyDummy cfg r).Listed cfg ns₁ := hlisted₁
      have hdummy₁ : (st₁.deepCopyDummy cfg r).dummy = st₁.dummy := rfl
      have hasked : st₁.dummy.asked = st.dummy.asked := by
        rw [hframe.dummy]
        rfl
      have hstate : st₁.dummy.state = .nonExistent ∧
          st₁.dummy.connectionCloseFunction = none := by
        rw [hframe.dummy]
        exact ⟨hrequest.state, hrequest.close⟩
      rw [← hasked, ← hdummy₁]
      rw [← hconn₁] at hstate
      generalize st₁.deepCopyDummy cfg r = st₂ at hcall hr₁ hlisted₂ hstate ⊢
      split at hcall
      · cases hcall
      · rename_i status₁ st₃ hprepare
        have hspec := prepareIoConnection_spec hr₁ hstate.1 hstate.2 hprepare
        split at hcall
        · rename_i hfailed
          cases hcall
          obtain ⟨-, hwrites, -⟩ | ⟨hsuccess, -⟩ := hspec
          · exact asked_of_unsized hwrites.dummy
          · exact absurd hsuccess hfailed
        · rename_i hprepared
          obtain ⟨hfailed, -⟩ | ⟨-, st₄, hready, hkeeps, -⟩ := hspec
          · exact absurd hfailed hprepared
          · have hlist₃ : st₃.store.connectionList = st₂.store.connectionList :=
              hkeeps.list.trans hready.writes.list
            have hlisted₃ : st₃.Listed cfg ns₁ := by
              rw [Listed, hlist₃]
              exact hlisted₂
            have hr₃ : r ∉ st₃.connectionList cfg := by
              rw [connectionList, hlist₃]
              exact hr₁
            obtain ⟨-, -, hdummy, -⟩ := activateIoConnection_spec hlisted₃ hr₃ hcall
            rw [hdummy, hkeeps.dummy]
            exact asked_of_unsized hready.writes.dummy

/-- An explicit connection is listed with its timers set; the request stays as it is. -/
theorem establishClass3Connection_pacing {ns : List Nat} (h : st.Listed cfg ns)
    (hregular : Regular cfg (st.view cfg)) {status : OpenStatus}
    (hcall : st.establishClass3Connection cfg = .ok (status, st')) :
    st'.dummy.asked = st.dummy.asked ∧
      (status.general = GeneralStatus.success → ∃ r time,
        (st'.connectionList cfg).head? = some r ∧
          (st'.conn r).pacing = initialPacing time) := by
  rw [establishClass3Connection] at hcall
  split at hcall
  · cases hcall
    exact ⟨rfl, fun hsuccess => absurd hsuccess (connectionFailure_ne_success _)⟩
  · rename_i r hfree
    obtain ⟨hvalid, hio, hstate⟩ := getFreeExplicitConnection_found hfree
    have hr : r ∉ st.connectionList cfg := by
      intro hmem
      rcases (hregular.kind r hmem).state with hs | ⟨hs, -⟩
      · rw [view_object, hstate] at hs
        cases hs
      · rw [view_object, hstate] at hs
        cases hs
    have hdummy₁ : (st.deepCopyDummy cfg r).dummy = st.dummy := rfl
    have hlisted₁ : (st.deepCopyDummy cfg r).Listed cfg ns := h
    have hr₁ : r ∉ (st.deepCopyDummy cfg r).connectionList cfg := hr
    rw [← hdummy₁]
    generalize st.deepCopyDummy cfg r = st₁ at hcall hlisted₁ hr₁ ⊢
    have hpacing := generalConfiguration_pacing cfg r st₁
    obtain ⟨hwrites, -, -⟩ := generalConfiguration_spec cfg r st₁
    have hprepared : Writes r st₁ (st₁.prepareClass3Connection cfg r) ∧
        ((st₁.prepareClass3Connection cfg r).conn r).pacing =
          initialPacing (st₁.conn r).productionInhibitTime := by
      rw [prepareClass3Connection]
      refine ⟨hwrites.trans (writes_modifyConn r _ _), ?_⟩
      rw [conn_modifyConn_self, ← hpacing]
      rfl
    clear hwrites hpacing
    obtain ⟨hwrites, hpacing⟩ := hprepared
    generalize st₁.prepareClass3Connection cfg r = st₂ at hcall hpacing hwrites
    have hlisted₂ : st₂.Listed cfg ns := by
      rw [Listed, hwrites.list]
      exact hlisted₁
    have hr₂ : r ∉ st₂.connectionList cfg := by
      rw [hwrites.connectionList_eq]
      exact hr₁
    split at hcall
    · cases hcall
    · rename_i st₃ hadd
      cases hcall
      obtain ⟨list, rfl, -, hmembers⟩ := addNewActiveConnection_ok hlisted₂ hr₂ hadd
      refine ⟨asked_of_unsized hwrites.dummy,
        fun _ => ⟨r, (st₁.conn r).productionInhibitTime, ?_, ?_⟩⟩
      · rw [hmembers]
        rfl
      · rw [← hpacing, conn_modifyConn_self]
        rfl

/-- Whichever open function is called, it sets the timers of the connection that it lists
and leaves the request as it is. -/
theorem openConnection_pacing (hsound : st.Sound cfg) (hrequest : Requested st.dummy)
    {status : OpenStatus} (hcall : st.openConnection cfg env = .ok (status, st')) :
    st'.dummy.asked = st.dummy.asked ∧
      (status.general = GeneralStatus.success → st.dummy.configurationPath.classId ≠ 0 →
        ∃ r time, (st'.connectionList cfg).head? = some r ∧
          (st'.conn r).pacing = initialPacing time) := by
  obtain ⟨ns, hlisted⟩ := hsound.wellFormed
  rw [openConnection] at hcall
  split at hcall
  · cases hcall
    exact ⟨rfl, fun hsuccess => absurd hsuccess (by decide)⟩
  · rename_i classId hfind
    cases hcall
    have hzero := connectionManagementList_none (List.mem_of_find?_eq_some hfind)
    have hclassId := List.find?_some hfind
    rw [decide_eq_true_eq, hzero] at hclassId
    exact ⟨rfl, fun _ hclass => absurd hclassId.symm hclass⟩
  · obtain ⟨hasked, hpacing⟩ := establishClass3Connection_pacing hlisted hsound.regular hcall
    exact ⟨hasked, fun hsuccess _ => hpacing hsuccess⟩
  · refine ⟨establishIoConnection_asked hsound hrequest hcall, fun hsuccess _ => ?_⟩
    obtain ⟨r, hhead, -, hpacing⟩ := establishIoConnection_pacing hsound hrequest hcall hsuccess
    exact ⟨r, _, hhead, hpacing⟩

/-- The connection that an open function lists. -/
theorem openConnection_unproduced (hsound : st.Sound cfg) (hrequest : Requested st.dummy)
    (hclass : st.dummy.configurationPath.classId = assemblyClassCode →
      st.dummy.transportClass ≠ .class3)
    {status : OpenStatus} (hcall : st.openConnection cfg env = .ok (status, st'))
    (hsuccess : status.general = GeneralStatus.success)
    (hzero : st.dummy.configurationPath.classId ≠ 0) :
    ∃ r, (st'.connectionList cfg).head? = some r ∧ (st'.conn r).state = .established ∧
      Unproduced st.dummy (st'.conn r) := by
  obtain ⟨ns, hlisted⟩ := hsound.wellFormed
  obtain ⟨-, hopened⟩ := openConnection_pacing hsound hrequest hcall
  obtain ⟨r, time, hhead, hpacing⟩ := hopened hsuccess hzero
  obtain ⟨-, -, hanswered⟩ := openConnection_spec hlisted hsound.regular hrequest hclass hcall
  obtain ⟨htime, hinhibit, hdue⟩ := initialPacing_iff.mp hpacing
  obtain ⟨-, V₁, q, hentered⟩ | ⟨hnone, -⟩ := hanswered.outcome
  · have hmembers : st'.connectionList cfg = q :: V₁.members := hentered.members
    rw [hmembers] at hhead
    cases hhead
    refine ⟨r, by rw [hmembers]; rfl, hentered.established, ?_, ?_, hdue⟩
    · exact terms_field hentered.granted.terms timing fun _ => rfl
    · rw [hinhibit, htime]
  · exact absurd (hnone hsuccess) hzero

/-- The timers of a newly opened connection are those of its request. -/
theorem NewlyOpened.timed {classId : UInt32} {r : ConnRef} (h : NewlyOpened cfg classId r st)
    (hzero : classId ≠ 0) :
    (st.conn r).state = .established ∧ Timed cfg (st.conn r) ∧
      (st.conn r).productionInhibitTimer = (st.conn r).productionInhibitTime.toUInt64 ∧
      (st.conn r).transmissionTriggerTimer = 0 := by
  obtain ⟨before, label, st₁, hreachable, hentry, hclassId, hcall, hhead⟩ := h
  obtain ⟨hsound, hrequested, hclass, -⟩ := openEntry_sound hreachable.sound hentry
  obtain ⟨r', hhead', hstate, hunproduced⟩ :=
    openConnection_unproduced hsound hrequested hclass hcall rfl (hclassId ▸ hzero)
  cases hhead.symm.trans hhead'
  exact ⟨hstate, (openEntry_timed hentry).1.of_timing hunproduced.timing, hunproduced.inhibit,
    hunproduced.due⟩

open SampleApplication in
/-- The step opens a connection for the class, with the property of it and of the state. -/
def opensNewly (cfg : Config) (classId : UInt32) (label : Environment × Action)
    (p : ConnRef → StackState → Bool) (st : StackState) : Bool :=
  (openEntry cfg label st).any fun st₁ =>
    st₁.dummy.configurationPath.classId = classId &&
      returns (st₁.openConnection cfg label.1) fun opened =>
        opened.1 = {} && (opened.2.connectionList cfg).head?.any fun r => p r opened.2

open SampleApplication in
theorem newlyOpened_of_opensNewly {classId : UInt32} {p : ConnRef → StackState → Bool}
    (hreachable : Reachable cfg st) (h : opensNewly cfg classId label p st = true) :
    ∃ r st', NewlyOpened cfg classId r st' ∧ p r st' = true := by
  obtain ⟨st₁, hentry, h⟩ := (Option.any_eq_true _ _).mp h
  rw [Bool.and_eq_true, decide_eq_true_eq] at h
  obtain ⟨hclassId, h⟩ := h
  obtain ⟨⟨status, st'⟩, hcall, h⟩ := returns_iff.mp h
  rw [Bool.and_eq_true, decide_eq_true_eq] at h
  obtain ⟨rfl, h⟩ := h
  obtain ⟨r, hhead, h⟩ := (Option.any_eq_true _ _).mp h
  exact ⟨r, st', ⟨st, label, st₁, hreachable, hentry, hclassId, hcall, hhead⟩, h⟩

end StackState

end Opener

import Opener.Metatheory.Class3Sessions

/-!
Who a class 3 connection belongs to. The run is watched by a variable that notes,
when an explicit connection is opened, the socket that its session is registered
on. While no session is freed that has a second explicit connection, the session of
each of them stays registered on that socket, and every socket that the stack
closes on behalf of a session is a valid one.
-/

namespace Opener

open LinkedCells

namespace StackState

variable {cfg : Config} {env : Environment} {st : StackState} {owner : ConnRef → Int}

/-- The socket that the session of a connection is registered on. -/
def sessionSocket (c : CipConnectionObject) (st : StackState) : Int :=
  st.registeredSessions.getD (c.associatedEncapsulationSession - 1).toNat eipInvalidSocket

/-- The sockets of the sessions that explicit connections were opened in. -/
def ownersAfter (cfg : Config) (st st' : StackState) (owner : ConnRef → Int) (r : ConnRef) :
    Int :=
  if r ∈ st'.connectionList cfg ∧ r ∉ st.connectionList cfg then
    st'.sessionSocket (st'.conn r)
  else owner r

def loneSocket (cfg : Config) (socket : Int) (st : StackState) : Bool :=
  (List.range st.registeredSessions.length).all fun i =>
    st.registeredSessions[i]? ≠ some socket || st.lone cfg (UInt32.ofNat (i + 1))

/-- The sessions that the time-out of a connection may close have one class 3
connection at most. -/
def expiresCleanly (cfg : Config) (env : Environment) (r : ConnRef) (st : StackState) : Bool :=
  if r.isIo then
    st.registeredSessions.all fun socket => socket = eipInvalidSocket ||
      env.peerName socket ≠ (st.conn r).originatorAddress.sinAddr || st.loneSocket cfg socket
  else st.lone cfg (st.conn r).associatedEncapsulationSession

/-- No step frees a session that has more than one class 3 connection. -/
def freesCleanly (cfg : Config) (label : Environment × Action) (st : StackState) : Bool :=
  callsWithSocket label st &&
    match label.2 with
    | .unregisterSession sessionHandle => st.lone cfg sessionHandle
    | .closeSession socket | .disconnect socket | .handleClosedTcpSocket socket =>
        st.loneSocket cfg socket
    | .checkEncapsulationInactivity socket =>
        !st.idle cfg label.1 socket || st.loneSocket cfg socket
    | .manageConnections elapsedTime => (st.connectionList cfg).all fun r =>
        !(st.conn r).expires elapsedTime || st.expiresCleanly cfg label.1 r
    | .encapsulationShutDown => (st.connectionList cfg).all ConnRef.isIo
    | _ => true

theorem loneSocket_of_eq_true {socket : Int} (h : st.loneSocket cfg socket = true) :
    st.LoneSocket cfg socket := by
  intro i hi
  simp only [loneSocket, List.all_eq_true, List.mem_range, Bool.or_eq_true,
    decide_eq_true_eq] at h
  have hlt := (List.getElem?_eq_some_iff.mp hi).1
  exact lone_of_eq_true ((h i hlt).resolve_left fun hne => hne hi)

theorem Anchored.watched {st' : StackState} (h : st'.Anchored cfg owner)
    (hsubset : ∀ r ∈ st'.connectionList cfg, r.isIo = false → r ∈ st.connectionList cfg) :
    st'.Anchored cfg (ownersAfter cfg st st' owner) := by
  intro r hr hio
  have howner : ownersAfter cfg st st' owner r = owner r :=
    if_neg fun hnew => hnew.2 (hsubset r hr hio)
  rw [howner]
  exact h r hr hio

/-- The explicit connections after an open function: those there were, and a new one
of the session of the request. -/
theorem Answered.explicit {status : OpenStatus} {V : View}
    (h : Answered cfg env st status V) {s : ConnRef} (hs : s ∈ V.members)
    (hio : s.isIo = false) :
    (s ∈ st.connectionList cfg ∧ (V.object s).lasting = (st.conn s).lasting) ∨
      (s ∉ st.connectionList cfg ∧ (V.object s).associatedEncapsulationSession =
        st.dummy.associatedEncapsulationSession) := by
  cases h with
  | unchanged => exact .inl ⟨hs, rfl⟩
  | @class3 r c unlisted explicit kind established granted =>
      by_cases hsr : s = r
      · subst hsr
        refine .inr ⟨unlisted, ?_⟩
        rw [View.insert_object_self]
        exact CipConnectionObject.terms_field granted.terms
          (·.associatedEncapsulationSession) fun _ => rfl
      · refine .inl ⟨(List.mem_cons.mp hs).resolve_left hsr, ?_⟩
        rw [View.insert_object_of_ne _ hsr]
        rfl
  | io assembly established =>
      have hpersists : Persists (st.view cfg) V →
          s ∈ st.connectionList cfg ∧ (V.object s).lasting = (st.conn s).lasting :=
        fun hpersists => ⟨hpersists.sublist.subset hs, hpersists.lasting s hs⟩
      cases established with
      | nothing failed lookup => exact .inl (hpersists (.refl _))
      | refused failed chosen finds instanceType vacated idle =>
          exact .inl (hpersists
            ((Persists.vacated vacated).trans (.scratch vacated.not_mem _ _)))
      | @opened r V₁ _ chosen finds instanceType vacated opens granted points =>
          have hsr : s ≠ r := by
            rintro rfl
            rw [chosen.io] at hio
            cases hio
          have hvacated := Persists.vacated vacated
          have hkept : s ∈ V₁.members ∧ (V.object s).lasting = (V₁.object s).lasting := by
            cases opens with
            | plain admitted | first admitted =>
                rw [View.insert_object_of_ne _ hsr]
                exact ⟨(List.mem_cons.mp hs).resolve_left hsr, rfl⟩
            | @join c producer admitted multicast agrees existing identifier socket =>
                rw [View.insert_object_of_ne _ hsr]
                refine ⟨(List.mem_cons.mp hs).resolve_left hsr, ?_⟩
                by_cases hsp : s = producer
                · subst hsp
                  rw [View.modify_object_self, CipConnectionObject.lasting_leftBehind]
                · rw [View.modify_object_of_ne _ hsp]
          exact .inl ⟨hvacated.sublist.subset hkept.1,
            hkept.2.trans (hvacated.lasting s hkept.1)⟩

theorem forwardOpenRequest_session {isLarge : Bool} {request : MessageRouterRequest}
    {originatorAddress : SockaddrIn} {encapsulationSession : UInt32} {st₁ : StackState}
    (h : st.forwardOpenRequest cfg env isLarge request originatorAddress
      encapsulationSession = .ok (none, st₁)) :
    st₁.dummy.associatedEncapsulationSession = encapsulationSession := by
  simp only [forwardOpenRequest] at h
  split at h
  · cases h
  · rename_i message st₀ hreceive
    have hsession : st₀.dummy.associatedEncapsulationSession = encapsulationSession := by
      simp only [receiveForwardOpen] at hreceive
      split at hreceive
      · cases hreceive
      · cases hreceive
        rfl
    split at h
    · cases h
    · split at h
      · cases h
      · have hrouted := parseConnectionPath_routed cfg message
          request.requestDataSize st₀.dummy st₀.configData
        split at h
        · cases h
        · rename_i s hparse
          cases h
          rw [hparse] at hrouted
          exact (CipConnectionObject.unrouted_field hrouted
            (·.associatedEncapsulationSession) fun _ => rfl).trans hsession

/-- A step that keeps the sessions opens explicit connections in registered ones. -/
theorem Anchored.step (hsound : st.Sound cfg) (hanchored : st.Anchored cfg owner)
    {label : Environment × Action} {st' : StackState} (hstep : st.step cfg label = .ok st')
    (hsessions : st'.registeredSessions = st.registeredSessions) :
    st'.Anchored cfg (ownersAfter cfg st st' owner) := by
  have htransition := (step_spec hsound hstep).2
  generalize hview : st'.view cfg = V' at htransition
  cases htransition with
  | quiet moves =>
      have hpersists : Persists (st.view cfg) (st'.view cfg) := hview ▸ .moves moves
      exact (hanchored.kept hsessions hpersists).watched fun r hr _ =>
        hpersists.sublist.subset hr
  | @opening st₁ status V _ entry before answered after =>
      obtain ⟨-, -, -, hmembers, hcore⟩ := openEntry_sound hsound entry
      obtain ⟨st₀, isLarge, request, originatorAddress, session, -, hregistered, hrequest⟩ :=
        openEntry_request entry
      rw [view_members, view_members] at hmembers
      have hafter : Persists V (st'.view cfg) := hview ▸ .moves after
      intro r hr hio
      have hlasting := hafter.lasting r hr
      have hsession : (st'.conn r).associatedEncapsulationSession =
          (V.object r).associatedEncapsulationSession :=
        CipConnectionObject.lasting_field hlasting (·.associatedEncapsulationSession)
          fun _ => rfl
      rcases answered.explicit (hafter.sublist.subset hr) hio with ⟨hr₁, hsame⟩ | ⟨hr₁, hnew⟩
      · have hr₀ : r ∈ st.connectionList cfg := hmembers ▸ hr₁
        have hkept : (V.object r).associatedEncapsulationSession =
            (st.conn r).associatedEncapsulationSession :=
          CipConnectionObject.lasting_field
            (hsame.trans (CipConnectionObject.lasting_of_core (hcore r)))
            (·.associatedEncapsulationSession) fun _ => rfl
        have howner : ownersAfter cfg st st' owner r = owner r :=
          if_neg fun hopened => hopened.2 hr₀
        rw [hsession, hkept, howner, hsessions]
        exact hanchored r hr₀ hio
      · have hr₀ : r ∉ st.connectionList cfg := fun hmem => hr₁ (hmembers ▸ hmem)
        have hdummy := forwardOpenRequest_session hrequest
        have howner : ownersAfter cfg st st' owner r = st'.sessionSocket (st'.conn r) :=
          if_pos ⟨hr, hr₀⟩
        rw [howner, sessionSocket, hsession, hnew, hdummy, hsessions]
        simp only [checkRegisteredSessions, Bool.and_eq_true, decide_eq_true_eq] at hregistered
        exact ⟨hregistered.1, getElem?_of_getD_ne hregistered.2, hregistered.2⟩

theorem registerSession_anchored (hanchored : st.Anchored cfg owner) {socket : Int}
    {st' : StackState} (hcall : st.registerSession env socket = .ok st') :
    st'.Anchored cfg owner := by
  rw [registerSession] at hcall
  split at hcall
  · cases hcall
    exact hanchored
  · split at hcall
    · cases hcall
      exact hanchored
    · rename_i index hfree
      split at hcall
      · cases hcall
      · cases hcall
        intro r hr hio
        obtain ⟨hpositive, hsession, howner⟩ := hanchored r hr hio
        refine ⟨hpositive, ?_, howner⟩
        have hne : index ≠ ((st.conn r).associatedEncapsulationSession - 1).toNat := by
          rintro rfl
          rw [sessionOfSocket_eq_some hfree, Option.some.injEq] at hsession
          exact howner hsession.symm
        exact (List.getElem?_set_ne hne).trans hsession

theorem idle_of_ne {socket : Int} (h : st.idle cfg env socket = false) :
    st.checkEncapsulationInactivity cfg env socket = .ok st := by
  rw [checkEncapsulationInactivity]
  by_cases htimeout : 0 < cfg.encapsulationInactivityTimeout
  · rw [if_pos htimeout]
    rw [idle, decide_eq_true htimeout, Bool.true_and] at h
    split
    · rfl
    · rename_i timer htimer
      rw [htimer] at h
      rw [if_neg (of_decide_eq_false h)]
  · rw [if_neg htimeout]

theorem checkEncapsulationInactivity_anchored (hsound : st.Sound cfg)
    (hanchored : st.Anchored cfg owner) {socket : Int} (hsocket : socket ≠ eipInvalidSocket)
    (hlone : st.LoneSocket cfg socket) :
    KeepsAnchors cfg owner st (st.checkEncapsulationInactivity cfg env socket) := by
  rw [checkEncapsulationInactivity]
  split
  · split
    · exact .refl hsound hanchored
    · split
      · obtain ⟨st₁, hclose, hsound₁, hkept, hpersists, -⟩ := closeClass3_persists hsound
          (UInt32.ofNat ((st.sessionOfSocket socket).getD cfg.numberOfSupportedSessions))
        have hretains : Retains cfg owner st st₁ :=
          ⟨hsound₁, hpersists, .of_eq hkept.registeredSessions,
            hanchored.kept hkept.registeredSessions hpersists⟩
        obtain ⟨st₂, hcall, hkeeps⟩ := disconnect_anchored hsound₁ hretains.anchored hsocket
          (hlone.after hsocket hretains)
        simp only [hclose, hcall]
        exact hkeeps.after hretains
      · exact .refl hsound hanchored
  · exact .refl hsound hanchored

theorem handleClosedTcpSocket_anchored (hsound : st.Sound cfg)
    (hanchored : st.Anchored cfg owner) {socket : Int} (hsocket : socket ≠ eipInvalidSocket)
    (hlone : st.LoneSocket cfg socket) :
    KeepsAnchors cfg owner st (st.handleClosedTcpSocket cfg socket) := by
  obtain ⟨ns, hlisted⟩ := hsound.wellFormed
  obtain ⟨st₁, htimer, hreleased⟩ := removeSocketTimerFromList_released hsocket st
  have hshrunk := shrunk_removeSocketTimerFromList hlisted htimer
  have hpersists : Persists (st.view cfg) (st₁.view cfg) := by
    rw [hshrunk.view_eq]
    exact .refl _
  have h₁ : Retains cfg owner st st₁ :=
    ⟨hshrunk.sound hsound.regular hsound, hpersists, .of_eq hreleased.registeredSessions,
      hanchored.kept hreleased.registeredSessions hpersists⟩
  have hlone₁ := hlone.after hsocket h₁
  obtain ⟨st₂, hremove, h₂⟩ := removeSession_anchored h₁.sound h₁.anchored hlone₁
  obtain ⟨st₃, hclose, hkeeps⟩ :=
    disconnect_anchored h₂.sound h₂.anchored hsocket (hlone₁.after hsocket h₂)
  simp only [handleClosedTcpSocket, htimer, hremove, hclose]
  exact (hkeeps.after h₂).after h₁

theorem anchored_of_io {st' : StackState} (hio : ∀ r ∈ st.connectionList cfg, r.isIo = true)
    (hpersists : Persists (st.view cfg) (st'.view cfg)) : st'.Anchored cfg owner := by
  intro r hr hexplicit
  rw [hio r (hpersists.sublist.subset hr)] at hexplicit
  cases hexplicit

/-- The connections that expire free sessions of one explicit connection at most. -/
theorem steady_of_clean (hsound : st.Sound cfg)
    (htabled : st.Tabled cfg.numberOfSupportedSessions) (hanchored : st.Anchored cfg owner)
    {elapsedTime : UInt64} (hclean : ∀ r ∈ st.connectionList cfg,
      (st.conn r).expires elapsedTime = true → st.expiresCleanly cfg env r = true) :
    ∃ due peer, st.Steady cfg env due peer owner ∧ ∀ r ∈ st.connectionList cfg,
      (st.conn r).expires elapsedTime = true → Doomed due peer r (st.conn r) := by
  let due : ConnRef → Prop := fun r =>
    r ∈ st.connectionList cfg ∧ (st.conn r).expires elapsedTime = true
  let peer : UInt32 → Prop := fun address => ∃ r, due r ∧ r.isIo = true ∧
    address = (st.conn r).originatorAddress.sinAddr
  refine ⟨due, peer, ⟨hsound, htabled, hanchored, ?_, ?_⟩, fun r hr hexpires =>
    ⟨fun _ => ⟨hr, hexpires⟩, fun hio => ⟨r, ⟨hr, hexpires⟩, hio, rfl⟩⟩⟩
  · rintro r hr hio ⟨-, hexpires⟩
    have hlone := hclean r hr hexpires
    rw [expiresCleanly, hio] at hlone
    exact lone_of_eq_true hlone
  · rintro socket hsocket ⟨r, ⟨hr, hexpires⟩, hio, haddress⟩ i hi
    have hall := hclean r hr hexpires
    rw [expiresCleanly, hio] at hall
    have hlone := List.all_eq_true.mp hall socket (List.mem_of_getElem? hi)
    simp only [Bool.or_eq_true, decide_eq_true_eq] at hlone
    rcases hlone with (hinvalid | hother) | hlone
    · exact absurd hinvalid hsocket
    · exact absurd haddress hother
    · exact loneSocket_of_eq_true hlone i hi

theorem manageConnections_anchored (hsound : st.Sound cfg)
    (htabled : st.Tabled cfg.numberOfSupportedSessions) (hanchored : st.Anchored cfg owner)
    {elapsedTime : UInt64} (hclean : ∀ r ∈ st.connectionList cfg,
      (st.conn r).expires elapsedTime = true → st.expiresCleanly cfg env r = true) :
    Outcome (· ≠ .endlessTimerLoop) (fun st' => st'.Sound cfg ∧
      st'.Tabled cfg.numberOfSupportedSessions ∧ st'.Anchored cfg owner)
      (st.manageConnections cfg env elapsedTime) := by
  obtain ⟨due, peer, hsteady, hdoomed⟩ := steady_of_clean hsound htabled hanchored hclean
  exact ((Steady.tickInvariant cfg env due peer _ owner).manageConnections hsteady elapsedTime
    (fun _ hfault => hfault) hdoomed).imp fun st' h => ⟨h.sound, h.tabled, h.anchored⟩

theorem persists_of_step (hsound : st.Sound cfg) {label : Environment × Action}
    {st' : StackState} (hentry : openEntry cfg label st = none)
    (hstep : st.step cfg label = .ok st') : Persists (st.view cfg) (st'.view cfg) := by
  have htransition := (step_spec hsound hstep).2
  generalize st'.view cfg = V' at htransition
  cases htransition with
  | quiet moves => exact .moves moves
  | opening entry before answered after =>
      rw [hentry] at entry
      cases entry

theorem anchored_step (hsound : st.Sound cfg)
    (htabled : st.Tabled cfg.numberOfSupportedSessions) (hanchored : st.Anchored cfg owner)
    {label : Environment × Action} (hclean : freesCleanly cfg label st = true)
    {st' : StackState} (hstep : st.step cfg label = .ok st') :
    st'.Anchored cfg (ownersAfter cfg st st' owner) := by
  obtain ⟨env, action⟩ := label
  obtain ⟨hcalls, hclean⟩ := Bool.and_eq_true_iff.mp hclean
  -- a call that lists nobody and returns as `KeepsAnchors` says
  have hkeeps : KeepsAnchors cfg owner st (st.step cfg (env, action)) →
      st'.Anchored cfg (ownersAfter cfg st st' owner) := by
    rintro ⟨st₁, hcall, hretains⟩
    rw [hstep, Except.ok.injEq] at hcall
    subst hcall
    exact hretains.anchored.watched fun r hr _ => hretains.persists.sublist.subset hr
  have hkept : action.dealsWithSessions = false →
      st'.registeredSessions = st.registeredSessions := by
    intro hlabel
    have haloof : Aloof st (st.step cfg (env, action)) := step_aloof cfg hlabel st
    rw [hstep] at haloof
    exact haloof.registeredSessions
  cases action with
  | sendRRData _ _ _ | sendUnitData _ _ _ | triggerConnections _ _
  | checkAndHandleConsumingUdpSocket | closeAllConnections | writeAssemblies _ =>
      exact hanchored.step hsound hstep (hkept rfl)
  | setLastUpdate timer =>
      refine hanchored.step hsound hstep ?_
      cases hstep
      rfl
  | registerSession socket =>
      have hpersists := persists_of_step hsound rfl hstep
      exact (registerSession_anchored hanchored hstep).watched fun r hr _ =>
        hpersists.sublist.subset hr
  | unregisterSession sessionHandle =>
      exact hkeeps (unregisterSession_anchored hsound hanchored (lone_of_eq_true hclean))
  | closeSession socket =>
      exact hkeeps (closeSession_anchored hsound hanchored (of_decide_eq_true hcalls)
        (loneSocket_of_eq_true hclean))
  | removeSession socket =>
      simp only [callsWithSocket, Bool.and_eq_true, decide_eq_true_eq, List.all_eq_true]
        at hcalls
      have hcall : st.removeSession cfg socket = .ok st :=
        removeSession_without_timer htabled hcalls.1 hcalls.2
      refine hkeeps ?_
      rw [StackState.step, hcall]
      exact .refl hsound hanchored
  | disconnect socket =>
      obtain ⟨st₁, hclose, hremove⟩ := disconnect_anchored hsound hanchored
        (of_decide_eq_true hcalls) (loneSocket_of_eq_true hclean)
      refine hkeeps ?_
      simp only [StackState.step, hclose]
      exact hremove
  | checkEncapsulationInactivity socket =>
      rcases Bool.or_eq_true_iff.mp hclean with hidle | hlone
      · refine hkeeps ?_
        rw [StackState.step, idle_of_ne (Bool.not_eq_true' _ |>.mp hidle)]
        exact .refl hsound hanchored
      · exact hkeeps (checkEncapsulationInactivity_anchored hsound hanchored
          (of_decide_eq_true hcalls) (loneSocket_of_eq_true hlone))
  | handleClosedTcpSocket socket =>
      exact hkeeps (handleClosedTcpSocket_anchored hsound hanchored
        (of_decide_eq_true hcalls) (loneSocket_of_eq_true hclean))
  | manageConnections elapsedTime =>
      have hpersists := persists_of_step hsound rfl hstep
      have houtcome := manageConnections_anchored hsound htabled hanchored fun r hr hexpires => by
        have hr' := List.all_eq_true.mp hclean r hr
        rw [hexpires] at hr'
        exact hr'
      rw [show st.manageConnections cfg env elapsedTime = .ok st' from hstep] at houtcome
      exact houtcome.2.2.watched fun r hr _ => hpersists.sublist.subset hr
  | encapsulationShutDown =>
      have hpersists := persists_of_step hsound rfl hstep
      exact (anchored_of_io (List.all_eq_true.mp hclean) hpersists).watched fun r hr _ =>
        hpersists.sublist.subset hr

/-- What holds in every state of a clean run. -/
structure Owned (cfg : Config) (st : StackState) (owner : ConnRef → Int) : Prop where
  sound : st.Sound cfg
  tabled : st.Tabled cfg.numberOfSupportedSessions
  anchored : st.Anchored cfg owner

theorem Owned.step (h : Owned cfg st owner) {label : Environment × Action}
    (hclean : freesCleanly cfg label st = true) :
    Outcome (· ≠ .endlessTimerLoop) (fun st' => Owned cfg st' (ownersAfter cfg st st' owner))
      (st.step cfg label) := by
  have htabled : Outcome (· ≠ .endlessTimerLoop) (Tabled cfg.numberOfSupportedSessions)
      (st.step cfg label) := by
    obtain ⟨env, action⟩ := label
    obtain ⟨hcalls, hclean⟩ := Bool.and_eq_true_iff.mp hclean
    by_cases htick : ∃ elapsedTime, action = .manageConnections elapsedTime
    · obtain ⟨elapsedTime, rfl⟩ := htick
      refine (manageConnections_anchored h.sound h.tabled h.anchored
        fun r hr hexpires => ?_).imp fun st' hst' => hst'.2.1
      have hr' := List.all_eq_true.mp hclean r hr
      rw [hexpires] at hr'
      exact hr'
    · exact h.tabled.step cfg hcalls fun elapsedTime heq => htick ⟨elapsedTime, heq⟩
  cases hstep : st.step cfg label with
  | error fault =>
      rw [hstep] at htabled
      exact htabled
  | ok st' =>
      rw [hstep] at htabled
      exact ⟨(step_spec h.sound hstep).1, htabled,
        anchored_step h.sound h.tabled h.anchored hclean hstep⟩

/-- The run with the owners of explicit connections. -/
def watchedStep (cfg : Config) (label : Environment × Action)
    (s : StackState × (ConnRef → Int)) : Except Fault (StackState × (ConnRef → Int)) :=
  Runs.watched (StackState.step cfg) (ownersAfter cfg) label s

theorem owned_of_reaches {assemblyData : UInt16 → List UInt8}
    {s : StackState × (ConnRef → Int)}
    (h : Runs.Reaches (watchedStep cfg) (fun label s => freesCleanly cfg label s.1 = true)
      (initialState cfg assemblyData, fun _ => eipInvalidSocket) s) : Owned cfg s.1 s.2 := by
  refine h.invariant (fun s => Owned cfg s.1 s.2) ⟨sound_initialState cfg assemblyData,
    tabled_initialState cfg assemblyData, ?_⟩ ?_
  · intro r hr
    rw [connectionList_initialState] at hr
    cases hr
  · intro label s s' hs hclean hstep
    obtain ⟨htaken, hnote⟩ := Runs.watched_eq_ok hstep
    have houtcome := hs.step hclean
    rw [htaken] at houtcome
    rw [hnote]
    exact houtcome

/-- Every explicit connection has a session that is registered on the socket it was
registered on when the connection was opened. -/
theorem class3_session_kept {assemblyData : UInt16 → List UInt8}
    (h : Runs.Reaches (watchedStep cfg) (fun label s => freesCleanly cfg label s.1 = true)
      (initialState cfg assemblyData, fun _ => eipInvalidSocket) (st, owner)) :
    ∀ r ∈ st.connectionList cfg, r.isIo = false →
      0 < (st.conn r).associatedEncapsulationSession ∧
        st.registeredSessions[((st.conn r).associatedEncapsulationSession - 1).toNat]? =
          some (owner r) ∧ owner r ≠ eipInvalidSocket :=
  (owned_of_reaches h).anchored

open SampleApplication in
/-- Two clients, the first one with a class 3 connection. -/
theorem class3_session_kept_sample :
    ∃ st owner, Runs.Reaches (watchedStep config)
        (fun label s => freesCleanly config label s.1 = true)
        (initialState config SampleApplication.assemblyData, fun _ => eipInvalidSocket)
        (st, owner) ∧
      (st.connectionList config = [.explicit 0] ∧ owner (.explicit 0) = 5 ∧
        st.sessionOfSocket 6 = some 1) ∧
      ∀ r ∈ st.connectionList config, r.isIo = false →
        0 < (st.conn r).associatedEncapsulationSession ∧
          st.registeredSessions[((st.conn r).associatedEncapsulationSession - 1).toNat]? =
            some (owner r) ∧ owner r ≠ eipInvalidSocket := by
  obtain ⟨⟨st, owner⟩, hreaches, hst⟩ := Runs.reaches_of_accepts
    (watchedStep config) (fun label s => freesCleanly config label s.1)
    .assertionFailed
    [register, request (class3 1 1), (environment 0 20, .registerSession 6)]
    (initialState config SampleApplication.assemblyData, fun _ => eipInvalidSocket)
    (fun s => s.1.connectionList config = [.explicit 0] ∧ s.2 (.explicit 0) = 5 ∧
      s.1.sessionOfSocket 6 = some 1) (by decide +kernel)
  exact ⟨st, owner, hreaches, of_decide_eq_true hst, class3_session_kept hreaches⟩

open SampleApplication in
/-- The session of two class 3 connections is unregistered and the next client gets
its handle; one of the connections is still there. -/
theorem class3_session_reassigned_sample :
    ¬∀ st owner, Runs.Reaches (watchedStep config)
        (fun label s => callsWithSocket label s.1 = true)
        (initialState config SampleApplication.assemblyData, fun _ => eipInvalidSocket)
        (st, owner) →
      ∀ r ∈ st.connectionList config, r.isIo = false →
        st.registeredSessions[((st.conn r).associatedEncapsulationSession - 1).toNat]? =
          some (owner r) := by
  intro hclaim
  obtain ⟨⟨st, owner⟩, hreaches, hst⟩ := Runs.reaches_of_accepts
    (watchedStep config) (fun label s => callsWithSocket label s.1)
    .assertionFailed
    [register, request (class3 1 1), request (class3 2 1),
      (environment 0 20, .unregisterSession 1), (environment 0 20, .registerSession 7)]
    (initialState config SampleApplication.assemblyData, fun _ => eipInvalidSocket)
    (fun s => s.1.connectionList config = [.explicit 0] ∧ s.2 (.explicit 0) = 5 ∧
      s.1.registeredSessions[((s.1.conn (.explicit 0)).associatedEncapsulationSession -
        1).toNat]? = some 7) (by decide +kernel)
  obtain ⟨hlist, howner, hsession⟩ := of_decide_eq_true hst
  dsimp only at hlist howner hsession
  have hkept := hclaim st owner hreaches (.explicit 0) (by rw [hlist]; simp) rfl
  rw [howner] at hkept
  exact absurd (hsession.symm.trans hkept) (by decide)

/-- In a clean run every call of `CloseTcpSocket` returns: no step ends in the loop
over the timers, and where it is called the loop takes at most a turn for each
supported session and leaves no timer with the socket. -/
theorem closeTcpSocket_terminates {assemblyData : UInt16 → List UInt8}
    (h : Runs.Reaches (step cfg) (fun label st => freesCleanly cfg label st = true)
      (initialState cfg assemblyData) st) :
    st.timestamps.length = cfg.numberOfSupportedSessions ∧
      (∀ label, freesCleanly cfg label st = true →
        st.step cfg label ≠ .error .endlessTimerLoop) ∧
      ∀ (st₁ st₂ : StackState) (socket : Int),
        st₁.timestamps.length = cfg.numberOfSupportedSessions →
        st₁.closeTcpSocket socket = .ok st₂ →
          clearTimers socket cfg.numberOfSupportedSessions st₁.timestamps =
              some st₂.timestamps ∧
            ∀ t ∈ st₂.timestamps, t.socket ≠ socket := by
  obtain ⟨owner, hwatched⟩ := h.watched (ownersAfter cfg) fun _ => eipInvalidSocket
  have howned : Owned cfg st owner := owned_of_reaches hwatched
  refine ⟨howned.tabled.timers_length, ?_, ?_⟩
  · intro label hclean herror
    have houtcome := howned.step hclean
    rw [herror] at houtcome
    exact houtcome rfl
  · intro st₁ st₂ socket hlength hcall
    obtain ⟨hturns, hgone⟩ := (closeTcpSocket_loop socket st₁).1 st₂ hcall
    rw [hlength] at hturns
    exact ⟨hturns, hgone⟩

open SampleApplication in
/-- A class 3 connection times out and takes its session along. -/
theorem closeTcpSocket_terminates_sample :
    ∃ st, Runs.Reaches (step config) (fun label st => freesCleanly config label st = true)
        (initialState config SampleApplication.assemblyData) st ∧
      ((st.conn (.explicit 0)).expires 10000 = true ∧
        freesCleanly config (tick 10000) st = true) ∧
      st.step config (tick 10000) ≠ .error .endlessTimerLoop := by
  obtain ⟨st, hreaches, hst⟩ := reaches_of_endsWithin config (freesCleanly config)
    [request (class3 1 1), (environment 0 20, .registerSession 6)]
    (fun st => (st.conn (.explicit 0)).expires 10000 = true ∧
      freesCleanly config (tick 10000) st = true)
    (by decide +kernel)
  have hst := of_decide_eq_true hst
  exact ⟨st, hreaches, hst, (closeTcpSocket_terminates hreaches).2.1 _ hst.2⟩

open SampleApplication in
/-- A class 3 connection that outlived its session times out: the loop over the
timers looks for the invalid socket and finds it for ever. -/
theorem closeTcpSocket_endless_sample :
    ∃ st, Runs.Reaches (step config) (fun label st => callsWithSocket label st = true)
        (initialState config SampleApplication.assemblyData) st ∧
      st.step config (tick 10000) = .error .endlessTimerLoop ∧
      st.closeTcpSocket (st.sessionSocket (st.conn (.explicit 0))) =
        .error .endlessTimerLoop ∧
      ∀ turns, clearTimers (st.sessionSocket (st.conn (.explicit 0))) turns st.timestamps =
        none := by
  obtain ⟨st, hreaches, hst⟩ := reaches_of_endsWithin config callsWithSocket
    [request (class3 1 1), request (class3 2 1), (environment 0 20, .unregisterSession 1)]
    (fun st => faults (st.step config (tick 10000)) .endlessTimerLoop &&
      faults (st.closeTcpSocket (st.sessionSocket (st.conn (.explicit 0)))) .endlessTimerLoop)
    (by decide +kernel)
  rw [Bool.and_eq_true, faults_iff, faults_iff] at hst
  obtain ⟨htick, hclose⟩ := hst
  exact ⟨st, hreaches, htick, hclose, (closeTcpSocket_loop _ st).2 _ hclose⟩

end StackState

end Opener

import Opener.Metatheory.Courses

/-!
The Closed events of a run. A close function reports the connection that it closes,
and `CloseAllConnectionsForInputWithSameType` reports each connection once more
before it calls the close function. A slot whose connection is not listed is
reported all the same when its close function is called. Apart from these two, each
step reports exactly the I/O connections that left the list.
-/

namespace Opener

open LinkedCells

namespace StackState

variable {cfg : Config} {env : Environment} {label : Environment × Action}
variable {st st₁ st' : StackState}

/-- The I/O connections that left the list, given what was reported meanwhile. A
connection that was opened is at the head of the list, whoever had its slot before
has left. -/
def removed (cfg : Config) (issued : List ((UInt16 × UInt16) × IoConnectionEvent))
    (st st' : StackState) : List ConnRef :=
  (st.ioConnections cfg).filter fun r =>
    !(st'.ioConnections cfg).contains r ||
      ((st'.ioConnections cfg).head? = some r && issued.any fun report => report.2 = .opened)

/-- Each I/O connection that left the list was reported as closed once, and nothing
else was. -/
def ReportsRemovals (cfg : Config) (st st' : StackState) : Prop :=
  ∃ issued, st'.reports = st.reports ++ issued ∧
    (issued.filter fun report => report.2 = .closed).Perm
      ((removed cfg issued st st').map fun r => ((st.conn r).assemblies, .closed))

/-- Whether a connection of the type and input is listed. -/
def lists (cfg : Config) (instanceType : ConnectionObjectInstanceType) (inputPoint : UInt16)
    (st : StackState) : Bool :=
  (st.connectionList cfg).any fun r =>
    (st.conn r).instanceType = instanceType && (st.conn r).producedPath.instanceId = inputPoint

/-- A multicast producer finds another connection of its input. -/
def handsOver (cfg : Config) (r : ConnRef) (st : StackState) : Bool :=
  isMulticastMaster (st.conn r) &&
    (st.getNextNonControlMasterConnection cfg (st.conn r).producedPath.instanceId).isSome

/-- Closing it closes no listener. -/
def closesAlone (cfg : Config) (r : ConnRef) (st : StackState) : Bool :=
  !isMulticastMaster (st.conn r) || st.handsOver cfg r ||
    !st.lists cfg .ioListenOnly (st.conn r).producedPath.instanceId

/-- Timing it out closes neither listeners nor input-only connections. -/
def expiresAlone (cfg : Config) (r : ConnRef) (st : StackState) : Bool :=
  st.closesAlone cfg r && ((st.conn r).instanceType ≠ .ioExclusiveOwner ||
    st.handsOver cfg r ||
    (!st.lists cfg .ioInputOnly (st.conn r).producedPath.instanceId &&
      !st.lists cfg .ioListenOnly (st.conn r).producedPath.instanceId))

/-- A listed connection is closed or times out, and no other one with it. -/
def departsAlone (cfg : Config) : Departure → Bool
  | .closed r st => (st.connectionList cfg).contains r && st.closesAlone cfg r
  | .expired r st => st.expiresAlone cfg r

/-- The step carries out closes and time-outs of listed connections that take no
other connection with them. -/
def closesSingly (cfg : Config) (label : Environment × Action) (st : StackState) : Bool :=
  (departures cfg label st).all (departsAlone cfg)

theorem lists_eq_false {instanceType : ConnectionObjectInstanceType} {inputPoint : UInt16}
    (h : st.lists cfg instanceType inputPoint = false) {r : ConnRef}
    (hr : r ∈ st.connectionList cfg) : ¬((st.conn r).instanceType = instanceType ∧
      (st.conn r).producedPath.instanceId = inputPoint) := by
  have hnot := List.any_eq_false.mp h r hr
  simpa using hnot

theorem closeAllConnections_nobody (hwell : st.WellFormed cfg)
    {close : ConnRef → StackState → Except Fault StackState} {inputPoint : UInt16}
    {instanceType : ConnectionObjectInstanceType}
    (hnobody : st.lists cfg instanceType inputPoint = false)
    (hcall : st.closeAllConnectionsForInputWithSameType cfg close inputPoint instanceType =
      .ok st') : st' = st := by
  obtain ⟨ns, hlisted⟩ := hwell
  refine savedWalk_turns (fun s => s = st) ?_ rfl hcall
  rintro s n r turn rfl hdata - hbody
  have hr := hlisted.mem.mpr ⟨n, hlisted.mem_of_data hdata, hdata⟩
  rw [if_neg (lists_eq_false hnobody hr)] at hbody
  cases hbody
  rfl

theorem lists_persists (h : Persists (st.view cfg) (st'.view cfg))
    {instanceType : ConnectionObjectInstanceType} {inputPoint : UInt16}
    (hnobody : st.lists cfg instanceType inputPoint = false) :
    st'.lists cfg instanceType inputPoint = false := by
  refine List.any_eq_false.mpr fun r hr => ?_
  have hbefore := lists_eq_false hnobody (h.sublist.subset hr)
  have hlasting := h.lasting r hr
  have htype : (st'.conn r).instanceType = (st.conn r).instanceType :=
    CipConnectionObject.lasting_field hlasting (·.instanceType) fun _ => rfl
  have hinput : (st'.conn r).producedPath = (st.conn r).producedPath :=
    CipConnectionObject.lasting_field hlasting (·.producedPath) fun _ => rfl
  rw [htype, hinput]
  simpa using hbefore

/-- How the listed I/O connections and the reports change while connections leave. -/
structure Accounts (cfg : Config) (st st' : StackState) : Prop where
  sublist : (st'.ioConnections cfg).Sublist (st.ioConnections cfg)
  assemblies : ∀ r ∈ st'.ioConnections cfg,
    (st'.conn r).assemblies = (st.conn r).assemblies
  issued : ∃ issued, st'.reports = st.reports ++ issued ∧
    issued.Perm (((st.ioConnections cfg).filter fun r =>
      !(st'.ioConnections cfg).contains r).map fun r => ((st.conn r).assemblies, .closed))

namespace Accounts

theorem nothing (hmembers : st'.ioConnections cfg = st.ioConnections cfg)
    (hassemblies : ∀ r ∈ st.ioConnections cfg,
      (st'.conn r).assemblies = (st.conn r).assemblies)
    (hreports : st'.reports = st.reports) : Accounts cfg st st' := by
  refine ⟨hmembers ▸ .refl _, hmembers ▸ hassemblies, [], ?_, ?_⟩
  · rw [hreports, List.append_nil]
  · rw [hmembers, List.filter_eq_nil_iff.mpr fun r hr => by simpa using hr]
    exact .refl _

theorem refl (st : StackState) : Accounts cfg st st := nothing rfl (fun _ _ => rfl) rfl

theorem of_silent (h : Silent cfg st st') : Accounts cfg st st' :=
  nothing h.members (fun r hr => CipConnectionObject.profile_field (h.profile r hr)
    CipConnectionObject.assemblies fun _ => rfl) h.reports

theorem trans (hnodup : (st.connectionList cfg).Nodup) (h : Accounts cfg st st₁)
    (h' : Accounts cfg st₁ st') : Accounts cfg st st' := by
  have hnodup' : (st.ioConnections cfg).Nodup := hnodup.filter _
  refine ⟨h'.sublist.trans h.sublist, fun r hr => ?_, ?_⟩
  · rw [h'.assemblies r hr, h.assemblies r (h'.sublist.subset hr)]
  · obtain ⟨issued, hreports, hperm⟩ := h.issued
    obtain ⟨issued', hreports', hperm'⟩ := h'.issued
    refine ⟨issued ++ issued', ?_, ?_⟩
    · rw [hreports', hreports, List.append_assoc]
    · let left := ((st.ioConnections cfg).filter fun r => !(st'.ioConnections cfg).contains r)
      have hfirst : left.filter (fun r => !(st₁.ioConnections cfg).contains r) =
          (st.ioConnections cfg).filter fun r => !(st₁.ioConnections cfg).contains r := by
        rw [List.filter_filter]
        refine List.filter_congr fun r _ => ?_
        by_cases hr : r ∈ st₁.ioConnections cfg
        · simp [hr]
        · have hr' : r ∉ st'.ioConnections cfg := fun hmem => hr (h'.sublist.subset hmem)
          simp [hr, hr']
      have hsecond : left.filter (fun r => !!(st₁.ioConnections cfg).contains r) =
          (st₁.ioConnections cfg).filter fun r => !(st'.ioConnections cfg).contains r := by
        nth_rewrite 2 [eq_filter_of_sublist h.sublist hnodup']
        rw [List.filter_filter, List.filter_filter]
        refine List.filter_congr fun r _ => ?_
        by_cases hr : r ∈ st₁.ioConnections cfg
        · simp [hr]
        · simp [hr]
      have hsplit := List.filter_append_perm
        (fun r => !(st₁.ioConnections cfg).contains r) left
      rw [hfirst, hsecond] at hsplit
      have hsame : ((st₁.ioConnections cfg).filter fun r =>
          !(st'.ioConnections cfg).contains r).map
            (fun r => ((st₁.conn r).assemblies, IoConnectionEvent.closed)) =
          ((st₁.ioConnections cfg).filter fun r =>
            !(st'.ioConnections cfg).contains r).map
              fun r => ((st.conn r).assemblies, IoConnectionEvent.closed) := by
        refine List.map_congr_left fun r hr => ?_
        rw [h.assemblies r (List.mem_filter.mp hr).1]
      rw [hsame] at hperm'
      have hboth := hperm.append hperm'
      rw [← List.map_append] at hboth
      exact hboth.trans (hsplit.map _)

end Accounts

/-- The list is the same and nothing was reported. -/
structure Unreported (cfg : Config) (st st' : StackState) : Prop where
  list : st'.store.connectionList = st.store.connectionList
  persists : Persists (st.view cfg) (st'.view cfg)
  reports : st'.reports = st.reports

namespace Unreported

theorem refl (st : StackState) : Unreported cfg st st := ⟨rfl, .refl _, rfl⟩

theorem connectionList_eq (h : Unreported cfg st st') :
    st'.connectionList cfg = st.connectionList cfg := by
  rw [connectionList, h.list, connectionList]

theorem wellFormed (h : Unreported cfg st st') (hwell : st.WellFormed cfg) :
    st'.WellFormed cfg := by
  rw [WellFormed]
  simp only [Listed, h.list]
  exact hwell

theorem transferMasterConnection {r : ConnRef}
    (hcall : st.transferMasterConnection cfg r = some st') : Unreported cfg st st' := by
  rw [StackState.transferMasterConnection] at hcall
  split at hcall
  · cases hcall
  · rename_i heir hnext
    cases hcall
    have hinherit : Persists (st.view cfg)
        ((st.view cfg).modify heir (View.inherit (st.conn r))) :=
      .modify rfl fun hstate => hstate
    have hretire : Persists ((st.view cfg).modify heir (View.inherit (st.conn r)))
        (((st.view cfg).modify heir (View.inherit (st.conn r))).modify r View.retire) :=
      .modify rfl fun hstate => hstate
    exact ⟨rfl, hinherit.trans hretire, rfl⟩

end Unreported

theorem handsOver_marked (hregular : Regular cfg (st.view cfg)) {r : ConnRef}
    {dropped : ConnRef → Bool} (hdropped : ∀ s, dropped s = true → s.isIo = false)
    (hr : dropped r = false) {state : ConnectionObjectState}
    (hview : st'.view cfg = ((st.view cfg).without dropped).modify r fun c => c.setState state)
    (h : st.handsOver cfg r = true) : st'.handsOver cfg r = true := by
  rw [handsOver, Bool.and_eq_true] at h
  obtain ⟨hmaster, hnext⟩ := h
  obtain ⟨heir, hheir⟩ := Option.isSome_iff_exists.mp hnext
  have hsuccessor : (st.view cfg).successor (st.conn r).producedPath.instanceId = some heir :=
    hheir
  obtain ⟨hmember, hio⟩ := hregular.successor_isIo hsuccessor
  have hstays : dropped heir = false := by
    cases hd : dropped heir with
    | false => rfl
    | true => exact absurd (hdropped heir hd) (by simp [hio])
  have htakes := List.find?_some hsuccessor
  have hne : heir ≠ r := View.successor_ne hmaster hsuccessor
  have hmarked : st'.conn r = (st.conn r).setState state := by
    rw [← view_object cfg, hview, View.modify_object_self, View.without_object, hr]
    rfl
  have hother : st'.conn heir = st.conn heir := by
    rw [← view_object cfg, hview, View.modify_object_of_ne _ hne, View.without_object, hstays]
    rfl
  have hlisted : heir ∈ st'.connectionList cfg := by
    rw [← view_members, hview, View.modify_members]
    exact (View.mem_without _).mpr ⟨hmember, hstays⟩
  rw [handsOver, hmarked, Bool.and_eq_true]
  refine ⟨hmaster, ?_⟩
  have hfound : ((st'.view cfg).successor (st.conn r).producedPath.instanceId).isSome := by
    refine List.find?_isSome.mpr ⟨heir, hlisted, ?_⟩
    rw [view_object, hother]
    exact htakes
  exact hfound

theorem closesAlone_marked (hregular : Regular cfg (st.view cfg)) {r : ConnRef}
    {dropped : ConnRef → Bool} (hdropped : ∀ s, dropped s = true → s.isIo = false)
    (hr : dropped r = false) {state : ConnectionObjectState} (hstate : state ≠ .established)
    (hview : st'.view cfg = ((st.view cfg).without dropped).modify r fun c => c.setState state)
    (h : st.closesAlone cfg r = true) :
    Persists (st.view cfg) (st'.view cfg) ∧ st'.closesAlone cfg r = true := by
  have hmarked : st'.conn r = (st.conn r).setState state := by
    rw [← view_object cfg, hview, View.modify_object_self, View.without_object, hr]
    rfl
  have hpersists : Persists (st.view cfg) (st'.view cfg) := by
    rw [hview]
    exact (Persists.without _ dropped).trans (.modify rfl fun heq => absurd heq hstate)
  refine ⟨hpersists, ?_⟩
  simp only [closesAlone, Bool.or_eq_true, Bool.not_eq_true'] at h ⊢
  rw [hmarked]
  obtain (hmaster | hover) | hnobody := h
  · exact .inl (.inl hmaster)
  · exact .inl (.inr (handsOver_marked hregular hdropped hr hview hover))
  · exact .inr (lists_persists hpersists hnobody)

/-- A multicast producer that leaves alone hands over, or there is nobody to close. -/
theorem handOver_unreported (hwell : st.WellFormed cfg) {r : ConnRef}
    (halone : st.closesAlone cfg r = true) (hmaster : isMulticastMaster (st.conn r) = true) :
    (∃ st', st.transferMasterConnection cfg r = some st' ∧ Unreported cfg st st') ∨
      (st.handsOver cfg r = false ∧ st.transferMasterConnection cfg r = none ∧
        ∀ close st', st.closeAllConnectionsForInputWithSameType cfg close
          (st.conn r).producedPath.instanceId .ioListenOnly = .ok st' → st' = st) := by
  cases hover : st.handsOver cfg r with
  | true =>
      rw [handsOver, hmaster, Bool.true_and] at hover
      obtain ⟨heir, hheir⟩ := Option.isSome_iff_exists.mp hover
      cases htransfer : st.transferMasterConnection cfg r with
      | none => simp [transferMasterConnection, hheir] at htransfer
      | some st' => exact .inl ⟨st', rfl, .transferMasterConnection htransfer⟩
  | false =>
      have hnobody : st.lists cfg .ioListenOnly (st.conn r).producedPath.instanceId = false := by
        simpa [closesAlone, hmaster, hover] using halone
      refine .inr ⟨rfl, ?_, fun close st' => closeAllConnections_nobody hwell hnobody⟩
      rw [handsOver, hmaster, Bool.true_and] at hover
      have hnone := Option.isSome_eq_false_iff.mp hover
      simp only [transferMasterConnection, Option.isNone_iff_eq_none.mp hnone]

theorem Accounts.leaves {r : ConnRef} (hnodup : (st.connectionList cfg).Nodup)
    (hr : r ∈ st.connectionList cfg) (hio : r.isIo = true)
    (hmembers : st'.connectionList cfg =
      (st.connectionList cfg).filter fun s => !decide (s = r))
    (hassemblies : ∀ s ∈ st'.connectionList cfg,
      (st'.conn s).assemblies = (st.conn s).assemblies)
    (hreports : st'.reports = st.reports ++ [((st.conn r).assemblies, .closed)]) :
    Accounts cfg st st' := by
  have hio' : st'.ioConnections cfg = (st.ioConnections cfg).filter fun s => !decide (s = r) := by
    rw [ioConnections, hmembers, List.filter_filter, ioConnections, List.filter_filter]
    exact List.filter_congr fun s _ => Bool.and_comm _ _
  have hmem : r ∈ st.ioConnections cfg := mem_ioConnections.mpr ⟨hr, hio⟩
  have hleft : (st.ioConnections cfg).filter (fun s => !(st'.ioConnections cfg).contains s) =
      [r] := by
    have hsame : (st.ioConnections cfg).filter
        (fun s => !(st'.ioConnections cfg).contains s) =
          (st.ioConnections cfg).filter fun s => decide (s = r) := by
      rw [hio']
      refine List.filter_congr fun s hs => ?_
      by_cases heq : s = r
      · simp [heq]
      · simp [heq, hs]
    have hnodup' : (st.ioConnections cfg).Nodup := hnodup.filter _
    rw [hsame, List.filter_eq, List.count_eq_one_of_mem hnodup' hmem]
    rfl
  refine ⟨?_, fun s hs => ?_, _, hreports, ?_⟩
  · rw [hio']
    exact List.filter_sublist
  · exact hassemblies s (mem_ioConnections.mp hs).1
  · rw [hleft]
    exact .refl _

theorem reports_checkIoConnectionEvent_closed (st : StackState) (c : CipConnectionObject) :
    (st.checkIoConnectionEvent c .closed).reports = st.reports ++ [(c.assemblies, .closed)] := by
  rw [reports, checkIoConnectionEvent, List.filterMap_append]
  rfl

theorem reports_closeCommunicationChannels (cfg : Config) (r : ConnRef) (st : StackState) :
    (st.closeCommunicationChannelsAndRemoveFromActiveConnectionsList cfg r).reports =
      st.reports := by
  simp only [closeCommunicationChannelsAndRemoveFromActiveConnectionsList]
  rw [reports_remove]
  exact (reports_closeSocket _ _).trans (reports_closeSocket _ _)

theorem closeIoConnection_accounts (hsound : st.Sound cfg) {r : ConnRef}
    (hr : r ∈ st.connectionList cfg) (hio : r.isIo = true)
    (halone : st.closesAlone cfg r = true)
    {close : ConnRef → StackState → Except Fault StackState}
    (hcall : st.closeIoConnection cfg close r = .ok st') : Accounts cfg st st' := by
  obtain ⟨ns, hlisted⟩ := hsound.wellFormed
  have hmarking := shrunk_modifyConn
    (shrunk_checkIoConnectionEvent hlisted (st.conn r) .closed).listed r
      fun c => c.setState .nonExistent
  have hview := hmarking.view_eq
  rw [view_checkIoConnectionEvent] at hview
  have hreports : ((st.checkIoConnectionEvent (st.conn r) .closed).modifyConn r
      fun c => c.setState .nonExistent).reports =
        st.reports ++ [((st.conn r).assemblies, .closed)] :=
    reports_checkIoConnectionEvent_closed st (st.conn r)
  simp only [closeIoConnection] at hcall
  generalize (st.checkIoConnectionEvent (st.conn r) .closed).modifyConn r
    (fun c => c.setState .nonExistent) = st₁ at hcall hmarking hview hreports
  have hmarked : st₁.view cfg = ((st.view cfg).without fun _ => false).modify r
      fun c => c.setState .nonExistent := by
    rw [View.without_none _ fun _ => rfl]
    exact hview
  obtain ⟨hpersists, halone₁⟩ :=
    closesAlone_marked hsound.regular (by simp) rfl (by simp) hmarked halone
  split at hcall
  · cases hcall
  · rename_i st₂ hover
    cases hcall
    have hunreported : Unreported cfg st₁ st₂ := by
      split at hover
      · rename_i hmaster
        obtain ⟨st₃, htransfer, hunreported⟩ | ⟨-, htransfer, hnobody⟩ :=
          handOver_unreported ⟨ns, hmarking.listed⟩ halone₁ hmaster
        · simp only [htransfer] at hover
          cases hover
          exact hunreported
        · simp only [htransfer] at hover
          rw [hnobody close st₂ hover]
          exact .refl st₁
      · cases hover
        exact .refl st₁
    obtain ⟨ns₂, hlisted₂⟩ := hunreported.wellFormed ⟨ns, hmarking.listed⟩
    obtain ⟨ns', hshrunk⟩ := shrunk_closeCommunicationChannels hlisted₂ r
    have hlist : st₂.connectionList cfg = st.connectionList cfg := by
      rw [hunreported.connectionList_eq, ← view_members, hview]
      rfl
    have hmembers : (st₂.closeCommunicationChannelsAndRemoveFromActiveConnectionsList cfg
        r).connectionList cfg = (st.connectionList cfg).filter fun s => !decide (s = r) := by
      rw [← view_members, hshrunk.view_eq, View.without_members, view_members, hlist]
    refine .leaves hsound.regular.nodup hr hio hmembers (fun s hs => ?_) ?_
    · rw [hmembers] at hs
      obtain ⟨hs, hne⟩ := List.mem_filter.mp hs
      have hobject := congrArg (fun V => V.object s) hshrunk.view_eq
      simp only [view_object, View.without_object] at hobject
      rw [hobject, if_neg (by simpa using hne)]
      exact CipConnectionObject.lasting_field
        ((hpersists.trans hunreported.persists).lasting s (by rwa [view_members, hlist]))
        CipConnectionObject.assemblies fun _ => rfl
    · rw [reports_closeCommunicationChannels, hunreported.reports, hreports]

theorem connectionCloseFunction_accounts (hsound : st.Sound cfg) {r : ConnRef}
    (hr : r ∈ st.connectionList cfg) (hio : r.isIo = true)
    (halone : st.closesAlone cfg r = true)
    (hcall : st.connectionCloseFunction cfg r = .ok st') : Accounts cfg st st' := by
  have hclose := (hsound.regular.kind r hr).close
  rw [ConnRef.closeFunction, if_pos hio] at hclose
  have hclose' : (st.conn r).connectionCloseFunction = some .closeIoConnection := hclose
  simp only [connectionCloseFunction, closeFunctionAt, hclose'] at hcall
  exact closeIoConnection_accounts hsound hr hio halone hcall

/-- Marking a connection as timed out reports neither an open nor a close. -/
theorem enterTimedOut_reports (hsound : st.Sound cfg) {r : ConnRef}
    (hr : r ∈ st.connectionList cfg) (hio : r.isIo = true)
    (hcall : st.enterTimedOut cfg env r = .ok st') : st'.reports = st.reports := by
  obtain ⟨ns, hlisted⟩ := hsound.wellFormed
  have hevent := shrunk_checkIoConnectionEvent hlisted (st.conn r) .timedOut
  have hmarking := hevent.trans
    (shrunk_modifyConn hevent.listed r fun c => c.setState .timedOut)
  rw [view_checkIoConnectionEvent] at hmarking
  have hmarked : ((st.checkIoConnectionEvent (st.conn r) .timedOut).modifyConn r
      fun c => c.setState .timedOut).Sound cfg :=
    hmarking.sound (hsound.regular.modify hr ((hsound.regular.kind r hr).timedOut hio)) hsound
  have hreports : ((st.checkIoConnectionEvent (st.conn r) .timedOut).modifyConn r
      fun c => c.setState .timedOut).reports = st.reports := by
    refine (List.filterMap_append).trans ?_
    exact List.append_nil st.reports
  simp only [enterTimedOut] at hcall
  generalize (st.checkIoConnectionEvent (st.conn r) .timedOut).modifyConn r
    (fun c => c.setState .timedOut) = st₁ at hcall hmarked hreports
  split at hcall
  · simp only [checkForTimedOutConnectionsAndCloseTCPConnections] at hcall
    split at hcall
    · cases hcall
      exact hreports
    · have hsessions := (endures_silent cfg st₁).closeSessionsOfPeer ⟨hmarked, .refl st₁⟩ hcall
      exact hsessions.2.reports.trans hreports
  · cases hcall
    exact hreports

theorem handOverTimedOut_unreported (hwell : st.WellFormed cfg) {r : ConnRef}
    (halone : st.closesAlone cfg r = true) {handover : Bool}
    (hcall : st.handOverTimedOut cfg r = .ok (handover, st')) :
    Unreported cfg st st' ∧ (st.handsOver cfg r = true → handover = true) := by
  rw [handOverTimedOut] at hcall
  split at hcall
  · rename_i hmaster
    obtain ⟨st₁, htransfer, hunreported⟩ | ⟨hover, htransfer, hnobody⟩ :=
      handOver_unreported hwell halone hmaster
    · simp only [htransfer] at hcall
      cases hcall
      exact ⟨hunreported, fun _ => rfl⟩
    · simp only [htransfer] at hcall
      split at hcall
      · cases hcall
      · rename_i st₁ hclose
        cases hcall
        rw [hnobody _ _ hclose, hover]
        exact ⟨.refl st, fun h => Bool.noConfusion h⟩
  · rename_i hmaster
    cases hcall
    refine ⟨.refl st, fun hover => ?_⟩
    rw [handsOver, Bool.and_eq_true] at hover
    exact absurd hover.1 hmaster

theorem closeDependents_nobody (hwell : st.WellFormed cfg) {r : ConnRef} {handover : Bool}
    (hnobody : (st.conn r).instanceType = .ioExclusiveOwner → handover = false →
      st.lists cfg .ioInputOnly (st.conn r).producedPath.instanceId = false ∧
        st.lists cfg .ioListenOnly (st.conn r).producedPath.instanceId = false)
    (hcall : st.closeDependents cfg r handover = .ok st') : st' = st := by
  simp only [closeDependents] at hcall
  split at hcall
  · rename_i howner
    obtain ⟨hinputs, hlisteners⟩ := hnobody howner.1 howner.2
    split at hcall
    · cases hcall
    · rename_i st₁ hfirst
      rw [closeAllConnections_nobody hwell hinputs hfirst] at hcall
      exact closeAllConnections_nobody hwell hlisteners hcall
  · cases hcall
    rfl

/-- Timing out a connection that takes nobody with it. -/
theorem handleIoConnectionTimeOut_accounts (hsound : st.Sound cfg) {r : ConnRef}
    (hr : r ∈ st.connectionList cfg) (hio : r.isIo = true)
    (halone : st.expiresAlone cfg r = true)
    (hcall : st.handleIoConnectionTimeOut cfg env r = .ok st') : Accounts cfg st st' := by
  obtain ⟨ns, hlisted⟩ := hsound.wellFormed
  obtain ⟨dropped, st₁, ns₁, handover, st₂, ns₂, st₃, hstages, rfl⟩ :=
    handleIoConnectionTimeOut_stages hlisted hsound.regular hr hio hcall
  rw [expiresAlone, Bool.and_eq_true] at halone
  obtain ⟨hcloses, hdependents⟩ := halone
  have hexplicit : ∀ s, dropped s = true → s.isIo = false := fun s hs => (hstages.explicit s hs).2
  obtain ⟨hpersists, hcloses₁⟩ := closesAlone_marked hsound.regular hexplicit
    (hstages.not_dropped hio) (by simp) hstages.marked.view_eq hcloses
  obtain ⟨hunreported, hhandover⟩ :=
    handOverTimedOut_unreported ⟨ns₁, hstages.marked.listed⟩ hcloses₁ hstages.handsOver
  have hpersists₂ := hpersists.trans hunreported.persists
  have hlist : st₂.connectionList cfg = (st.connectionList cfg).filter fun s => !dropped s := by
    rw [hunreported.connectionList_eq, ← view_members, hstages.marked.view_eq]
    rfl
  have hlasting : ∀ s ∈ st.connectionList cfg, s.isIo = true →
      (st₂.conn s).lasting = (st.conn s).lasting := by
    intro s hs hsio
    refine hpersists₂.lasting s ?_
    rw [view_members, hlist]
    exact List.mem_filter.mpr ⟨hs, by simp [hstages.not_dropped hsio]⟩
  have hnobody : (st₂.conn r).instanceType = .ioExclusiveOwner → handover = false →
      st₂.lists cfg .ioInputOnly (st₂.conn r).producedPath.instanceId = false ∧
        st₂.lists cfg .ioListenOnly (st₂.conn r).producedPath.instanceId = false := by
    intro howner hkept
    have hnot : st.handsOver cfg r = false := by
      cases hover : st.handsOver cfg r with
      | false => rfl
      | true =>
          have htrue := hhandover (handsOver_marked hsound.regular hexplicit
            (hstages.not_dropped hio) hstages.marked.view_eq hover)
          rw [hkept] at htrue
          cases htrue
    rw [CipConnectionObject.lasting_field (hlasting r hr hio) (·.instanceType)
      fun _ => rfl] at howner
    rw [CipConnectionObject.lasting_field (hlasting r hr hio) (·.producedPath) fun _ => rfl]
    have hboth : st.lists cfg .ioInputOnly (st.conn r).producedPath.instanceId = false ∧
        st.lists cfg .ioListenOnly (st.conn r).producedPath.instanceId = false := by
      simpa [howner, hnot] using hdependents
    exact ⟨lists_persists hpersists₂ hboth.1, lists_persists hpersists₂ hboth.2⟩
  rw [closeDependents_nobody ⟨ns₂, hstages.expired.listed⟩ hnobody hstages.closes]
  refine .nothing ?_ (fun s hs => ?_) ?_
  · rw [ioConnections, connectionList_modifyConn, hlist, List.filter_filter, ioConnections]
    refine List.filter_congr fun s _ => ?_
    cases hs : s.isIo with
    | false => rfl
    | true => simp [hstages.not_dropped hs]
  · obtain ⟨hs, hsio⟩ := mem_ioConnections.mp hs
    have hmodify : ((st₂.modifyConn r fun c => c.setState .timedOut).conn s).lasting =
        (st₂.conn s).lasting := by
      by_cases hsr : s = r
      · rw [hsr, conn_modifyConn_self, CipConnectionObject.lasting_setState]
      · rw [conn_modifyConn_of_ne _ hsr]
    exact CipConnectionObject.lasting_field (hmodify.trans (hlasting s hs hsio))
      CipConnectionObject.assemblies fun _ => rfl
  · exact hunreported.reports.trans (enterTimedOut_reports hsound hr hio hstages.enters)

theorem Episode.accounts {s s' : StackState} (hsound : s.Sound cfg)
    (halone : ∀ departure ∈ departures cfg label st, departsAlone cfg departure = true)
    (h : Episode cfg label st s s') : s'.Sound cfg ∧ Accounts cfg s s' := by
  cases h with
  | silent sound silent => exact ⟨sound, .of_silent silent⟩
  | closes sound departs io call =>
      have hdeparts := halone _ departs
      simp only [departsAlone, Bool.and_eq_true, List.contains_iff_mem] at hdeparts
      exact ⟨sound, connectionCloseFunction_accounts hsound hdeparts.1 io hdeparts.2 call⟩
  | expires sound departs io member established call =>
      exact ⟨sound, handleIoConnectionTimeOut_accounts hsound member io (halone _ departs) call⟩

theorem Course.accounts {s s' : StackState} (hsound : s.Sound cfg)
    (halone : ∀ departure ∈ departures cfg label st, departsAlone cfg departure = true)
    (h : Course cfg label st s s') : s'.Sound cfg ∧ Accounts cfg s s' := by
  induction h with
  | refl => exact ⟨hsound, .refl s⟩
  | tail _ hlast ih =>
      obtain ⟨hsound', haccounts⟩ := ih
      obtain ⟨hsound'', haccounts'⟩ := hlast.accounts hsound' halone
      exact ⟨hsound'', haccounts.trans hsound.regular.nodup haccounts'⟩

theorem closed_of_accounts {issued : List ((UInt16 × UInt16) × IoConnectionEvent)}
    {left : List ConnRef}
    (hperm : issued.Perm (left.map fun r => ((st.conn r).assemblies, .closed)))
    {report : (UInt16 × UInt16) × IoConnectionEvent} (hreport : report ∈ issued) :
    report.2 = .closed := by
  obtain ⟨r, -, rfl⟩ := List.mem_map.mp (hperm.mem_iff.mp hreport)
  rfl

/-- While connections only leave, what is reported is who left. -/
theorem Accounts.reportsRemovals (h : Accounts cfg st st') : ReportsRemovals cfg st st' := by
  obtain ⟨issued, hreports, hperm⟩ := h.issued
  have hopened : (issued.any fun report => report.2 = .opened) = false := by
    refine List.any_eq_false.mpr fun report hreport => ?_
    rw [closed_of_accounts hperm hreport]
    decide
  refine ⟨issued, hreports, ?_⟩
  rw [List.filter_eq_self.mpr fun report hreport => by
    simpa using closed_of_accounts hperm hreport]
  simpa only [removed, hopened, Bool.and_false, Bool.or_false] using hperm

/-- An open after the departures: whoever had the slot has left it. -/
theorem Opening.reportsRemovals {s s' st₂ : StackState} {r : ConnRef}
    (hbefore : Accounts cfg st s) (hopening : Opening cfg label st s s' st₂ r)
    (hafter : Silent cfg s' st') : ReportsRemovals cfg st st' := by
  have hr : r ∉ s.connectionList cfg := hopening.vacated.not_mem
  have hio : r.isIo = true := hopening.chosen.io
  have hmembers : st'.ioConnections cfg = r :: s.ioConnections cfg := by
    have hlist : s'.connectionList cfg = r :: s.connectionList cfg := hopening.opens.members_eq
    rw [hafter.members, ioConnections, hlist, List.filter_cons_of_pos hio, ioConnections]
  obtain ⟨issued, hreports, hperm⟩ := hbefore.issued
  refine ⟨issued ++ [((s'.conn r).assemblies, .opened)], ?_, ?_⟩
  · rw [hafter.reports, hopening.reports, hreports, List.append_assoc]
  · have hclosed : (issued ++ [((s'.conn r).assemblies, IoConnectionEvent.opened)]).filter
        (fun report => report.2 = .closed) = issued := by
      rw [List.filter_append, List.filter_eq_self.mpr fun report hreport => by
        simpa using closed_of_accounts hperm hreport]
      simp
    have hremoved : removed cfg (issued ++ [((s'.conn r).assemblies, .opened)]) st st' =
        (st.ioConnections cfg).filter fun q => !(s.ioConnections cfg).contains q := by
      rw [removed, hmembers]
      refine List.filter_congr fun q _ => ?_
      by_cases hq : q = r
      · have hnot : q ∉ s.ioConnections cfg := fun hmem =>
          hr (hq ▸ (mem_ioConnections.mp hmem).1)
        simp [hq, hq ▸ hnot]
      · simp [hq, Ne.symm hq]
    rw [hclosed, hremoved]
    exact hperm

theorem step_reportsRemovals (hsound : st.Sound cfg)
    (halone : closesSingly cfg label st = true)
    (hstep : st.step cfg label = .ok st') : ReportsRemovals cfg st st' := by
  have hdeparts := List.all_eq_true.mp halone
  cases (step_proceeds hsound hstep).2 with
  | departing course => exact (course.accounts hsound hdeparts).2.reportsRemovals
  | opening course sound opening after =>
      exact opening.reportsRemovals (course.accounts hsound hdeparts).2 after

/-- A log of the removals of a run, in the form in which they are to be reported. -/
def removalsAfter (cfg : Config) (st st' : StackState)
    (log : List ((UInt16 × UInt16) × IoConnectionEvent)) :
    List ((UInt16 × UInt16) × IoConnectionEvent) :=
  log ++ (removed cfg (st'.reports.drop st.reports.length) st st').map fun r =>
    ((st.conn r).assemblies, .closed)

theorem ReportsRemovals.extends_log (h : ReportsRemovals cfg st st')
    {log : List ((UInt16 × UInt16) × IoConnectionEvent)}
    (hlog : (st.reports.filter fun report => report.2 = .closed).Perm log) :
    (st'.reports.filter fun report => report.2 = .closed).Perm (removalsAfter cfg st st' log) := by
  obtain ⟨issued, hreports, hperm⟩ := h
  have hissued : st'.reports.drop st.reports.length = issued := by
    rw [hreports, List.drop_left]
  rw [removalsAfter, hissued, hreports, List.filter_append]
  exact hlog.append hperm

/-- The Closed events of a run are its removals, and each step reports its own. -/
theorem closed_events_are_removals {assemblyData : UInt16 → List UInt8}
    {log : List ((UInt16 × UInt16) × IoConnectionEvent)}
    (h : Runs.Reaches (Runs.watched (step cfg) (removalsAfter cfg))
      (fun label s => closesSingly cfg label s.1 = true)
      (initialState cfg assemblyData, []) (st, log)) :
    (st.reports.filter fun report => report.2 = .closed).Perm log ∧
      ∀ label st', closesSingly cfg label st = true → st.step cfg label = .ok st' →
        ReportsRemovals cfg st st' := by
  have hinvariant := h.invariant (fun s => s.1.Sound cfg ∧
    (s.1.reports.filter fun report => report.2 = .closed).Perm s.2)
    ⟨sound_initialState cfg assemblyData, .refl _⟩ ?_
  · exact ⟨hinvariant.2, fun label st' halone hstep =>
      step_reportsRemovals hinvariant.1 halone hstep⟩
  · intro label s s' hs halone hstep
    obtain ⟨htaken, hnote⟩ := Runs.watched_eq_ok hstep
    rw [hnote]
    exact ⟨(step_proceeds hs.1 htaken).1,
      (step_reportsRemovals hs.1 halone htaken).extends_log hs.2⟩

open SampleApplication in
/-- A multicast owner is closed after its production was handed over. -/
theorem closed_events_are_removals_sample :
    ∃ st log, Runs.Reaches (Runs.watched (step config) (removalsAfter config))
        (fun label s => closesSingly config label s.1 = true)
        (initialState config SampleApplication.assemblyData, []) (st, log) ∧
      (st.connectionList config = [.inputOnly 0 0] ∧ log = [((150, 100), .closed)] ∧
        closesSingly config (tick 10000) st = true) ∧
      (st.reports.filter fun report => report.2 = .closed).Perm log ∧
        ∀ st', st.step config (tick 10000) = .ok st' → ReportsRemovals config st st' := by
  obtain ⟨⟨st, log⟩, hreaches, hst⟩ := Runs.reaches_of_accepts
    (Runs.watched (step config) (removalsAfter config))
    (fun label s => closesSingly config label s.1) .assertionFailed
    [register, request (exclusiveOwner 1 1 multicast), request (inputOnly 2 2 multicast),
      send 9 (SampleApplication.forwardClose 1 1)]
    (initialState config SampleApplication.assemblyData, [])
    (fun s => s.1.connectionList config = [.inputOnly 0 0] ∧ s.2 = [((150, 100), .closed)] ∧
      closesSingly config (tick 10000) s.1 = true) (by decide +kernel)
  have hst := of_decide_eq_true hst
  dsimp only at hst
  obtain ⟨hperm, hsteps⟩ := closed_events_are_removals hreaches
  exact ⟨st, log, hreaches, hst, hperm, fun st' => hsteps _ st' hst.2.2⟩

open SampleApplication in
/-- The owner of a listener is closed: two connections leave, three are reported. -/
theorem listener_closed_twice_sample :
    ¬∀ st log, Runs.Reaches (Runs.watched (step config) (removalsAfter config))
        (fun _ _ => True) (initialState config SampleApplication.assemblyData, []) (st, log) →
      (st.reports.filter fun report => report.2 = .closed).Perm log := by
  intro hclaim
  obtain ⟨⟨st, log⟩, hreaches, hst⟩ := Runs.reaches_of_accepts
    (Runs.watched (step config) (removalsAfter config)) (fun _ _ => true) .assertionFailed
    [register, request (exclusiveOwner 1 1 multicast), request (listenOnly 2 2 multicast),
      send 9 (SampleApplication.forwardClose 1 1)]
    (initialState config SampleApplication.assemblyData, [])
    (fun s => (s.1.reports.filter fun report => report.2 = .closed).length = 3 ∧
      s.2.length = 2) (by decide +kernel)
  obtain ⟨hreports, hlog⟩ := of_decide_eq_true hst
  have hlength := (hclaim st log (hreaches.mono fun _ _ _ => trivial)).length_eq
  dsimp only at hreports hlog
  omega

end StackState

end Opener

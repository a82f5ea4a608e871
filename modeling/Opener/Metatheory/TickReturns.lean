import Opener.Metatheory.Departures
import Opener.Metatheory.SessionOwners
import Opener.Metatheory.Turns
import Opener.Metatheory.WireSizes

/-!
When a tick returns. It closes sessions, it closes the input-only connections of an
exclusive owner that times out, and it sends packets; everything else that it calls
never fails. The loop over the input-only connections has saved the next node, which
is gone if that node is of a listener of the connection that is closed.
-/

namespace Opener

open LinkedCells

namespace View

variable {cfg : Config} {V : View} {inputPoint : UInt16}

/-- Closing the input-only connections of the input takes no listener along. Either
there is none, or none of these connections produces for others. -/
def closesAlone (V : View) (inputPoint : UInt16) : Bool :=
  (V.members.all fun r => (V.object r).instanceType ≠ .ioListenOnly ||
      (V.object r).producedPath.instanceId ≠ inputPoint) ||
    V.members.all fun r => (V.object r).instanceType ≠ .ioInputOnly ||
      (V.object r).producedPath.instanceId ≠ inputPoint ||
        !StackState.isMulticastMaster (V.object r)

theorem closesAlone_iff : V.closesAlone inputPoint = true ↔
    (∀ r ∈ V.members, (V.object r).instanceType = .ioListenOnly →
      (V.object r).producedPath.instanceId ≠ inputPoint) ∨
    ∀ r ∈ V.members, (V.object r).instanceType = .ioInputOnly →
      (V.object r).producedPath.instanceId = inputPoint →
        StackState.isMulticastMaster (V.object r) = false := by
  simp only [closesAlone, Bool.or_eq_true, List.all_eq_true, decide_eq_true_eq,
    Bool.not_eq_true', ne_eq, or_assoc]
  refine or_congr (forall₂_congr fun r _ => ?_) (forall₂_congr fun r _ => ?_)
  · exact imp_iff_not_or.symm
  · rw [imp_iff_not_or, imp_iff_not_or]

/-- The connections that stay are as they were in what counts here. -/
theorem closesAlone_of_persists {V' : View} (h : V.closesAlone inputPoint = true)
    (hmembers : ∀ r ∈ V'.members, r ∈ V.members)
    (htype : ∀ r ∈ V'.members, (V'.object r).instanceType = (V.object r).instanceType)
    (hinput : ∀ r ∈ V'.members, (V'.object r).producedPath = (V.object r).producedPath)
    (hmaster : ∀ r ∈ V'.members, StackState.isMulticastMaster (V.object r) = false →
      StackState.isMulticastMaster (V'.object r) = false) :
    V'.closesAlone inputPoint = true := by
  refine closesAlone_iff.mpr ((closesAlone_iff.mp h).imp ?_ ?_)
  · intro hnobody r hr hlistens
    rw [hinput r hr]
    exact hnobody r (hmembers r hr) ((htype r hr).symm.trans hlistens)
  · intro hsilent r hr hinputOnly hsame
    refine hmaster r hr (hsilent r (hmembers r hr) ((htype r hr).symm.trans hinputOnly) ?_)
    rw [← hinput r hr]
    exact hsame

theorem closesAlone_without (h : V.closesAlone inputPoint = true) (dropped : ConnRef → Bool) :
    (V.without dropped).closesAlone inputPoint = true := by
  have hobject : ∀ r ∈ (V.without dropped).members,
      (V.without dropped).object r = V.object r := by
    intro r hr
    rw [without_object, (V.mem_without.mp hr).2]
    rfl
  refine closesAlone_of_persists h (fun r hr => (V.mem_without.mp hr).1) (fun r hr => ?_)
    (fun r hr => ?_) (fun r hr => ?_)
  · rw [hobject r hr]
  · rw [hobject r hr]
  · rw [hobject r hr]
    exact id

theorem closesAlone_timedOut (h : V.closesAlone inputPoint = true) (r : ConnRef) :
    (V.modify r fun c => c.setState .timedOut).closesAlone inputPoint = true := by
  have hobject : ∀ s, (V.modify r fun c => c.setState .timedOut).object s = V.object s ∨
      (V.modify r fun c => c.setState .timedOut).object s =
        (V.object s).setState .timedOut := by
    intro s
    by_cases hs : s = r
    · subst hs
      exact .inr (V.modify_object_self s _)
    · exact .inl (V.modify_object_of_ne hs _)
  refine closesAlone_of_persists h (fun s hs => hs) (fun s _ => ?_) (fun s _ => ?_)
    (fun s _ => ?_)
  · obtain heq | heq := hobject s
    · rw [heq]
    · rw [heq]
      rfl
  · obtain heq | heq := hobject s
    · rw [heq]
    · rw [heq]
      rfl
  · obtain heq | heq := hobject s
    · rw [heq]
      exact id
    · rw [heq, isMulticastMaster_setState]
      exact id

theorem closed_alone (h : V.closesAlone inputPoint = true) {r : ConnRef} (hr : r ∈ V.members)
    (htype : (V.object r).instanceType = .ioInputOnly)
    (hinput : (V.object r).producedPath.instanceId = inputPoint) :
    (V.closed r).members = V.members.filter (fun s => !decide (s = r)) ∧
      (V.closed r).closesAlone inputPoint = true := by
  cases hmaster : StackState.isMulticastMaster (V.object r) with
  | false =>
      rw [View.closed, vacate_of_not_master hmaster]
      exact ⟨rfl, closesAlone_without h _⟩
  | true =>
      obtain hnobody | hsilent := closesAlone_iff.mp h
      · have hvacates := vacates_vacate V r
        have hsame : (V.vacate r).members = V.members := by
          generalize V.vacate r = V' at hvacates
          cases hvacates with
          | quiet silent => rfl
          | passed master member differs takes => rfl
          | silenced master nobody =>
              refine List.filter_eq_self.mpr fun s hs => ?_
              have hstays : V.ofInput .ioListenOnly (V.object r).producedPath.instanceId s =
                  false := by
                rw [← Bool.not_eq_true, ofInput]
                simp only [Bool.and_eq_true, decide_eq_true_eq]
                rintro ⟨⟨-, hlistens⟩, hsame⟩
                exact hnobody s hs hlistens (hsame.trans hinput)
              rw [hstays]
              rfl
        refine ⟨congrArg (·.filter fun s => !decide (s = r)) hsame, ?_⟩
        refine closesAlone_without (closesAlone_iff.mpr (.inl fun s hs hlistens => ?_)) _
        have hprofile := hvacates.profile hs
        rw [CipConnectionObject.profile_field hprofile (·.producedPath) fun _ => rfl]
        rw [CipConnectionObject.profile_field hprofile (·.instanceType) fun _ => rfl] at hlistens
        exact hnobody s (hvacates.member hs) hlistens
      · rw [hsilent r hr htype hinput] at hmaster
        cases hmaster

end View

namespace StackState

variable {cfg : Config} {env : Environment} {st st' : StackState} {ns : List Nat}
variable {owner : ConnRef → Int}

theorem closeInputs_walk (inputPoint : UInt16) {suf : List Nat} (pre : List Nat)
    (h : st.Listed cfg ns) (hns : ns = pre ++ suf) (hregular : Regular cfg (st.view cfg))
    (halone : (st.view cfg).closesAlone inputPoint = true) {fuel : Nat}
    (hfuel : suf.length ≤ fuel) :
    ∃ st' ns', savedWalk nodes .freedNode .nonTermination
        (fun r s =>
          if (s.conn r).instanceType = .ioInputOnly ∧
              (s.conn r).producedPath.instanceId = inputPoint then
            match connectionCloseFunction cfg r (s.checkIoConnectionEvent (s.conn r) .closed) with
            | .error fault => .error fault
            | .ok s => .ok (Turn.continue s)
          else .ok (Turn.continue s)) fuel suf.head? st = .ok st' ∧
      st'.Listed cfg ns' ∧ Regular cfg (st'.view cfg) := by
  induction suf generalizing st ns pre fuel with
  | nil => exact ⟨st, ns, by cases fuel <;> rfl, h, hregular⟩
  | cons n suf ih =>
      obtain ⟨fuel, rfl⟩ : ∃ k, fuel = k + 1 := ⟨fuel - 1, by simp at hfuel; omega⟩
      have hn : n ∈ ns := by
        rw [hns]
        exact List.mem_append_right pre List.mem_cons_self
      obtain ⟨r, hdata, hr⟩ := h.data hn
      have hnext : (st.nodes n).next = suf.head? := h.links.next_eq hns
      simp only [List.head?_cons, savedWalk, hdata, hnext]
      by_cases hmatch : (st.conn r).instanceType = .ioInputOnly ∧
          (st.conn r).producedPath.instanceId = inputPoint
      · rw [if_pos hmatch]
        have hevent := shrunk_checkIoConnectionEvent h (st.conn r) .closed
        have hclosable : ((st.checkIoConnectionEvent (st.conn r) .closed).view cfg).Closable :=
          (hevent.regular hregular).closable
        obtain ⟨st₁, ns₁, hcall, hclosed⟩ := connectionCloseFunction_ok hevent.listed hclosable hr
        rw [view_checkIoConnectionEvent] at hclosed
        have hshrunk := hevent.trans hclosed
        obtain ⟨hmembers, halone₁⟩ := View.closed_alone halone hr hmatch.1 hmatch.2
        have hns₁ : ns₁ = pre ++ suf := hshrunk.nodes_without h hns hdata hmembers
        have hregular₁ : Regular cfg (st₁.view cfg) := by
          rw [hshrunk.view_eq]
          exact (hregular.vacate hr).1.without _
        obtain ⟨st', ns', hwalk, hlisted, hregular'⟩ := ih pre hshrunk.listed hns₁ hregular₁
          (by rw [hshrunk.view_eq]; exact halone₁) (by simpa using hfuel)
        exact ⟨st', ns', by simpa only [hcall] using hwalk, hlisted, hregular'⟩
      · rw [if_neg hmatch]
        exact ih (pre ++ [n]) h (by simp [hns]) hregular halone (by simpa using hfuel)

theorem closeInputs (inputPoint : UInt16) (h : st.Listed cfg ns)
    (hregular : Regular cfg (st.view cfg))
    (halone : (st.view cfg).closesAlone inputPoint = true) :
    ∃ st' ns', st.closeAllConnectionsForInputWithSameType cfg (connectionCloseFunction cfg)
        inputPoint .ioInputOnly = .ok st' ∧
      st'.Listed cfg ns' ∧ Regular cfg (st'.view cfg) := by
  rw [closeAllConnectionsForInputWithSameType, h.links.first_eq]
  exact closeInputs_walk inputPoint [] h rfl hregular halone h.length_le

theorem closeDependents_returns (h : st.Listed cfg ns) (hregular : Regular cfg (st.view cfg))
    {r : ConnRef} {handover : Bool}
    (halone : (st.conn r).instanceType = .ioExclusiveOwner → handover = false →
      (st.view cfg).closesAlone (st.conn r).producedPath.instanceId = true) :
    ∃ st', st.closeDependents cfg r handover = .ok st' := by
  rw [closeDependents]
  by_cases howner : (st.conn r).instanceType = .ioExclusiveOwner ∧ handover = false
  · obtain ⟨st₁, ns₁, hinputs, hlisted₁, hregular₁⟩ := closeInputs
      (st.conn r).producedPath.instanceId h hregular (halone howner.1 howner.2)
    rw [if_pos howner, hinputs]
    obtain ⟨st₂, -, hlisteners, -⟩ := closeListeners (st₁.conn r).producedPath.instanceId 1
      hlisted₁ hregular₁.closable
    exact ⟨st₂, hlisteners⟩
  · rw [if_neg howner]
    exact ⟨st, rfl⟩

theorem handOverTimedOut_alone (h : st.Listed cfg ns) (hclose : (st.view cfg).Closable)
    {r : ConnRef} (hcall : st.handOverTimedOut cfg r = .ok (false, st'))
    (halone : isMulticastMaster (st.conn r) = false →
      (st.view cfg).closesAlone (st.conn r).producedPath.instanceId = true) :
    (st'.view cfg).closesAlone (st.conn r).producedPath.instanceId = true := by
  rw [handOverTimedOut] at hcall
  split at hcall
  · split at hcall
    · cases hcall
    · split at hcall
      · cases hcall
      · rename_i hwalk
        cases hcall
        obtain ⟨st₂, ns₂, hlisteners, hshrunk⟩ :=
          closeListeners (st.conn r).producedPath.instanceId 1 h hclose
        have hsame : st' = st₂ := Except.ok.inj (hwalk.symm.trans hlisteners)
        rw [hsame, hshrunk.view_eq]
        refine View.closesAlone_iff.mpr (.inl fun s hs hlistens hinput => ?_)
        obtain ⟨hs, hkept⟩ := (View.mem_without _).mp hs
        rw [View.without_object, hkept] at hlistens hinput
        have hdropped : (st.view cfg).ofInput .ioListenOnly
            (st.conn r).producedPath.instanceId s = true := by
          simp only [View.ofInput, Bool.and_eq_true, decide_eq_true_eq]
          exact ⟨⟨by simpa using hs, hlistens⟩, hinput⟩
        rw [hdropped] at hkept
        cases hkept
  · rename_i hmaster
    cases hcall
    exact halone (Bool.not_eq_true _ ▸ hmaster)

/-- An exclusive owner that is due produces for its listeners, or closes the input-only
connections of its input without them. -/
def closesSafely (cfg : Config) (elapsedTime : UInt64) (r : ConnRef) (st : StackState) : Bool :=
  !(st.conn r).expires elapsedTime || (st.conn r).instanceType ≠ .ioExclusiveOwner ||
    isMulticastMaster (st.conn r) ||
      (st.view cfg).closesAlone (st.conn r).producedPath.instanceId

/-- A packet that is due has an assembly, and room in the message. -/
def sendsSafely (cfg : Config) (env : Environment) (elapsedTime : UInt64) (r : ConnRef)
    (st : StackState) : Bool :=
  (st.conn r).state ≠ .established || (st.conn r).expires elapsedTime ||
    !(st.conn r).produces elapsedTime ||
      match (st.conn r).producingInstance with
      | none => false
      | some instanceNumber => instanceNumber ≠ 0 &&
          (st.conn r).itemHeaders + (st.conn r).wireSize cfg.produceRunIdle
            ((env.beforeAssemblyDataSend instanceNumber st.assemblyData).2
              instanceNumber).length ≤ ethernetBufferSize

theorem dependents_return (hsound : st.Sound cfg) {r : ConnRef}
    (hr : r ∈ st.connectionList cfg) (hio : r.isIo = true) {elapsedTime : UInt64}
    (hexpires : (st.conn r).expires elapsedTime = true)
    (hsafe : st.closesSafely cfg elapsedTime r = true) {st₁ st₂ : StackState} {handover : Bool}
    (henter : st.enterTimedOut cfg env r = .ok st₁)
    (hover : st₁.handOverTimedOut cfg r = .ok (handover, st₂)) :
    ∃ st₃, st₂.closeDependents cfg r handover = .ok st₃ := by
  obtain ⟨ns, hlisted⟩ := hsound.wellFormed
  obtain ⟨dropped, ns₁, hdropped, h₁⟩ := enterTimedOut_ok hlisted hsound.regular hr hio henter
  have hkept : dropped r = false := by
    cases hd : dropped r with
    | false => rfl
    | true => exact absurd (hdropped r hd).2 (by simp [hio])
  have hr₁ : r ∈ ((st.view cfg).without dropped).members :=
    (View.mem_without _).mpr ⟨hr, by rw [hkept]⟩
  have hregular₁ : Regular cfg (((st.view cfg).without dropped).modify r
      fun c => c.setState .timedOut) :=
    (hsound.regular.without dropped).modify hr₁
      (((hsound.regular.without dropped).kind r hr₁).timedOut hio)
  have hself : st₁.conn r = (st.conn r).setState .timedOut := by
    rw [← view_object cfg, h₁.view_eq, View.modify_object_self, View.without_object, hkept]
    rfl
  rw [← h₁.view_eq] at hregular₁
  obtain ⟨ns₂, h₂⟩ := handOverTimedOut_ok h₁.listed h₁.view_eq hregular₁.closable hover
  obtain ⟨hregular, hmem⟩ := (hsound.regular.without dropped).vacate hr₁
  have hregular₂ : Regular cfg (st₂.view cfg) := by
    rw [h₂.view_eq]
    exact hregular.modify (hmem hio) ((hregular.kind r (hmem hio)).timedOut hio)
  have hlasting : (st₂.conn r).lasting = (st.conn r).lasting := by
    rw [← view_object cfg st₂, h₂.view_eq, View.expired, View.modify_object_self,
      CipConnectionObject.lasting_setState, (Persists.vacate _ r).lasting r (hmem hio),
      View.without_object, hkept]
    rfl
  have htype : (st₂.conn r).instanceType = (st.conn r).instanceType :=
    CipConnectionObject.lasting_field hlasting (·.instanceType) fun _ => rfl
  have hinput : (st₂.conn r).producedPath = (st.conn r).producedPath :=
    CipConnectionObject.lasting_field hlasting (·.producedPath) fun _ => rfl
  refine closeDependents_returns h₂.listed hregular₂ fun howner hnone => ?_
  subst hnone
  have halone := handOverTimedOut_alone h₁.listed hregular₁.closable hover
  rw [hself, CipConnectionObject.setState] at halone
  rw [hinput]
  refine halone fun hmaster => ?_
  have hsilent : isMulticastMaster (st.conn r) = false := hmaster
  simp only [closesSafely, hexpires, htype.symm.trans howner, hsilent, Bool.not_true,
    Bool.false_or, ne_eq, not_true_eq_false, decide_false] at hsafe
  rw [h₁.view_eq]
  exact View.closesAlone_timedOut (View.closesAlone_without hsafe dropped) r

/-- The assembly that a packet is due for, which the message has room for. -/
def HasRoom (cfg : Config) (env : Environment) (r : ConnRef) (st : StackState) : Prop :=
  ∃ instanceNumber, (st.conn r).producingInstance = some instanceNumber ∧
    instanceNumber ≠ 0 ∧ (st.conn r).itemHeaders + (st.conn r).wireSize cfg.produceRunIdle
      ((env.beforeAssemblyDataSend instanceNumber st.assemblyData).2 instanceNumber).length ≤
        ethernetBufferSize

theorem sendConnectedData_returns {r : ConnRef} (hroom : HasRoom cfg env r st) :
    ∃ st', st.sendConnectedData cfg env r = .ok st' := by
  obtain ⟨instanceNumber, hinstance, hpoint, hroom⟩ := hroom
  obtain ⟨hwire, hheaders⟩ := collectData_sizes env instanceNumber r
    (st.modifyConn r CipConnectionObject.countPacket)
  have hproducing :
      ((st.modifyConn r CipConnectionObject.countPacket).conn r).producingInstance =
        some instanceNumber := by
    rw [conn_modifyConn_self]
    exact hinstance
  have hdata : ((st.modifyConn r CipConnectionObject.countPacket).collectData env
      instanceNumber r).assemblyData =
        (env.beforeAssemblyDataSend instanceNumber st.assemblyData).2 := rfl
  rw [conn_modifyConn_self] at hwire hheaders
  rw [sendConnectedData]
  dsimp only
  rw [hproducing]
  dsimp only
  rw [if_neg hpoint, outgoingMessage_length, hdata, hwire, hheaders]
  exact ⟨_, if_neg (Nat.not_lt.mpr hroom)⟩

/-- The production part of a turn, when the packet that is due can be sent. -/
theorem produceConnection_returns {r : ConnRef} {elapsedTime : UInt64}
    (harmed : (st.conn r).isPaced = true →
      (st.conn r).connectionSendDataFunction = some .sendConnectedData)
    (hroom : (st.conn r).produces elapsedTime = true → HasRoom cfg env r st) :
    ∃ st', st.produceConnection cfg env elapsedTime r = .ok st' := by
  rw [produceConnection]
  by_cases hpaced : (st.conn r).isPaced = true
  · rw [if_pos (CipConnectionObject.isPaced_iff.mp hpaced)]
    have hinhibit := conn_modifyConn_self st r (inhibitAfter elapsedTime)
    have hsame : (inhibitAfter elapsedTime (st.conn r)).transmissionTriggerTimer =
        (st.conn r).transmissionTriggerTimer := by
      rw [inhibitAfter_eq]
    have hfunction : (inhibitAfter elapsedTime (st.conn r)).connectionSendDataFunction =
        some .sendConnectedData := by
      rw [inhibitAfter_eq]
      exact harmed hpaced
    dsimp only
    rw [hinhibit, hsame, hfunction]
    by_cases hdue : (st.conn r).transmissionTriggerTimer ≤ elapsedTime
    · have hinhibited : HasRoom cfg env r (st.modifyConn r (inhibitAfter elapsedTime)) := by
        rw [HasRoom, hinhibit, inhibitAfter_eq]
        exact hroom (CipConnectionObject.produces_iff.mpr ⟨hpaced, hdue⟩)
      obtain ⟨st₁, hsend⟩ := sendConnectedData_returns hinhibited
      rw [if_pos hdue]
      dsimp only
      rw [hsend]
      exact ⟨_, rfl⟩
    · rw [if_neg hdue]
      exact ⟨_, rfl⟩
  · rw [if_neg fun h => hpaced (CipConnectionObject.isPaced_iff.mpr h)]
    exact ⟨st, rfl⟩

theorem hasRoom_of_sendsSafely {r : ConnRef} {elapsedTime : UInt64}
    (hsafe : st.sendsSafely cfg env elapsedTime r = true)
    (hestablished : (st.conn r).state = .established)
    (hlives : (st.conn r).expires elapsedTime = false)
    (hproduces : (st.conn r).produces elapsedTime = true) : HasRoom cfg env r st := by
  simp only [sendsSafely, hestablished, hlives, hproduces, ne_eq, not_true_eq_false,
    decide_false, Bool.not_true, Bool.false_or] at hsafe
  split at hsafe
  · cases hsafe
  · rename_i instanceNumber hinstance
    simp only [Bool.and_eq_true, decide_eq_true_eq] at hsafe
    exact ⟨instanceNumber, hinstance, hsafe.1, hsafe.2⟩

theorem superviseConnection_assemblyData {r : ConnRef} {elapsedTime : UInt64}
    (hestablished : (st.conn r).state = .established)
    (hlives : (st.conn r).expires elapsedTime = false)
    (hcall : st.superviseConnection cfg env elapsedTime r = .ok st') :
    st'.assemblyData = st.assemblyData := by
  rw [superviseConnection] at hcall
  split at hcall
  · rename_i hwatched
    split at hcall
    · rename_i hdue
      rw [CipConnectionObject.expires_iff.mpr ⟨hestablished,
        CipConnectionObject.isWatched_iff.mpr hwatched, hdue⟩] at hlives
      cases hlives
    · cases hcall
      rfl
  · cases hcall
    rfl

/-- A turn that closes and sends safely fails only where sessions are closed. -/
theorem completes_of_safe (hsound : st.Sound cfg) {r : ConnRef} {elapsedTime : UInt64}
    (harmed : r ∈ st.connectionList cfg → r.isIo = true →
      (st.conn r).connectionSendDataFunction = some .sendConnectedData)
    (hcloses : st.closesSafely cfg elapsedTime r = true)
    (hsends : st.sendsSafely cfg env elapsedTime r = true) :
    Completes cfg env elapsedTime (fun _ => False) r st := by
  refine ⟨fun hexpires hio st₁ handover st₂ henter hover => ?_,
    fun hestablished st₁ hsupervise hestablished₁ => ?_⟩
  · have hr := mem_of_established hsound.regular (CipConnectionObject.expires_iff.mp hexpires).1
    obtain ⟨st₃, hcall⟩ := dependents_return hsound hr hio hexpires hcloses henter hover
    rw [hcall]
    exact trivial
  · have hr := mem_of_established hsound.regular hestablished
    have hlives : (st.conn r).expires elapsedTime = false := by
      refine Bool.eq_false_iff.mpr fun hexpires => ?_
      obtain ⟨-, hwatched, hdue⟩ := CipConnectionObject.expires_iff.mp hexpires
      rw [superviseConnection, if_pos (CipConnectionObject.isWatched_iff.mp hwatched),
        if_pos hdue] at hsupervise
      exact (connectionTimeoutFunction_expired hsound hestablished hsupervise).2.2 hestablished₁
    obtain ⟨-, hobject, -⟩ := superviseConnection_lives hestablished hlives hsupervise
    have hdata := superviseConnection_assemblyData hestablished hlives hsupervise
    have hreturns : ∃ st₂, st₁.produceConnection cfg env elapsedTime r = .ok st₂ := by
      refine produceConnection_returns (fun hpaced => ?_) fun hproduces => ?_
      · rw [hobject] at hpaced ⊢
        refine harmed hr ?_
        cases hio : r.isIo with
        | true => rfl
        | false =>
            exact absurd ((hsound.regular.kind r hr).silent hio).1
              (CipConnectionObject.isPaced_iff.mp hpaced).2
      · rw [hobject] at hproduces
        rw [HasRoom, hobject, hdata]
        exact hasRoom_of_sendsSafely hsends hestablished hlives hproduces
    obtain ⟨st₂, hcall⟩ := hreturns
    rw [hcall]
    exact trivial

/-- Every turn of the tick closes and sends safely. -/
def ticksSafely (cfg : Config) (label : Environment × Action) (st : StackState) : Bool :=
  match label with
  | (env, .manageConnections elapsedTime) =>
      (st.manageTurns cfg env elapsedTime).all fun turn =>
        turn.2.closesSafely cfg elapsedTime turn.1 &&
          turn.2.sendsSafely cfg env elapsedTime turn.1
  | _ => true

/-- A tick that frees its sessions cleanly and whose turns are safe returns. -/
theorem manageConnections_returns (howned : Owned cfg st owner) {elapsedTime : UInt64}
    (hclean : freesCleanly cfg (env, .manageConnections elapsedTime) st = true)
    (hsafe : ticksSafely cfg (env, .manageConnections elapsedTime) st = true)
    (harmed : ∀ r ∈ st.connectionList cfg, r.isIo = true →
      (st.conn r).connectionSendDataFunction = some .sendConnectedData) :
    ∃ st', st.manageConnections cfg env elapsedTime = .ok st' := by
  obtain ⟨-, hclean⟩ := Bool.and_eq_true_iff.mp hclean
  obtain ⟨due, peer, hsteady, hdoomed⟩ := steady_of_clean howned.sound howned.tabled
    howned.anchored fun r hr hexpires => by
      have hr' := List.all_eq_true.mp hclean r hr
      rw [hexpires] at hr'
      exact hr'
  have houtcome := (Steady.tickInvariant cfg env due peer (fun _ => False)
    owner).manageConnections_of_turns hsteady (fun s r hturn hs hpersists => ?_) hdoomed
  · cases hcall : st.manageConnections cfg env elapsedTime with
    | error fault =>
        rw [hcall] at houtcome
        exact absurd houtcome id
    | ok st' => exact ⟨st', rfl⟩
  · obtain ⟨hcloses, hsends⟩ :=
      Bool.and_eq_true_iff.mp (List.all_eq_true.mp hsafe (r, s) hturn)
    refine completes_of_safe hs.sound (fun hr hio => ?_) hcloses hsends
    have hlasting : (s.conn r).lasting = (st.conn r).lasting := hpersists.lasting r hr
    rw [CipConnectionObject.lasting_field hlasting (·.connectionSendDataFunction) fun _ => rfl]
    exact harmed r (hpersists.sublist.subset hr) hio

end StackState

end Opener

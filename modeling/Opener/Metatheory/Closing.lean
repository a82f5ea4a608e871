import Opener.Metatheory.View

/-!
The close functions compute `View.closed`. Closing a connection unlinks its node;
closing the producer of a multicast input without a successor also unlinks the
listeners of that input, in a loop that saves the next node, and nothing else.
-/

namespace Opener

open LinkedCells

namespace View

/-- Every listed connection can be closed, class 3 connections as such. -/
def Closable (V : View) : Prop :=
  ∀ r ∈ V.members,
    (V.object r).connectionCloseFunction = some .closeIoConnection ∨
      ((V.object r).connectionCloseFunction = some .closeConnection ∧
        (V.object r).instanceType = .explicitMessaging)

theorem Closable.without {V : View} (h : V.Closable) (dropped : ConnRef → Bool) :
    (V.without dropped).Closable := by
  intro r hr
  obtain ⟨hr, hd⟩ := V.mem_without.mp hr
  rw [without_object, hd]
  exact h r hr

theorem Closable.modify {V : View} (h : V.Closable) {r : ConnRef}
    {f : CipConnectionObject → CipConnectionObject}
    (hclose : (f (V.object r)).connectionCloseFunction =
      (V.object r).connectionCloseFunction)
    (htype : (f (V.object r)).instanceType = (V.object r).instanceType) :
    (V.modify r f).Closable := by
  intro s hs
  by_cases hsr : s = r
  · subst hsr
    rw [modify_object_self, hclose, htype]
    exact h s hs
  · rw [V.modify_object_of_ne hsr]
    exact h s hs

theorem vacate_of_not_master {V : View} {r : ConnRef}
    (h : StackState.isMulticastMaster (V.object r) = false) : V.vacate r = V := by
  simp [vacate, h]

theorem isMulticastMaster_of_type {c : CipConnectionObject}
    (h : c.instanceType ≠ .ioExclusiveOwner) (h' : c.instanceType ≠ .ioInputOnly) :
    StackState.isMulticastMaster c = false := by
  simp [StackState.isMulticastMaster, h, h']

/-- The producer itself is never its successor. -/
theorem not_canTakeOver_of_master {c : CipConnectionObject} {inputPoint : UInt16}
    (h : StackState.isMulticastMaster c = true) : canTakeOver inputPoint c = false := by
  have hs : c.producingSocket ≠ eipInvalidSocket := by
    intro heq
    simp [StackState.isMulticastMaster, heq] at h
  simp [canTakeOver, hs]

/-- Changing only an object that cannot take over keeps the successor. -/
theorem successor_modify {V : View} {r : ConnRef} {inputPoint : UInt16}
    {f : CipConnectionObject → CipConnectionObject}
    (h : canTakeOver inputPoint (V.object r) = false)
    (h' : canTakeOver inputPoint (f (V.object r)) = false) :
    (V.modify r f).successor inputPoint = V.successor inputPoint := by
  unfold successor
  rw [modify_members]
  congr 1
  funext s
  by_cases hs : s = r
  · subst hs; rw [modify_object_self, h, h']
  · rw [V.modify_object_of_ne hs]

theorem successor_ne {V : View} {r heir : ConnRef} {inputPoint : UInt16}
    (hm : StackState.isMulticastMaster (V.object r) = true)
    (h : V.successor inputPoint = some heir) : heir ≠ r := by
  rintro rfl
  have := List.find?_some h
  rw [not_canTakeOver_of_master hm] at this
  cases this

@[simp] theorem isMulticastMaster_setState (c : CipConnectionObject)
    (state : ConnectionObjectState) :
    StackState.isMulticastMaster (c.setState state) = StackState.isMulticastMaster c := rfl

@[simp] theorem setState_producedPath (c : CipConnectionObject)
    (state : ConnectionObjectState) : (c.setState state).producedPath = c.producedPath := rfl

theorem pass_setState {V : View} {r heir : ConnRef} (hne : heir ≠ r)
    (state : ConnectionObjectState) :
    (V.modify r fun c => c.setState state).pass r heir =
      (V.pass r heir).modify r fun c => c.setState state := by
  have hobject : ∀ s, ((V.modify r fun c => c.setState state).pass r heir).object s =
      ((V.pass r heir).modify r fun c => c.setState state).object s := by
    intro s
    unfold pass
    by_cases hs : s = r
    · subst hs
      simp [View.modify_object_of_ne _ (Ne.symm hne), retire, CipConnectionObject.setState]
    · by_cases hs' : s = heir
      · subst hs'
        simp [View.modify_object_of_ne _ hs, inherit, CipConnectionObject.setState]
      · simp [View.modify_object_of_ne _ hs, View.modify_object_of_ne _ hs']
  exact View.ext rfl (funext hobject) rfl rfl

/-- Handing over does not depend on the state of the connection. -/
theorem vacate_setState {V : View} (r : ConnRef) (state : ConnectionObjectState) :
    (V.modify r fun c => c.setState state).vacate r =
      (V.vacate r).modify r fun c => c.setState state := by
  cases hm : StackState.isMulticastMaster (V.object r) with
  | false =>
      rw [vacate_of_not_master hm, vacate_of_not_master]
      rw [modify_object_self, isMulticastMaster_setState, hm]
  | true =>
      have hsucc := @successor_modify V r (V.object r).producedPath.instanceId
        (fun c => c.setState state)
        (not_canTakeOver_of_master hm)
        (not_canTakeOver_of_master (by rw [isMulticastMaster_setState]; exact hm))
      simp only [vacate, modify_object_self, isMulticastMaster_setState, hm, if_true,
        setState_producedPath, hsucc]
      cases hcase : V.successor (V.object r).producedPath.instanceId with
      | some heir => exact pass_setState (successor_ne hm hcase) state
      | none =>
          have hdrop : V.ofInput .ioListenOnly (V.object r).producedPath.instanceId r = false := by
            have htype : (V.object r).instanceType ≠ .ioListenOnly := by
              intro heq
              rw [isMulticastMaster_of_type (by simp [heq]) (by simp [heq])] at hm
              cases hm
            simp [ofInput, htype]
          refine Eq.trans (without_congr _ fun s => ?_) (V.modify_without hdrop _)
          by_cases hs : s = r
          · subst hs
            simp [ofInput, CipConnectionObject.setState]
          · simp [ofInput, V.modify_object_of_ne hs]

end View

namespace StackState

variable {cfg : Config} {st : StackState} {ns : List Nat}

theorem Listed.mem_of_data (h : st.Listed cfg ns) {n : Nat} {r : ConnRef}
    (hdata : (st.nodes n).data = some r) : n ∈ ns :=
  h.links.mem_of_data hdata

theorem Listed.data (h : st.Listed cfg ns) {n : Nat} (hn : n ∈ ns) :
    ∃ r, (st.nodes n).data = some r ∧ r ∈ st.connectionList cfg := by
  obtain ⟨r, hr⟩ := Option.isSome_iff_exists.mp (h.links.data_isSome hn)
  exact ⟨r, hr, h.mem.mpr ⟨n, hn, hr⟩⟩

/-- The nodes that stay when some connections are dropped. -/
theorem Shrunk.nodes_eq (h : st.Listed cfg ns) {dropped : ConnRef → Bool} {V : View}
    {st' : StackState} {ns' : List Nat} (hs : Shrunk cfg st ns V st' ns')
    (hV : V.members = (st.connectionList cfg).filter fun r => !dropped r) :
    ns' = ns.filter fun n => (st.nodes n).data.any fun r => !dropped r := by
  have hmem : ∀ n ∈ ns, (n ∈ ns' ↔ ((st.nodes n).data.any fun r => !dropped r) = true) := by
    intro n hn
    obtain ⟨r, hr, hlist⟩ := h.data hn
    have hview : st'.connectionList cfg = V.members := by
      rw [← hs.view_eq, view_members]
    rw [DoublyLinkedList.Listing.mem_trimmed h hs.listed hs.trimmed hn hr]
    change r ∈ st'.connectionList cfg ↔ _
    rw [hview, hV, List.mem_filter, hr, Option.any_some]
    exact and_iff_right hlist
  exact (eq_filter_of_sublist hs.trimmed.sublist h.links.nodup).trans
    (List.filter_congr fun n hn => Bool.eq_iff_iff.mpr (by simpa using hmem n hn))

/-- Dropping one connection leaves the nodes in front of its own and behind it. -/
theorem Shrunk.nodes_without (h : st.Listed cfg ns) {V : View} {st' : StackState}
    {pre suf ns' : List Nat} {n : Nat} {r : ConnRef} (hns : ns = pre ++ n :: suf)
    (hr : (st.nodes n).data = some r) (hs : Shrunk cfg st ns V st' ns')
    (hV : V.members = (st.connectionList cfg).filter fun s => !decide (s = r)) :
    ns' = pre ++ suf := by
  have hnodup : (pre ++ n :: suf).Nodup := hns ▸ h.links.nodup
  have hkeep : ∀ m ∈ pre ++ suf,
      ((st.nodes m).data.any fun s => !decide (s = r)) = true := by
    intro m hm
    have hmns : m ∈ ns := by
      rw [hns]
      exact (List.Sublist.append_left (List.sublist_cons_self n suf) pre).subset hm
    obtain ⟨s, hs, -⟩ := h.data hmns
    have hne : s ≠ r := by
      rintro rfl
      have hmn : m = n := DoublyLinkedList.Listing.node_unique h hmns (by simp [hns]) hs hr
      subst hmn
      exact (List.nodup_cons.mp (List.nodup_middle.mp hnodup)).1 hm
    simp [hs, hne]
  rw [hs.nodes_eq h hV, hns, List.filter_append, List.filter_cons_of_neg (by simp [hr]),
    ← List.filter_append]
  exact List.filter_eq_self.mpr hkeep

theorem shrunk_closeCommunicationChannels (h : st.Listed cfg ns) (r : ConnRef) :
    ∃ ns', Shrunk cfg st ns ((st.view cfg).without (· = r))
      (st.closeCommunicationChannelsAndRemoveFromActiveConnectionsList cfg r) ns' := by
  have h₁ := shrunk_closeSocket h (st.conn r).consumingSocket
  have h₂ := shrunk_closeSocket h₁.listed (st.conn r).producingSocket
  obtain ⟨ns', h₃⟩ := shrunk_remove h₂.listed r
  rw [h₂.view_eq, h₁.view_eq] at h₃
  exact ⟨ns', (h₁.trans h₂).trans h₃⟩

theorem shrunk_closeConnection (h : st.Listed cfg ns) (r : ConnRef) :
    ∃ ns', Shrunk cfg st ns ((st.view cfg).without (· = r)) (st.closeConnection cfg r) ns' := by
  simp only [closeConnection]
  split
  · have h₁ := shrunk_closeSocket h (st.conn r).consumingSocket
    have h₂ := h₁.trans (shrunk_closeSocket h₁.listed (st.conn r).producingSocket)
    have h₃ := h₂.trans (shrunk_modifyConn h₂.listed r fun c =>
      { c with consumingSocket := eipInvalidSocket, producingSocket := eipInvalidSocket })
    obtain ⟨ns', h₄⟩ := shrunk_remove h₃.listed r
    refine ⟨ns', ?_⟩
    rw [h₃.view_eq, View.without_modify, view_closeSocket, view_closeSocket] at h₄
    exact h₃.trans h₄
  · exact shrunk_remove h r

/-- A connection that produces for nobody else is only unlinked. -/
theorem closeIoConnection_of_not_master (h : st.Listed cfg ns) {r : ConnRef}
    (hm : isMulticastMaster (st.conn r) = false)
    (close : ConnRef → StackState → Except Fault StackState) :
    ∃ st' ns', st.closeIoConnection cfg close r = .ok st' ∧
      Shrunk cfg st ns ((st.view cfg).without (· = r)) st' ns' := by
  have h₁ := shrunk_checkIoConnectionEvent h (st.conn r) .closed
  have h₂ := h₁.trans (shrunk_modifyConn h₁.listed r fun c => c.setState .nonExistent)
  obtain ⟨ns', h₃⟩ := shrunk_closeCommunicationChannels h₂.listed r
  rw [h₂.view_eq, View.without_modify, view_checkIoConnectionEvent] at h₃
  refine ⟨_, ns', ?_, h₂.trans h₃⟩
  simp [closeIoConnection, hm]

/-- Where the walk over the rest of the list stands, and what it will drop. -/
theorem closeListeners_walk (inputPoint : UInt16) (depth : Nat) {suf : List Nat}
    (pre : List Nat) (h : st.Listed cfg ns) (hns : ns = pre ++ suf)
    (hclose : (st.view cfg).Closable) {fuel : Nat} (hfuel : suf.length ≤ fuel) :
    ∃ st' ns', savedWalk nodes .freedNode .nonTermination
        (fun r s =>
          if (s.conn r).instanceType = .ioListenOnly ∧
              (s.conn r).producedPath.instanceId = inputPoint then
            match closeFunctionAt cfg (depth + 1) r
                (s.checkIoConnectionEvent (s.conn r) .closed) with
            | .error fault => .error fault
            | .ok s => .ok (Turn.continue s)
          else .ok (Turn.continue s)) fuel suf.head? st = .ok st' ∧
      Shrunk cfg st ns ((st.view cfg).without fun r =>
        (contents st.nodes suf).contains r && (st.conn r).instanceType = .ioListenOnly &&
          (st.conn r).producedPath.instanceId = inputPoint) st' ns' := by
  induction suf generalizing st ns pre fuel with
  | nil =>
      refine ⟨st, ns, by cases fuel <;> rfl, h, DoublyLinkedList.Trimmed.refl _ ns, ?_,
        Frame.refl st⟩
      rw [View.without_none]
      intro r
      simp [contents]
  | cons n suf ih =>
      obtain ⟨fuel, rfl⟩ : ∃ k, fuel = k + 1 := ⟨fuel - 1, by simp at hfuel; omega⟩
      have hn : n ∈ ns := by rw [hns]; simp
      obtain ⟨r, hr, hlist⟩ := h.data hn
      have hnext : (st.nodes n).next = suf.head? := h.links.next_eq hns
      simp only [List.head?_cons, savedWalk, hr, hnext]
      by_cases hmatch : (st.conn r).instanceType = .ioListenOnly ∧
          (st.conn r).producedPath.instanceId = inputPoint
      · rw [if_pos hmatch]
        have hevent := shrunk_checkIoConnectionEvent h (st.conn r) .closed
        have hclose' : (st.conn r).connectionCloseFunction = some .closeIoConnection := by
          rcases hclose r hlist with hc | ⟨-, hc⟩
          · exact hc
          · rw [view_object, hmatch.1] at hc
            cases hc
        have hm : isMulticastMaster (st.conn r) = false :=
          View.isMulticastMaster_of_type (by simp [hmatch.1]) (by simp [hmatch.1])
        obtain ⟨st₁, ns₁, hst₁, hshrunk₁⟩ := closeIoConnection_of_not_master hevent.listed
          (r := r) hm (closeFunctionAt cfg depth)
        have hcall : closeFunctionAt cfg (depth + 1) r
            (st.checkIoConnectionEvent (st.conn r) .closed) = .ok st₁ := by
          simp [closeFunctionAt, hclose', hst₁]
        rw [view_checkIoConnectionEvent] at hshrunk₁
        have hstep := hevent.trans hshrunk₁
        have hns₁ : ns₁ = pre ++ suf := hstep.nodes_without h hns hr rfl
        subst hns₁
        have hview : st₁.view cfg = (st.view cfg).without (· = r) := hstep.view_eq
        obtain ⟨st', ns', hwalk, hshrunk⟩ := ih pre hstep.listed rfl
          (by rw [hview]; exact hclose.without _) (by simpa using hfuel)
        refine ⟨st', ns', by simpa only [hcall] using hwalk, ?_⟩
        have hcontents : contents st₁.nodes suf = contents st.nodes suf :=
          contents_congr fun m hm => hstep.trimmed.data_eq m (List.mem_append_right pre hm)
        have hrsuf : r ∉ contents st.nodes suf := by
          intro hmem
          rw [← hcontents] at hmem
          obtain ⟨m, hm, hdata⟩ := mem_contents.mp hmem
          have hmem₁ : r ∈ (st₁.view cfg).members :=
            hstep.listed.mem.mpr ⟨m, List.mem_append_right pre hm, hdata⟩
          rw [hview] at hmem₁
          simpa using ((st.view cfg).mem_without.mp hmem₁).2
        rw [hview, View.without_without] at hshrunk
        rw [@View.without_congr _ _ fun s => decide (s = r) ||
          ((contents st₁.nodes suf).contains s && (st₁.conn s).instanceType = .ioListenOnly &&
            (st₁.conn s).producedPath.instanceId = inputPoint)]
        · exact hstep.trans hshrunk
        · intro s
          rw [hcontents, contents_cons hr]
          by_cases hs : s = r
          · subst hs
            simp [hmatch]
          · have hobject : st₁.conn s = st.conn s := by
              have := congrArg (fun V => V.object s) hview
              simpa [hs] using this
            simp [hs, hobject]
      · rw [if_neg hmatch]
        obtain ⟨st', ns', hwalk, hshrunk⟩ := ih (pre ++ [n]) h (by simp [hns]) hclose
          (by simpa using hfuel)
        refine ⟨st', ns', hwalk, ?_⟩
        rw [contents_cons hr]
        rw [@View.without_congr _ _ fun r => (contents st.nodes suf).contains r &&
          (st.conn r).instanceType = .ioListenOnly &&
          (st.conn r).producedPath.instanceId = inputPoint]
        · exact hshrunk
        · intro s
          by_cases hs : s = r
          · subst hs
            cases htype : decide ((st.conn s).instanceType = .ioListenOnly) with
            | false => simp
            | true =>
                have hinput : (st.conn s).producedPath.instanceId ≠ inputPoint := fun heq =>
                  hmatch ⟨of_decide_eq_true htype, heq⟩
                simp [hinput]
          · simp [hs]

/-- `CloseAllConnectionsForInputWithSameType` for listen-only connections drops
exactly these. -/
theorem closeListeners (inputPoint : UInt16) (depth : Nat) (h : st.Listed cfg ns)
    (hclose : (st.view cfg).Closable) :
    ∃ st' ns', st.closeAllConnectionsForInputWithSameType cfg
        (closeFunctionAt cfg (depth + 1)) inputPoint .ioListenOnly = .ok st' ∧
      Shrunk cfg st ns ((st.view cfg).without
        ((st.view cfg).ofInput .ioListenOnly inputPoint)) st' ns' := by
  obtain ⟨st', ns', hwalk, hshrunk⟩ :=
    closeListeners_walk inputPoint depth [] h rfl hclose h.length_le
  refine ⟨st', ns', ?_, ?_⟩
  · rw [closeAllConnectionsForInputWithSameType, h.links.first_eq]
    exact hwalk
  · have hmembers : contents st.nodes ns = st.connectionList cfg := h.members_eq.symm
    rw [hmembers] at hshrunk
    exact hshrunk

/-- Handing over rewrites two objects. -/
theorem shrunk_transferMasterConnection (h : st.Listed cfg ns) {r heir : ConnRef}
    (hs : (st.view cfg).successor (st.conn r).producedPath.instanceId = some heir) :
    ∃ st', st.transferMasterConnection cfg r = some st' ∧
      Shrunk cfg st ns ((st.view cfg).pass r heir) st' ns := by
  have hnext : st.getNextNonControlMasterConnection cfg (st.conn r).producedPath.instanceId =
      some heir := hs
  simp only [transferMasterConnection, hnext]
  exact ⟨_, rfl, h, DoublyLinkedList.Trimmed.refl _ ns, rfl, rfl, rfl, rfl, rfl, rfl, rfl⟩

theorem transferMasterConnection_none {r : ConnRef}
    (hs : (st.view cfg).successor (st.conn r).producedPath.instanceId = none) :
    st.transferMasterConnection cfg r = none := by
  have hnext : st.getNextNonControlMasterConnection cfg (st.conn r).producedPath.instanceId =
      none := hs
  simp only [transferMasterConnection, hnext]

/-- The hand-over that closing and timing out share: the input is passed on, or
its listeners are closed. -/
theorem vacate_master (h : st.Listed cfg ns) (hclose : (st.view cfg).Closable) {r : ConnRef}
    (hm : isMulticastMaster (st.conn r) = true) (depth : Nat) :
    (∃ st', st.transferMasterConnection cfg r = some st' ∧
      Shrunk cfg st ns ((st.view cfg).vacate r) st' ns) ∨
    (st.transferMasterConnection cfg r = none ∧
      ∃ st' ns', st.closeAllConnectionsForInputWithSameType cfg
          (closeFunctionAt cfg (depth + 1)) (st.conn r).producedPath.instanceId
          .ioListenOnly = .ok st' ∧
        Shrunk cfg st ns ((st.view cfg).vacate r) st' ns') := by
  have hm' : isMulticastMaster ((st.view cfg).object r) = true := hm
  unfold View.vacate
  rw [if_pos hm']
  cases hcase : (st.view cfg).successor ((st.view cfg).object r).producedPath.instanceId with
  | some heir => exact .inl (shrunk_transferMasterConnection h hcase)
  | none => exact .inr ⟨transferMasterConnection_none hcase, closeListeners _ depth h hclose⟩

theorem closeIoConnection_ok (h : st.Listed cfg ns) (hclose : (st.view cfg).Closable)
    (r : ConnRef) (depth : Nat) :
    ∃ st' ns', st.closeIoConnection cfg (closeFunctionAt cfg (depth + 1)) r = .ok st' ∧
      Shrunk cfg st ns ((st.view cfg).closed r) st' ns' := by
  cases hm : isMulticastMaster (st.conn r) with
  | false =>
      unfold View.closed
      rw [View.vacate_of_not_master hm]
      exact closeIoConnection_of_not_master h hm _
  | true =>
      have h₁ := shrunk_checkIoConnectionEvent h (st.conn r) .closed
      have h₂ := h₁.trans (shrunk_modifyConn h₁.listed r fun c => c.setState .nonExistent)
      rw [view_checkIoConnectionEvent] at h₂
      have hview := h₂.view_eq
      have hm₁ : isMulticastMaster (((st.checkIoConnectionEvent (st.conn r)
          .closed).modifyConn r fun c => c.setState .nonExistent).conn r) = true := by
        rw [conn_modifyConn_self]
        exact hm
      simp only [closeIoConnection]
      generalize (st.checkIoConnectionEvent (st.conn r) .closed).modifyConn r
        (fun c => c.setState .nonExistent) = st₁ at h₂ hview hm₁
      have hclosable : (st₁.view cfg).Closable := by
        rw [hview]
        exact hclose.modify rfl rfl
      have hclosed : ((st₁.view cfg).vacate r).without (· = r) = (st.view cfg).closed r := by
        rw [hview, View.vacate_setState, View.without_modify, View.closed]
      rw [if_pos hm₁]
      rcases vacate_master h₂.listed hclosable hm₁ depth with
        ⟨st₂, htransfer, h₃⟩ | ⟨htransfer, st₂, ns₂, hwalk, h₃⟩
      · obtain ⟨ns', h₄⟩ := shrunk_closeCommunicationChannels h₃.listed r
        rw [h₃.view_eq, hclosed] at h₄
        rw [htransfer]
        exact ⟨_, ns', rfl, (h₂.trans h₃).trans h₄⟩
      · obtain ⟨ns', h₄⟩ := shrunk_closeCommunicationChannels h₃.listed r
        rw [h₃.view_eq, hclosed] at h₄
        simp only [htransfer, hwalk]
        exact ⟨_, ns', rfl, (h₂.trans h₃).trans h₄⟩

/-- Calling the close function of a listed connection never fails. -/
theorem connectionCloseFunction_ok (h : st.Listed cfg ns) (hclose : (st.view cfg).Closable)
    {r : ConnRef} (hr : r ∈ st.connectionList cfg) :
    ∃ st' ns', st.connectionCloseFunction cfg r = .ok st' ∧
      Shrunk cfg st ns ((st.view cfg).closed r) st' ns' := by
  rcases hclose r hr with hio | ⟨hclass3, htype⟩
  · rw [view_object] at hio
    simp only [connectionCloseFunction, closeFunctionAt, hio]
    exact closeIoConnection_ok h hclose r 0
  · rw [view_object] at hclass3 htype
    obtain ⟨ns', hshrunk⟩ := shrunk_closeConnection h r
    simp only [connectionCloseFunction, closeFunctionAt, hclass3]
    refine ⟨_, ns', rfl, ?_⟩
    have hm : isMulticastMaster ((st.view cfg).object r) = false :=
      View.isMulticastMaster_of_type (by simp [htype]) (by simp [htype])
    unfold View.closed
    rwa [View.vacate_of_not_master hm]

/-- A slot that is not listed and produces nothing is only cleared. -/
theorem connectionCloseFunction_of_not_master (h : st.Listed cfg ns) {r : ConnRef}
    (hm : isMulticastMaster (st.conn r) = false) {st' : StackState}
    (hcall : st.connectionCloseFunction cfg r = .ok st') :
    ∃ ns', Shrunk cfg st ns ((st.view cfg).without (· = r)) st' ns' := by
  rw [connectionCloseFunction, closeFunctionAt] at hcall
  cases hfn : (st.conn r).connectionCloseFunction with
  | none => simp [hfn] at hcall
  | some fn =>
      cases fn with
      | closeConnection =>
          simp only [hfn, Except.ok.injEq] at hcall
          exact hcall ▸ shrunk_closeConnection h r
      | closeIoConnection =>
          simp only [hfn] at hcall
          obtain ⟨st₁, ns', hok, hshrunk⟩ := closeIoConnection_of_not_master h hm
            (closeFunctionAt cfg 1)
          rw [hcall, Except.ok.injEq] at hok
          exact ⟨ns', hok ▸ hshrunk⟩

end StackState

end Opener

import Opener.Metatheory.Sessions

/-!
Time-outs. `HandleIoConnectionTimeOut` first marks the connection, may close
sessions, then hands its production over or closes what depends on it. On the
table this is a sequence of departures in which the connection itself expires.
-/

namespace Opener

open LinkedCells

namespace View

variable {cfg : Config} {V : View}

theorem modify_eq_self {r : ConnRef} {f : CipConnectionObject → CipConnectionObject}
    (h : f (V.object r) = V.object r) : V.modify r f = V := by
  unfold modify
  rw [h, Function.update_eq_self]

/-- A connection that is not established and does not listen is left alone when
another one closes. -/
theorem closed_other {r s : ConnRef} (hs : s ∈ V.members) (hne : s ≠ r)
    (hstate : (V.object s).state ≠ .established)
    (htype : (V.object s).instanceType ≠ .ioListenOnly) :
    s ∈ (V.closed r).members ∧ (V.closed r).object s = V.object s := by
  have hvacate : s ∈ (V.vacate r).members ∧ (V.vacate r).object s = V.object s := by
    unfold vacate
    split
    · split
      · rename_i heir hsucc
        have hheir : s ≠ heir := by
          rintro rfl
          have htake := List.find?_some hsucc
          simp [canTakeOver, hstate] at htake
        refine ⟨hs, ?_⟩
        unfold pass
        rw [modify_object_of_ne _ hne, modify_object_of_ne _ hheir]
      · have hdrop : V.ofInput .ioListenOnly (V.object r).producedPath.instanceId s = false := by
          simp [ofInput, htype]
        refine ⟨V.mem_without.mpr ⟨hs, hdrop⟩, ?_⟩
        rw [without_object, hdrop]
        rfl
    · exact ⟨hs, rfl⟩
  have hdrop : decide (s = r) = false := by simpa using hne
  refine ⟨View.mem_without _ |>.mpr ⟨hvacate.1, hdrop⟩, ?_⟩
  unfold closed
  rw [without_object, hdrop]
  exact hvacate.2

end View

namespace StackState

variable {cfg : Config} {env : Environment} {st : StackState} {ns : List Nat}

/-- Connections left the list, one departure after the other. -/
structure Departed (cfg : Config) (st : StackState) (ns : List Nat) (st' : StackState)
    (ns' : List Nat) : Prop where
  listed : st'.Listed cfg ns'
  trimmed : st.Trimmed ns st' ns'
  departs : Departs (st.view cfg) (st'.view cfg)
  frame : Frame st st'

theorem Departed.refl (h : st.Listed cfg ns) : Departed cfg st ns st ns :=
  ⟨h, DoublyLinkedList.Trimmed.refl _ ns, .refl, Frame.refl st⟩

theorem Departed.trans {st₂ st₃ : StackState} {ns₂ ns₃ : List Nat}
    (h : Departed cfg st ns st₂ ns₂) (h' : Departed cfg st₂ ns₂ st₃ ns₃) :
    Departed cfg st ns st₃ ns₃ :=
  ⟨h'.listed, DoublyLinkedList.Trimmed.trans h.trimmed h'.trimmed,
    h.departs.trans h'.departs, h.frame.trans h'.frame⟩

theorem Departed.regular {st' : StackState} {ns' : List Nat}
    (h : Departed cfg st ns st' ns') (hregular : Regular cfg (st.view cfg)) :
    Regular cfg (st'.view cfg) :=
  hregular.departs h.departs

theorem Shrunk.departed {V : View} {st' : StackState} {ns' : List Nat}
    (h : Shrunk cfg st ns V st' ns') (hdeparts : Departs (st.view cfg) V) :
    Departed cfg st ns st' ns' := by
  refine ⟨h.listed, h.trimmed, ?_, h.frame⟩
  rw [h.view_eq]
  exact hdeparts

theorem Discarded.departed {st' : StackState} {ns' : List Nat}
    (h : Discarded cfg st ns st' ns') : Departed cfg st ns st' ns' := by
  obtain ⟨dropped, hdropped, hshrunk⟩ := h
  exact hshrunk.departed (.single (.discard dropped hdropped))

/-- Calling the close function of a listed connection is a departure. -/
theorem connectionCloseFunction_departed (h : st.Listed cfg ns)
    (hregular : Regular cfg (st.view cfg)) {r : ConnRef} (hr : r ∈ st.connectionList cfg) :
    ∃ st' ns', st.connectionCloseFunction cfg r = .ok st' ∧
      st'.view cfg = (st.view cfg).closed r ∧ Departed cfg st ns st' ns' := by
  obtain ⟨st', ns', hcall, hshrunk⟩ := connectionCloseFunction_ok h hregular.closable hr
  refine ⟨st', ns', hcall, hshrunk.view_eq, hshrunk.departed ?_⟩
  cases hio : r.isIo with
  | true => exact .single (.close hr hio)
  | false =>
      rw [hregular.closed_explicit hr hio]
      refine .single (.discard _ fun s hs => ?_)
      rw [of_decide_eq_true hs]
      exact ⟨hr, hio⟩

/-- Closing all connections of one type and input, none of which is `r`. -/
theorem closeAllConnections_departed {inputPoint : UInt16}
    {instanceType : ConnectionObjectInstanceType} (h : st.Listed cfg ns)
    (hregular : Regular cfg (st.view cfg)) {r : ConnRef} (hr : r ∈ st.connectionList cfg)
    (hstate : (st.conn r).state ≠ .established)
    (htype : (st.conn r).instanceType ≠ .ioListenOnly)
    (hother : (st.conn r).instanceType ≠ instanceType) {st' : StackState}
    (hcall : st.closeAllConnectionsForInputWithSameType cfg (connectionCloseFunction cfg)
      inputPoint instanceType = .ok st') :
    (∃ ns', Departed cfg st ns st' ns') ∧ r ∈ st'.connectionList cfg ∧
      st'.conn r = st.conn r := by
  unfold closeAllConnectionsForInputWithSameType at hcall
  have hstep : ∀ s a s', ((∃ ns', Departed cfg st ns s ns') ∧ r ∈ s.connectionList cfg ∧
      s.conn r = st.conn r) → a ∈ s.connectionList cfg →
      (s.conn a).instanceType = instanceType →
      connectionCloseFunction cfg a (s.checkIoConnectionEvent (s.conn a) .closed) = .ok s' →
      (∃ ns', Departed cfg st ns s' ns') ∧ r ∈ s'.connectionList cfg ∧
        s'.conn r = st.conn r := by
    rintro s a s' ⟨⟨ns₁, hdep⟩, hmem, hconn⟩ ha hatype hclose
    have hevent := shrunk_checkIoConnectionEvent hdep.listed (s.conn a) .closed
    have hreg := hevent.regular (hdep.regular hregular)
    obtain ⟨s'', ns₂, hcall', hview, hdep'⟩ :=
      connectionCloseFunction_departed hevent.listed hreg (r := a) ha
    rw [hclose, Except.ok.injEq] at hcall'
    subst hcall'
    have hra : r ≠ a := by
      rintro rfl
      exact hother (hconn ▸ hatype)
    have hkeep := View.closed_other (V := s.view cfg) (r := a) (s := r) hmem hra
      (by rw [view_object, hconn]; exact hstate) (by rw [view_object, hconn]; exact htype)
    rw [view_checkIoConnectionEvent] at hview
    refine ⟨⟨ns₂, hdep.trans ((hevent.departed .refl).trans hdep')⟩, ?_, ?_⟩
    · rw [← view_members, hview]
      exact hkeep.1
    · rw [← view_object, hview, hkeep.2, view_object, hconn]
  refine savedWalk_invariant (fun s => (∃ ns', Departed cfg st ns s ns') ∧
    r ∈ s.connectionList cfg ∧ s.conn r = st.conn r) ?_ ?_
    ⟨⟨ns, Departed.refl h⟩, hr, rfl⟩ hcall
  · intro s n a s' hP hdata hbody
    have ha : a ∈ s.connectionList cfg := by
      obtain ⟨⟨ns₁, hdep⟩, -⟩ := hP
      exact hdep.listed.mem.mpr ⟨n, hdep.listed.mem_of_data hdata, hdata⟩
    split at hbody
    · rename_i hmatch
      cases hclose : connectionCloseFunction cfg a
          (s.checkIoConnectionEvent (s.conn a) .closed) with
      | error fault => simp [hclose] at hbody
      | ok s₁ =>
          simp only [hclose, Except.ok.injEq, Turn.continue.injEq] at hbody
          subst hbody
          exact hstep s a s₁ hP ha hmatch.1 hclose
    · simp only [Except.ok.injEq, Turn.continue.injEq] at hbody
      exact hbody ▸ hP
  · intro s n a s' hP hdata hbody
    split at hbody
    · split at hbody <;> simp at hbody
    · simp at hbody

theorem closeEncapsulationSession_discarded (h : st.Listed cfg ns)
    (hregular : Regular cfg (st.view cfg)) {c : CipConnectionObject} {st' : StackState}
    (hcall : st.closeEncapsulationSessionBySockAddr cfg env c = .ok st') :
    ∃ ns', Discarded cfg st ns st' ns' :=
  closeSessionsOfPeer_discarded h hregular hcall

/-- Up to the hand-over the connection is marked and class 3 connections of its
originator's sessions may be gone. -/
theorem enterTimedOut_ok (h : st.Listed cfg ns) (hregular : Regular cfg (st.view cfg))
    {r : ConnRef} (hr : r ∈ st.connectionList cfg) (hio : r.isIo = true) {st' : StackState}
    (hcall : st.enterTimedOut cfg env r = .ok st') :
    ∃ (dropped : ConnRef → Bool) (ns' : List Nat),
      (∀ s, dropped s = true → s ∈ st.connectionList cfg ∧ s.isIo = false) ∧
      Shrunk cfg st ns (((st.view cfg).without dropped).modify r
        fun c => c.setState .timedOut) st' ns' := by
  have h₁ := shrunk_checkIoConnectionEvent h (st.conn r) .timedOut
  have h₂ := h₁.trans (shrunk_modifyConn h₁.listed r fun c => c.setState .timedOut)
  rw [view_checkIoConnectionEvent] at h₂
  have hview := h₂.view_eq
  simp only [enterTimedOut] at hcall
  generalize (st.checkIoConnectionEvent (st.conn r) .timedOut).modifyConn r
    (fun c => c.setState .timedOut) = st₁ at h₂ hview hcall
  have hregular₁ : Regular cfg (st₁.view cfg) := by
    rw [hview]
    exact hregular.modify hr ((hregular.kind r hr).timedOut hio)
  have hdiscarded : ∃ ns', Discarded cfg st₁ ns st' ns' := by
    split at hcall
    · exact checkForTimedOut_discarded h₂.listed
        (fun c st' => closeEncapsulationSession_discarded h₂.listed hregular₁) hcall
    · cases hcall
      exact ⟨ns, Discarded.refl h₂.listed⟩
  obtain ⟨ns', dropped, hdropped, h₃⟩ := hdiscarded
  have hlist : st₁.connectionList cfg = st.connectionList cfg := by
    rw [← view_members, hview]
    rfl
  have hkeep : dropped r = false := by
    cases hd : dropped r with
    | false => rfl
    | true => exact absurd (hdropped r hd).2 (by simp [hio])
  rw [hlist] at hdropped
  rw [hview, View.modify_without _ hkeep] at h₃
  exact ⟨dropped, ns', hdropped, h₂.trans h₃⟩

/-- Handing over never fails. -/
theorem handOverTimedOut_returns (h : st.Listed cfg ns) (hclose : (st.view cfg).Closable)
    (r : ConnRef) : ∃ handover st', st.handOverTimedOut cfg r = .ok (handover, st') := by
  rw [handOverTimedOut]
  cases hm : isMulticastMaster (st.conn r) with
  | false => exact ⟨false, st, if_neg (by simp)⟩
  | true =>
      rw [if_pos rfl]
      rcases vacate_master h hclose hm 1 with
        ⟨st₁, htransfer, -⟩ | ⟨htransfer, st₁, ns₁, hwalk, -⟩
      · exact ⟨true, st₁, by rw [htransfer]⟩
      · have hwalk' : st.closeAllConnectionsForInputWithSameType cfg
            (connectionCloseFunction cfg) (st.conn r).producedPath.instanceId .ioListenOnly =
              .ok st₁ := hwalk
        exact ⟨false, st₁, by simp only [htransfer, hwalk']⟩

/-- The hand-over of a marked connection completes its expiry. -/
theorem handOverTimedOut_ok {V : View} {r : ConnRef} (h : st.Listed cfg ns)
    (hview : st.view cfg = V.modify r fun c => c.setState .timedOut)
    (hclose : (st.view cfg).Closable) {handover : Bool} {st' : StackState}
    (hcall : st.handOverTimedOut cfg r = .ok (handover, st')) :
    ∃ ns', Shrunk cfg st ns (V.expired r) st' ns' := by
  have hexpired : (st.view cfg).vacate r = V.expired r := by
    rw [hview, View.vacate_setState, View.expired]
  unfold handOverTimedOut at hcall
  cases hm : isMulticastMaster (st.conn r) with
  | false =>
      simp only [hm, Bool.false_eq_true, if_false, Except.ok.injEq, Prod.mk.injEq] at hcall
      refine ⟨ns, ?_⟩
      rw [← hexpired, View.vacate_of_not_master (V := st.view cfg) hm, ← hcall.2]
      exact ⟨h, DoublyLinkedList.Trimmed.refl _ ns, rfl, Frame.refl st⟩
  | true =>
      rw [hexpired.symm]
      rw [if_pos hm] at hcall
      rcases vacate_master h hclose hm 1 with
        ⟨st₂, htransfer, h₃⟩ | ⟨htransfer, st₂, ns₂, hwalk, h₃⟩
      · simp only [htransfer, Except.ok.injEq, Prod.mk.injEq] at hcall
        exact ⟨ns, hcall.2 ▸ h₃⟩
      · have hwalk' : st.closeAllConnectionsForInputWithSameType cfg
            (connectionCloseFunction cfg) (st.conn r).producedPath.instanceId .ioListenOnly =
              .ok st₂ := hwalk
        simp only [htransfer, hwalk', Except.ok.injEq, Prod.mk.injEq] at hcall
        exact ⟨ns₂, hcall.2 ▸ h₃⟩

theorem closeDependents_departed (h : st.Listed cfg ns) (hregular : Regular cfg (st.view cfg))
    {r : ConnRef} (hr : r ∈ st.connectionList cfg)
    (hstate : (st.conn r).state ≠ .established) {handover : Bool} {st' : StackState}
    (hcall : st.closeDependents cfg r handover = .ok st') :
    (∃ ns', Departed cfg st ns st' ns') ∧ r ∈ st'.connectionList cfg ∧
      st'.conn r = st.conn r := by
  unfold closeDependents at hcall
  split at hcall
  · rename_i hcond
    have htype : (st.conn r).instanceType ≠ .ioListenOnly := by simp [hcond.1]
    cases hinputs : st.closeAllConnectionsForInputWithSameType cfg
        (connectionCloseFunction cfg) (st.conn r).producedPath.instanceId .ioInputOnly with
    | error fault => simp [hinputs] at hcall
    | ok st₁ =>
        simp only [hinputs] at hcall
        obtain ⟨⟨ns₁, h₁⟩, hr₁, hconn₁⟩ := closeAllConnections_departed h hregular hr hstate
          htype (by simp [hcond.1]) hinputs
        obtain ⟨⟨ns₂, h₂⟩, hr₂, hconn₂⟩ := closeAllConnections_departed h₁.listed
          (h₁.regular hregular) hr₁ (hconn₁ ▸ hstate) (hconn₁ ▸ htype) (hconn₁ ▸ htype) hcall
        exact ⟨⟨ns₂, h₁.trans h₂⟩, hr₂, hconn₂.trans hconn₁⟩
  · cases hcall
    exact ⟨⟨ns, Departed.refl h⟩, hr, rfl⟩

/-- The stages of `HandleIoConnectionTimeOut`: the connection is marked while explicit
connections of its originator may be discarded, it hands over, and an exclusive owner
that handed nothing over closes its dependents. -/
structure TimesOut (cfg : Config) (env : Environment) (r : ConnRef) (st : StackState)
    (ns : List Nat) (dropped : ConnRef → Bool) (st₁ : StackState) (ns₁ : List Nat)
    (handover : Bool) (st₂ : StackState) (ns₂ : List Nat) (st₃ : StackState) : Prop where
  explicit : ∀ s, dropped s = true → s ∈ st.connectionList cfg ∧ s.isIo = false
  kept : r ∈ ((st.view cfg).without dropped).members
  enters : st.enterTimedOut cfg env r = .ok st₁
  marked : Shrunk cfg st ns (((st.view cfg).without dropped).modify r
    fun c => c.setState .timedOut) st₁ ns₁
  handsOver : st₁.handOverTimedOut cfg r = .ok (handover, st₂)
  expired : Shrunk cfg st₁ ns₁ (((st.view cfg).without dropped).expired r) st₂ ns₂
  closes : st₂.closeDependents cfg r handover = .ok st₃

theorem handleIoConnectionTimeOut_stages (h : st.Listed cfg ns)
    (hregular : Regular cfg (st.view cfg)) {r : ConnRef} (hr : r ∈ st.connectionList cfg)
    (hio : r.isIo = true) {st' : StackState}
    (hcall : st.handleIoConnectionTimeOut cfg env r = .ok st') :
    ∃ dropped st₁ ns₁ handover st₂ ns₂ st₃,
      TimesOut cfg env r st ns dropped st₁ ns₁ handover st₂ ns₂ st₃ ∧
        st' = st₃.modifyConn r fun c => c.setState .timedOut := by
  rw [handleIoConnectionTimeOut] at hcall
  cases henter : st.enterTimedOut cfg env r with
  | error fault => simp [henter] at hcall
  | ok st₁ =>
      simp only [henter] at hcall
      obtain ⟨dropped, ns₁, hdropped, hmarked⟩ := enterTimedOut_ok h hregular hr hio henter
      have hkept : r ∈ ((st.view cfg).without dropped).members := by
        refine View.mem_without _ |>.mpr ⟨hr, ?_⟩
        cases hd : dropped r with
        | false => rfl
        | true => exact absurd (hdropped r hd).2 (by simp [hio])
      have hregular' := hregular.without dropped
      have hregular₁ : Regular cfg (st₁.view cfg) := by
        rw [hmarked.view_eq]
        exact hregular'.modify hkept ((hregular'.kind r hkept).timedOut hio)
      cases hover : st₁.handOverTimedOut cfg r with
      | error fault => simp [hover] at hcall
      | ok result =>
          obtain ⟨handover, st₂⟩ := result
          simp only [hover] at hcall
          obtain ⟨ns₂, hexpired⟩ :=
            handOverTimedOut_ok hmarked.listed hmarked.view_eq hregular₁.closable hover
          cases hclose : st₂.closeDependents cfg r handover with
          | error fault => simp [hclose] at hcall
          | ok st₃ =>
              simp only [hclose, Except.ok.injEq] at hcall
              exact ⟨dropped, st₁, ns₁, handover, st₂, ns₂, st₃,
                ⟨hdropped, hkept, henter, hmarked, hover, hexpired, hclose⟩, hcall.symm⟩

namespace TimesOut

variable {r : ConnRef} {dropped : ConnRef → Bool} {st₁ st₂ st₃ : StackState}
variable {ns₁ ns₂ : List Nat} {handover : Bool}

theorem not_dropped (h : TimesOut cfg env r st ns dropped st₁ ns₁ handover st₂ ns₂ st₃)
    {s : ConnRef} (hio : s.isIo = true) : dropped s = false := by
  cases hd : dropped s with
  | false => rfl
  | true => exact absurd (h.explicit s hd).2 (by simp [hio])

theorem object_eq (h : TimesOut cfg env r st ns dropped st₁ ns₁ handover st₂ ns₂ st₃) :
    ((st.view cfg).without dropped).object r = st.conn r := by
  rw [View.without_object, ((st.view cfg).mem_without.mp h.kept).2]
  rfl

theorem departed (h : TimesOut cfg env r st ns dropped st₁ ns₁ handover st₂ ns₂ st₃)
    (hregular : Regular cfg (st.view cfg)) (hio : r.isIo = true)
    (hestablished : (st.conn r).state = .established) :
    Departed cfg st ns st₂ ns₂ ∧ r ∈ st₂.connectionList cfg ∧
      (st₂.conn r).state = .timedOut := by
  have hdiscard : Depart (st.view cfg) ((st.view cfg).without dropped) :=
    .discard dropped h.explicit
  have hexpire : Depart ((st.view cfg).without dropped)
      (((st.view cfg).without dropped).expired r) := by
    refine .expire h.kept hio ?_
    rw [h.object_eq]
    exact hestablished
  refine ⟨(h.marked.trans h.expired).departed
    ((Relation.ReflTransGen.single hdiscard).tail hexpire), ?_, ?_⟩
  · rw [← view_members, h.expired.view_eq]
    exact ((hregular.depart hdiscard).vacate h.kept).2 hio
  · rw [← view_object cfg, h.expired.view_eq, View.expired, View.modify_object_self]
    rfl

end TimesOut

/-- Timing out an I/O connection: departures after which it is listed as timed
out. -/
theorem handleIoConnectionTimeOut_departed (h : st.Listed cfg ns)
    (hregular : Regular cfg (st.view cfg)) {r : ConnRef} (hr : r ∈ st.connectionList cfg)
    (hio : r.isIo = true) (hestablished : (st.conn r).state = .established)
    {st' : StackState} (hcall : st.handleIoConnectionTimeOut cfg env r = .ok st') :
    (∃ ns', Departed cfg st ns st' ns') ∧ r ∈ st'.connectionList cfg ∧
      (st'.conn r).state = .timedOut := by
  obtain ⟨dropped, st₁, ns₁, handover, st₂, ns₂, st₃, hstages, rfl⟩ :=
    handleIoConnectionTimeOut_stages h hregular hr hio hcall
  obtain ⟨hdeparted, hr₂, hstate₂⟩ := hstages.departed hregular hio hestablished
  obtain ⟨⟨ns₃, hclosed⟩, hr₃, hconn₃⟩ := closeDependents_departed hstages.expired.listed
    (hdeparted.regular hregular) hr₂ (by simp [hstate₂]) hstages.closes
  have hmodify := shrunk_modifyConn hclosed.listed r fun c => c.setState .timedOut
  have hsame : (st₃.view cfg).modify r (fun c => c.setState .timedOut) = st₃.view cfg := by
    refine View.modify_eq_self ?_
    rw [view_object, hconn₃, CipConnectionObject.setState, ← hstate₂]
  rw [hsame] at hmodify
  refine ⟨⟨ns₃, (hdeparted.trans hclosed).trans (hmodify.departed .refl)⟩, hr₃, ?_⟩
  rw [conn_modifyConn_self]
  rfl

end StackState

end Opener

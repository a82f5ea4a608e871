import Mathlib.Data.List.Pairwise
import Opener.Core.ConnectionData
import Opener.Metatheory.CommonPacketFormat
import Opener.Metatheory.Replies

/-!
Connection numbers. A request draws a number that no listed connection has, and it is only
the request's connection that can enter the list before the next draw; so listed
connections have different numbers and Get Connection Data names one of them.
-/

namespace Opener

namespace View

/-- No two listed connections have the same key. -/
def Distinct {κ : Type} (key : CipConnectionObject → κ) (V : View) : Prop :=
  V.members.Pairwise fun r s => key (V.object r) ≠ key (V.object s)

variable {κ : Type} {key : CipConnectionObject → κ} {V V' : View}

theorem Distinct.persists (h : V.Distinct key) (hkey : ∀ c, key c.lasting = key c)
    (hpersists : Persists V V') : V'.Distinct key := by
  refine (h.sublist hpersists.sublist).imp_of_mem ?_
  intro r s hr hs hrs
  rw [CipConnectionObject.lasting_field (hpersists.lasting r hr) key hkey,
    CipConnectionObject.lasting_field (hpersists.lasting s hs) key hkey]
  exact hrs

theorem Distinct.enters {cfg : Config} {env : Environment} {d : CipConnectionObject}
    (h : V.Distinct key) (hkey : ∀ c, key c.lasting = key c)
    (hfresh : ∀ s ∈ V.members, key (V.object s) ≠ key d) (henters : Enters cfg env d V V')
    (hgranted : ∀ c, Granted cfg env d V.connectionId c → key c = key d) :
    V'.Distinct key := by
  cases henters with
  | nobody persists => exact h.persists hkey persists
  | @somebody V₁ _ r entered =>
      obtain ⟨persists, unlisted, members, others, established, granted⟩ := entered
      have hothers : ∀ s ∈ V₁.members, key (V'.object s) = key (V₁.object s) := by
        intro s hs
        exact CipConnectionObject.lasting_field (others s hs).1 key hkey
      rw [Distinct, members]
      refine List.pairwise_cons.mpr ⟨?_, ?_⟩
      · intro s hs hsame
        rw [hgranted _ granted, hothers s hs,
          CipConnectionObject.lasting_field (persists.lasting s hs) key hkey] at hsame
        exact hfresh s (persists.sublist.subset hs) hsame.symm
      · refine (h.persists hkey persists).imp_of_mem ?_
        intro s t hs ht hst
        rw [hothers s hs, hothers t ht]
        exact hst

theorem Distinct.eq (h : V.Distinct key) {r s : ConnRef} (hr : r ∈ V.members)
    (hs : s ∈ V.members) (hsame : key (V.object r) = key (V.object s)) : r = s := by
  by_contra hne
  have hsymm : Std.Symm fun r s => key (V.object r) ≠ key (V.object s) := ⟨fun _ _ hrs => hrs.symm⟩
  exact List.Pairwise.forall h hr hs hne hsame

end View

namespace StackState

variable {cfg : Config} {st : StackState}

theorem Reachable.numbersDistinct (h : Reachable cfg st) :
    (st.view cfg).Distinct CipConnectionObject.connectionNumber := by
  obtain ⟨assemblyData, hreaches⟩ := h
  refine (view_invariant (View.Distinct CipConnectionObject.connectionNumber) ?_ ?_
    (sound_initialState cfg assemblyData) ?_ hreaches).2
  · intro V V' _ hmove hV
    exact hV.persists (fun _ => rfl) (.move hmove)
  · intro label st st₁ status V _ _ hentry _ _ hanswered hV
    obtain ⟨st₀, isLarge, request, originatorAddress, session, -, -, hrequest⟩ :=
      openEntry_request hentry
    have hdemanded := (forwardOpenRequest_demanded hrequest).1
    have hview : st₁.view cfg = st₀.view cfg :=
      (forwardOpenRequest_receives hrequest).1.view_eq
    refine hV.enters (fun _ => rfl) ?_ hanswered.enters fun c hgranted => ?_
    · rw [hview]
      exact hdemanded.number
    · exact CipConnectionObject.terms_field hgranted.terms (·.connectionNumber) fun _ => rfl
  · rw [View.Distinct, view_members, connectionList_initialState]
    exact .nil

theorem assembleConnectionDataResponseMessage_number (c : CipConnectionObject) :
    (Message.getUint (assembleConnectionDataResponseMessage c)).1 = c.connectionNumber := by
  simp only [assembleConnectionDataResponseMessage, List.append_assoc]
  rw [Message.getUint_intBytes]

/-- A record that is sent is that of a connection with the requested number. -/
theorem getConnectionData_number {request : MessageRouterRequest}
    (h : (st.getConnectionData cfg request).generalStatus = GeneralStatus.success) :
    (Message.getUint (st.getConnectionData cfg request).message).1 =
      (Message.getUint request.data).1 := by
  simp only [getConnectionData] at h ⊢
  cases hfind : st.findConnection cfg fun _ c =>
      c.connectionNumber = (Message.getUint request.data).1 with
  | none =>
      rw [hfind] at h
      cases h
  | some r =>
      have hfound := List.find?_some hfind
      exact (assembleConnectionDataResponseMessage_number _).trans (of_decide_eq_true hfound)

/-- A connection number belongs to one listed connection at most, and Get Connection Data
answers with the record of the connection that has the number. -/
theorem connection_numbers_unique (h : Reachable cfg st) :
    (∀ r ∈ st.connectionList cfg, ∀ s ∈ st.connectionList cfg,
      (st.conn r).connectionNumber = (st.conn s).connectionNumber → r = s) ∧
    ∀ request : MessageRouterRequest,
      (∀ r ∈ st.connectionList cfg,
        (st.conn r).connectionNumber = (Message.getUint request.data).1 →
        st.getConnectionData cfg request =
          { replyService := 0xD6
            generalStatus := GeneralStatus.success
            message := assembleConnectionDataResponseMessage (st.conn r) }) ∧
      ((∀ r ∈ st.connectionList cfg,
        (st.conn r).connectionNumber ≠ (Message.getUint request.data).1) →
        st.getConnectionData cfg request =
          { replyService := 0xD6, generalStatus := GeneralStatus.pathDestinationUnknown }) := by
  have hdistinct := h.numbersDistinct
  refine ⟨fun r hr s hs hsame => hdistinct.eq hr hs hsame, fun request => ⟨?_, ?_⟩⟩
  · intro r hr hnumber
    cases hfind : st.findConnection cfg fun _ c =>
        c.connectionNumber = (Message.getUint request.data).1 with
    | none =>
        have hnone := List.find?_eq_none.mp hfind r hr
        exact absurd (decide_eq_true hnumber) hnone
    | some s =>
        have hs : s ∈ st.connectionList cfg := List.mem_of_find?_eq_some hfind
        have hfound := List.find?_some hfind
        have hsame : s = r := hdistinct.eq hs hr ((of_decide_eq_true hfound).trans hnumber.symm)
        simp only [getConnectionData, hfind, hsame]
        rfl
  · intro hnobody
    have hnone : st.findConnection cfg (fun _ c =>
        c.connectionNumber = (Message.getUint request.data).1) = none :=
      List.find?_eq_none.mpr fun r hr hfound => hnobody r hr (of_decide_eq_true hfound)
    simp only [getConnectionData, hnone]
    rfl

open SampleApplication in
/-- The second request draws the number of the first one and draws again. -/
theorem connection_numbers_unique_sample :
    ∃ st, Reachable config st ∧
      (st.connectionList config = [.explicit 1, .explicit 0] ∧
        (st.conn (.explicit 0)).connectionNumber = 1001) ∧
      (∀ r ∈ st.connectionList config, ∀ s ∈ st.connectionList config,
        (st.conn r).connectionNumber = (st.conn s).connectionNumber → r = s) ∧
      st.getConnectionData config { service := 0x56, requestDataSize := 2, data := intBytes 1001 } =
        { replyService := 0xD6
          generalStatus := GeneralStatus.success
          message := assembleConnectionDataResponseMessage (st.conn (.explicit 0)) } := by
  obtain ⟨st, hreachable, hst⟩ := reachable_of_ends config
    [request (class3 1 1),
      ({ environment 0 20 with rand := [1001, 2] }, (request (class3 2 1)).2)]
    (fun st => st.connectionList config = [.explicit 1, .explicit 0] ∧
      (st.conn (.explicit 0)).connectionNumber = 1001) (by decide +kernel)
  obtain ⟨hlist, hnumber⟩ := of_decide_eq_true hst
  obtain ⟨hunique, hanswers⟩ := connection_numbers_unique hreachable
  exact ⟨st, hreachable, ⟨hlist, hnumber⟩, hunique,
    (hanswers { service := 0x56, requestDataSize := 2, data := intBytes 1001 }).1 (.explicit 0)
      (by simp [hlist]) hnumber⟩

end StackState

end Opener

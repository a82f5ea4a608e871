import Opener.Metatheory.Lifetimes

/-!
The connection triad. A Forward Open is refused when an established connection
has its triad, and new connections go to the head of the list, so a triad belongs
to one established connection at most and every timed-out connection with the
same triad comes behind it.
-/

namespace Opener

namespace CipConnectionObject

theorem equalConnectionTriad_iff {c d : CipConnectionObject} :
    c.equalConnectionTriad d = true ↔ c.triad = d.triad := by
  simp [equalConnectionTriad, triad, and_assoc]

end CipConnectionObject

namespace StackState

variable {cfg : Config} {env : Environment} {st : StackState}

theorem freshTriad_of_checkForExistingConnection {d : CipConnectionObject}
    (h : st.checkForExistingConnection cfg d = none) :
    (st.view cfg).Fresh CipConnectionObject.triad d.triad := by
  intro s hs hstate htriad
  have hnone := List.find?_eq_none.mp h s hs
  refine hnone (Bool.and_eq_true_iff.mpr ⟨decide_eq_true hstate, ?_⟩)
  exact CipConnectionObject.equalConnectionTriad_iff.mpr htriad

theorem forwardOpenRequest_freshTriad {isLarge : Bool} {request : MessageRouterRequest}
    {originatorAddress : SockaddrIn} {encapsulationSession : UInt32} {st₁ : StackState}
    (h : st.forwardOpenRequest cfg env isLarge request originatorAddress
      encapsulationSession = .ok (none, st₁)) :
    (st₁.view cfg).Fresh CipConnectionObject.triad st₁.dummy.triad := by
  simp only [forwardOpenRequest] at h
  split at h
  · cases h
  · rename_i message st₀ hreceive
    split at h
    · cases h
    · rename_i hrefusal
      have hnone : st₀.checkForExistingConnection cfg st₀.dummy = none := by
        simp only [forwardOpenRefusal] at hrefusal
        split_ifs at hrefusal with _ _ _ _ hexisting
        exact Option.not_isSome_iff_eq_none.mp hexisting
      split at h
      · cases h
      · have hrouted := parseConnectionPath_routed cfg message
          request.requestDataSize st₀.dummy st₀.configData
        split at h
        · cases h
        · rename_i s hparse
          cases h
          rw [hparse] at hrouted
          have htriad : s.object.triad = st₀.dummy.triad :=
            CipConnectionObject.unrouted_field hrouted (·.triad) fun _ => rfl
          intro r hr hstate
          change s.object.triad ≠ _
          rw [htriad]
          exact freshTriad_of_checkForExistingConnection hnone r hr hstate

/-- The Forward Open of a step that gets to an open function. -/
theorem openEntry_request {label : Environment × Action} {st₁ : StackState}
    (h : openEntry cfg label st = some st₁) :
    ∃ st₀ isLarge request originatorAddress encapsulationSession,
      Touched st st₀ ∧ st.checkRegisteredSessions encapsulationSession = true ∧
        st₀.forwardOpenRequest cfg label.1 isLarge request originatorAddress
          encapsulationSession = .ok (none, st₁) := by
  have hmessage : ∀ {env data dataLength originatorAddress encapsulationSession st₀},
      messageEntry cfg env data dataLength originatorAddress encapsulationSession st₀ =
        some st₁ → ∃ isLarge request, st₀.forwardOpenRequest cfg env isLarge request
          originatorAddress encapsulationSession = .ok (none, st₁) := by
    intro env data dataLength originatorAddress encapsulationSession st₀ hentry
    simp only [messageEntry] at hentry
    split at hentry
    · cases hentry
    · split at hentry
      · split at hentry
        · rename_i hrequest
          cases hentry
          exact ⟨_, _, hrequest⟩
        · cases hentry
      · cases hentry
  obtain ⟨env, action⟩ := label
  cases action with
  | sendRRData session originatorAddress data =>
      simp only [openEntry] at h
      split at h
      · rename_i hregistered
        obtain ⟨isLarge, request, hrequest⟩ := hmessage h
        exact ⟨_, isLarge, request, originatorAddress, session, touched_cpf st _,
          hregistered.1, hrequest⟩
      · cases h
  | sendUnitData session originatorAddress data =>
      simp only [openEntry] at h
      split at h
      · rename_i hregistered
        split at h
        · cases h
        · rename_i r hr
          split at h
          · cases h
          · obtain ⟨isLarge, request, hrequest⟩ := hmessage h
            exact ⟨_, isLarge, request, originatorAddress, session,
              (((touched_cpf st _).trans (touched_modifyConn _ r rfl)).trans
                (touched_cpf _ _)).trans (touched_modifyConn _ r rfl),
              hregistered.1, hrequest⟩
      · cases h
  | _ => cases h

theorem Reachable.triadsOrdered (h : Reachable cfg st) :
    (st.view cfg).Ordered CipConnectionObject.triad := by
  obtain ⟨assemblyData, hreaches⟩ := h
  refine (view_invariant (View.Ordered CipConnectionObject.triad) ?_ ?_
    (sound_initialState cfg assemblyData) ?_ hreaches).2
  · intro V V' _ hmove hV
    exact hV.persists (fun _ => rfl) (.move hmove)
  · intro label st st₁ status V _ _ hentry _ _ hanswered hV
    obtain ⟨st₀, isLarge, request, originatorAddress, session, -, -, hrequest⟩ :=
      openEntry_request hentry
    refine hV.enters (fun _ => rfl) (forwardOpenRequest_freshTriad hrequest)
      hanswered.enters fun c hgranted => ?_
    exact CipConnectionObject.terms_field hgranted.terms (·.triad) fun _ => rfl
  · rw [View.Ordered, view_members, connectionList_initialState]
    exact .nil

/-- A triad names one established connection, which comes before the timed-out ones. -/
theorem established_triad_unique (h : Reachable cfg st) :
    (∀ r ∈ st.connectionList cfg, ∀ s ∈ st.connectionList cfg,
      (st.conn r).state = .established → (st.conn s).state = .established →
        (st.conn r).triad = (st.conn s).triad → r = s) ∧
      ∀ r ∈ st.connectionList cfg, ∀ s ∈ st.connectionList cfg,
        (st.conn r).state = .established → (st.conn s).state = .timedOut →
          (st.conn r).triad = (st.conn s).triad →
            (st.connectionList cfg).idxOf r < (st.connectionList cfg).idxOf s := by
  have hordered := h.triadsOrdered
  refine ⟨?_, ?_⟩
  · intro r hr s hs hstate hstate' htriad
    exact hordered.eq_of_established hr hs hstate hstate' htriad
  · intro r hr s hs hstate hstate' htriad
    refine hordered.idxOf_lt hr hs (fun heq => ?_) hstate htriad
    rw [heq, hstate'] at hstate
    cases hstate

open SampleApplication in
/-- A class 3 connection takes the triad of a timed-out input-only connection. -/
theorem established_triad_unique_sample :
    ∃ st, Reachable config st ∧
      (st.connectionList config = [.explicit 0, .inputOnly 0 0] ∧
        (st.conn (.explicit 0)).state = .established ∧
        (st.conn (.inputOnly 0 0)).state = .timedOut ∧
        (st.conn (.explicit 0)).triad = (st.conn (.inputOnly 0 0)).triad) ∧
      (∀ r ∈ st.connectionList config, ∀ s ∈ st.connectionList config,
        (st.conn r).state = .established → (st.conn s).state = .established →
          (st.conn r).triad = (st.conn s).triad → r = s) ∧
        ∀ r ∈ st.connectionList config, ∀ s ∈ st.connectionList config,
          (st.conn r).state = .established → (st.conn s).state = .timedOut →
            (st.conn r).triad = (st.conn s).triad →
              (st.connectionList config).idxOf r < (st.connectionList config).idxOf s := by
  obtain ⟨st, hreachable, hst⟩ := reachable_of_ends config
    [request (inputOnly 1 1 multicast), tick 10000, send 2 (forwardOpen (class3 1 1))]
    (fun st => st.connectionList config = [.explicit 0, .inputOnly 0 0] ∧
      (st.conn (.explicit 0)).state = .established ∧
      (st.conn (.inputOnly 0 0)).state = .timedOut ∧
      (st.conn (.explicit 0)).triad = (st.conn (.inputOnly 0 0)).triad)
    (by decide +kernel)
  exact ⟨st, hreachable, of_decide_eq_true hst, established_triad_unique hreachable⟩

end StackState

end Opener

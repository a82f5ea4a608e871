import Opener.Metatheory.Triads

/-!
Forward Close. The request names a connection by its triad; the first listed
connection with it is closed if the request comes from its originator. Listeners
of the same input go with it only when it produced for them and no other
connection of the input can.
-/

namespace Opener

open View (producesMulticast)

theorem not_of_idxOf_lt {α : Type} [DecidableEq α] {l : List α} {p : α → Bool} {a b : α}
    (h : l.find? p = some a) (hlt : l.idxOf b < l.idxOf a) : p b = false := by
  obtain ⟨-, front, back, rfl, hfront⟩ := List.find?_eq_some_iff_append.mp h
  have hle : (front ++ a :: back).idxOf a ≤ front.length := by
    by_cases ha : a ∈ front
    · rw [List.idxOf_append_of_mem ha]
      exact List.idxOf_le_length
    · rw [List.idxOf_append_of_notMem ha, List.idxOf_cons_self]
      omega
  by_cases hb : b ∈ front
  · simpa using hfront b hb
  · rw [List.idxOf_append_of_notMem hb] at hlt
    omega

/-- The triad of a Forward Close request. -/
def MessageRouterRequest.closingTriad (request : MessageRouterRequest) :
    UInt16 × UInt16 × UInt32 :=
  let (serialNumber, message) := Message.getUint (request.data.drop 2)
  let (vendorId, message) := message.getUint
  let (originatorSerialNumber, _) := message.getUdint
  (serialNumber, vendorId, originatorSerialNumber)

namespace View

variable {V : View} {r : ConnRef}

/-- An exclusive owner or input-only connection that can produce for the input. -/
def producerOf (inputPoint : UInt16) (c : CipConnectionObject) : Bool :=
  (c.instanceType = .ioExclusiveOwner || c.instanceType = .ioInputOnly) &&
    c.state = .established && c.tToOConnectionType = .multicast &&
    c.producedPath.instanceId = inputPoint

theorem canTakeOver_or_produces_of_producerOf {inputPoint : UInt16}
    {c : CipConnectionObject} (h : producerOf inputPoint c = true) :
    canTakeOver inputPoint c = true ∨ producesMulticast inputPoint c = true := by
  simp only [producerOf, Bool.and_eq_true, Bool.or_eq_true, decide_eq_true_eq] at h
  obtain ⟨⟨⟨htype, hstate⟩, hmulticast⟩, hinput⟩ := h
  by_cases hsocket : c.producingSocket = eipInvalidSocket
  · refine .inl ?_
    rcases htype with htype | htype
    · simp [canTakeOver, CipConnectionObject.isTypeNonLOIOConnection, htype, hstate,
        hmulticast, hinput, hsocket]
    · simp [canTakeOver, CipConnectionObject.isTypeNonLOIOConnection, htype, hstate,
        hmulticast, hinput, hsocket]
  · refine .inr ?_
    rcases htype with htype | htype
    · simp [producesMulticast, CipConnectionObject.isTypeIOConnection, htype, hmulticast,
        hinput, hsocket]
    · simp [producesMulticast, CipConnectionObject.isTypeIOConnection, htype, hmulticast,
        hinput, hsocket]

theorem not_mem_closed (V : View) (r : ConnRef) : r ∉ (V.closed r).members := by
  intro hr
  have hdropped := ((V.vacate r).mem_without.mp hr).2
  simp at hdropped

theorem closed_object_self (V : View) (r : ConnRef) :
    (V.closed r).object r = .initializeEmpty := by
  rw [closed, without_object, if_pos (decide_eq_true rfl)]

theorem gone_with_closed {s : ConnRef} (hs : s ∈ V.members)
    (hgone : s ∉ (V.closed r).members) (hne : s ≠ r) :
    StackState.isMulticastMaster (V.object r) = true ∧
      V.ofInput .ioListenOnly (V.object r).producedPath.instanceId s = true ∧
      ∀ u ∈ V.members,
        canTakeOver (V.object r).producedPath.instanceId (V.object u) = false := by
  have hvacated : s ∉ (V.vacate r).members := by
    intro hmem
    refine hgone ((V.vacate r).mem_without.mpr ⟨hmem, ?_⟩)
    exact decide_eq_false hne
  have hvacates := vacates_vacate V r
  generalize V.vacate r = V' at hvacates hvacated
  cases hvacates with
  | quiet silent => exact absurd hs hvacated
  | passed master member differs takes => exact absurd hs hvacated
  | silenced master nobody =>
      refine ⟨master, ?_, nobody⟩
      by_contra hkept
      exact hvacated (V.mem_without.mpr ⟨hs, Bool.eq_false_of_not_eq_true hkept⟩)

theorem no_producer_of_silenced (hunique : UniqueHolder V) (hr : r ∈ V.members)
    (hmaster : StackState.isMulticastMaster (V.object r) = true)
    (hnobody : ∀ u ∈ V.members,
      canTakeOver (V.object r).producedPath.instanceId (V.object u) = false)
    {u : ConnRef} (hu : u ∈ V.members) (hne : u ≠ r) :
    producerOf (V.object r).producedPath.instanceId (V.object u) = false := by
  by_contra hproducer
  rcases canTakeOver_or_produces_of_producerOf (Bool.eq_true_of_not_eq_false hproducer) with
    htakes | hproduces
  · rw [hnobody u hu] at htakes
    cases htakes
  · exact hne (hunique _ u hu r hr hproduces (producesMulticast_of_master hmaster))

end View

namespace StackState

variable {cfg : Config} {st : StackState}

/-- What a successful Forward Close of the connection leaves. -/
structure ClosedOnly (cfg : Config) (st : StackState) (r : ConnRef) (st' : StackState) :
    Prop where
  removed : r ∉ st'.connectionList cfg
  vacant : (st'.conn r).state = .nonExistent
  remaining : (st'.connectionList cfg).Sublist (st.connectionList cfg)
  dependants : ∀ s ∈ st.connectionList cfg, s ∉ st'.connectionList cfg → s ≠ r →
    (st.conn s).instanceType = .ioListenOnly ∧
      (st.conn s).producedPath.instanceId = (st.conn r).producedPath.instanceId ∧
      isMulticastMaster (st.conn r) = true ∧
      ∀ u ∈ st.connectionList cfg, u ≠ r →
        View.producerOf (st.conn r).producedPath.instanceId (st.conn u) = false

theorem closedOnly_of_view {st' : StackState} {r : ConnRef}
    (hunique : UniqueHolder (st.view cfg)) (hr : r ∈ st.connectionList cfg)
    (hview : st'.view cfg = (st.view cfg).closed r) : ClosedOnly cfg st r st' := by
  have hmembers : st'.connectionList cfg = ((st.view cfg).closed r).members :=
    congrArg View.members hview
  have hobject : st'.conn = ((st.view cfg).closed r).object := congrArg View.object hview
  refine ⟨?_, ?_, ?_, ?_⟩
  · rw [hmembers]
    exact View.not_mem_closed _ r
  · rw [hobject, View.closed_object_self]
    rfl
  · rw [hmembers]
    exact (Persists.closed (st.view cfg) r).sublist
  · intro s hs hgone hne
    rw [hmembers] at hgone
    obtain ⟨hmaster, hlistener, hnobody⟩ := View.gone_with_closed hs hgone hne
    simp only [View.ofInput, Bool.and_eq_true, decide_eq_true_eq] at hlistener
    refine ⟨hlistener.1.2, hlistener.2, hmaster, ?_⟩
    intro u hu hur
    exact View.no_producer_of_silenced hunique hr hmaster hnobody hu hur

/-- The first listed connection with the triad. -/
def firstWithTriad (cfg : Config) (triad : UInt16 × UInt16 × UInt32) (st : StackState) :
    Option ConnRef :=
  (st.connectionList cfg).find? fun r => (st.conn r).triad = triad

/-- The search of `ForwardClose` also compares the state, which every listed
connection passes. -/
theorem forwardClose_search (hregular : Regular cfg (st.view cfg))
    (triad : UInt16 × UInt16 × UInt32) :
    (st.findConnection cfg fun _ c =>
      (c.state = .established || c.state = .timedOut) &&
        c.connectionSerialNumber = triad.1 && c.originatorVendorId = triad.2.1 &&
        c.originatorSerialNumber = triad.2.2) = st.firstWithTriad cfg triad := by
  refine List.find?_congr fun r hr => ?_
  have hlisted : ((st.conn r).state = .established || (st.conn r).state = .timedOut) = true := by
    rw [Bool.or_eq_true, decide_eq_true_eq, decide_eq_true_eq]
    exact (hregular.kind r hr).state.imp_right And.left
  beta_reduce
  rw [hlisted, Bool.true_and, Bool.eq_iff_iff]
  simp only [CipConnectionObject.triad, Bool.and_eq_true, decide_eq_true_eq, Prod.ext_iff,
    and_assoc]

/-- Forward Close closes the connection of the triad for its originator, and
nothing otherwise. -/
theorem forwardClose_closes (h : Reachable cfg st) (request : MessageRouterRequest)
    (originatorAddress : SockaddrIn) :
    ∃ response st', st.forwardClose cfg request originatorAddress = .ok (response, st') ∧
      ((∀ r ∈ st.connectionList cfg, (st.conn r).triad ≠ request.closingTriad) →
        response.generalStatus = GeneralStatus.connectionFailure ∧
          response.additionalStatus = [ExtendedStatus.connectionTargetConnectionNotFound] ∧
          st'.store = st.store) ∧
      ∀ r, st.firstWithTriad cfg request.closingTriad = some r →
        (originatorAddress.sinAddr ≠ (st.conn r).originatorAddress.sinAddr →
          response.generalStatus = GeneralStatus.privilegeViolation ∧ st'.store = st.store) ∧
        (originatorAddress.sinAddr = (st.conn r).originatorAddress.sinAddr →
          response.generalStatus = GeneralStatus.success ∧
            (∀ s ∈ st.connectionList cfg, (st.conn s).state = .established →
              (st.conn s).triad = request.closingTriad → s = r) ∧
            ClosedOnly cfg st r st') := by
  have hsound := h.sound
  obtain ⟨ns, hlisted⟩ := hsound.wellFormed
  simp only [forwardClose]
  generalize CommonPacketFormatData.clearAddressInfoItem 1
    (CommonPacketFormatData.clearAddressInfoItem 0 st.cpf) = cpf
  generalize hfind : findConnection cfg { st with cpf := cpf } _ = found
  have hfirst : st.firstWithTriad cfg request.closingTriad = found :=
    (forwardClose_search hsound.regular request.closingTriad).symm.trans hfind
  rw [hfirst]
  cases found with
  | none =>
      refine ⟨_, _, rfl, fun _ => ⟨rfl, rfl, rfl⟩, fun r hr => ?_⟩
      cases hr
  | some r =>
      have hr : r ∈ st.connectionList cfg := List.mem_of_find?_eq_some hfirst
      have htriad := List.find?_some hfirst
      rw [decide_eq_true_eq] at htriad
      have hconn : conn { st with cpf := cpf } r = st.conn r := rfl
      simp only [hconn]
      by_cases haddress : originatorAddress.sinAddr = (st.conn r).originatorAddress.sinAddr
      · have hlisted₁ : Listed cfg { st with cpf := cpf } ns := hlisted
        obtain ⟨st₁, ns₁, hclose, hshrunk⟩ :=
          connectionCloseFunction_ok hlisted₁ hsound.regular.closable hr
        rw [if_pos haddress, hclose]
        refine ⟨_, _, rfl, fun hnone => absurd htriad (hnone r hr), ?_⟩
        intro r' hr'
        cases hr'
        refine ⟨fun hne => absurd haddress hne, fun _ => ⟨rfl, ?_, ?_⟩⟩
        · intro s hs hstate hs'
          by_contra hne
          have hlt := h.triadsOrdered.idxOf_lt hs hr hne hstate (hs'.trans htriad.symm)
          have hbehind := not_of_idxOf_lt hfirst hlt
          exact of_decide_eq_false hbehind hs'
        · exact closedOnly_of_view h.uniqueHolder hr hshrunk.view_eq
      · rw [if_neg haddress]
        refine ⟨_, _, rfl, fun hnone => absurd htriad (hnone r hr), ?_⟩
        intro r' hr'
        cases hr'
        exact ⟨fun _ => ⟨rfl, rfl⟩, fun heq => absurd heq haddress⟩

open SampleApplication in
/-- Closing the exclusive owner that produces for a listener takes the listener down
as well when there is nobody to take over. -/
theorem forwardClose_closes_sample :
    ∃ st, Reachable config st ∧
      (st.connectionList config = [.listenOnly 0 0, .exclusiveOwner 0] ∧
        st.firstWithTriad config (closeRequest 1 1).closingTriad = some (.exclusiveOwner 0) ∧
        originator.sinAddr = (st.conn (.exclusiveOwner 0)).originatorAddress.sinAddr) ∧
      ∃ response st', st.forwardClose config (closeRequest 1 1) originator =
          .ok (response, st') ∧
        response.generalStatus = GeneralStatus.success ∧
        ClosedOnly config st (.exclusiveOwner 0) st' := by
  obtain ⟨st, hreachable, hst⟩ := reachable_of_ends config
    [request (exclusiveOwner 1 1 multicast), request (listenOnly 2 2 multicast)]
    (fun st => st.connectionList config = [.listenOnly 0 0, .exclusiveOwner 0] ∧
      st.firstWithTriad config (closeRequest 1 1).closingTriad = some (.exclusiveOwner 0) ∧
      originator.sinAddr = (st.conn (.exclusiveOwner 0)).originatorAddress.sinAddr)
    (by decide +kernel)
  have hst := of_decide_eq_true hst
  obtain ⟨response, st', hcall, -, hfirst⟩ :=
    forwardClose_closes hreachable (closeRequest 1 1) originator
  obtain ⟨-, hcloses⟩ := hfirst _ hst.2.1
  obtain ⟨hstatus, -, honly⟩ := hcloses hst.2.2
  exact ⟨st, hreachable, hst, response, st', hcall, hstatus, honly⟩

end StackState

end Opener

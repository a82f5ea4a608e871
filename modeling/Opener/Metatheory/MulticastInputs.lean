import Opener.Metatheory.Handover

/-!
The established producer of a multicast input. While an exclusive owner or
input-only connection of the input is established, one established connection
produces for it, as long as no open joins a producer that has timed out, makes a
listener the producer, or starts production without a socket.
-/

namespace Opener

open View (producesMulticast)

/-- A leading connection needs an established producer. -/
def led : Service where
  needs := leads
  serves := fun _ d => d.state = .established
  active := fun h => ⟨(leads_iff.mp h).1, (leads_iff.mp h).2.1⟩
  needs_profile := fun _ _ => rfl
  serves_profile := fun _ _ => rfl
  passes := fun htakes _ _ => decide_eq_true (of_canTakeOver htakes).2.1

/-- An open that leaves the input with an established producer, if it leads: it
joins an established one, unless it is an exclusive owner, or starts production
with a socket and is no listener. -/
def producedOpen (udpSocket : Int) (inputPoint : UInt16) (V : View) (r : ConnRef) : Bool :=
  match V.producer inputPoint with
  | some producer =>
      r.instanceType ≠ .ioInputOnly || (V.object producer).state = .established
  | none => r.instanceType ≠ .ioListenOnly && udpSocket ≠ eipInvalidSocket

theorem led_opens {cfg : Config} {V V' : View} (h : Served led V) {d : CipConnectionObject}
    {udpSocket : Int} {r : ConnRef} (hr : r ∉ V.members)
    (hopens : Opens cfg d udpSocket V r V')
    (hproduced : d.tToOConnectionType = .multicast →
      producedOpen udpSocket d.producedPath.instanceId V r = true) : Served led V' := by
  cases hopens with
  | plain admitted single identifier =>
      refine h.insert hr _ fun inputPoint hleads => ?_
      have hshares := (led.active hleads).1
      simp [sharesInput, admitted.tToO, single] at hshares
  | first admitted multicast agrees lonely identifier socket =>
      have hsocket := hproduced multicast
      simp only [producedOpen, lonely, Bool.and_eq_true, decide_eq_true_eq] at hsocket
      refine h.insert hr _ fun inputPoint hleads => .inl ⟨?_, ?_⟩
      · refine producesMulticast_iff.mpr ⟨(led.active hleads).1, ?_⟩
        rw [socket]
        exact hsocket.2
      · exact decide_eq_true admitted.established
  | @join c producer admitted multicast agrees existing identifier socket =>
      have hmem := List.mem_of_find?_eq_some existing
      have hheld := List.find?_some existing
      by_cases howner : c.instanceType = .ioExclusiveOwner
      · rw [leftBehind_owner howner]
        exact h.insert_owner hr _ hheld
          (admitted.holds_of_owner multicast howner hheld socket)
          (decide_eq_true admitted.established)
          fun _ _ _ => decide_eq_true admitted.established
      · have hstate := hproduced multicast
        simp only [producedOpen, existing, Bool.or_eq_true, decide_eq_true_eq] at hstate
        rw [leftBehind_other howner, V.modify_id]
        refine h.insert hr _ fun inputPoint hleads => .inr ⟨producer, hmem, ?_, ?_⟩
        · rw [← sharesInput_input (led.active hleads).1, admitted.input]
          exact hheld
        · refine decide_eq_true (hstate.resolve_left fun hother => ?_)
          obtain ⟨hshares, -, hspeaks⟩ := leads_iff.mp hleads
          have hio := admitted.kind.isIo_of_sharesInput hshares
          rw [admitted.kind.instanceType] at howner hspeaks
          cases r with
          | explicit i => cases hio
          | exclusiveOwner i => exact howner rfl
          | inputOnly i j => exact hother rfl
          | listenOnly i j => exact hspeaks rfl

namespace StackState

variable {cfg : Config} {st : StackState}

/-- A step that leaves each multicast input that it opens with a producer. -/
def keepsProduction (cfg : Config) (label : Environment × Action) (st : StackState) : Bool :=
  match openEntry cfg label st with
  | none => true
  | some st =>
      let lookup := (st.ioConnectionLookup cfg).1
      match lookup.slot with
      | none => true
      | some r =>
          !(st.dummy.configurationPath.classId = assemblyClassCode &&
            st.dummy.tToOConnectionType = .multicast) ||
          producedOpen label.1.udpSocket st.dummy.producedPath.instanceId
            ((st.view cfg).afterLookup lookup) r

theorem producedOpen_of_keepsProduction {label : Environment × Action} {st₁ : StackState}
    (h : keepsProduction cfg label st = true) (hentry : openEntry cfg label st = some st₁)
    (hassembly : st₁.dummy.configurationPath.classId = assemblyClassCode) {r : ConnRef}
    {V : View} (hvacated : Vacated (st₁.view cfg) r (st₁.ioConnectionLookup cfg).1 V)
    (hmulticast : st₁.dummy.tToOConnectionType = .multicast) :
    producedOpen label.1.udpSocket st₁.dummy.producedPath.instanceId V r = true := by
  simp only [keepsProduction, hentry, hvacated.slot, hassembly, hmulticast,
    ← hvacated.eq_afterLookup] at h
  exact h

theorem produced_answered {label : Environment × Action} {st₁ : StackState}
    {status : OpenStatus} {V : View} (hkeeps : keepsProduction cfg label st = true)
    (hentry : openEntry cfg label st = some st₁) (hregular : Regular cfg (st₁.view cfg))
    (h : Answered cfg label.1 st₁ status V)
    (hled : Spoken (st₁.view cfg) ∧ Served led (st₁.view cfg)) : Spoken V ∧ Served led V := by
  obtain ⟨hspoken, hled⟩ := hled
  have hunique := uniqueHolder_answered h hspoken.unique
  cases h with
  | unchanged => exact ⟨hspoken, hled⟩
  | io assembly established =>
      cases established with
      | nothing failed lookup => exact ⟨hspoken, hled⟩
      | refused failed chosen finds instanceType vacated idle =>
          exact ⟨(hspoken.vacated vacated).scratch vacated.not_mem _ _,
            (hled.vacated hregular hspoken vacated).scratch vacated.not_mem _ _⟩
      | opened chosen finds instanceType vacated opens =>
          have hproduced := producedOpen_of_keepsProduction hkeeps hentry assembly vacated
          refine ⟨(hspoken.vacated vacated).opens vacated.not_mem opens ?_,
            led_opens (hled.vacated hregular hspoken vacated) vacated.not_mem opens hproduced⟩
          intro hlistener hmulticast hnone
          have hspeaks := hproduced hmulticast
          simp [producedOpen, hnone, hlistener] at hspeaks
  | @class3 r c unlisted explicit kind established =>
      have hsilent : ∀ inputPoint, sharesInput inputPoint c = false := by
        intro inputPoint
        by_contra hshares
        rw [Bool.not_eq_false] at hshares
        rw [kind.isIo_of_sharesInput hshares] at explicit
        cases explicit
      refine ⟨⟨hunique, hspoken.speaks_insert unlisted _ fun inputPoint hholds => ?_⟩,
        hled.insert unlisted _ fun inputPoint hleads => ?_⟩
      · have hshares := (producesMulticast_iff.mp hholds).1
        rw [hsilent] at hshares
        cases hshares
      · have hshares := (led.active hleads).1
        rw [hsilent] at hshares
        cases hshares

theorem led_of_reaches {assemblyData : UInt16 → List UInt8}
    (h : Runs.Reaches (step cfg) (fun label st => keepsProduction cfg label st = true)
      (initialState cfg assemblyData) st) :
    st.Sound cfg ∧ Spoken (st.view cfg) ∧ Served led (st.view cfg) := by
  have hempty : ∀ r, r ∉ ((initialState cfg assemblyData).view cfg).members := by
    intro r hr
    rw [view_members, connectionList_initialState cfg assemblyData] at hr
    cases hr
  refine view_invariant (fun V => Spoken V ∧ Served led V) ?_ ?_
    (sound_initialState cfg assemblyData)
    ⟨⟨fun _ r hr => absurd hr (hempty r), fun _ r hr => absurd hr (hempty r)⟩,
      fun _ r hr => absurd hr (hempty r)⟩ h
  · rintro V V' hregular hmove ⟨hspoken, hled⟩
    exact ⟨hspoken.move hmove, hled.move hregular hspoken hmove⟩
  · exact fun label st st₁ status V hkeeps _ hentry hsound _ hanswered hled =>
      produced_answered hkeeps hentry hsound.regular hanswered hled

/-- In a run of such steps an input with an established exclusive owner or
input-only connection has one established producer. -/
theorem one_established_producer {assemblyData : UInt16 → List UInt8}
    (h : Runs.Reaches (step cfg) (fun label st => keepsProduction cfg label st = true)
      (initialState cfg assemblyData) st) (inputPoint : UInt16)
    (hactive : ∃ r, (st.conn r).state = .established ∧
      ((st.conn r).instanceType = .ioExclusiveOwner ∨
        (st.conn r).instanceType = .ioInputOnly) ∧
      (st.conn r).tToOConnectionType = .multicast ∧
      (st.conn r).producedPath.instanceId = inputPoint) :
    ∃! r, (st.conn r).state = .established ∧
      (st.conn r).tToOConnectionType = .multicast ∧
      (st.conn r).producedPath.instanceId = inputPoint ∧
      (st.conn r).producingSocket ≠ eipInvalidSocket := by
  obtain ⟨hsound, hspoken, hled⟩ := led_of_reaches h
  obtain ⟨r, hstate, htype, hmulticast, hinput⟩ := hactive
  have hleads : leads inputPoint (st.conn r) = true := by
    rcases htype with htype | htype
    · simp [leads, sharesInput, CipConnectionObject.isTypeIOConnection, htype, hstate,
        hmulticast, hinput]
    · simp [leads, sharesInput, CipConnectionObject.isTypeIOConnection, htype, hstate,
        hmulticast, hinput]
  obtain ⟨m, hm, hholds, hserves⟩ :=
    hled inputPoint r (mem_of_established hsound.regular hstate) hleads
  have hestablished : (st.conn m).state = .established := of_decide_eq_true hserves
  have hshares := hholds
  simp only [producesMulticast, Bool.and_eq_true, decide_eq_true_eq] at hshares
  refine ⟨m, ⟨hestablished, hshares.2, hshares.1.1.2, hshares.1.2⟩, ?_⟩
  rintro s ⟨hsstate, hsmulticast, hsinput, hssocket⟩
  have hs := mem_of_established hsound.regular hsstate
  have hkind : Kind cfg s (st.conn s) := hsound.regular.kind s hs
  refine hspoken.unique inputPoint s hs m hm ?_ hholds
  have hio : (st.conn s).isTypeIOConnection = true := by
    refine hkind.isTypeIOConnection_iff.mpr ?_
    cases hexplicit : s.isIo with
    | true => rfl
    | false => exact absurd (hkind.silent hexplicit).1 hssocket
  simp [producesMulticast, hio, hsinput, hssocket, hsmulticast]

open SampleApplication in
/-- The exclusive owner times out and the input-only connection that joined it
produces. -/
theorem one_established_producer_sample :
    ∃ st, Runs.Reaches (step config) (fun label st => keepsProduction config label st = true)
        (initialState config SampleApplication.assemblyData) st ∧
      ((st.conn (.inputOnly 0 0)).state = .established ∧
        ((st.conn (.inputOnly 0 0)).instanceType = .ioExclusiveOwner ∨
          (st.conn (.inputOnly 0 0)).instanceType = .ioInputOnly) ∧
        (st.conn (.inputOnly 0 0)).tToOConnectionType = .multicast ∧
        (st.conn (.inputOnly 0 0)).producedPath.instanceId = 100) ∧
      ∃! r, (st.conn r).state = .established ∧
        (st.conn r).tToOConnectionType = .multicast ∧
        (st.conn r).producedPath.instanceId = 100 ∧
        (st.conn r).producingSocket ≠ eipInvalidSocket := by
  obtain ⟨st, hreaches, hactive⟩ := reaches_of_endsWithin config (keepsProduction config)
    [request (exclusiveOwner 1 1 multicast), tick 9000, request (inputOnly 2 2 multicast),
      tick 1000]
    (fun st => (st.conn (.inputOnly 0 0)).state = .established &&
      (st.conn (.inputOnly 0 0)).instanceType = .ioInputOnly &&
      (st.conn (.inputOnly 0 0)).tToOConnectionType = .multicast &&
      (st.conn (.inputOnly 0 0)).producedPath.instanceId = 100)
    (by decide +kernel)
  simp only [Bool.and_eq_true, decide_eq_true_eq] at hactive
  obtain ⟨⟨⟨hstate, htype⟩, hmulticast⟩, hinput⟩ := hactive
  exact ⟨st, hreaches, ⟨hstate, .inr htype, hmulticast, hinput⟩,
    one_established_producer hreaches 100 ⟨_, hstate, .inr htype, hmulticast, hinput⟩⟩

open SampleApplication in
/-- An input-only connection joins a producer that has timed out and produces
nothing. -/
theorem no_established_producer_sample :
    ∃ st, Reachable config st ∧
      ((st.conn (.inputOnly 0 1)).state = .established ∧
        (st.conn (.inputOnly 0 1)).instanceType = .ioInputOnly ∧
        (st.conn (.inputOnly 0 1)).tToOConnectionType = .multicast ∧
        (st.conn (.inputOnly 0 1)).producedPath.instanceId = 100) ∧
      ¬∃! r, (st.conn r).state = .established ∧
        (st.conn r).tToOConnectionType = .multicast ∧
        (st.conn r).producedPath.instanceId = 100 ∧
        (st.conn r).producingSocket ≠ eipInvalidSocket := by
  obtain ⟨st, hreachable, hst⟩ := reachable_of_ends config
    [request (inputOnly 1 1 multicast), tick 10000, request (inputOnly 2 2 multicast)]
    (fun st => (st.conn (.inputOnly 0 1)).state = .established &&
      (st.conn (.inputOnly 0 1)).instanceType = .ioInputOnly &&
      (st.conn (.inputOnly 0 1)).tToOConnectionType = .multicast &&
      (st.conn (.inputOnly 0 1)).producedPath.instanceId = 100 &&
      (st.connectionList config).all fun r =>
        !((st.conn r).state = .established && (st.conn r).producingSocket ≠ eipInvalidSocket))
    (by decide +kernel)
  simp only [Bool.and_eq_true, decide_eq_true_eq, List.all_eq_true] at hst
  obtain ⟨⟨⟨⟨hstate, htype⟩, hmulticast⟩, hinput⟩, hnone⟩ := hst
  refine ⟨st, hreachable, ⟨hstate, htype, hmulticast, hinput⟩, ?_⟩
  rintro ⟨r, ⟨hrstate, -, -, hsocket⟩, -⟩
  have hr := hnone r (mem_of_established hreachable.sound.regular hrstate)
  simp [hrstate, hsocket] at hr

end StackState

end Opener

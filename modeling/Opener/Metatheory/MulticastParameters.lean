import Opener.Metatheory.SequenceNumbers

/-!
The parameters of a multicast input. A request for the input is compared with every
listed connection of it before it is added, and what is compared does not change
while a connection is listed, so the connections of one input agree.
-/

namespace Opener

/-- The parameters of the target to originator direction that a multicast input has
in common. -/
structure SameProduction (c d : CipConnectionObject) : Prop where
  packetInterval : c.tToORequestedPacketInterval = d.tToORequestedPacketInterval
  sizeType : c.tToOConnectionSizeType = d.tToOConnectionSizeType
  priority : c.tToOPriority = d.tToOPriority
  transportClass : c.transportClass = d.transportClass
  productionTrigger : c.productionTrigger = d.productionTrigger
  inhibitTime : c.productionInhibitTime = d.productionInhibitTime

namespace SameProduction

variable {c c' d d' : CipConnectionObject}

theorem refl (c : CipConnectionObject) : SameProduction c c := ⟨rfl, rfl, rfl, rfl, rfl, rfl⟩

theorem symm (h : SameProduction c d) : SameProduction d c :=
  ⟨h.packetInterval.symm, h.sizeType.symm, h.priority.symm, h.transportClass.symm,
    h.productionTrigger.symm, h.inhibitTime.symm⟩

theorem trans {e : CipConnectionObject} (h : SameProduction c d) (h' : SameProduction d e) :
    SameProduction c e :=
  ⟨h.packetInterval.trans h'.packetInterval, h.sizeType.trans h'.sizeType,
    h.priority.trans h'.priority, h.transportClass.trans h'.transportClass,
    h.productionTrigger.trans h'.productionTrigger, h.inhibitTime.trans h'.inhibitTime⟩

/-- A listed connection keeps its parameters. -/
theorem of_tag (h : c.tag = d.tag) : SameProduction c d := by
  have hfield : ∀ {β : Type} (f : CipConnectionObject → β), (∀ c, f c.tag = f c) →
      f c = f d := by
    intro β f hf
    rw [← hf c, h, hf]
  exact ⟨hfield _ fun _ => rfl, hfield _ fun _ => rfl, hfield _ fun _ => rfl,
    hfield _ fun _ => rfl, hfield _ fun _ => rfl, hfield _ fun _ => rfl⟩

/-- The checks of a multicast request against a listed connection of its input. -/
theorem of_agrees (h : producerMismatch c d = none)
    (hinput : c.producedPath.instanceId = d.producedPath.instanceId) : SameProduction c d := by
  rw [producerMismatch, if_neg (not_not.mpr hinput)] at h
  split at h
  · cases h
  rename_i hinterval
  split at h
  · cases h
  rename_i hsize
  split at h
  · cases h
  rename_i hpriority
  split at h
  · cases h
  rename_i hclass
  split at h
  · cases h
  rename_i htrigger
  split at h
  · cases h
  rename_i hinhibit
  exact ⟨not_not.mp hinterval, not_not.mp hsize, not_not.mp hpriority, not_not.mp hclass,
    not_not.mp htrigger, not_not.mp hinhibit⟩

end SameProduction

/-- Two multicast connections of one input agree. -/
def AgreesWith (r s : ConnRef) (c d : CipConnectionObject) : Prop :=
  isMulticast r c = true → isMulticast s d = true →
    c.producedPath.instanceId = d.producedPath.instanceId → SameProduction c d

theorem AgreesWith.symm {r s : ConnRef} {c d : CipConnectionObject}
    (h : AgreesWith r s c d) : AgreesWith s r d c :=
  fun hd hc hinput => (h hc hd hinput.symm).symm

theorem AgreesWith.congr {r s : ConnRef} {c c' d d' : CipConnectionObject}
    (h : AgreesWith r s c d) (hc : c'.tag = c.tag) (hd : d'.tag = d.tag) :
    AgreesWith r s c' d' := by
  have hfield : ∀ {β : Type} (f : CipConnectionObject → β), (∀ c, f c.tag = f c) →
      f c' = f c ∧ f d' = f d := by
    intro β f hf
    refine ⟨?_, ?_⟩
    · rw [← hf c', hc, hf]
    · rw [← hf d', hd, hf]
  intro hmulticastc hmulticastd hinput
  rw [(hfield (isMulticast r) fun _ => rfl).1] at hmulticastc
  rw [(hfield (isMulticast s) fun _ => rfl).2] at hmulticastd
  obtain ⟨hinputc, hinputd⟩ := hfield (·.producedPath.instanceId) fun _ => rfl
  rw [hinputc, hinputd] at hinput
  exact ((SameProduction.of_tag hc).trans (h hmulticastc hmulticastd hinput)).trans
    (SameProduction.of_tag hd).symm

/-- The listed multicast connections of an input agree. -/
def Agreed (V : View) : Prop :=
  ∀ r ∈ V.members, ∀ s ∈ V.members, AgreesWith r s (V.object r) (V.object s)

namespace Agreed

variable {V V' : View}

theorem kept (h : Agreed V) (hkept : Kept V V') : Agreed V' := by
  intro r hr s hs
  exact (h r (hkept.members hr) s (hkept.members hs)).congr (hkept.tag r hr) (hkept.tag s hs)

theorem scratch (h : Agreed V) {r : ConnRef} (hr : r ∉ V.members) (c : CipConnectionObject)
    (connectionId : UInt16) : Agreed (V.scratch r c connectionId) := by
  intro s hs t ht
  rw [V.scratch_object_of_ne (ne_of_mem_of_not_mem hs hr),
    V.scratch_object_of_ne (ne_of_mem_of_not_mem ht hr)]
  exact h s hs t ht

theorem insert (h : Agreed V) {r : ConnRef} (hr : r ∉ V.members) {c : CipConnectionObject}
    (connectionId : UInt16) (hnew : ∀ s ∈ V.members, AgreesWith r s c (V.object s)) :
    Agreed (V.insert r c connectionId) := by
  have hobject : ∀ s ∈ V.members, (V.insert r c connectionId).object s = V.object s :=
    fun s hs => V.insert_object_of_ne (ne_of_mem_of_not_mem hs hr) c _
  intro s hs t ht
  rcases List.mem_cons.mp hs with hsr | hsmem
  · rcases List.mem_cons.mp ht with htr | htmem
    · rw [hsr, htr]
      exact fun _ _ _ => SameProduction.refl _
    · rw [hsr, View.insert_object_self, hobject t htmem]
      exact hnew t htmem
  · rcases List.mem_cons.mp ht with htr | htmem
    · rw [htr, View.insert_object_self, hobject s hsmem]
      exact (hnew s hsmem).symm
    · rw [hobject s hsmem, hobject t htmem]
      exact h s hsmem t htmem

theorem opens (h : Agreed V) {cfg : Config} {d : CipConnectionObject} {udpSocket : Int}
    {r : ConnRef} (hr : r ∉ V.members) (hopens : Opens cfg d udpSocket V r V') :
    Agreed V' := by
  cases hopens with
  | plain admitted single identifier =>
      refine h.insert hr _ fun s _ hmulticast => ?_
      simp [isMulticast, admitted.tToO, single] at hmulticast
  | first admitted multicast agrees lonely identifier socket =>
      refine h.insert hr _ fun s hs _ _ hinput => ?_
      exact SameProduction.of_agrees (agrees s hs) hinput
  | @join c producer admitted multicast agrees existing identifier socket =>
      have htag : (StackState.leftBehind c (V.object producer)).tag = (V.object producer).tag := by
        by_cases howner : c.instanceType = .ioExclusiveOwner
        · rw [leftBehind_owner howner]
          rfl
        · rw [leftBehind_other howner]
          rfl
      have hkept := Kept.modify V htag
      refine (h.kept hkept).insert hr _ fun s hs => ?_
      have hagrees : AgreesWith r s c (V.object s) := fun _ _ hinput =>
        SameProduction.of_agrees (agrees s hs) hinput
      exact hagrees.congr rfl (hkept.tag s hs)

end Agreed

namespace StackState

variable {cfg : Config} {env : Environment} {st : StackState}

theorem agreed_answered {status : OpenStatus} {V : View} (h : Answered cfg env st status V)
    (hagreed : Agreed (st.view cfg)) : Agreed V := by
  cases h with
  | unchanged => exact hagreed
  | io assembly established =>
      cases established with
      | nothing failed lookup => exact hagreed
      | refused failed chosen finds instanceType vacated idle =>
          exact (hagreed.kept (.of_vacated vacated)).scratch vacated.not_mem _ _
      | opened chosen finds instanceType vacated opens =>
          exact (hagreed.kept (.of_vacated vacated)).opens vacated.not_mem opens
  | class3 unlisted explicit kind established =>
      refine hagreed.insert unlisted _ fun s _ hmulticast => ?_
      simp [isMulticast, explicit] at hmulticast

theorem Reachable.agreed (h : Reachable cfg st) : Agreed (st.view cfg) := by
  obtain ⟨assemblyData, hreaches⟩ := h
  refine (view_invariant Agreed ?_ ?_ (sound_initialState cfg assemblyData) ?_ hreaches).2
  · exact fun V V' _ hmove hV => hV.kept (.of_move hmove)
  · exact fun label st st₁ status V _ _ _ _ _ hanswered hV => agreed_answered hanswered hV
  · intro r hr
    rw [view_members, connectionList_initialState cfg assemblyData] at hr
    cases hr

/-- In every reachable state any two listed multicast I/O connections of one input have
the same parameters. -/
theorem multicast_connections_agree (h : Reachable cfg st) {r s : ConnRef}
    (hr : r ∈ st.connectionList cfg) (hs : s ∈ st.connectionList cfg)
    (hrtype : (st.conn r).isTypeIOConnection = true)
    (hstype : (st.conn s).isTypeIOConnection = true)
    (hrmulticast : (st.conn r).tToOConnectionType = .multicast)
    (hsmulticast : (st.conn s).tToOConnectionType = .multicast)
    (hinput : (st.conn r).producedPath.instanceId = (st.conn s).producedPath.instanceId) :
    SameProduction (st.conn r) (st.conn s) := by
  have hregular := h.sound.regular
  have hmulticast : ∀ {t : ConnRef}, t ∈ st.connectionList cfg →
      (st.conn t).isTypeIOConnection = true → (st.conn t).tToOConnectionType = .multicast →
      isMulticast t (st.conn t) = true := by
    intro t ht htype htmulticast
    have hkind : Kind cfg t (st.conn t) := hregular.kind t ht
    simp [isMulticast, hkind.isTypeIOConnection_iff.mp htype, htmulticast]
  exact h.agreed r hr s hs (hmulticast hr hrtype hrmulticast) (hmulticast hs hstype hsmulticast)
    hinput

open SampleApplication in
/-- An exclusive owner and an input-only connection of the assembly 100. -/
theorem multicast_connections_agree_sample :
    ∃ st, Reachable config st ∧
      (ConnRef.exclusiveOwner 0 ∈ st.connectionList config ∧
        ConnRef.inputOnly 0 0 ∈ st.connectionList config) ∧
      SameProduction (st.conn (.exclusiveOwner 0)) (st.conn (.inputOnly 0 0)) := by
  obtain ⟨st, hreachable, hst⟩ := reachable_of_ends config
    [request (exclusiveOwner 1 1 multicast), request (inputOnly 2 2 multicast)]
    (fun st => (st.connectionList config).contains (.exclusiveOwner 0) &&
      (st.connectionList config).contains (.inputOnly 0 0) &&
      (st.conn (.exclusiveOwner 0)).isTypeIOConnection &&
      (st.conn (.inputOnly 0 0)).isTypeIOConnection &&
      (st.conn (.exclusiveOwner 0)).tToOConnectionType = .multicast &&
      (st.conn (.inputOnly 0 0)).tToOConnectionType = .multicast &&
      (st.conn (.exclusiveOwner 0)).producedPath.instanceId =
        (st.conn (.inputOnly 0 0)).producedPath.instanceId)
    (by decide +kernel)
  simp only [Bool.and_eq_true, decide_eq_true_eq, List.contains_iff_mem] at hst
  obtain ⟨⟨⟨⟨⟨⟨howner, hinputOnly⟩, hotype⟩, hitype⟩, homulticast⟩, himulticast⟩, hinput⟩ := hst
  exact ⟨st, hreachable, ⟨howner, hinputOnly⟩,
    multicast_connections_agree hreachable howner hinputOnly hotype hitype homulticast
      himulticast hinput⟩

end StackState

end Opener

import Opener.Metatheory.Masters

/-!
How production of a multicast input goes on. `Spoken` tables hand the socket over
when its holder leaves, and `Served` says that a connection which needs a producer
has one. The services differ in which connections need one and in what they need
of it.
-/

namespace Opener

open View (producesMulticast)
open CipConnectionObject (profile_field)

/-- The slot that a search gave. -/
def Lookup.slot : Lookup → Option ConnRef
  | .notFound _ => none
  | .free r => some r
  | .replace r => some r

namespace View

/-- The table once the slot that a search gave is free. -/
def afterLookup (V : View) : Lookup → View
  | .replace r => if r ∈ V.members then V.closed r else V.without (· = r)
  | _ => V

end View

theorem Vacated.eq_afterLookup {V V' : View} {r : ConnRef} {lookup : Lookup}
    (h : Vacated V r lookup V') : V' = V.afterLookup lookup := by
  cases h with
  | free unlisted => rfl
  | closed member => rw [View.afterLookup, if_pos member]
  | cleared unlisted => rw [View.afterLookup, if_neg unlisted]

theorem Vacated.slot {V V' : View} {r : ConnRef} {lookup : Lookup}
    (h : Vacated V r lookup V') : lookup.slot = some r := by
  cases h with
  | free unlisted => rfl
  | closed member => rfl
  | cleared unlisted => rfl

/-- An established exclusive owner or input-only connection of the input. -/
def leads (inputPoint : UInt16) (c : CipConnectionObject) : Bool :=
  sharesInput inputPoint c && c.state = .established && c.instanceType ≠ .ioListenOnly

theorem leads_iff {inputPoint : UInt16} {c : CipConnectionObject} :
    leads inputPoint c = true ↔ sharesInput inputPoint c = true ∧ c.state = .established ∧
      c.instanceType ≠ .ioListenOnly := by
  simp only [leads, Bool.and_eq_true, decide_eq_true_eq]
  tauto

/-- A leading connection has the socket or can take it over. -/
theorem canTakeOver_of_leads {inputPoint : UInt16} {c : CipConnectionObject}
    (h : leads inputPoint c = true) (hnot : View.canTakeOver inputPoint c = false) :
    producesMulticast inputPoint c = true := by
  obtain ⟨hshares, hstate, htype⟩ := leads_iff.mp h
  refine producesMulticast_iff.mpr ⟨hshares, fun hsocket => ?_⟩
  simp only [sharesInput, Bool.and_eq_true, decide_eq_true_eq] at hshares
  have hspeaks : c.isTypeNonLOIOConnection = true := by
    have hio := hshares.1.1
    simp only [CipConnectionObject.isTypeIOConnection] at hio
    simp only [CipConnectionObject.isTypeNonLOIOConnection]
    split at hio <;> simp_all
  simp [View.canTakeOver, hspeaks, hstate, hshares.1.2, hshares.2, hsocket] at hnot

/-- The socket of an input has one holder, which is not a listener. -/
structure Spoken (V : View) : Prop where
  unique : UniqueHolder V
  speaks : ∀ inputPoint, ∀ r ∈ V.members, producesMulticast inputPoint (V.object r) = true →
    (V.object r).instanceType ≠ .ioListenOnly

theorem Regular.isIo_of_holder {cfg : Config} {V : View} (h : Regular cfg V) {r : ConnRef}
    (hr : r ∈ V.members) {inputPoint : UInt16}
    (hholds : producesMulticast inputPoint (V.object r) = true) : r.isIo = true := by
  cases hio : r.isIo with
  | true => rfl
  | false =>
      have hsocket := (producesMulticast_iff.mp hholds).2
      exact absurd ((h.kind r hr).silent hio).1 hsocket

theorem Kind.isTypeIOConnection_iff {cfg : Config} {r : ConnRef} {c : CipConnectionObject}
    (h : Kind cfg r c) : c.isTypeIOConnection = true ↔ r.isIo = true := by
  rw [CipConnectionObject.isTypeIOConnection, h.instanceType]
  cases r <;> simp [ConnRef.instanceType, ConnRef.isIo]

theorem Kind.isIo_of_sharesInput {cfg : Config} {r : ConnRef} {c : CipConnectionObject}
    (h : Kind cfg r c) {inputPoint : UInt16} (hshares : sharesInput inputPoint c = true) :
    r.isIo = true := by
  simp only [sharesInput, Bool.and_eq_true] at hshares
  exact h.isTypeIOConnection_iff.mp hshares.1.1

/-- An exclusive owner that joined has the socket of the producer. -/
theorem Admitted.holds_of_owner {cfg : Config} {d c : CipConnectionObject} {r : ConnRef}
    {p : CipConnectionObject} (h : Admitted cfg d r c)
    (hmulticast : d.tToOConnectionType = .multicast)
    (howner : c.instanceType = .ioExclusiveOwner)
    (hheld : producesMulticast d.producedPath.instanceId p = true)
    (hsocket : c.producingSocket = if r.instanceType = .ioExclusiveOwner then
      p.producingSocket else eipInvalidSocket) :
    producesMulticast d.producedPath.instanceId c = true := by
  have hio : c.isTypeIOConnection = true := by
    simp [CipConnectionObject.isTypeIOConnection, howner]
  refine producesMulticast_iff.mpr ⟨?_, ?_⟩
  · simp [sharesInput, hio, h.input, h.tToO, hmulticast]
  · rw [hsocket, if_pos (h.kind.instanceType.symm.trans howner)]
    exact (producesMulticast_iff.mp hheld).2

namespace Spoken

variable {cfg : Config} {V V' : View}

theorem master (h : Spoken V) (hregular : Regular cfg V) {r : ConnRef} (hr : r ∈ V.members)
    {inputPoint : UInt16} (hholds : producesMulticast inputPoint (V.object r) = true) :
    StackState.isMulticastMaster (V.object r) = true := by
  refine master_of_producesMulticast hholds ?_
  have htype := (hregular.kind r hr).instanceType
  have hspeaks := h.speaks inputPoint r hr hholds
  have hio := hregular.isIo_of_holder hr hholds
  cases r with
  | explicit i => cases hio
  | exclusiveOwner i => exact .inl htype
  | inputOnly i j => exact .inr htype
  | listenOnly i j => exact absurd htype hspeaks

theorem without (h : Spoken V) (dropped : ConnRef → Bool) : Spoken (V.without dropped) := by
  refine ⟨h.unique.without dropped, fun inputPoint r hr hholds => ?_⟩
  obtain ⟨hmem, hkept⟩ := V.mem_without.mp hr
  rw [View.without_object, hkept] at hholds ⊢
  exact h.speaks inputPoint r hmem hholds

theorem vacates (h : Spoken V) {r : ConnRef} (hr : r ∈ V.members)
    (hvacates : Vacates V r V') : Spoken V' := by
  refine ⟨h.unique.vacates hr hvacates, fun inputPoint s hs hholds => ?_⟩
  rw [profile_field (hvacates.profile hs) (·.instanceType) fun _ => rfl]
  rcases hvacates.holder hs hholds with ⟨hheld, -⟩ | ⟨-, -, htakes, -⟩
  · exact h.speaks inputPoint s (hvacates.member hs) hheld
  · exact (of_canTakeOver htakes).2.2

theorem modify (h : Spoken V) {r : ConnRef} {f : CipConnectionObject → CipConnectionObject}
    (hf : ∀ inputPoint, producesMulticast inputPoint (f (V.object r)) = true →
      producesMulticast inputPoint (V.object r) = true)
    (htype : (f (V.object r)).instanceType = (V.object r).instanceType) :
    Spoken (V.modify r f) := by
  refine ⟨h.unique.modify hf, fun inputPoint s hs hholds => ?_⟩
  by_cases hsr : s = r
  · subst hsr
    rw [View.modify_object_self] at hholds ⊢
    rw [htype]
    exact h.speaks inputPoint s hs (hf inputPoint hholds)
  · rw [V.modify_object_of_ne hsr] at hholds ⊢
    exact h.speaks inputPoint s hs hholds

/-- An established connection of an input that `r` leaves still has the holder of
its socket, or `r` was that and another connection has it now. -/
theorem handover (h : Spoken V) (hregular : Regular cfg V) {r : ConnRef}
    (hr : r ∈ V.members) (hvacates : Vacates V r V') {inputPoint : UInt16} {s m : ConnRef}
    (hs : s ∈ V'.members) (hsr : s ≠ r) (hshares : sharesInput inputPoint (V.object s) = true)
    (hstate : (V.object s).state = .established) (hm : m ∈ V.members)
    (hholds : producesMulticast inputPoint (V.object m) = true) :
    ∃ m' ∈ V'.members, m' ≠ r ∧ producesMulticast inputPoint (V'.object m') = true ∧
      (m' = m ∧ V'.object m = V.object m ∨
        m = r ∧ m' ∈ V.members ∧ View.canTakeOver inputPoint (V.object m') = true ∧
          V'.object m' = View.inherit (V.object r) (V.object m')) := by
  have hminput := sharesInput_input (producesMulticast_iff.mp hholds).1
  cases hvacates with
  | quiet silent =>
      refine ⟨m, hm, ?_, hholds, .inl ⟨rfl, rfl⟩⟩
      rintro rfl
      rw [h.master hregular hm hholds] at silent
      cases silent
  | @passed heir master member differs takes =>
      have hold := producesMulticast_of_master master
      have hheir := (of_canTakeOver takes).1
      by_cases hinput : inputPoint = (V.object r).producedPath.instanceId
      · refine ⟨heir, member, differs, ?_, .inr ⟨?_, member, hinput ▸ takes,
          V.pass_object_heir differs⟩⟩
        · rw [V.pass_object_heir differs, hinput]
          exact producesMulticast_iff.mpr ⟨hheir, (producesMulticast_iff.mp hold).2⟩
        · exact h.unique inputPoint m hm r hr hholds (hinput ▸ hold)
      · have hmr : m ≠ r := by
          rintro rfl
          exact hinput hminput.symm
        have hmheir : m ≠ heir := by
          rintro rfl
          exact hinput (hminput.symm.trans (sharesInput_input hheir))
        refine ⟨m, hm, hmr, ?_, .inl ⟨rfl, V.pass_object_of_ne hmr hmheir⟩⟩
        rw [V.pass_object_of_ne hmr hmheir]
        exact hholds
  | silenced master nobody =>
      have hkept : V.ofInput .ioListenOnly (V.object r).producedPath.instanceId m = false := by
        have hspeaks := h.speaks inputPoint m hm hholds
        simp [View.ofInput, hspeaks]
      have hobject : (V.without (V.ofInput .ioListenOnly
          (V.object r).producedPath.instanceId)).object m = V.object m := by
        rw [View.without_object, hkept]
        rfl
      refine ⟨m, V.mem_without.mpr ⟨hm, hkept⟩, ?_, ?_, .inl ⟨rfl, hobject⟩⟩
      · -- a listener of the input was dropped, and any other connection of it would
        -- be a successor
        rintro rfl
        obtain ⟨hsmem, hsdropped⟩ := V.mem_without.mp hs
        have hspeaks : (V.object s).instanceType ≠ .ioListenOnly := by
          intro hlisten
          simp [View.ofInput, hsmem, hlisten, hminput, sharesInput_input hshares] at hsdropped
        have hnot := nobody s hsmem
        rw [hminput] at hnot
        exact hsr (h.unique inputPoint s hsmem m hm
          (canTakeOver_of_leads (leads_iff.mpr ⟨hshares, hstate, hspeaks⟩) hnot) hholds)
      · rw [hobject]
        exact hholds

theorem depart (h : Spoken V) (hdepart : Depart V V') : Spoken V' := by
  cases hdepart with
  | discard dropped class3 => exact h.without dropped
  | close member io => exact (h.vacates member (vacates_vacate V _)).without _
  | expire member io established =>
      exact (h.vacates member (vacates_vacate V _)).modify (fun _ => id) rfl

theorem move (h : Spoken V) (hmove : Move V V') : Spoken V' := by
  refine ⟨h.unique.move hmove, ?_⟩
  rcases hmove.depart_or_same with hdepart | ⟨hmembers, hfield⟩
  · exact (h.depart hdepart).speaks
  · intro inputPoint r hr hholds
    rw [hfield (producesMulticast inputPoint) (fun _ => rfl) (fun _ => rfl) r] at hholds
    rw [hfield (·.instanceType) (fun _ => rfl) (fun _ => rfl) r]
    exact h.speaks inputPoint r (hmembers ▸ hr) hholds

theorem vacated (h : Spoken V) {r : ConnRef} {lookup : Lookup}
    (hvacated : Vacated V r lookup V') : Spoken V' := by
  cases hvacated with
  | free unlisted => exact h
  | closed member => exact (h.vacates member (vacates_vacate V r)).without _
  | cleared unlisted => exact h.without _

theorem scratch (h : Spoken V) {r : ConnRef} (hr : r ∉ V.members) (c : CipConnectionObject)
    (connectionId : UInt16) : Spoken (V.scratch r c connectionId) := by
  refine ⟨h.unique.scratch hr c connectionId, fun inputPoint s hs hholds => ?_⟩
  rw [V.scratch_object_of_ne (ne_of_mem_of_not_mem hs hr)] at hholds ⊢
  exact h.speaks inputPoint s hs hholds

/-- The new connection speaks if it holds a socket at all. -/
theorem speaks_insert (h : Spoken V) {r : ConnRef} (hr : r ∉ V.members)
    {c : CipConnectionObject} (connectionId : UInt16)
    (hspeaks : ∀ inputPoint, producesMulticast inputPoint c = true →
      c.instanceType ≠ .ioListenOnly) :
    ∀ inputPoint, ∀ s ∈ (V.insert r c connectionId).members,
      producesMulticast inputPoint ((V.insert r c connectionId).object s) = true →
      ((V.insert r c connectionId).object s).instanceType ≠ .ioListenOnly := by
  intro inputPoint s hs hholds
  rcases List.mem_cons.mp hs with hsr | hsmem
  · rw [hsr, View.insert_object_self] at hholds ⊢
    exact hspeaks inputPoint hholds
  · rw [V.insert_object_of_ne (ne_of_mem_of_not_mem hsmem hr)] at hholds ⊢
    exact h.speaks inputPoint s hsmem hholds

theorem retire (h : Spoken V) (r : ConnRef) : Spoken (V.modify r View.retire) := by
  refine h.modify (fun inputPoint hholds => ?_) rfl
  rw [UniqueHolder.not_retired] at hholds
  cases hholds

/-- A listener that is opened finds a producer. -/
theorem opens (h : Spoken V) {d : CipConnectionObject} {udpSocket : Int} {r : ConnRef}
    (hr : r ∉ V.members) (hopens : Opens cfg d udpSocket V r V')
    (hlistener : r.instanceType = .ioListenOnly → d.tToOConnectionType = .multicast →
      V.producer d.producedPath.instanceId ≠ none) : Spoken V' := by
  refine ⟨h.unique.opens hr hopens, ?_⟩
  cases hopens with
  | plain admitted single identifier =>
      refine h.speaks_insert hr _ fun inputPoint hholds => ?_
      rw [UniqueHolder.not_holds_of_single (admitted.tToO ▸ single)] at hholds
      cases hholds
  | first admitted multicast agrees lonely identifier socket =>
      refine h.speaks_insert hr _ fun inputPoint hholds => ?_
      rw [admitted.kind.instanceType]
      exact fun hlisten => hlistener hlisten multicast lonely
  | @join c producer admitted multicast agrees existing identifier socket =>
      by_cases howner : c.instanceType = .ioExclusiveOwner
      · rw [leftBehind_owner howner]
        refine (h.retire producer).speaks_insert hr _ fun inputPoint hholds => ?_
        rw [howner]
        decide
      · rw [leftBehind_other howner, V.modify_id]
        refine h.speaks_insert hr _ fun inputPoint hholds => ?_
        have hsocket := (producesMulticast_iff.mp hholds).2
        rw [socket, if_neg (admitted.kind.instanceType ▸ howner)] at hsocket
        exact absurd rfl hsocket

end Spoken

/-- A need of connections for the holder of their input's socket. -/
structure Service where
  needs : UInt16 → CipConnectionObject → Bool
  serves : CipConnectionObject → CipConnectionObject → Bool
  active : ∀ {inputPoint c}, needs inputPoint c = true →
    sharesInput inputPoint c = true ∧ c.state = .established
  needs_profile : ∀ inputPoint c, needs inputPoint c.profile = needs inputPoint c
  serves_profile : ∀ c d, serves c.profile d.profile = serves c d
  passes : ∀ {inputPoint c old heir}, View.canTakeOver inputPoint heir = true →
    serves c old = true → (needs inputPoint heir = true → serves heir old = true) →
    serves c heir = true

/-- The connection is served by a listed holder. -/
def Service.Provides (S : Service) (V : View) (inputPoint : UInt16)
    (c : CipConnectionObject) : Prop :=
  ∃ m ∈ V.members, producesMulticast inputPoint (V.object m) = true ∧
    S.serves c (V.object m) = true

def Served (S : Service) (V : View) : Prop :=
  ∀ inputPoint, ∀ r ∈ V.members, S.needs inputPoint (V.object r) = true →
    S.Provides V inputPoint (V.object r)

namespace Served

variable {S : Service} {cfg : Config} {V V' : View}

/-- The same members, up to what neither needs nor service depend on. -/
theorem of_profile (h : Served S V) (hmembers : V'.members = V.members)
    (hprofile : ∀ r ∈ V.members, (V'.object r).profile = (V.object r).profile)
    (hholds : ∀ inputPoint, ∀ r ∈ V.members,
      producesMulticast inputPoint (V'.object r) = producesMulticast inputPoint (V.object r)) :
    Served S V' := by
  intro inputPoint r hr hneeds
  rw [hmembers] at hr
  rw [profile_field (hprofile r hr) (S.needs inputPoint) (S.needs_profile inputPoint)] at hneeds
  obtain ⟨m, hm, hmholds, hserves⟩ := h inputPoint r hr hneeds
  refine ⟨m, hmembers ▸ hm, ?_, ?_⟩
  · rw [hholds inputPoint m hm]
    exact hmholds
  · rw [← S.serves_profile, hprofile r hr, hprofile m hm, S.serves_profile]
    exact hserves

theorem of_objects (h : Served S V) (hmembers : V'.members = V.members)
    (hobject : ∀ r ∈ V.members, V'.object r = V.object r) : Served S V' :=
  h.of_profile hmembers (fun r hr => by rw [hobject r hr]) fun _ r hr => by rw [hobject r hr]

/-- Once `r` has handed over, the other connections do without it. -/
theorem vacates (h : Served S V) (hregular : Regular cfg V) (hspoken : Spoken V) {r : ConnRef}
    (hr : r ∈ V.members) (hvacates : Vacates V r V') {inputPoint : UInt16} {s : ConnRef}
    (hs : s ∈ V'.members) (hsr : s ≠ r) (hneeds : S.needs inputPoint (V'.object s) = true) :
    ∃ m ∈ V'.members, m ≠ r ∧ producesMulticast inputPoint (V'.object m) = true ∧
      S.serves (V'.object s) (V'.object m) = true := by
  have hsmem := hvacates.member hs
  have hprofile := hvacates.profile hs
  rw [profile_field hprofile (S.needs inputPoint) (S.needs_profile inputPoint)] at hneeds
  obtain ⟨m, hm, hholds, hserves⟩ := h inputPoint s hsmem hneeds
  obtain ⟨hshares, hstate⟩ := S.active hneeds
  obtain ⟨m', hm', hne, hholds', hhandover⟩ :=
    hspoken.handover hregular hr hvacates hs hsr hshares hstate hm hholds
  refine ⟨m', hm', hne, hholds', ?_⟩
  rw [← S.serves_profile, hprofile, hvacates.profile hm', S.serves_profile]
  obtain ⟨rfl, -⟩ | ⟨rfl, hmem', htakes, -⟩ := hhandover
  · exact hserves
  · refine S.passes htakes hserves fun hneeds' => ?_
    obtain ⟨holder, hholder, hheld, hserves'⟩ := h inputPoint m' hmem' hneeds'
    rw [hspoken.unique inputPoint holder hholder m hm hheld hholds] at hserves'
    exact hserves'

theorem closed (h : Served S V) (hregular : Regular cfg V) (hspoken : Spoken V) {r : ConnRef}
    (hr : r ∈ V.members) : Served S (V.closed r) := by
  intro inputPoint s hs hneeds
  obtain ⟨hsmem, hsr⟩ := (V.vacate r).mem_without.mp hs
  rw [View.closed, View.without_object, hsr] at hneeds ⊢
  obtain ⟨m, hm, hmr, hholds, hserves⟩ := h.vacates hregular hspoken hr
    (vacates_vacate V r) hsmem (of_decide_eq_false hsr) hneeds
  refine ⟨m, (V.vacate r).mem_without.mpr ⟨hm, decide_eq_false hmr⟩, ?_⟩
  rw [View.without_object, decide_eq_false hmr]
  exact ⟨hholds, hserves⟩

theorem expired (h : Served S V) (hregular : Regular cfg V) (hspoken : Spoken V) {r : ConnRef}
    (hr : r ∈ V.members) : Served S (V.expired r) := by
  intro inputPoint s hs hneeds
  by_cases hsr : s = r
  · subst hsr
    rw [View.expired, View.modify_object_self] at hneeds
    obtain ⟨-, hstate⟩ := S.active hneeds
    cases hstate
  · rw [View.expired, View.modify_object_of_ne _ hsr] at hneeds ⊢
    obtain ⟨m, hm, hmr, hholds, hserves⟩ := h.vacates hregular hspoken hr
      (vacates_vacate V r) hs hsr hneeds
    refine ⟨m, hm, ?_⟩
    rw [View.modify_object_of_ne _ hmr]
    exact ⟨hholds, hserves⟩

theorem depart (h : Served S V) (hregular : Regular cfg V) (hspoken : Spoken V)
    (hdepart : Depart V V') : Served S V' := by
  cases hdepart with
  | discard dropped class3 =>
      intro inputPoint s hs hneeds
      obtain ⟨hsmem, hskept⟩ := V.mem_without.mp hs
      rw [View.without_object, hskept] at hneeds ⊢
      obtain ⟨m, hm, hholds, hserves⟩ := h inputPoint s hsmem hneeds
      have hkept : dropped m = false := by
        by_contra hdropped
        rw [Bool.not_eq_false] at hdropped
        have hio := (class3 m hdropped).2
        rw [hregular.isIo_of_holder hm hholds] at hio
        cases hio
      refine ⟨m, V.mem_without.mpr ⟨hm, hkept⟩, ?_⟩
      rw [View.without_object, hkept]
      exact ⟨hholds, hserves⟩
  | close member io => exact h.closed hregular hspoken member
  | expire member io established => exact h.expired hregular hspoken member

theorem move (h : Served S V) (hregular : Regular cfg V) (hspoken : Spoken V)
    (hmove : Move V V') : Served S V' := by
  rcases hmove.depart_or_same with hdepart | ⟨hmembers, hfield⟩
  · exact h.depart hregular hspoken hdepart
  · refine h.of_profile hmembers ?_ ?_
    · exact fun r _ => hfield (·.profile) (fun _ => rfl) (fun _ => rfl) r
    · exact fun inputPoint r _ =>
        hfield (producesMulticast inputPoint) (fun _ => rfl) (fun _ => rfl) r

theorem vacated (h : Served S V) (hregular : Regular cfg V) (hspoken : Spoken V) {r : ConnRef}
    {lookup : Lookup} (hvacated : Vacated V r lookup V') : Served S V' := by
  by_cases hr : r ∈ V.members
  · cases hvacated with
    | free unlisted => exact h
    | closed member => exact h.closed hregular hspoken member
    | cleared unlisted => exact absurd hr unlisted
  · obtain ⟨hmembers, hobject⟩ := hvacated.unlisted hr
    exact h.of_objects hmembers hobject

theorem scratch (h : Served S V) {r : ConnRef} (hr : r ∉ V.members) (c : CipConnectionObject)
    (connectionId : UInt16) : Served S (V.scratch r c connectionId) :=
  h.of_objects rfl fun _ hs => V.scratch_object_of_ne (ne_of_mem_of_not_mem hs hr) c _

/-- A new connection that serves itself or finds its producer. -/
theorem insert (h : Served S V) {r : ConnRef} (hr : r ∉ V.members) {c : CipConnectionObject}
    (connectionId : UInt16)
    (hself : ∀ inputPoint, S.needs inputPoint c = true →
      (producesMulticast inputPoint c = true ∧ S.serves c c = true) ∨
        S.Provides V inputPoint c) : Served S (V.insert r c connectionId) := by
  have hfound : ∀ inputPoint d, S.Provides V inputPoint d →
      S.Provides (V.insert r c connectionId) inputPoint d := by
    rintro inputPoint d ⟨m, hm, hholds, hserves⟩
    refine ⟨m, List.mem_cons_of_mem r hm, ?_⟩
    rw [V.insert_object_of_ne (ne_of_mem_of_not_mem hm hr)]
    exact ⟨hholds, hserves⟩
  intro inputPoint s hs hneeds
  rcases List.mem_cons.mp hs with hsr | hsmem
  · rw [hsr, View.insert_object_self] at hneeds ⊢
    rcases hself inputPoint hneeds with hserves | hproducer
    · refine ⟨r, List.mem_cons_self, ?_⟩
      rw [View.insert_object_self]
      exact hserves
    · exact hfound inputPoint c hproducer
  · rw [V.insert_object_of_ne (ne_of_mem_of_not_mem hsmem hr)] at hneeds ⊢
    exact hfound inputPoint _ (h inputPoint s hsmem hneeds)

/-- An exclusive owner takes the socket of its input from the producer, and serves
those that the producer served. -/
theorem insert_owner (h : Served S V) {r producer : ConnRef} (hr : r ∉ V.members)
    {c : CipConnectionObject} (connectionId : UInt16) {inputPoint : UInt16}
    (hheld : producesMulticast inputPoint (V.object producer) = true)
    (hholds : producesMulticast inputPoint c = true) (hself : S.serves c c = true)
    (hserves : ∀ s ∈ V.members, S.needs inputPoint (V.object s) = true →
      S.serves (V.object s) c = true) :
    Served S ((V.modify producer View.retire).insert r c connectionId) := by
  have hprofile : ∀ s, ((V.modify producer View.retire).object s).profile =
      (V.object s).profile := by
    intro s
    by_cases hsp : s = producer
    · rw [hsp, View.modify_object_self, CipConnectionObject.profile_retire]
    · rw [V.modify_object_of_ne hsp]
  have hinput : ∀ {input t}, sharesInput input t = true → sharesInput inputPoint t = true →
      input = inputPoint :=
    fun ht ht' => (sharesInput_input ht).symm.trans (sharesInput_input ht')
  intro input s hs hneeds
  rcases List.mem_cons.mp hs with hsr | hsmem
  · rw [hsr, View.insert_object_self] at hneeds ⊢
    refine ⟨r, List.mem_cons_self, ?_⟩
    rw [View.insert_object_self,
      hinput (S.active hneeds).1 (producesMulticast_iff.mp hholds).1]
    exact ⟨hholds, hself⟩
  · rw [View.insert_object_of_ne _ (ne_of_mem_of_not_mem hsmem hr)] at hneeds ⊢
    rw [profile_field (hprofile s) (S.needs input) (S.needs_profile input)] at hneeds
    by_cases hsame : input = inputPoint
    · subst hsame
      refine ⟨r, List.mem_cons_self, ?_⟩
      rw [View.insert_object_self, ← S.serves_profile, hprofile s, S.serves_profile]
      exact ⟨hholds, hserves s hsmem hneeds⟩
    · obtain ⟨m, hm, hmholds, hmserves⟩ := h input s hsmem hneeds
      have hmp : m ≠ producer := by
        rintro rfl
        exact hsame (hinput (producesMulticast_iff.mp hmholds).1
          (producesMulticast_iff.mp hheld).1)
      refine ⟨m, List.mem_cons_of_mem r hm, ?_⟩
      rw [View.insert_object_of_ne _ (ne_of_mem_of_not_mem hm hr), ← S.serves_profile,
        hprofile s, S.serves_profile, V.modify_object_of_ne hmp]
      exact ⟨hmholds, hmserves⟩

end Served

end Opener

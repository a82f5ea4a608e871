import Opener.Metatheory.Courses
import Opener.Metatheory.Handover

/-!
Listen-only connections and the producers of their input. A multicast producer that
leaves hands over or closes its listeners, and an exclusive owner that times out
closes them in any case. A point-to-point producer that is closed, and an input-only
one that times out, leaves them behind; and the search of `GetListenOnlyConnection`
also finds producers that have timed out. In a run without these every listener has
a producer.
-/

namespace Opener

open LinkedCells

namespace CipConnectionObject

/-- An established listen-only connection of the input. -/
def listens (inputPoint : UInt16) (c : CipConnectionObject) : Bool :=
  c.instanceType = .ioListenOnly && c.state = .established &&
    c.producedPath.instanceId = inputPoint

/-- An established exclusive owner or input-only connection that produces the input:
it has a T→O connection and holds its socket. -/
def attends (inputPoint : UInt16) (c : CipConnectionObject) : Bool :=
  (c.instanceType = .ioExclusiveOwner || c.instanceType = .ioInputOnly) &&
    c.state = .established && c.producedPath.instanceId = inputPoint &&
    (c.tToOConnectionType = .multicast || c.tToOConnectionType = .pointToPoint) &&
    c.producingSocket ≠ eipInvalidSocket

theorem listens_iff {inputPoint : UInt16} {c : CipConnectionObject} :
    c.listens inputPoint = true ↔ c.instanceType = .ioListenOnly ∧ c.state = .established ∧
      c.producedPath.instanceId = inputPoint := by
  simp [listens, and_assoc]

theorem attends_iff {inputPoint : UInt16} {c : CipConnectionObject} :
    c.attends inputPoint = true ↔
      (c.instanceType = .ioExclusiveOwner ∨ c.instanceType = .ioInputOnly) ∧
        c.state = .established ∧ c.producedPath.instanceId = inputPoint ∧
        (c.tToOConnectionType = .multicast ∨ c.tToOConnectionType = .pointToPoint) ∧
        c.producingSocket ≠ eipInvalidSocket := by
  simp [attends, and_assoc]

theorem listens_profile {c d : CipConnectionObject} (h : d.profile = c.profile)
    (inputPoint : UInt16) : d.listens inputPoint = c.listens inputPoint :=
  profile_field h (listens inputPoint) fun _ => rfl

theorem attends_profile {c d : CipConnectionObject} (h : d.profile = c.profile)
    (hsocket : d.producingSocket = c.producingSocket) (inputPoint : UInt16) :
    d.attends inputPoint = c.attends inputPoint := by
  rw [attends, attends, hsocket, profile_field h (·.instanceType) fun _ => rfl,
    profile_field h (·.state) fun _ => rfl, profile_field h (·.producedPath) fun _ => rfl,
    profile_field h (·.tToOConnectionType) fun _ => rfl]

theorem listens_lasting {c d : CipConnectionObject} (h : d.lasting = c.lasting)
    (hstate : d.state = c.state) (inputPoint : UInt16) :
    d.listens inputPoint = c.listens inputPoint := by
  rw [listens, listens, hstate, lasting_field h (·.instanceType) fun _ => rfl,
    lasting_field h (·.producedPath) fun _ => rfl]

theorem listens_setState (inputPoint : UInt16) (c : CipConnectionObject) :
    (c.setState .timedOut).listens inputPoint = false := by
  simp [listens, setState]

end CipConnectionObject

open CipConnectionObject

theorem Kind.isIo_of_type {cfg : Config} {r : ConnRef} {c : CipConnectionObject}
    (h : Kind cfg r c) (htype : c.instanceType ≠ .explicitMessaging) : r.isIo = true := by
  cases hio : r.isIo with
  | true => rfl
  | false =>
      exact absurd (h.instanceType.trans (ConnRef.instanceType_eq_explicit.mpr hio)) htype

theorem Kind.isIo_of_listens {cfg : Config} {r : ConnRef} {c : CipConnectionObject}
    (h : Kind cfg r c) {inputPoint : UInt16} (hlistens : c.listens inputPoint = true) :
    r.isIo = true :=
  h.isIo_of_type (by simp [(listens_iff.mp hlistens).1])

theorem Kind.isIo_of_attends {cfg : Config} {r : ConnRef} {c : CipConnectionObject}
    (h : Kind cfg r c) {inputPoint : UInt16} (hattends : c.attends inputPoint = true) :
    r.isIo = true := by
  obtain htype | htype := (attends_iff.mp hattends).1
  · exact h.isIo_of_type (by simp [htype])
  · exact h.isIo_of_type (by simp [htype])

/-- Whoever takes over an input with its socket produces it. -/
theorem Kind.attends_inherit {cfg : Config} {r : ConnRef} {old c : CipConnectionObject}
    (h : Kind cfg r c) {inputPoint : UInt16} (htakes : View.canTakeOver inputPoint c = true)
    (hsocket : old.producingSocket ≠ eipInvalidSocket) :
    (View.inherit old c).attends inputPoint = true := by
  simp only [View.canTakeOver, Bool.and_eq_true, decide_eq_true_eq] at htakes
  obtain ⟨⟨⟨⟨htype, hstate⟩, hinput⟩, hmulticast⟩, -⟩ := htakes
  have htypes : c.instanceType = .ioExclusiveOwner ∨ c.instanceType = .ioInputOnly := by
    rw [isTypeNonLOIOConnection, h.instanceType] at htype
    rw [h.instanceType]
    cases r with
    | explicit _ => cases htype
    | exclusiveOwner _ => exact .inl rfl
    | inputOnly _ _ => exact .inr rfl
    | listenOnly _ _ => cases htype
  exact attends_iff.mpr ⟨htypes, hstate, hinput, .inl hmulticast, hsocket⟩

/-- Who can take over an input does not produce it yet. -/
theorem not_attends_of_canTakeOver {c : CipConnectionObject} {inputPoint : UInt16}
    (htakes : View.canTakeOver inputPoint c = true) (inputPoint' : UInt16) :
    c.attends inputPoint' = false := by
  simp only [View.canTakeOver, Bool.and_eq_true, decide_eq_true_eq] at htakes
  simp [attends, htakes.2]

theorem producingSocket_of_master {c : CipConnectionObject}
    (h : StackState.isMulticastMaster c = true) : c.producingSocket ≠ eipInvalidSocket :=
  (producesMulticast_iff.mp (producesMulticast_of_master h)).2

namespace View

variable (V : View)

def isHeard (inputPoint : UInt16) : Bool :=
  V.members.any fun r => (V.object r).listens inputPoint

/-- Somebody other than `r` produces the input. -/
def isAttendedWithout (r : ConnRef) (inputPoint : UInt16) : Bool :=
  V.members.any fun s => s ≠ r && (V.object s).attends inputPoint

/-- The connection can leave: it hands over or closes its listeners, or it is not
the only producer that they have. -/
def spares (r : ConnRef) : Bool :=
  StackState.isMulticastMaster (V.object r) ||
    !(V.object r).attends (V.object r).producedPath.instanceId ||
    !V.isHeard (V.object r).producedPath.instanceId ||
    V.isAttendedWithout r (V.object r).producedPath.instanceId

/-- Every listener has a producer. -/
def Attended : Prop :=
  ∀ inputPoint, ∀ r ∈ V.members, (V.object r).listens inputPoint = true →
    ∃ p ∈ V.members, (V.object p).attends inputPoint = true

end View

namespace View.Attended

variable {cfg : Config} {V V' : View}

/-- Only the I/O connections matter, and of these the socket and what stays while data
is exchanged. -/
theorem of_profile (h : V.Attended) (hregular : Regular cfg V) (hregular' : Regular cfg V')
    (hmembers : V'.members.filter ConnRef.isIo = V.members.filter ConnRef.isIo)
    (hprofile : ∀ r ∈ V.members, r.isIo = true →
      (V'.object r).profile = (V.object r).profile)
    (hsocket : ∀ r ∈ V.members, r.isIo = true →
      (V'.object r).producingSocket = (V.object r).producingSocket) : V'.Attended := by
  intro inputPoint r hr hlistens
  have hio := (hregular'.kind r hr).isIo_of_listens hlistens
  have hr' := List.mem_filter.mpr ⟨hr, hio⟩
  rw [hmembers] at hr'
  obtain ⟨hr, -⟩ := List.mem_filter.mp hr'
  rw [listens_profile (hprofile r hr hio)] at hlistens
  obtain ⟨p, hp, hattends⟩ := h inputPoint r hr hlistens
  have hpio := (hregular.kind p hp).isIo_of_attends hattends
  have hp' := List.mem_filter.mpr ⟨hp, hpio⟩
  rw [← hmembers] at hp'
  refine ⟨p, (List.mem_filter.mp hp').1, ?_⟩
  rw [attends_profile (hprofile p hp hpio) (hsocket p hp hpio)]
  exact hattends

theorem without_explicit (h : V.Attended) (hregular : Regular cfg V) {dropped : ConnRef → Bool}
    (hdropped : ∀ s, dropped s = true → s.isIo = false) : (V.without dropped).Attended := by
  have hkept : ∀ r, r.isIo = true → dropped r = false := by
    intro r hio
    cases hd : dropped r with
    | false => rfl
    | true => exact absurd (hdropped r hd) (by simp [hio])
  have hobject : ∀ r, r.isIo = true → (V.without dropped).object r = V.object r := by
    intro r hio
    rw [without_object, hkept r hio]
    rfl
  refine h.of_profile hregular (hregular.without dropped) ?_
    (fun r _ hio => by rw [hobject r hio]) fun r _ hio => by rw [hobject r hio]
  rw [without_members, List.filter_filter]
  refine List.filter_congr fun r _ => ?_
  cases hio : r.isIo with
  | false => rfl
  | true => simp [hkept r hio]

/-- When a connection that can leave has left its production, each listener has
another producer. -/
theorem vacates (h : V.Attended) (hregular : Regular cfg V) {r : ConnRef}
    (hspares : V.spares r = true) (hvacates : Vacates V r V') {inputPoint : UInt16}
    {q : ConnRef} (hq : q ∈ V'.members)
    (hlistens : (V'.object q).listens inputPoint = true) :
    ∃ p ∈ V'.members, p ≠ r ∧ (V'.object p).attends inputPoint = true := by
  cases hvacates with
  | quiet silent =>
      obtain ⟨p, hp, hattends⟩ := h inputPoint q hq hlistens
      by_cases hpr : p = r
      · subst hpr
        have hinput := (attends_iff.mp hattends).2.2.1
        have hheard : V.isHeard inputPoint = true := List.any_eq_true.mpr ⟨q, hq, hlistens⟩
        rw [spares, silent, hinput, hattends, hheard] at hspares
        obtain ⟨s, hs, hother⟩ := List.any_eq_true.mp hspares
        simp only [Bool.and_eq_true, decide_eq_true_eq] at hother
        exact ⟨s, hs, hother.1, hother.2⟩
      · exact ⟨p, hp, hpr, hattends⟩
  | @passed heir master member differs takes =>
      rw [listens_profile (V.pass_profile differs q)] at hlistens
      obtain ⟨p, hp, hattends⟩ := h inputPoint q hq hlistens
      by_cases hpr : p = r
      · subst hpr
        refine ⟨heir, member, differs, ?_⟩
        rw [V.pass_object_heir differs, ← (attends_iff.mp hattends).2.2.1]
        exact (hregular.kind heir member).attends_inherit takes
          (producingSocket_of_master master)
      · have hheir : p ≠ heir := by
          rintro rfl
          rw [not_attends_of_canTakeOver takes] at hattends
          cases hattends
        refine ⟨p, hp, hpr, ?_⟩
        rw [V.pass_object_of_ne hpr hheir]
        exact hattends
  | silenced master nobody =>
      obtain ⟨hq, hkept⟩ := V.mem_without.mp hq
      rw [without_object, hkept] at hlistens
      have hlistens : (V.object q).listens inputPoint = true := hlistens
      obtain ⟨p, hp, hattends⟩ := h inputPoint q hq hlistens
      obtain ⟨htype, -, hinput⟩ := listens_iff.mp hlistens
      have helsewhere : inputPoint ≠ (V.object r).producedPath.instanceId := by
        intro heq
        simp [ofInput, hq, htype, hinput, heq] at hkept
      have hstays : V.ofInput .ioListenOnly (V.object r).producedPath.instanceId p = false := by
        obtain htype | htype := (attends_iff.mp hattends).1
        · simp [ofInput, htype]
        · simp [ofInput, htype]
      refine ⟨p, V.mem_without.mpr ⟨hp, hstays⟩, ?_, ?_⟩
      · rintro rfl
        exact helsewhere (attends_iff.mp hattends).2.2.1.symm
      · rw [without_object, hstays]
        exact hattends

theorem closed (h : V.Attended) (hregular : Regular cfg V) {r : ConnRef}
    (hspares : V.spares r = true) : (V.closed r).Attended := by
  intro inputPoint q hq hlistens
  rw [View.closed] at hq hlistens ⊢
  obtain ⟨hq, hqr⟩ := (V.vacate r).mem_without.mp hq
  rw [without_object, hqr] at hlistens
  obtain ⟨p, hp, hpr, hattends⟩ :=
    h.vacates hregular hspares (vacates_vacate V r) hq hlistens
  refine ⟨p, (V.vacate r).mem_without.mpr ⟨hp, by simp [hpr]⟩, ?_⟩
  rw [without_object, if_neg (by simp [hpr])]
  exact hattends

theorem expired (h : V.Attended) (hregular : Regular cfg V) {r : ConnRef}
    (hspares : V.spares r = true) : (V.expired r).Attended := by
  intro inputPoint q hq hlistens
  rw [View.expired] at hq hlistens ⊢
  by_cases hqr : q = r
  · subst hqr
    rw [modify_object_self, listens_setState] at hlistens
    cases hlistens
  · rw [modify_object_of_ne _ hqr] at hlistens
    obtain ⟨p, hp, hpr, hattends⟩ :=
      h.vacates hregular hspares (vacates_vacate V r) hq hlistens
    refine ⟨p, hp, ?_⟩
    rw [modify_object_of_ne _ hpr]
    exact hattends

end View.Attended

/-- Discarding explicit connections takes no producer away. -/
theorem View.spares_without {cfg : Config} {V : View} (hregular : Regular cfg V)
    {dropped : ConnRef → Bool} (hdropped : ∀ s, dropped s = true → s.isIo = false) {r : ConnRef}
    (hr : dropped r = false) (h : V.spares r = true) : (V.without dropped).spares r = true := by
  have hkept : ∀ s ∈ (V.without dropped).members, s ∈ V.members ∧
      (V.without dropped).object s = V.object s := by
    intro s hs
    obtain ⟨hs, hkeep⟩ := V.mem_without.mp hs
    exact ⟨hs, by rw [without_object, hkeep]; rfl⟩
  have hself : (V.without dropped).object r = V.object r := by
    rw [without_object, hr]
    rfl
  simp only [spares, Bool.or_eq_true, Bool.not_eq_true'] at h ⊢
  rw [hself]
  obtain ((hmaster | hattends) | hheard) | hother := h
  · exact .inl (.inl (.inl hmaster))
  · exact .inl (.inl (.inr hattends))
  · refine .inl (.inr (List.any_eq_false.mpr fun s hs => ?_))
    rw [(hkept s hs).2]
    exact List.any_eq_false.mp hheard s (hkept s hs).1
  · obtain ⟨s, hs, hattends⟩ := List.any_eq_true.mp hother
    rw [Bool.and_eq_true] at hattends
    have hstays : dropped s = false := by
      cases hd : dropped s with
      | false => rfl
      | true =>
          have hio := (hregular.kind s hs).isIo_of_attends hattends.2
          exact absurd (hdropped s hd) (by simp [hio])
    have hs' := V.mem_without.mpr ⟨hs, hstays⟩
    refine .inr (List.any_eq_true.mpr ⟨s, hs', ?_⟩)
    rw [(hkept s hs').2, Bool.and_eq_true]
    exact hattends

/-- The connections of other inputs are left alone. -/
structure Spared (inputPoint : UInt16) (V V' : View) : Prop where
  persists : Persists V V'
  elsewhere : ∀ q ∈ V.members, q.isIo = true →
    (V.object q).producedPath.instanceId ≠ inputPoint →
    q ∈ V'.members ∧ V'.object q = V.object q

namespace Spared

variable {inputPoint : UInt16} {V V' V'' : View}

theorem refl (V : View) : Spared inputPoint V V := ⟨.refl V, fun _ hq _ _ => ⟨hq, rfl⟩⟩

theorem trans (h : Spared inputPoint V V') (h' : Spared inputPoint V' V'') :
    Spared inputPoint V V'' := by
  refine ⟨h.persists.trans h'.persists, fun q hq hio hinput => ?_⟩
  obtain ⟨hq', hobject⟩ := h.elsewhere q hq hio hinput
  rw [← hobject] at hinput
  obtain ⟨hq'', hobject'⟩ := h'.elsewhere q hq' hio hinput
  exact ⟨hq'', hobject'.trans hobject⟩

theorem without (V : View) {dropped : ConnRef → Bool}
    (h : ∀ q, dropped q = true → q.isIo = false ∨
      (V.object q).producedPath.instanceId = inputPoint) :
    Spared inputPoint V (V.without dropped) := by
  refine ⟨.without V dropped, fun q hq hio hinput => ?_⟩
  have hkeep : dropped q = false := by
    cases hd : dropped q with
    | false => rfl
    | true =>
        obtain hexplicit | hsame := h q hd
        · exact absurd hio (by simp [hexplicit])
        · exact absurd hsame hinput
  refine ⟨V.mem_without.mpr ⟨hq, hkeep⟩, ?_⟩
  rw [View.without_object, hkeep]
  rfl

theorem timedOut (V : View) {r : ConnRef}
    (hr : (V.object r).producedPath.instanceId = inputPoint) :
    Spared inputPoint V (V.modify r fun c => c.setState .timedOut) := by
  refine ⟨.timedOut V r, fun q hq _ hinput => ⟨hq, ?_⟩⟩
  have hqr : q ≠ r := fun heq => hinput (heq ▸ hr)
  exact V.modify_object_of_ne hqr _

theorem vacate (V : View) {r : ConnRef}
    (hr : (V.object r).producedPath.instanceId = inputPoint) :
    Spared inputPoint V (V.vacate r) := by
  refine ⟨.vacate V r, fun q hq hio hinput => ?_⟩
  have hqr : q ≠ r := fun heq => hinput (heq ▸ hr)
  have hvacates := vacates_vacate V r
  generalize V.vacate r = V' at hvacates
  cases hvacates with
  | quiet silent => exact ⟨hq, rfl⟩
  | @passed heir master member differs takes =>
      refine ⟨hq, ?_⟩
      have hheir : q ≠ heir := by
        rintro rfl
        simp only [View.canTakeOver, Bool.and_eq_true, decide_eq_true_eq] at takes
        exact hinput (takes.1.1.2.trans hr)
      rw [View.pass, View.modify_object_of_ne _ hqr, View.modify_object_of_ne _ hheir]
  | silenced master nobody =>
      refine (without V fun s hs => .inr ?_).elsewhere q hq hio hinput
      simp only [View.ofInput, Bool.and_eq_true, decide_eq_true_eq] at hs
      exact hs.2.trans hr

theorem closed (V : View) {r : ConnRef}
    (hr : (V.object r).producedPath.instanceId = inputPoint) :
    Spared inputPoint V (V.closed r) := by
  refine ⟨.closed V r, fun q hq hio hinput => ?_⟩
  obtain ⟨hq', hobject⟩ := (vacate V hr).elsewhere q hq hio hinput
  have hqr : q ≠ r := fun heq => hinput (heq ▸ hr)
  refine ⟨(V.vacate r).mem_without.mpr ⟨hq', by simp [hqr]⟩, ?_⟩
  rw [View.closed, View.without_object, if_neg (by simp [hqr])]
  exact hobject

theorem expired {cfg : Config} (hregular : Regular cfg V) {r : ConnRef} (hr : r ∈ V.members)
    (hio : r.isIo = true) (hinput : (V.object r).producedPath.instanceId = inputPoint) :
    Spared inputPoint V (V.expired r) := by
  refine (vacate V hinput).trans (timedOut _ ?_)
  have hlasting := (Persists.vacate V r).lasting r ((hregular.vacate hr).2 hio)
  rw [lasting_field hlasting (·.producedPath) fun _ => rfl]
  exact hinput

/-- No listener of the input is left, and those of the others have their producers. -/
theorem attended {cfg : Config} (h : Spared inputPoint V V') (hregular : Regular cfg V)
    (hattended : V.Attended)
    (hnobody : ∀ q ∈ V'.members, (V'.object q).listens inputPoint = false) : V'.Attended := by
  intro inputPoint' q hq hlistens
  obtain ⟨htype, hstate, hinput⟩ := listens_iff.mp hlistens
  have hbefore : (V.object q).listens inputPoint' = true := by
    rw [← listens_lasting (h.persists.lasting q hq)
      (hstate.trans (h.persists.established q hq hstate).symm)]
    exact hlistens
  obtain ⟨p, hp, hattends⟩ := hattended inputPoint' q (h.persists.sublist.subset hq) hbefore
  have hother : inputPoint' ≠ inputPoint := by
    rintro rfl
    rw [hnobody q hq] at hlistens
    cases hlistens
  have hpinput : (V.object p).producedPath.instanceId ≠ inputPoint := by
    rw [(attends_iff.mp hattends).2.2.1]
    exact hother
  obtain ⟨hp', hobject⟩ :=
    h.elsewhere p hp ((hregular.kind p hp).isIo_of_attends hattends) hpinput
  exact ⟨p, hp', by rw [hobject]; exact hattends⟩

end Spared

/-- Somebody still produces an input after an open: an exclusive owner that joins takes
the socket of the producer over. -/
theorem Opens.attends {cfg : Config} {d : CipConnectionObject} {udpSocket : Int}
    {V V' : View} {r : ConnRef} (h : Opens cfg d udpSocket V r V') (hr : r ∉ V.members)
    {p : ConnRef} (hp : p ∈ V.members)
    {inputPoint : UInt16} (hattends : (V.object p).attends inputPoint = true) :
    ∃ q ∈ V'.members, (V'.object q).attends inputPoint = true := by
  have hpr := ne_of_mem_of_not_mem hp hr
  have hmember : p ∈ V'.members := by
    rw [h.members_eq]
    exact List.mem_cons_of_mem r hp
  cases h with
  | plain admitted | first admitted =>
      refine ⟨p, hmember, ?_⟩
      rw [View.insert_object_of_ne _ hpr]
      exact hattends
  | @join c producer admitted multicast agrees existing identifier socket =>
      by_cases hleaves : p = producer ∧ r.instanceType = .ioExclusiveOwner
      · obtain ⟨rfl, howner⟩ := hleaves
        have hproduces := List.find?_some existing
        obtain ⟨-, -, hinput, -, hsocket⟩ := attends_iff.mp hattends
        refine ⟨r, List.mem_cons_self, ?_⟩
        rw [View.insert_object_self, attends_iff]
        refine ⟨.inl (admitted.kind.instanceType.trans howner), admitted.established, ?_,
          .inl (admitted.tToO.trans multicast), ?_⟩
        · rw [admitted.input, ← hinput]
          exact (sharesInput_input (producesMulticast_iff.mp hproduces).1).symm
        · rw [socket, if_pos howner]
          exact hsocket
      · refine ⟨p, hmember, ?_⟩
        rw [View.insert_object_of_ne _ hpr]
        by_cases hproducer : p = producer
        · subst hproducer
          have hother : c.instanceType ≠ .ioExclusiveOwner := fun howner =>
            hleaves ⟨rfl, admitted.kind.instanceType.symm.trans howner⟩
          rw [View.modify_object_self, leftBehind_other hother]
          exact hattends
        · rw [View.modify_object_of_ne _ hproducer]
          exact hattends

namespace StackState

variable {cfg : Config} {env : Environment} {label : Environment × Action}
variable {st st₁ st' : StackState}

/-- The table after a close function returned, whether the connection was listed or not. -/
theorem connectionCloseFunction_view (hsound : st.Sound cfg) {r : ConnRef}
    (hcall : st.connectionCloseFunction cfg r = .ok st') :
    st'.view cfg = (st.view cfg).closed r := by
  obtain ⟨ns, hlisted⟩ := hsound.wellFormed
  by_cases hr : r ∈ st.connectionList cfg
  · obtain ⟨st₂, ns₂, hclose, hview, -⟩ :=
      connectionCloseFunction_departed hlisted hsound.regular hr
    rw [hcall, Except.ok.injEq] at hclose
    exact hclose ▸ hview
  · have hmaster : isMulticastMaster (st.conn r) = false := by
      refine (hsound.regular.idle r hr).not_master fun hnone => ?_
      rw [view_object] at hnone
      simp [connectionCloseFunction, closeFunctionAt, hnone] at hcall
    obtain ⟨ns', hshrunk⟩ := connectionCloseFunction_of_not_master hlisted hmaster hcall
    rw [hshrunk.view_eq, View.closed, View.vacate_of_not_master hmaster]

/-- Closing the connections of a type and input spares the other inputs. -/
theorem closeAllConnections_spared {inputPoint : UInt16}
    {instanceType : ConnectionObjectInstanceType} (hwell : st.WellFormed cfg)
    (hregular : Regular cfg (st.view cfg))
    (hcall : st.closeAllConnectionsForInputWithSameType cfg (connectionCloseFunction cfg)
      inputPoint instanceType = .ok st') :
    st'.WellFormed cfg ∧ Regular cfg (st'.view cfg) ∧
      Spared inputPoint (st.view cfg) (st'.view cfg) := by
  refine savedWalk_turns (fun s => s.WellFormed cfg ∧ Regular cfg (s.view cfg) ∧
    Spared inputPoint (st.view cfg) (s.view cfg)) ?_ ⟨hwell, hregular, .refl _⟩ hcall
  rintro s n a turn ⟨⟨ns, hlisted⟩, hregular, hspared⟩ hdata - hbody
  split at hbody
  · rename_i hmatch
    have ha := hlisted.mem.mpr ⟨n, hlisted.mem_of_data hdata, hdata⟩
    have hevent := shrunk_checkIoConnectionEvent hlisted (s.conn a) .closed
    obtain ⟨s₁, ns₁, hclose, hview, hdeparted⟩ :=
      connectionCloseFunction_departed hevent.listed (hevent.regular hregular) ha
    simp only [hclose] at hbody
    cases hbody
    rw [view_checkIoConnectionEvent] at hview
    refine ⟨⟨ns₁, hdeparted.listed⟩, hdeparted.regular (hevent.regular hregular), ?_⟩
    rw [Turn.state, hview]
    exact hspared.trans (.closed _ hmatch.2)
  · cases hbody
    exact ⟨⟨ns, hlisted⟩, hregular, hspared⟩

/-- An exclusive owner that handed nothing over leaves no listener. -/
theorem closeDependents_spared {r : ConnRef} (hwell : st.WellFormed cfg)
    (hregular : Regular cfg (st.view cfg))
    (howner : (st.conn r).instanceType = .ioExclusiveOwner)
    (hr : r ∈ st.connectionList cfg) (hstate : (st.conn r).state = .timedOut)
    (hcall : st.closeDependents cfg r false = .ok st') :
    Spared (st.conn r).producedPath.instanceId (st.view cfg) (st'.view cfg) ∧
      ∀ q ∈ st'.connectionList cfg,
        (st'.conn q).listens (st.conn r).producedPath.instanceId = false := by
  simp only [closeDependents, howner, and_self, if_true] at hcall
  split at hcall
  · cases hcall
  · rename_i st₁ hinputs
    obtain ⟨⟨ns₁, hlisted₁⟩, hregular₁, hspared⟩ :=
      closeAllConnections_spared hwell hregular hinputs
    obtain ⟨ns, hlisted⟩ := hwell
    obtain ⟨-, -, hself⟩ := closeAllConnections_departed hlisted hregular hr (by simp [hstate])
      (by simp [howner]) (by simp [howner]) hinputs
    rw [hself] at hcall
    obtain ⟨st₂, ns₂, hlisteners, hshrunk⟩ := closeListeners
      (st.conn r).producedPath.instanceId 1 hlisted₁ hregular₁.closable
    have heq : st₂ = st' := Except.ok.inj (hlisteners.symm.trans hcall)
    subst heq
    refine ⟨hspared.trans ?_, fun q hq => ?_⟩
    · rw [hshrunk.view_eq]
      refine .without _ fun q hq => .inr ?_
      simp only [View.ofInput, Bool.and_eq_true, decide_eq_true_eq] at hq
      exact hq.2
    · rw [← view_members, hshrunk.view_eq] at hq
      obtain ⟨hq, hkept⟩ := (View.mem_without _).mp hq
      rw [← view_object cfg st₂ q, hshrunk.view_eq, View.without_object, hkept]
      cases hlistens : (st₁.conn q).listens (st.conn r).producedPath.instanceId with
      | false => exact hlistens
      | true =>
          obtain ⟨htype, -, hinput⟩ := listens_iff.mp hlistens
          simp [View.ofInput, htype, hinput] at hkept
          exact absurd hq hkept

/-- The hand-over took place only from a multicast producer. -/
theorem isMulticastMaster_of_handover {r : ConnRef}
    (hcall : st.handOverTimedOut cfg r = .ok (true, st')) :
    isMulticastMaster (st.conn r) = true := by
  cases hmaster : isMulticastMaster (st.conn r) with
  | true => rfl
  | false => simp [handOverTimedOut, hmaster] at hcall

/-- Timing out marks the connection after its production was passed on, or closes
every listener of the input. -/
theorem handleIoConnectionTimeOut_attended (hsound : st.Sound cfg) {r : ConnRef}
    (hr : r ∈ st.connectionList cfg) (hio : r.isIo = true)
    (hestablished : (st.conn r).state = .established)
    (hspares : (st.conn r).instanceType ≠ .ioExclusiveOwner → (st.view cfg).spares r = true)
    (hattended : (st.view cfg).Attended)
    (hcall : st.handleIoConnectionTimeOut cfg env r = .ok st') : (st'.view cfg).Attended := by
  obtain ⟨ns, hlisted⟩ := hsound.wellFormed
  obtain ⟨dropped, st₁, ns₁, handover, st₂, ns₂, st₃, hstages, rfl⟩ :=
    handleIoConnectionTimeOut_stages hlisted hsound.regular hr hio hcall
  obtain ⟨hdeparted, hr₂, hstate₂⟩ := hstages.departed hsound.regular hio hestablished
  have hregular₂ := hdeparted.regular hsound.regular
  obtain ⟨-, -, hself₃⟩ := closeDependents_departed hstages.expired.listed hregular₂ hr₂
    (by simp [hstate₂]) hstages.closes
  have hsame : (st₃.modifyConn r fun c => c.setState .timedOut).view cfg = st₃.view cfg := by
    rw [view_modifyConn]
    refine View.modify_eq_self ?_
    rw [view_object, hself₃, CipConnectionObject.setState, ← hstate₂]
  rw [hsame]
  have hself₂ : (st₂.conn r).lasting = (st.conn r).lasting :=
    (Persists.departs hdeparted.departs).lasting r hr₂
  have htype : (st₂.conn r).instanceType = (st.conn r).instanceType :=
    lasting_field hself₂ (·.instanceType) fun _ => rfl
  have hinput : (st₂.conn r).producedPath = (st.conn r).producedPath :=
    lasting_field hself₂ (·.producedPath) fun _ => rfl
  by_cases howner : (st.conn r).instanceType = .ioExclusiveOwner ∧ handover = false
  · have hcloses := hstages.closes
    rw [howner.2] at hcloses
    obtain ⟨hspared, hnobody⟩ := closeDependents_spared ⟨ns₂, hstages.expired.listed⟩ hregular₂
      (htype.trans howner.1) hr₂ hstate₂ hcloses
    rw [hinput] at hspared hnobody
    have hbefore : Spared (st.conn r).producedPath.instanceId (st.view cfg) (st₂.view cfg) := by
      rw [hstages.expired.view_eq]
      have hdiscard : Spared (st.conn r).producedPath.instanceId (st.view cfg)
          ((st.view cfg).without dropped) :=
        .without _ fun q hq => .inl (hstages.explicit q hq).2
      refine hdiscard.trans (.expired (hsound.regular.without dropped) hstages.kept hio ?_)
      rw [hstages.object_eq]
    exact (hbefore.trans hspared).attended hsound.regular hattended hnobody
  · have hcloses := hstages.closes
    rw [closeDependents, htype, if_neg howner] at hcloses
    have heq := Except.ok.inj hcloses
    subst heq
    have hexplicit : ∀ s, dropped s = true → s.isIo = false :=
      fun s hs => (hstages.explicit s hs).2
    have hspares' : (st.view cfg).spares r = true := by
      by_cases htype' : (st.conn r).instanceType = .ioExclusiveOwner
      · have hover : handover = true := by
          cases handover with
          | true => rfl
          | false => exact absurd ⟨htype', rfl⟩ howner
        have hmaster := isMulticastMaster_of_handover (hover ▸ hstages.handsOver)
        rw [← view_object cfg st₁ r, hstages.marked.view_eq, View.modify_object_self,
          hstages.object_eq, View.isMulticastMaster_setState] at hmaster
        rw [View.spares, view_object, hmaster]
        rfl
      · exact hspares htype'
    rw [hstages.expired.view_eq]
    exact (hattended.without_explicit hsound.regular hexplicit).expired
      (hsound.regular.without dropped)
      (View.spares_without hsound.regular hexplicit (hstages.not_dropped hio) hspares')

/-- Closing or timing out the connection leaves no listener without a producer. -/
def departsAttended (cfg : Config) : Departure → Bool
  | .closed r st => (st.view cfg).spares r
  | .expired r st => (st.conn r).instanceType ≠ .ioInputOnly || (st.view cfg).spares r

/-- A request that gets a listen-only slot meets an established producer. -/
def opensAttended (cfg : Config) (label : Environment × Action) (st : StackState) : Bool :=
  match openEntry cfg label st with
  | none => true
  | some st =>
      st.dummy.configurationPath.classId ≠ assemblyClassCode ||
        (st.ioConnectionLookup cfg).1.slot.isNone ||
        (st.ioConnectionLookup cfg).2 ≠ .ioListenOnly ||
        (st.connectionList cfg).any fun r =>
          (st.conn r).attends st.dummy.producedPath.instanceId

/-- `CloseAllConnections` closes the listeners too. -/
def keepsAttendants (cfg : Config) (label : Environment × Action) (st : StackState) : Bool :=
  match label.2 with
  | .closeAllConnections => true
  | _ => (departures cfg label st).all (departsAttended cfg) && opensAttended cfg label st

theorem Silent.attended (h : Silent cfg st st') (hregular : Regular cfg (st.view cfg))
    (hregular' : Regular cfg (st'.view cfg)) (hattended : (st.view cfg).Attended) :
    (st'.view cfg).Attended :=
  hattended.of_profile hregular hregular' h.members
    (fun r hr hio => h.profile r (mem_ioConnections.mpr ⟨hr, hio⟩))
    fun r hr hio => h.socket r (mem_ioConnections.mpr ⟨hr, hio⟩)

theorem Episode.attended {s s' : StackState} (hsound : s.Sound cfg)
    (hdeparts : ∀ departure ∈ departures cfg label st, departsAttended cfg departure = true)
    (hattended : (s.view cfg).Attended) (h : Episode cfg label st s s') :
    s'.Sound cfg ∧ (s'.view cfg).Attended := by
  cases h with
  | silent sound silent =>
      exact ⟨sound, silent.attended hsound.regular sound.regular hattended⟩
  | @closes r sound departs io call =>
      rw [connectionCloseFunction_view hsound call]
      exact ⟨sound, hattended.closed hsound.regular (hdeparts _ departs)⟩
  | @expires r sound departs io member established call =>
      have hexpired := hdeparts _ departs
      simp only [departsAttended, Bool.or_eq_true, decide_eq_true_eq] at hexpired
      refine ⟨sound, handleIoConnectionTimeOut_attended hsound member io established ?_
        hattended call⟩
      intro hother
      obtain hlistener | hspares := hexpired
      · have hquiet : (s.conn r).attends (s.conn r).producedPath.instanceId = false := by
          simp [CipConnectionObject.attends, hother, hlistener]
        simp [View.spares, hquiet]
      · exact hspares

theorem Course.attended {s s' : StackState} (hsound : s.Sound cfg)
    (hdeparts : ∀ departure ∈ departures cfg label st, departsAttended cfg departure = true)
    (hattended : (s.view cfg).Attended) (h : Course cfg label st s s') :
    s'.Sound cfg ∧ (s'.view cfg).Attended := by
  induction h with
  | refl => exact ⟨hsound, hattended⟩
  | tail _ hlast ih => exact hlast.attended ih.1 hdeparts ih.2

/-- Vacating a listen-only slot takes no producer away. -/
theorem attends_vacated {V V' : View} (hregular : Regular cfg V) {r : ConnRef} {lookup : Lookup}
    (hvacated : Vacated V r lookup V') (hlistener : r.instanceType = .ioListenOnly)
    {p : ConnRef} (hp : p ∈ V.members) {inputPoint : UInt16}
    (hattends : (V.object p).attends inputPoint = true) :
    p ∈ V'.members ∧ (V'.object p).attends inputPoint = true := by
  have hpr : p ≠ r := by
    rintro rfl
    rw [CipConnectionObject.attends_iff, (hregular.kind p hp).instanceType, hlistener] at hattends
    simp at hattends
  have hcleared : p ∈ (V.without (· = r)).members ∧
      ((V.without (· = r)).object p).attends inputPoint = true := by
    refine ⟨V.mem_without.mpr ⟨hp, by simp [hpr]⟩, ?_⟩
    rw [View.without_object, if_neg (by simp [hpr])]
    exact hattends
  cases hvacated with
  | free unlisted => exact ⟨hp, hattends⟩
  | closed member =>
      have htype := (hregular.kind r member).instanceType
      rw [hlistener] at htype
      rw [View.closed, View.vacate_of_not_master
        (View.isMulticastMaster_of_type (by simp [htype]) (by simp [htype]))]
      exact hcleared
  | cleared unlisted => exact hcleared

theorem Opening.attended {s s' st₂ : StackState} {r : ConnRef} (hsound : st₂.Sound cfg)
    (hattended : (s.view cfg).Attended) (hopens : opensAttended cfg label st = true)
    (h : Opening cfg label st s s' st₂ r) : (s'.view cfg).Attended := by
  have hr : r ∉ (s.view cfg).members := h.vacated.not_mem
  have hadmitted := h.opens.admitted
  intro inputPoint q hq hlistens
  suffices hproducer : ∃ p ∈ (s.view cfg).members,
      ((s.view cfg).object p).attends inputPoint = true by
    obtain ⟨p, hp, hattends⟩ := hproducer
    exact h.opens.attends hr hp hattends
  rw [h.opens.members_eq] at hq
  obtain rfl | hq := List.mem_cons.mp hq
  · obtain ⟨htype, -, hinput⟩ := listens_iff.mp hlistens
    rw [hadmitted.kind.instanceType] at htype
    rw [hadmitted.input] at hinput
    have hslot := h.vacated.slot
    simp only [opensAttended, h.entry, h.assembly, h.instanceType, htype, hslot, hinput,
      ne_eq, not_true_eq_false, decide_false, Bool.false_or, Option.isNone_some,
      List.any_eq_true] at hopens
    obtain ⟨p, hp, hattends⟩ := hopens
    obtain ⟨hp', hattends'⟩ := attends_vacated hsound.regular h.vacated htype hp hattends
    exact ⟨p, hp', hattends'⟩
  · obtain ⟨hlasting, hstate⟩ := h.opens.others hr hq
    rw [listens_lasting hlasting hstate] at hlistens
    exact hattended inputPoint q hq hlistens

/-- The loop ends when there is no first connection. -/
theorem closeFirstConnections_first {fuel : Nat}
    (hcall : st.closeFirstConnections cfg fuel = .ok st') :
    st'.store.connectionList.first = none := by
  induction fuel generalizing st with
  | zero =>
      rw [closeFirstConnections] at hcall
      split at hcall
      · rename_i hfirst
        cases hcall
        exact hfirst
      · cases hcall
  | succ fuel ih =>
      rw [closeFirstConnections] at hcall
      split at hcall
      · rename_i hfirst
        cases hcall
        exact hfirst
      · simp only at hcall
        split at hcall
        · cases hcall
        · split at hcall
          · cases hcall
          · exact ih hcall

theorem connectionList_eq_nil (hwell : st.WellFormed cfg)
    (hfirst : st.store.connectionList.first = none) : st.connectionList cfg = [] := by
  obtain ⟨ns, hlisted⟩ := hwell
  have hhead := hlisted.links.first_eq
  rw [hfirst] at hhead
  have hempty : ns = [] := List.head?_eq_none_iff.mp hhead.symm
  refine hlisted.members_eq.trans ?_
  rw [hempty]
  rfl

theorem step_attended (hsound : st.Sound cfg) (hattended : (st.view cfg).Attended)
    (hkeeps : keepsAttendants cfg label st = true) (hstep : st.step cfg label = .ok st') :
    st'.Sound cfg ∧ (st'.view cfg).Attended := by
  obtain ⟨hsound', hproceeds⟩ := step_proceeds hsound hstep
  refine ⟨hsound', ?_⟩
  rw [keepsAttendants] at hkeeps
  split at hkeeps
  · rename_i haction
    obtain ⟨env, action⟩ := label
    cases haction
    have hempty := connectionList_eq_nil hsound'.wellFormed (closeFirstConnections_first hstep)
    intro inputPoint r hr
    rw [view_members, hempty] at hr
    cases hr
  · rw [Bool.and_eq_true] at hkeeps
    have hdeparts := List.all_eq_true.mp hkeeps.1
    cases hproceeds with
    | departing course => exact (course.attended hsound hdeparts hattended).2
    | opening course sound opening after =>
        have hopened := opening.attended (openEntry_sound hsound opening.entry).1
          (course.attended hsound hdeparts hattended).2 hkeeps.2
        exact after.attended (sound.regular.opens opening.vacated.not_mem opening.opens)
          hsound'.regular hopened

/-- Every listener has an exclusive owner or input-only connection that produces its
input and holds the socket. -/
theorem listeners_attended {assemblyData : UInt16 → List UInt8}
    (h : Runs.Reaches (step cfg) (fun label st => keepsAttendants cfg label st = true)
      (initialState cfg assemblyData) st) :
    ∀ r ∈ st.connectionList cfg, (st.conn r).instanceType = .ioListenOnly →
      (st.conn r).state = .established →
      ∃ p ∈ st.connectionList cfg,
        ((st.conn p).instanceType = .ioExclusiveOwner ∨
          (st.conn p).instanceType = .ioInputOnly) ∧
        (st.conn p).state = .established ∧
        (st.conn p).producedPath.instanceId = (st.conn r).producedPath.instanceId ∧
        ((st.conn p).tToOConnectionType = .multicast ∨
          (st.conn p).tToOConnectionType = .pointToPoint) ∧
        (st.conn p).producingSocket ≠ eipInvalidSocket := by
  have hinvariant := h.invariant (fun st => st.Sound cfg ∧ (st.view cfg).Attended) ?_
    fun label s s' hs hkeeps hstep => step_attended hs.1 hs.2 hkeeps hstep
  · intro r hr htype hstate
    obtain ⟨p, hp, hattends⟩ := hinvariant.2 _ r hr (listens_iff.mpr ⟨htype, hstate, rfl⟩)
    exact ⟨p, hp, attends_iff.mp hattends⟩
  · refine ⟨sound_initialState cfg assemblyData, fun inputPoint r hr => ?_⟩
    rw [view_members, connectionList_initialState] at hr
    cases hr

open SampleApplication in
/-- The owner of a listener is closed after an input-only connection joined. -/
theorem listeners_attended_sample :
    ∃ st, Runs.Reaches (step config) (fun label st => keepsAttendants config label st = true)
        (initialState config SampleApplication.assemblyData) st ∧
      (st.connectionList config = [.inputOnly 0 0, .listenOnly 0 0] ∧
        (st.conn (.listenOnly 0 0)).instanceType = .ioListenOnly ∧
        (st.conn (.listenOnly 0 0)).state = .established) ∧
      ∃ p ∈ st.connectionList config,
        ((st.conn p).instanceType = .ioExclusiveOwner ∨
          (st.conn p).instanceType = .ioInputOnly) ∧
        (st.conn p).state = .established ∧
        (st.conn p).producedPath.instanceId =
          (st.conn (.listenOnly 0 0)).producedPath.instanceId ∧
        ((st.conn p).tToOConnectionType = .multicast ∨
          (st.conn p).tToOConnectionType = .pointToPoint) ∧
        (st.conn p).producingSocket ≠ eipInvalidSocket := by
  obtain ⟨st, hreaches, hst⟩ := reaches_of_endsWithin config (keepsAttendants config)
    [request (exclusiveOwner 1 1 multicast), request (listenOnly 2 2 multicast),
      request (inputOnly 3 3 multicast), send 9 (SampleApplication.forwardClose 1 1)]
    (fun st => st.connectionList config = [.inputOnly 0 0, .listenOnly 0 0] ∧
      (st.conn (.listenOnly 0 0)).instanceType = .ioListenOnly ∧
      (st.conn (.listenOnly 0 0)).state = .established) (by decide +kernel)
  have hst := of_decide_eq_true hst
  refine ⟨st, hreaches, hst, listeners_attended hreaches _ ?_ hst.2.1 hst.2.2⟩
  rw [hst.1]
  simp

open SampleApplication in
/-- A point-to-point owner is closed and its listener stays. -/
theorem listener_abandoned_sample :
    ¬∀ st, Reachable config st → ∀ r ∈ st.connectionList config,
      (st.conn r).instanceType = .ioListenOnly → (st.conn r).state = .established →
      ∃ p ∈ st.connectionList config,
        ((st.conn p).instanceType = .ioExclusiveOwner ∨
          (st.conn p).instanceType = .ioInputOnly) ∧
        (st.conn p).state = .established ∧
        (st.conn p).producedPath.instanceId = (st.conn r).producedPath.instanceId := by
  intro hclaim
  obtain ⟨st, hreachable, hst⟩ := reachable_of_ends config
    [request (exclusiveOwner 1 1 pointToPoint), request (listenOnly 2 2 pointToPoint),
      send 9 (SampleApplication.forwardClose 1 1)]
    (fun st => st.connectionList config = [.listenOnly 0 0] ∧
      (st.conn (.listenOnly 0 0)).instanceType = .ioListenOnly ∧
      (st.conn (.listenOnly 0 0)).state = .established) (by decide +kernel)
  obtain ⟨hlist, htype, hstate⟩ := of_decide_eq_true hst
  have hlistener : ConnRef.listenOnly 0 0 ∈ st.connectionList config := by
    rw [hlist]
    simp
  obtain ⟨p, hp, hproducer, -⟩ := hclaim st hreachable _ hlistener htype hstate
  rw [hlist, List.mem_singleton] at hp
  subst hp
  simp [htype] at hproducer

end StackState

end Opener

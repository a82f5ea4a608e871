import Mathlib.Data.List.Chain
import Opener.Metatheory.Handover

/-!
The sequence numbers of a multicast connection id. The counter goes with the
producing socket when its holder leaves, and it does not when an exclusive owner
joins. While connections of the id are established, its packets are numbered
without a gap, as long as no exclusive owner joins a producer that has sent, and
ids of one input are not given to another connection.
-/

namespace Opener

open View (producesMulticast)
open CipConnectionObject (core_field profile_field)

namespace CipConnectionObject

/-- What an object keeps from its opening to its close. -/
def tag (c : CipConnectionObject) : CipConnectionObject :=
  { c.profile with state := .nonExistent }

theorem tag_of_profile {c d : CipConnectionObject} (h : d.profile = c.profile) :
    d.tag = c.tag := by
  rw [tag, h, tag]

end CipConnectionObject

/-- The connections of `V'` are connections of `V` that were not opened anew. -/
structure Kept (V V' : View) : Prop where
  members : V'.members ⊆ V.members
  tag : ∀ r ∈ V'.members, (V'.object r).tag = (V.object r).tag

namespace Kept

variable {V V' : View}

theorem refl (V : View) : Kept V V := ⟨fun _ h => h, fun _ _ => rfl⟩

theorem trans {V'' : View} (h : Kept V V') (h' : Kept V' V'') : Kept V V'' :=
  ⟨fun _ hr => h.members (h'.members hr),
    fun r hr => (h'.tag r hr).trans (h.tag r (h'.members hr))⟩

theorem field (h : Kept V V') {β : Type} (f : CipConnectionObject → β)
    (hf : ∀ c, f c.tag = f c) {r : ConnRef} (hr : r ∈ V'.members) :
    f (V'.object r) = f (V.object r) := by
  rw [← hf, h.tag r hr, hf]

theorem without (V : View) (dropped : ConnRef → Bool) : Kept V (V.without dropped) := by
  refine ⟨fun r hr => (V.mem_without.mp hr).1, fun r hr => ?_⟩
  rw [View.without_object, (V.mem_without.mp hr).2]
  rfl

theorem modify (V : View) {r : ConnRef} {f : CipConnectionObject → CipConnectionObject}
    (hf : (f (V.object r)).tag = (V.object r).tag) : Kept V (V.modify r f) := by
  refine ⟨fun s hs => hs, fun s _ => ?_⟩
  by_cases hs : s = r
  · rw [hs, View.modify_object_self, hf]
  · rw [V.modify_object_of_ne hs]

theorem vacate (V : View) (r : ConnRef) : Kept V (V.vacate r) :=
  ⟨fun _ hs => (vacates_vacate V r).member hs,
    fun _ hs => CipConnectionObject.tag_of_profile ((vacates_vacate V r).profile hs)⟩

theorem of_depart (h : Depart V V') : Kept V V' := by
  cases h with
  | discard dropped class3 => exact without V dropped
  | close member io => exact (vacate V _).trans (without _ _)
  | expire member io established => exact (vacate V _).trans (modify _ rfl)

theorem of_move (h : Move V V') : Kept V V' := by
  rcases h.depart_or_same with hdepart | ⟨hmembers, hfield⟩
  · exact of_depart hdepart
  · exact ⟨fun r hr => hmembers ▸ hr,
      fun r _ => hfield (·.tag) (fun _ => rfl) (fun _ => rfl) r⟩

theorem of_vacated {r : ConnRef} {lookup : Lookup} (h : Vacated V r lookup V') :
    Kept V V' := by
  cases h with
  | free unlisted => exact refl V
  | closed member => exact (vacate V r).trans (without _ _)
  | cleared unlisted => exact without V _

end Kept

def isMulticast (r : ConnRef) (c : CipConnectionObject) : Bool :=
  r.isIo && c.tToOConnectionType = .multicast

theorem Kind.isMulticast_of_sharesInput {cfg : Config} {r : ConnRef} {c : CipConnectionObject}
    (h : Kind cfg r c) {inputPoint : UInt16} (hshares : sharesInput inputPoint c = true) :
    isMulticast r c = true := by
  have hio := h.isIo_of_sharesInput hshares
  simp only [sharesInput, Bool.and_eq_true, decide_eq_true_eq] at hshares
  simp [isMulticast, hio, hshares.2]

theorem Kind.sharesInput_of_isMulticast {cfg : Config} {r : ConnRef} {c : CipConnectionObject}
    (h : Kind cfg r c) (hmulticast : isMulticast r c = true) :
    sharesInput c.producedPath.instanceId c = true := by
  simp only [isMulticast, Bool.and_eq_true, decide_eq_true_eq] at hmulticast
  simp [sharesInput, h.isTypeIOConnection_iff.mpr hmulticast.1, hmulticast.2]

/-- Two I/O connections: an id belongs to one multicast input or to no multicast
input, and multicast connections of one input have one transport class. -/
structure Compatible (r s : ConnRef) (c d : CipConnectionObject) : Prop where
  together : isMulticast r c = true → isMulticast s d = true →
    c.cipProducedConnectionId = d.cipProducedConnectionId →
    c.producedPath.instanceId = d.producedPath.instanceId
  apart : r.isIo = true → s.isIo = true → isMulticast r c ≠ isMulticast s d →
    c.cipProducedConnectionId ≠ d.cipProducedConnectionId
  alike : isMulticast r c = true → isMulticast s d = true →
    c.producedPath.instanceId = d.producedPath.instanceId →
    c.transportClass = d.transportClass

theorem Compatible.symm {r s : ConnRef} {c d : CipConnectionObject}
    (h : Compatible r s c d) : Compatible s r d c :=
  ⟨fun hd hc hid => (h.together hc hd hid.symm).symm,
    fun hs hr hne => (h.apart hr hs hne.symm).symm,
    fun hd hc hinput => (h.alike hc hd hinput.symm).symm⟩

theorem Compatible.refl (r : ConnRef) (c : CipConnectionObject) : Compatible r r c c :=
  ⟨fun _ _ _ => rfl, fun _ _ hne => absurd rfl hne, fun _ _ _ => rfl⟩

/-- Compatibility only depends on what connections keep. -/
theorem Compatible.congr {r s : ConnRef} {c c' d d' : CipConnectionObject}
    (h : Compatible r s c d) (hc : c'.tag = c.tag) (hd : d'.tag = d.tag) :
    Compatible r s c' d' := by
  have hfield : ∀ {β : Type} (f : CipConnectionObject → β), (∀ c, f c.tag = f c) →
      f c' = f c ∧ f d' = f d := by
    intro β f hf
    refine ⟨?_, ?_⟩
    · rw [← hf c', hc, hf]
    · rw [← hf d', hd, hf]
  obtain ⟨hidc, hidd⟩ := hfield (·.cipProducedConnectionId) fun _ => rfl
  obtain ⟨hinputc, hinputd⟩ := hfield (·.producedPath.instanceId) fun _ => rfl
  obtain ⟨hclassc, hclassd⟩ := hfield (·.transportClass) fun _ => rfl
  have hmulticastc := (hfield (isMulticast r) fun _ => rfl).1
  have hmulticastd := (hfield (isMulticast s) fun _ => rfl).2
  refine ⟨?_, ?_, ?_⟩
  · rw [hmulticastc, hmulticastd, hidc, hidd, hinputc, hinputd]
    exact h.together
  · rw [hmulticastc, hmulticastd, hidc, hidd]
    exact h.apart
  · rw [hmulticastc, hmulticastd, hinputc, hinputd, hclassc, hclassd]
    exact h.alike

def Labelled (V : View) : Prop :=
  ∀ r ∈ V.members, ∀ s ∈ V.members, Compatible r s (V.object r) (V.object s)

namespace Labelled

variable {V V' : View}

theorem kept (h : Labelled V) (hkept : Kept V V') : Labelled V' :=
  fun r hr s hs => (h r (hkept.members hr) s (hkept.members hs)).congr (hkept.tag r hr)
    (hkept.tag s hs)

theorem insert (h : Labelled V) {r : ConnRef} (hr : r ∉ V.members) {c : CipConnectionObject}
    (connectionId : UInt16)
    (hnew : ∀ s ∈ V.members, Compatible r s c (V.object s)) :
    Labelled (V.insert r c connectionId) := by
  have hobject : ∀ s ∈ V.members, (V.insert r c connectionId).object s = V.object s :=
    fun s hs => V.insert_object_of_ne (ne_of_mem_of_not_mem hs hr) c _
  intro s hs t ht
  rcases List.mem_cons.mp hs with hsr | hsmem
  · rcases List.mem_cons.mp ht with htr | htmem
    · rw [hsr, htr]
      exact .refl r _
    · rw [hsr, View.insert_object_self, hobject t htmem]
      exact hnew t htmem
  · rcases List.mem_cons.mp ht with htr | htmem
    · rw [htr, View.insert_object_self, hobject s hsmem]
      exact (hnew s hsmem).symm
    · rw [hobject s hsmem, hobject t htmem]
      exact h s hsmem t htmem

theorem scratch (h : Labelled V) {r : ConnRef} (hr : r ∉ V.members)
    (c : CipConnectionObject) (connectionId : UInt16) :
    Labelled (V.scratch r c connectionId) := by
  intro s hs t ht
  rw [V.scratch_object_of_ne (ne_of_mem_of_not_mem hs hr),
    V.scratch_object_of_ne (ne_of_mem_of_not_mem ht hr)]
  exact h s hs t ht

end Labelled

/-- An established multicast connection has the id of the producer. -/
def sourced : Service where
  needs := fun inputPoint c => sharesInput inputPoint c && c.state = .established
  serves := fun c d => d.cipProducedConnectionId = c.cipProducedConnectionId
  active := fun h => by simpa using h
  needs_profile := fun _ _ => rfl
  serves_profile := fun _ _ => rfl
  passes := by
    intro inputPoint c old heir htakes hserves hheir
    obtain ⟨hshares, hstate, -⟩ := of_canTakeOver htakes
    have hsame := hheir (by simp [hshares, hstate])
    rw [decide_eq_true_eq] at hserves hsame ⊢
    rw [← hserves, hsame]

/-- The multicast ids of the table, and who sends under them. -/
structure Numbered (V : View) : Prop where
  spoken : Spoken V
  served : Served sourced V
  labelled : Labelled V

theorem Numbered.move {cfg : Config} {V V' : View} (h : Numbered V) (hregular : Regular cfg V)
    (hmove : Move V V') : Numbered V' :=
  ⟨h.spoken.move hmove, h.served.move hregular h.spoken hmove, h.labelled.kept (.of_move hmove)⟩

theorem Numbered.vacated {cfg : Config} {V V' : View} (h : Numbered V)
    (hregular : Regular cfg V) {r : ConnRef} {lookup : Lookup}
    (hvacated : Vacated V r lookup V') : Numbered V' :=
  ⟨h.spoken.vacated hvacated, h.served.vacated hregular h.spoken hvacated,
    h.labelled.kept (.of_vacated hvacated)⟩

/-- An heir has the id of the master that it takes over from. -/
theorem Numbered.heir {V : View} (h : Numbered V) {r heir : ConnRef} (hr : r ∈ V.members)
    {inputPoint : UInt16} (hholds : producesMulticast inputPoint (V.object r) = true)
    (hheir : heir ∈ V.members) (htakes : View.canTakeOver inputPoint (V.object heir) = true) :
    (V.object r).cipProducedConnectionId = (V.object heir).cipProducedConnectionId := by
  obtain ⟨hshares, hstate, -⟩ := of_canTakeOver htakes
  obtain ⟨m, hm, hmholds, hserves⟩ :=
    h.served inputPoint heir hheir (by simp [sourced, hshares, hstate])
  rw [h.spoken.unique inputPoint m hm r hr hmholds hholds] at hserves
  exact of_decide_eq_true hserves

/-- An established multicast connection with the id is listed. -/
def View.carries (V : View) (connectionId : UInt32) : Bool :=
  V.members.any fun r => isMulticast r (V.object r) && (V.object r).state = .established &&
    (V.object r).cipProducedConnectionId = connectionId

/-- An open that keeps the numbering: an exclusive owner joins before the first
packet, or when nobody listens to the id; production starts under an unused id, with
a socket and by no listener; and a point-to-point connection asks for another id
than that of a multicast connection. -/
def numberedOpen (cfg : Config) (udpSocket : Int) (d : CipConnectionObject)
    (before V : View) (r : ConnRef) : Bool :=
  if d.tToOConnectionType = .multicast then
    match V.producer d.producedPath.instanceId with
    | some producer =>
        r.instanceType ≠ .ioExclusiveOwner ||
          (V.object producer).eipLevelSequenceCountProducing = 0 ||
          !before.carries (V.object producer).cipProducedConnectionId
    | none =>
        r.instanceType ≠ .ioListenOnly && udpSocket ≠ eipInvalidSocket &&
          before.members.all fun s => !s.isIo ||
            (before.object s).cipProducedConnectionId ≠ d.producedId cfg V.connectionId
  else
    before.members.all fun s => !isMulticast s (before.object s) ||
      (before.object s).cipProducedConnectionId ≠ d.cipProducedConnectionId

theorem transportClass_of_agrees {c d : CipConnectionObject}
    (h : producerMismatch c d = none)
    (hinput : c.producedPath.instanceId = d.producedPath.instanceId) :
    c.transportClass = d.transportClass := by
  by_contra hclass
  simp only [producerMismatch] at h
  split at h
  · rename_i hne
    exact hne hinput
  · repeat' (split at h; cases h)
    cases h

theorem Admitted.isMulticast {cfg : Config} {d c : CipConnectionObject} {r : ConnRef}
    (h : Admitted cfg d r c) (hmulticast : d.tToOConnectionType = .multicast) :
    isMulticast r c = r.isIo := by
  simp [Opener.isMulticast, h.tToO, hmulticast]

namespace Numbered

variable {cfg : Config} {V V' before : View} {d c : CipConnectionObject} {r : ConnRef}

theorem labelled_plain (h : Numbered V) (hbefore : Kept before V) (hr : r ∉ V.members)
    (hadmitted : Admitted cfg d r c) (hsingle : d.tToOConnectionType ≠ .multicast)
    (hid : c.cipProducedConnectionId = d.cipProducedConnectionId)
    {udpSocket : Int} (hopen : numberedOpen cfg udpSocket d before V r = true)
    (connectionId : UInt16) : Labelled (V.insert r c connectionId) := by
  have hplain : isMulticast r c = false := by
    simp [isMulticast, hadmitted.tToO, hsingle]
  simp only [numberedOpen, if_neg hsingle, List.all_eq_true, Bool.or_eq_true,
    Bool.not_eq_true', decide_eq_true_eq] at hopen
  refine h.labelled.insert hr connectionId fun s hs => ⟨?_, ?_, ?_⟩
  · intro hmulticast
    rw [hplain] at hmulticast
    cases hmulticast
  · intro _ _ hne
    rw [hplain] at hne
    have hmulticast : isMulticast s (V.object s) = true := by simpa using hne.symm
    rw [hbefore.field (isMulticast s) (fun _ => rfl) hs] at hmulticast
    rw [hid, hbefore.field (·.cipProducedConnectionId) (fun _ => rfl) hs]
    refine Ne.symm ((hopen s (hbefore.members hs)).resolve_left ?_)
    rw [hmulticast]
    decide
  · intro hmulticast
    rw [hplain] at hmulticast
    cases hmulticast

theorem labelled_first (h : Numbered V) (hbefore : Kept before V) (hr : r ∉ V.members)
    (hagrees : ∀ s ∈ V.members, producerMismatch c (V.object s) = none)
    (hfresh : ∀ s ∈ before.members, s.isIo = true →
      (before.object s).cipProducedConnectionId ≠ c.cipProducedConnectionId)
    (connectionId : UInt16) : Labelled (V.insert r c connectionId) := by
  have hnew : ∀ s ∈ V.members, s.isIo = true →
      c.cipProducedConnectionId ≠ (V.object s).cipProducedConnectionId := by
    intro s hs hio
    rw [hbefore.field (·.cipProducedConnectionId) (fun _ => rfl) hs]
    exact (hfresh s (hbefore.members hs) hio).symm
  refine h.labelled.insert hr connectionId fun s hs => ⟨?_, ?_, ?_⟩
  · intro _ hmulticast hid
    simp only [isMulticast, Bool.and_eq_true] at hmulticast
    exact absurd hid (hnew s hs hmulticast.1)
  · exact fun _ hio _ => hnew s hs hio
  · exact fun _ _ hinput => transportClass_of_agrees (hagrees s hs) hinput

/-- A connection that joins is labelled like the producer. -/
theorem labelled_join (h : Numbered V) (hregular : Regular cfg V) (hr : r ∉ V.members)
    (hadmitted : Admitted cfg d r c) (hmulticast : d.tToOConnectionType = .multicast)
    (hagrees : ∀ s ∈ V.members, producerMismatch c (V.object s) = none) {producer : ConnRef}
    (hmem : producer ∈ V.members)
    (hheld : producesMulticast d.producedPath.instanceId (V.object producer) = true)
    (hid : c.cipProducedConnectionId = (V.object producer).cipProducedConnectionId)
    {f : CipConnectionObject → CipConnectionObject}
    (hf : (f (V.object producer)).tag = (V.object producer).tag) (connectionId : UInt16) :
    Labelled ((V.modify producer f).insert r c connectionId) := by
  have hkept := Kept.modify V hf
  have hshares := (producesMulticast_iff.mp hheld).1
  have hproducer := (hregular.kind producer hmem).isMulticast_of_sharesInput hshares
  have hinput : c.producedPath.instanceId = (V.object producer).producedPath.instanceId :=
    hadmitted.input.trans (sharesInput_input hshares).symm
  refine (h.labelled.kept hkept).insert hr connectionId fun s hs => ?_
  have hlabels := h.labelled producer hmem s hs
  refine Compatible.congr ⟨?_, ?_, ?_⟩ rfl (hkept.tag s hs)
  · intro _ hs' hsame
    rw [hinput]
    exact hlabels.together hproducer hs' (hid.symm.trans hsame)
  · intro hio hsio hne
    rw [hid]
    refine hlabels.apart (hregular.isIo_of_holder hmem hheld) hsio ?_
    rw [hadmitted.isMulticast hmulticast, hio] at hne
    rw [hproducer]
    exact hne
  · exact fun _ _ hsame => transportClass_of_agrees (hagrees s hs) hsame

theorem opens (h : Numbered V) (hregular : Regular cfg V) (hbefore : Kept before V)
    (hr : r ∉ V.members) {udpSocket : Int} (hopens : Opens cfg d udpSocket V r V')
    (hopen : numberedOpen cfg udpSocket d before V r = true) : Numbered V' := by
  have hspoken : Spoken V' := by
    refine h.spoken.opens hr hopens fun hlistener hmulticast hnone => ?_
    simp [numberedOpen, hmulticast, hnone, hlistener] at hopen
  refine ⟨hspoken, ?_, ?_⟩
  · cases hopens with
    | plain admitted single identifier =>
        refine h.served.insert hr _ fun inputPoint hneeds => ?_
        have hshares := (sourced.active hneeds).1
        simp [sharesInput, admitted.tToO, single] at hshares
    | first admitted multicast agrees lonely identifier socket =>
        simp only [numberedOpen, if_pos multicast, lonely, Bool.and_eq_true,
          decide_eq_true_eq] at hopen
        refine h.served.insert hr _ fun inputPoint hneeds => .inl ⟨?_, decide_eq_true rfl⟩
        refine producesMulticast_iff.mpr ⟨(sourced.active hneeds).1, ?_⟩
        rw [socket]
        exact hopen.1.2
    | @join c producer admitted multicast agrees existing identifier socket =>
        have hmem := List.mem_of_find?_eq_some existing
        have hheld := List.find?_some existing
        by_cases howner : c.instanceType = .ioExclusiveOwner
        · rw [leftBehind_owner howner]
          refine h.served.insert_owner hr _ hheld
            (admitted.holds_of_owner multicast howner hheld socket) (decide_eq_true rfl) ?_
          intro s hs hneeds
          obtain ⟨m, hm, hholds, hserves⟩ := h.served _ s hs hneeds
          rw [h.spoken.unique _ m hm producer hmem hholds hheld] at hserves
          exact decide_eq_true (identifier.trans (of_decide_eq_true hserves))
        · rw [leftBehind_other howner, V.modify_id]
          refine h.served.insert hr _ fun inputPoint hneeds => .inr ⟨producer, hmem, ?_, ?_⟩
          · rw [← sharesInput_input (sourced.active hneeds).1, admitted.input]
            exact hheld
          · exact decide_eq_true identifier.symm
  · cases hopens with
    | plain admitted single identifier =>
        exact h.labelled_plain hbefore hr admitted single identifier hopen _
    | first admitted multicast agrees lonely identifier socket =>
        simp only [numberedOpen, if_pos multicast, lonely, Bool.and_eq_true,
          List.all_eq_true, Bool.or_eq_true, decide_eq_true_eq] at hopen
        refine h.labelled_first hbefore hr agrees (fun s hs hio => ?_) _
        rw [identifier]
        refine (hopen.2 s hs).resolve_left ?_
        rw [hio]
        decide
    | @join c producer admitted multicast agrees existing identifier socket =>
        have hheld := List.find?_some existing
        refine h.labelled_join hregular hr admitted multicast agrees
          (List.mem_of_find?_eq_some existing) hheld identifier ?_ _
        by_cases howner : c.instanceType = .ioExclusiveOwner
        · rw [leftBehind_owner howner]
          rfl
        · rw [leftBehind_other howner]
          rfl

end Numbered

/-- The sequence number of a packet of the connection id. -/
def Event.sequenceNumber (connectionId : UInt32) : Event → Option UInt32
  | .sent packet =>
      if packet.connectionIdentifier = connectionId then packet.sequenceNumber else none
  | _ => none

/-- The sequence numbers sent under the connection id, in order. -/
def sentNumbers (connectionId : UInt32) (events : List Event) : List UInt32 :=
  events.filterMap (Event.sequenceNumber connectionId)

theorem sentNumbers_append (connectionId : UInt32) (old new : List Event) :
    sentNumbers connectionId (old ++ new) =
      sentNumbers connectionId old ++ sentNumbers connectionId new :=
  List.filterMap_append

theorem sentNumbers_traced (connectionId : UInt32) (events : List Event) :
    sentNumbers connectionId (events.filter Event.isTraced) =
      sentNumbers connectionId events := by
  rw [sentNumbers, sentNumbers, List.filterMap_filter]
  congr 1
  funext event
  cases event <;> rfl

/-- The numbers of a period follow each other, only multicast connections use the
id, and the holder of the socket has the last number as its counter. -/
structure InPeriod (connectionId : UInt32) (numbers : List UInt32) (V : View) : Prop where
  chain : numbers.IsChain fun a b => b = a + 1
  alone : ∀ r ∈ V.members, r.isIo = true →
    (V.object r).cipProducedConnectionId = connectionId → isMulticast r (V.object r) = true
  counter : ∀ n ∈ numbers.getLast?, ∀ inputPoint, ∀ m ∈ V.members,
    producesMulticast inputPoint (V.object m) = true →
    (V.object m).cipProducedConnectionId = connectionId →
    (V.object m).eipLevelSequenceCountProducing = n ∧ (V.object m).transportClass ≠ .class0

namespace CipConnectionObject

/-- What the numbering of packets depends on. -/
def voice (c : CipConnectionObject) : CipConnectionObject :=
  { c.core with state := .nonExistent }

theorem voice_of_core {c d : CipConnectionObject} (h : d.core = c.core) :
    d.voice = c.voice := by
  rw [voice, h, voice]

end CipConnectionObject

namespace InPeriod

variable {cfg : Config} {V V' : View} {connectionId : UInt32} {numbers : List UInt32}

theorem of_voice (h : InPeriod connectionId numbers V) (hmembers : V'.members ⊆ V.members)
    (hvoice : ∀ r ∈ V'.members, (V'.object r).voice = (V.object r).voice) :
    InPeriod connectionId numbers V' := by
  have hfield : ∀ {r} {β : Type} (f : CipConnectionObject → β), r ∈ V'.members →
      (∀ c, f c.voice = f c) → f (V'.object r) = f (V.object r) := by
    intro r β f hr hf
    rw [← hf, hvoice r hr, hf]
  refine ⟨h.chain, ?_, ?_⟩
  · intro r hr hio hid
    rw [hfield (isMulticast r) hr fun _ => rfl]
    rw [hfield (·.cipProducedConnectionId) hr fun _ => rfl] at hid
    exact h.alone r (hmembers hr) hio hid
  · intro n hn inputPoint m hm hholds hid
    rw [hfield (producesMulticast inputPoint) hm fun _ => rfl] at hholds
    rw [hfield (·.cipProducedConnectionId) hm fun _ => rfl] at hid
    rw [hfield (·.eipLevelSequenceCountProducing) hm fun _ => rfl,
      hfield (·.transportClass) hm fun _ => rfl]
    exact h.counter n hn inputPoint m (hmembers hm) hholds hid

theorem without (h : InPeriod connectionId numbers V) (dropped : ConnRef → Bool) :
    InPeriod connectionId numbers (V.without dropped) := by
  refine h.of_voice (fun r hr => (V.mem_without.mp hr).1) fun r hr => ?_
  rw [View.without_object, (V.mem_without.mp hr).2]
  rfl

/-- The heir goes on where the old master stopped. -/
theorem vacates (h : InPeriod connectionId numbers V) (hregular : Regular cfg V)
    (hnumbered : Numbered V) {r : ConnRef} (hr : r ∈ V.members)
    (hvacates : Vacates V r V') : InPeriod connectionId numbers V' := by
  refine ⟨h.chain, ?_, ?_⟩
  · intro s hs hio hid
    rw [profile_field (hvacates.profile hs) (isMulticast s) fun _ => rfl]
    rw [profile_field (hvacates.profile hs) (·.cipProducedConnectionId) fun _ => rfl] at hid
    exact h.alone s (hvacates.member hs) hio hid
  · intro n hn inputPoint m hm hholds hid
    have hmem := hvacates.member hm
    rcases hvacates.holder hm hholds with ⟨hheld, hobject⟩ | ⟨hmaster, hinput, htakes, hobject⟩
    · rw [hobject] at hid ⊢
      exact h.counter n hn inputPoint m hmem hheld hid
    · have hold := producesMulticast_of_master hmaster
      rw [← hinput] at hold
      rw [hobject] at hid ⊢
      have hsame := hnumbered.heir hr hold hmem htakes
      obtain ⟨hcounter, hclass⟩ := h.counter n hn inputPoint r hr hold (hsame.trans hid)
      refine ⟨hcounter, ?_⟩
      have hheir := (of_canTakeOver htakes).1
      have hlike := (hnumbered.labelled m hmem r hr).alike
        ((hregular.kind m hmem).isMulticast_of_sharesInput hheir)
        ((hregular.kind r hr).isMulticast_of_sharesInput (producesMulticast_iff.mp hold).1)
        ((sharesInput_input hheir).trans hinput)
      exact fun hzero => hclass (hlike.symm.trans hzero)

theorem depart (h : InPeriod connectionId numbers V) (hregular : Regular cfg V)
    (hnumbered : Numbered V) (hdepart : Depart V V') : InPeriod connectionId numbers V' := by
  cases hdepart with
  | discard dropped class3 => exact h.without dropped
  | @close r member io =>
      exact (h.vacates hregular hnumbered member (vacates_vacate V r)).without _
  | @expire r member io established =>
      have hvacated := h.vacates hregular hnumbered member (vacates_vacate V r)
      refine hvacated.of_voice (fun s hs => hs) fun s _ => ?_
      by_cases hs : s = r
      · rw [hs, View.expired, View.modify_object_self]
        rfl
      · rw [View.expired, View.modify_object_of_ne _ hs]

theorem vacated (h : InPeriod connectionId numbers V) (hregular : Regular cfg V)
    (hnumbered : Numbered V) {r : ConnRef} {lookup : Lookup}
    (hvacated : Vacated V r lookup V') : InPeriod connectionId numbers V' := by
  cases hvacated with
  | free unlisted => exact h
  | closed member =>
      exact (h.vacates hregular hnumbered member (vacates_vacate V r)).without _
  | cleared unlisted => exact h.without _

theorem scratch (h : InPeriod connectionId numbers V) {r : ConnRef} (hr : r ∉ V.members)
    (c : CipConnectionObject) (nextId : UInt16) :
    InPeriod connectionId numbers (V.scratch r c nextId) := by
  refine h.of_voice (fun s hs => hs) fun s hs => ?_
  rw [V.scratch_object_of_ne (ne_of_mem_of_not_mem hs hr)]

theorem insert (h : InPeriod connectionId numbers V) {r : ConnRef} (hr : r ∉ V.members)
    {c : CipConnectionObject} (nextId : UInt16)
    (halone : r.isIo = true → c.cipProducedConnectionId = connectionId →
      isMulticast r c = true)
    (hcounter : ∀ n ∈ numbers.getLast?, ∀ inputPoint, producesMulticast inputPoint c = true →
      c.cipProducedConnectionId = connectionId →
      c.eipLevelSequenceCountProducing = n ∧ c.transportClass ≠ .class0) :
    InPeriod connectionId numbers (V.insert r c nextId) := by
  refine ⟨h.chain, ?_, ?_⟩
  · intro s hs hio hid
    rcases List.mem_cons.mp hs with hsr | hsmem
    · subst hsr
      rw [View.insert_object_self] at hid ⊢
      exact halone hio hid
    · rw [V.insert_object_of_ne (ne_of_mem_of_not_mem hsmem hr)] at hid ⊢
      exact h.alone s hsmem hio hid
  · intro n hn inputPoint m hm hholds hid
    rcases List.mem_cons.mp hm with hmr | hmmem
    · rw [hmr, View.insert_object_self] at hholds hid ⊢
      exact hcounter n hn inputPoint hholds hid
    · rw [V.insert_object_of_ne (ne_of_mem_of_not_mem hmmem hr)] at hholds hid ⊢
      exact h.counter n hn inputPoint m hmmem hholds hid

theorem retire (h : InPeriod connectionId numbers V) (producer : ConnRef) :
    InPeriod connectionId numbers (V.modify producer View.retire) := by
  refine ⟨h.chain, ?_, ?_⟩
  · intro s hs hio hid
    by_cases hsp : s = producer
    · subst hsp
      rw [View.modify_object_self] at hid ⊢
      exact h.alone s hs hio hid
    · rw [V.modify_object_of_ne hsp] at hid ⊢
      exact h.alone s hs hio hid
  · intro n hn inputPoint m hm hholds hid
    by_cases hmp : m = producer
    · rw [hmp, View.modify_object_self, UniqueHolder.not_retired] at hholds
      cases hholds
    · rw [V.modify_object_of_ne hmp] at hholds hid ⊢
      exact h.counter n hn inputPoint m hm hholds hid

theorem alone_kept (h : InPeriod connectionId numbers V) (hkept : Kept V V') :
    ∀ r ∈ V'.members, r.isIo = true →
      (V'.object r).cipProducedConnectionId = connectionId →
      isMulticast r (V'.object r) = true := by
  intro r hr hio hid
  rw [hkept.field (isMulticast r) (fun _ => rfl) hr]
  rw [hkept.field (·.cipProducedConnectionId) (fun _ => rfl) hr] at hid
  exact h.alone r (hkept.members hr) hio hid

/-- A packet of another id. -/
theorem send_other (h : InPeriod connectionId numbers V) {r : ConnRef}
    (hmembers : V'.members = V.members) (hkept : Kept V V')
    (hid : (V.object r).cipProducedConnectionId ≠ connectionId)
    (hothers : ∀ s, s ≠ r → (V'.object s).core = (V.object s).core) :
    InPeriod connectionId numbers V' := by
  refine ⟨h.chain, h.alone_kept hkept, ?_⟩
  intro n hn inputPoint m hm hholds hmid
  have hmr : m ≠ r := by
    rintro rfl
    rw [hkept.field (·.cipProducedConnectionId) (fun _ => rfl) hm] at hmid
    exact hid hmid
  have hcore := hothers m hmr
  rw [core_field hcore (producesMulticast inputPoint) fun _ => rfl] at hholds
  rw [core_field hcore (·.cipProducedConnectionId) fun _ => rfl] at hmid
  rw [core_field hcore (·.eipLevelSequenceCountProducing) fun _ => rfl,
    core_field hcore (·.transportClass) fun _ => rfl]
  exact h.counter n hn inputPoint m (hmembers ▸ hm) hholds hmid

/-- A packet of the id comes from the holder of the socket and takes the next
number. -/
theorem send_own (h : InPeriod connectionId numbers V) (hregular : Regular cfg V)
    (hnumbered : Numbered V) {r : ConnRef} (hr : r ∈ V.members)
    (hsocket : (V.object r).producingSocket ≠ eipInvalidSocket)
    (hid : (V.object r).cipProducedConnectionId = connectionId)
    (hmembers : V'.members = V.members) (hkept : Kept V V')
    (hsender : (V'.object r).core = (V.object r).countPacket.core)
    (hothers : ∀ s, s ≠ r → (V'.object s).core = (V.object s).core) :
    InPeriod connectionId (numbers ++ (nextSequenceNumber (V.object r)).toList) V' := by
  have hkind := hregular.kind r hr
  have hio : r.isIo = true := by
    cases hexplicit : r.isIo with
    | true => rfl
    | false => exact absurd (hkind.silent hexplicit).1 hsocket
  have hmulticast := h.alone r hr hio hid
  have hholds := producesMulticast_iff.mpr ⟨hkind.sharesInput_of_isMulticast hmulticast, hsocket⟩
  by_cases hclass : (V.object r).transportClass = .class0
  · have hnone : nextSequenceNumber (V.object r) = none := by
      simp [nextSequenceNumber, hclass]
    rw [hnone, Option.toList_none, List.append_nil]
    refine ⟨h.chain, h.alone_kept hkept, fun n hn => ?_⟩
    exact absurd hclass (h.counter n hn _ r hr hholds hid).2
  · have hsome : nextSequenceNumber (V.object r) =
        some ((V.object r).eipLevelSequenceCountProducing + 1) := by
      simp [nextSequenceNumber, hclass]
    rw [hsome, Option.toList_some]
    refine ⟨?_, h.alone_kept hkept, ?_⟩
    · refine h.chain.append (List.isChain_singleton _) fun n hn next hnext => ?_
      rw [List.head?_cons, Option.mem_def, Option.some.injEq] at hnext
      rw [← hnext, (h.counter n hn _ r hr hholds hid).1]
    · intro n hn inputPoint m hm hmholds hmid
      rw [List.getLast?_concat, Option.mem_def, Option.some.injEq] at hn
      -- the only holder with the id is the sender
      have hmr : m = r := by
        by_contra hne
        have hcore := hothers m hne
        rw [core_field hcore (producesMulticast inputPoint) fun _ => rfl] at hmholds
        rw [core_field hcore (·.cipProducedConnectionId) fun _ => rfl] at hmid
        have hmmem : m ∈ V.members := hmembers ▸ hm
        have hmshares := (producesMulticast_iff.mp hmholds).1
        have hinput := (hnumbered.labelled m hmmem r hr).together
          ((hregular.kind m hmmem).isMulticast_of_sharesInput hmshares) hmulticast
          (hmid.trans hid.symm)
        rw [← hinput, sharesInput_input hmshares] at hholds
        exact hne (hnumbered.spoken.unique inputPoint m hmmem r hr hmholds hholds)
      rw [hmr, core_field hsender (·.eipLevelSequenceCountProducing) fun _ => rfl,
        core_field hsender (·.transportClass) fun _ => rfl]
      exact ⟨hn, hclass⟩

end InPeriod

/-- The numbers sent under the id since `old` are those of a period. -/
def Counted (connectionId : UInt32) (old : List UInt32) (V : View) : Prop :=
  ∃ numbers, sentNumbers connectionId V.trace = old ++ numbers ∧
    InPeriod connectionId numbers V

theorem View.vacate_trace (V : View) (r : ConnRef) : (V.vacate r).trace = V.trace := by
  have hvacates := vacates_vacate V r
  generalize V.vacate r = V' at hvacates ⊢
  cases hvacates with
  | quiet silent => rfl
  | passed master member differs takes => rfl
  | silenced master nobody => rfl

theorem Depart.trace_eq {V V' : View} (h : Depart V V') : V'.trace = V.trace := by
  cases h with
  | discard dropped class3 => rfl
  | close member io => exact V.vacate_trace _
  | expire member io established => exact V.vacate_trace _

theorem Vacated.trace_eq {V V' : View} {r : ConnRef} {lookup : Lookup}
    (h : Vacated V r lookup V') : V'.trace = V.trace := by
  cases h with
  | free unlisted => rfl
  | closed member => exact V.vacate_trace r
  | cleared unlisted => rfl

namespace Counted

variable {cfg : Config} {V V' before : View} {connectionId : UInt32} {old : List UInt32}
  {d : CipConnectionObject} {r : ConnRef}

theorem move (h : Counted connectionId old V) (hregular : Regular cfg V)
    (hnumbered : Numbered V) (hmove : Move V V') : Counted connectionId old V' := by
  obtain ⟨numbers, hsent, hperiod⟩ := h
  have hkept := Kept.of_move hmove
  cases hmove with
  | touch members trace nextId object =>
      refine ⟨numbers, trace ▸ hsent, hperiod.of_voice (fun r hr => members ▸ hr) fun r _ => ?_⟩
      exact CipConnectionObject.voice_of_core (object r)
  | @send r packet member established producing identifier number members trace nextId
      sender others =>
      have happend : sentNumbers connectionId V'.trace = old ++ (numbers ++
          (Event.sequenceNumber connectionId (.sent packet)).toList) := by
        rw [trace, sentNumbers_append, hsent, List.append_assoc]
        congr 2
      refine ⟨_, happend, ?_⟩
      rw [Event.sequenceNumber]
      by_cases hid : (V.object r).cipProducedConnectionId = connectionId
      · rw [if_pos (identifier.trans hid), number]
        exact hperiod.send_own hregular hnumbered member producing hid members hkept sender
          others
      · rw [if_neg (identifier ▸ hid), Option.toList_none, List.append_nil]
        exact hperiod.send_other members hkept hid others
  | depart departure =>
      exact ⟨numbers, departure.trace_eq ▸ hsent, hperiod.depart hregular hnumbered departure⟩

theorem scratch (h : Counted connectionId old V) (hr : r ∉ V.members)
    (c : CipConnectionObject) (nextId : UInt16) :
    Counted connectionId old (V.scratch r c nextId) := by
  obtain ⟨numbers, hsent, hperiod⟩ := h
  refine ⟨numbers, ?_, hperiod.scratch hr c nextId⟩
  change sentNumbers connectionId (V.trace ++ [.copied r false]) = _
  rw [sentNumbers_append, hsent]
  exact List.append_nil _

theorem vacated (h : Counted connectionId old V) (hregular : Regular cfg V)
    (hnumbered : Numbered V) {lookup : Lookup} (hvacated : Vacated V r lookup V') :
    Counted connectionId old V' := by
  obtain ⟨numbers, hsent, hperiod⟩ := h
  exact ⟨numbers, hvacated.trace_eq ▸ hsent, hperiod.vacated hregular hnumbered hvacated⟩

theorem insert (h : Counted connectionId old V) {c : CipConnectionObject} (nextId : UInt16)
    (hinsert : ∀ numbers, InPeriod connectionId numbers V →
      InPeriod connectionId numbers (V'.insert r c nextId))
    (htrace : V'.trace = V.trace) : Counted connectionId old (V'.insert r c nextId) := by
  obtain ⟨numbers, hsent, hperiod⟩ := h
  refine ⟨numbers, ?_, hinsert numbers hperiod⟩
  change sentNumbers connectionId (V'.trace ++ [.copied r false]) = _
  rw [sentNumbers_append, htrace, hsent]
  exact List.append_nil _

theorem plain (h : Counted connectionId old V) (hcarries : before.carries connectionId = true)
    (hr : r ∉ V.members) {c : CipConnectionObject} (hadmitted : Admitted cfg d r c)
    (hsingle : d.tToOConnectionType ≠ .multicast)
    (hid : c.cipProducedConnectionId = d.cipProducedConnectionId) {udpSocket : Int}
    (hopen : numberedOpen cfg udpSocket d before V r = true) (nextId : UInt16) :
    Counted connectionId old (V.insert r c nextId) := by
  refine h.insert nextId (fun numbers hperiod => hperiod.insert hr nextId ?_ ?_) rfl
  · intro _ hsame
    simp only [View.carries, List.any_eq_true, Bool.and_eq_true, decide_eq_true_eq] at hcarries
    obtain ⟨s, hs, ⟨hmulticast, -⟩, hsid⟩ := hcarries
    simp only [numberedOpen, if_neg hsingle, List.all_eq_true, Bool.or_eq_true,
      Bool.not_eq_true', decide_eq_true_eq] at hopen
    have hother := (hopen s hs).resolve_left (by rw [hmulticast]; decide)
    exact absurd (hsid.trans (hsame.symm.trans hid)) hother
  · intro n _ inputPoint hholds
    rw [UniqueHolder.not_holds_of_single (hadmitted.tToO ▸ hsingle)] at hholds
    cases hholds

theorem first (h : Counted connectionId old V) (hcarries : before.carries connectionId = true)
    (hr : r ∉ V.members) {c : CipConnectionObject}
    (hmulticast : d.tToOConnectionType = .multicast)
    (hlonely : V.producer d.producedPath.instanceId = none)
    (hid : c.cipProducedConnectionId = d.producedId cfg V.connectionId) {udpSocket : Int}
    (hopen : numberedOpen cfg udpSocket d before V r = true) (nextId : UInt16) :
    Counted connectionId old (V.insert r c nextId) := by
  have hother : c.cipProducedConnectionId ≠ connectionId := by
    simp only [View.carries, List.any_eq_true, Bool.and_eq_true, decide_eq_true_eq] at hcarries
    obtain ⟨s, hs, ⟨hshares, -⟩, hsid⟩ := hcarries
    simp only [isMulticast, Bool.and_eq_true] at hshares
    simp only [numberedOpen, if_pos hmulticast, hlonely, Bool.and_eq_true, List.all_eq_true,
      Bool.or_eq_true, decide_eq_true_eq] at hopen
    have hfresh := (hopen.2 s hs).resolve_left (by rw [hshares.1]; decide)
    intro hsame
    exact hfresh (hsid.trans (hsame.symm.trans hid))
  refine h.insert nextId (fun numbers hperiod => hperiod.insert hr nextId ?_ ?_) rfl
  · exact fun _ hsame => absurd hsame hother
  · exact fun _ _ _ _ hsame => absurd hsame hother

/-- An exclusive owner starts to count at zero, as the producer did. -/
theorem owner (h : Counted connectionId old V) (hcarries : before.carries connectionId = true)
    (hr : r ∉ V.members) {c : CipConnectionObject} (hadmitted : Admitted cfg d r c)
    (hmulticast : d.tToOConnectionType = .multicast)
    (hagrees : ∀ s ∈ V.members, producerMismatch c (V.object s) = none) {producer : ConnRef}
    (hexisting : V.producer d.producedPath.instanceId = some producer)
    (hid : c.cipProducedConnectionId = (V.object producer).cipProducedConnectionId)
    (howner : c.instanceType = .ioExclusiveOwner) {udpSocket : Int}
    (hopen : numberedOpen cfg udpSocket d before V r = true) (nextId : UInt16) :
    Counted connectionId old ((V.modify producer View.retire).insert r c nextId) := by
  have hmem := List.mem_of_find?_eq_some hexisting
  have hheld := List.find?_some hexisting
  refine h.insert nextId (fun numbers hperiod => (hperiod.retire producer).insert hr nextId
    ?_ ?_) rfl
  · intro hio _
    rw [hadmitted.isMulticast hmulticast, hio]
  · intro n hn inputPoint _ hsame
    obtain ⟨hcounter, hclass⟩ := hperiod.counter n hn _ producer hmem hheld (hid ▸ hsame)
    have htype : r.instanceType = .ioExclusiveOwner :=
      hadmitted.kind.instanceType.symm.trans howner
    simp only [numberedOpen, if_pos hmulticast, hexisting, htype, ← hid, hsame, hcarries,
      Bool.or_eq_true, decide_eq_true_eq] at hopen
    have hunsent : (V.object producer).eipLevelSequenceCountProducing = 0 := by
      simpa using hopen
    refine ⟨?_, ?_⟩
    · rw [hadmitted.unsent, ← hcounter, hunsent]
    · have hinput : c.producedPath.instanceId = (V.object producer).producedPath.instanceId :=
        hadmitted.input.trans (sharesInput_input (producesMulticast_iff.mp hheld).1).symm
      rw [transportClass_of_agrees (hagrees producer hmem) hinput]
      exact hclass

theorem opens (h : Counted connectionId old V) (hcarries : before.carries connectionId = true)
    (hr : r ∉ V.members) {udpSocket : Int} (hopens : Opens cfg d udpSocket V r V')
    (hopen : numberedOpen cfg udpSocket d before V r = true) : Counted connectionId old V' := by
  cases hopens with
  | plain admitted single identifier =>
      exact h.plain hcarries hr admitted single identifier hopen _
  | first admitted multicast agrees lonely identifier socket =>
      exact h.first hcarries hr multicast lonely identifier hopen _
  | @join c producer admitted multicast agrees existing identifier socket =>
      by_cases howner : c.instanceType = .ioExclusiveOwner
      · rw [leftBehind_owner howner]
        exact h.owner hcarries hr admitted multicast agrees existing identifier howner hopen _
      · rw [leftBehind_other howner, V.modify_id]
        refine h.insert _ (fun numbers hperiod => hperiod.insert hr _ ?_ ?_) rfl
        · intro hio _
          rw [admitted.isMulticast multicast, hio]
        · intro n _ inputPoint hholds
          have hsocket := (producesMulticast_iff.mp hholds).2
          rw [socket, if_neg (admitted.kind.instanceType ▸ howner)] at hsocket
          exact absurd rfl hsocket

end Counted

namespace StackState

variable {cfg : Config} {st st₁ : StackState} {label : Environment × Action}

/-- A step that keeps the numbering of multicast packets. -/
def keepsNumbering (cfg : Config) (label : Environment × Action) (st : StackState) : Bool :=
  match openEntry cfg label st with
  | none => true
  | some st =>
      let lookup := (st.ioConnectionLookup cfg).1
      match lookup.slot with
      | none => true
      | some r =>
          !(decide (st.dummy.configurationPath.classId = assemblyClassCode)) ||
          numberedOpen cfg label.1.udpSocket st.dummy (st.view cfg)
            ((st.view cfg).afterLookup lookup) r

theorem numberedOpen_of_keepsNumbering (h : keepsNumbering cfg label st = true)
    (hentry : openEntry cfg label st = some st₁)
    (hassembly : st₁.dummy.configurationPath.classId = assemblyClassCode) {r : ConnRef}
    {V : View} (hvacated : Vacated (st₁.view cfg) r (st₁.ioConnectionLookup cfg).1 V) :
    numberedOpen cfg label.1.udpSocket st₁.dummy (st₁.view cfg) V r = true := by
  simp only [keepsNumbering, hentry, hvacated.slot, hassembly, ← hvacated.eq_afterLookup] at h
  exact h

theorem numbered_answered {status : OpenStatus} {V : View}
    (hkeeps : keepsNumbering cfg label st = true) (hentry : openEntry cfg label st = some st₁)
    (hregular : Regular cfg (st₁.view cfg)) (h : Answered cfg label.1 st₁ status V)
    (hnumbered : Numbered (st₁.view cfg)) : Numbered V := by
  have hunique := uniqueHolder_answered h hnumbered.spoken.unique
  cases h with
  | unchanged => exact hnumbered
  | io assembly established =>
      cases established with
      | nothing failed lookup => exact hnumbered
      | refused failed chosen finds instanceType vacated idle =>
          obtain ⟨hspoken, hserved, hlabelled⟩ := hnumbered.vacated hregular vacated
          exact ⟨hspoken.scratch vacated.not_mem _ _, hserved.scratch vacated.not_mem _ _,
            hlabelled.scratch vacated.not_mem _ _⟩
      | opened chosen finds instanceType vacated opens =>
          exact (hnumbered.vacated hregular vacated).opens (vacated.regular hregular)
            (.of_vacated vacated) vacated.not_mem opens
            (numberedOpen_of_keepsNumbering hkeeps hentry assembly vacated)
  | @class3 r c unlisted explicit kind established =>
      have hsilent : ∀ inputPoint, sharesInput inputPoint c = true → False := by
        intro inputPoint hshares
        rw [kind.isIo_of_sharesInput hshares] at explicit
        cases explicit
      have hplain : isMulticast r c = true → False := by
        intro hmulticast
        simp [isMulticast, explicit] at hmulticast
      refine ⟨⟨hunique, ?_⟩, ?_, ?_⟩
      · refine hnumbered.spoken.speaks_insert unlisted _ fun inputPoint hholds => ?_
        exact (hsilent inputPoint (producesMulticast_iff.mp hholds).1).elim
      · refine hnumbered.served.insert unlisted _ fun inputPoint hneeds => ?_
        exact (hsilent inputPoint (sourced.active hneeds).1).elim
      · refine hnumbered.labelled.insert unlisted _ fun s _ => ⟨?_, ?_, ?_⟩
        · exact fun hmulticast => (hplain hmulticast).elim
        · intro hio
          rw [explicit] at hio
          cases hio
        · exact fun hmulticast => (hplain hmulticast).elim

theorem counted_answered {status : OpenStatus} {V : View} {connectionId : UInt32}
    {old : List UInt32} (hkeeps : keepsNumbering cfg label st = true)
    (hcarries : (st₁.view cfg).carries connectionId = true)
    (hentry : openEntry cfg label st = some st₁) (hregular : Regular cfg (st₁.view cfg))
    (hnumbered : Numbered (st₁.view cfg)) (h : Answered cfg label.1 st₁ status V)
    (hcounted : Counted connectionId old (st₁.view cfg)) : Counted connectionId old V := by
  cases h with
  | unchanged => exact hcounted
  | io assembly established =>
      cases established with
      | nothing failed lookup => exact hcounted
      | refused failed chosen finds instanceType vacated idle =>
          exact (hcounted.vacated hregular hnumbered vacated).scratch vacated.not_mem _ _
      | opened chosen finds instanceType vacated opens =>
          exact (hcounted.vacated hregular hnumbered vacated).opens hcarries vacated.not_mem
            opens (numberedOpen_of_keepsNumbering hkeeps hentry assembly vacated)
  | @class3 r c unlisted explicit kind established =>
      refine hcounted.insert _ (fun numbers hperiod => hperiod.insert unlisted _ ?_ ?_) rfl
      · intro hio
        rw [explicit] at hio
        cases hio
      · intro n _ inputPoint hholds
        exact absurd (kind.silent explicit).1 (producesMulticast_iff.mp hholds).2

theorem numbered_of_reaches {assemblyData : UInt16 → List UInt8}
    (h : Runs.Reaches (step cfg) (fun label st => keepsNumbering cfg label st = true)
      (initialState cfg assemblyData) st) : st.Sound cfg ∧ Numbered (st.view cfg) := by
  have hempty : ∀ r, r ∉ ((initialState cfg assemblyData).view cfg).members := by
    intro r hr
    rw [view_members, connectionList_initialState cfg assemblyData] at hr
    cases hr
  have hstart : Numbered ((initialState cfg assemblyData).view cfg) :=
    ⟨⟨fun _ r hr => absurd hr (hempty r), fun _ r hr => absurd hr (hempty r)⟩,
      fun _ r hr => absurd hr (hempty r), fun r hr => absurd hr (hempty r)⟩
  refine view_invariant Numbered ?_ ?_ (sound_initialState cfg assemblyData) hstart h
  · exact fun V V' hregular hmove hV => hV.move hregular hmove
  · exact fun label st st₁ status V hkeeps _ hentry hsound _ hanswered hV =>
      numbered_answered hkeeps hentry hsound.regular hanswered hV

/-- Before an open function is called no connection comes or goes. -/
theorem carries_openEntry (hsound : st.Sound cfg) (hentry : openEntry cfg label st = some st₁)
    {connectionId : UInt32} (h : (st.view cfg).carries connectionId = true) :
    (st₁.view cfg).carries connectionId = true := by
  obtain ⟨-, -, -, hmembers, hcore⟩ := openEntry_sound hsound hentry
  simp only [View.carries, List.any_eq_true] at h ⊢
  obtain ⟨r, hr, hcarries⟩ := h
  refine ⟨r, hmembers ▸ hr, ?_⟩
  rw [core_field (hcore r) (isMulticast r) fun _ => rfl,
    core_field (hcore r) (·.state) fun _ => rfl,
    core_field (hcore r) (·.cipProducedConnectionId) fun _ => rfl]
  exact hcarries

/-- At the start of a period nothing has been counted. -/
theorem inPeriod_start (hnumbered : Numbered (st.view cfg)) {connectionId : UInt32}
    (hcarries : (st.view cfg).carries connectionId = true) :
    InPeriod connectionId [] (st.view cfg) := by
  refine ⟨.nil, fun r hr hio hid => ?_, fun n hn => by cases hn⟩
  simp only [View.carries, List.any_eq_true, Bool.and_eq_true, decide_eq_true_eq] at hcarries
  obtain ⟨s, hs, ⟨hmulticast, -⟩, hsid⟩ := hcarries
  have hsio := hmulticast
  simp only [isMulticast, Bool.and_eq_true] at hsio
  by_contra hplain
  refine (hnumbered.labelled r hr s hs).apart hio hsio.1 ?_ (hid.trans hsid.symm)
  rw [hmulticast]
  exact hplain

/-- While an established multicast connection carries the id, the packets of the id
are numbered one by one, in a run of steps that keep the numbering. -/
theorem multicast_numbers_consecutive {assemblyData : UInt16 → List UInt8}
    {start : StackState} {connectionId : UInt32}
    (hstart : Runs.Reaches (step cfg) (fun label st => keepsNumbering cfg label st = true)
      (initialState cfg assemblyData) start)
    (hcarries : (start.view cfg).carries connectionId = true)
    (hrun : Runs.Reaches (step cfg) (fun label st => keepsNumbering cfg label st = true ∧
      (st.view cfg).carries connectionId = true) start st) :
    ∃ numbers, sentNumbers connectionId st.events =
        sentNumbers connectionId start.events ++ numbers ∧
      numbers.IsChain fun a b => b = a + 1 := by
  obtain ⟨hsound, hnumbered⟩ := numbered_of_reaches hstart
  have hcounted : Counted connectionId (sentNumbers connectionId start.events)
      (start.view cfg) := by
    refine ⟨[], ?_, inPeriod_start hnumbered hcarries⟩
    rw [List.append_nil]
    exact sentNumbers_traced connectionId start.events
  obtain ⟨-, -, numbers, hsent, hperiod⟩ := view_invariant
    (fun V => Numbered V ∧ Counted connectionId (sentNumbers connectionId start.events) V)
    (fun V V' hregular hmove hV =>
      ⟨hV.1.move hregular hmove, hV.2.move hregular hV.1 hmove⟩)
    (fun label st st₁ status V hallowed hsound hentry hsound₁ _ hanswered hV =>
      ⟨numbered_answered hallowed.1 hentry hsound₁.regular hanswered hV.1,
        counted_answered hallowed.1 (carries_openEntry hsound hentry hallowed.2) hentry
          hsound₁.regular hV.1 hanswered hV.2⟩)
    hsound ⟨hnumbered, hcounted⟩ hrun
  refine ⟨numbers, ?_, hperiod.chain⟩
  rw [← sentNumbers_traced connectionId st.events]
  exact hsent

open SampleApplication in
/-- The producer is closed between its second packet and the third, which the other
input-only connection sends. -/
theorem multicast_numbers_consecutive_sample :
    ∃ start st, Runs.Reaches (step config)
        (fun label st => keepsNumbering config label st = true)
        (initialState config SampleApplication.assemblyData) start ∧
      (start.view config).carries 305397780 = true ∧
      Runs.Reaches (step config) (fun label st => keepsNumbering config label st = true ∧
        (st.view config).carries 305397780 = true) start st ∧
      sentNumbers 305397780 st.events = sentNumbers 305397780 start.events ++ [1, 2, 3] ∧
      ∃ numbers, sentNumbers 305397780 st.events =
          sentNumbers 305397780 start.events ++ numbers ∧
        numbers.IsChain fun a b => b = a + 1 := by
  obtain ⟨start, st, hstart, hrun, hst⟩ := reaches_of_continues config (keepsNumbering config)
    (fun label st => keepsNumbering config label st && (st.view config).carries 305397780)
    [request (inputOnly 1 1 multicast)]
    [tick 100, request (inputOnly 2 2 multicast), tick 100,
      send 3 (SampleApplication.forwardClose 1 1), tick 100]
    (fun start st => (start.view config).carries 305397780 &&
      sentNumbers 305397780 st.events = sentNumbers 305397780 start.events ++ [1, 2, 3])
    (by decide +kernel)
  simp only [Bool.and_eq_true, decide_eq_true_eq] at hrun hst
  exact ⟨start, st, hstart, hst.1, hrun, hst.2,
    multicast_numbers_consecutive hstart hst.1 hrun⟩

open SampleApplication in
/-- An exclusive owner joins a producer that has sent two packets and starts again
at one. -/
theorem multicast_numbers_jump_sample :
    ∃ start st, Reachable config start ∧ (start.view config).carries 305397780 = true ∧
      Runs.Reaches (step config) (fun _ st => (st.view config).carries 305397780 = true)
        start st ∧
      (st.view config).carries 305397780 = true ∧
      ¬∃ numbers, sentNumbers 305397780 st.events =
          sentNumbers 305397780 start.events ++ numbers ∧
        numbers.IsChain fun a b => b = a + 1 := by
  obtain ⟨start, st, hstart, hrun, hst⟩ := reaches_of_continues config (fun _ _ => true)
    (fun _ st => (st.view config).carries 305397780)
    [request (inputOnly 1 1 multicast)]
    [tick 100, tick 100, request (exclusiveOwner 2 2 multicast), tick 100]
    (fun start st => (start.view config).carries 305397780 &&
      (st.view config).carries 305397780 &&
      sentNumbers 305397780 st.events = sentNumbers 305397780 start.events ++ [1, 2, 1])
    (by decide +kernel)
  simp only [Bool.and_eq_true, decide_eq_true_eq] at hst
  refine ⟨start, st, ⟨_, hstart.mono fun _ _ _ => trivial⟩, hst.1.1, hrun, hst.1.2, ?_⟩
  rintro ⟨numbers, hsent, hchain⟩
  rw [hst.2, List.append_cancel_left_eq] at hsent
  rw [← hsent] at hchain
  simp at hchain

end StackState

end Opener

import Mathlib.Logic.Relation
import Opener.Core.Production
import Opener.Metatheory.Closing

/-!
The moves of the connection table between two Forward Opens: bookkeeping that
changes no identifying field, sending a packet, discarding class 3 connections,
closing an I/O connection and timing one out. `Regular` is what every listed and
every unlisted object satisfies, and each move preserves it.
-/

namespace Opener

namespace CipConnectionObject

/-- The object without its timers, its consumption counters and its last reply. -/
def core (c : CipConnectionObject) : CipConnectionObject :=
  { c with
    inactivityWatchdogTimer := 0
    lastPackageWatchdogTimer := 0
    transmissionTriggerTimer := 0
    productionInhibitTimer := 0
    sequenceCountProducing := 0
    sequenceCountConsuming := 0
    eipLevelSequenceCountConsuming := 0
    eipFirstLevelSequenceCountReceived := false
    lastReplySent := [] }

/-- The assembly instances of both directions. -/
def instances (c : CipConnectionObject) : Option UInt16 × Option UInt16 :=
  (c.consumingInstance, c.producingInstance)

/-- What does not read the cleared fields agrees on objects of the same core. -/
theorem core_field {β : Type} {c d : CipConnectionObject} (hcore : d.core = c.core)
    (f : CipConnectionObject → β) (hf : ∀ c, f c.core = f c) : f d = f c := by
  rw [← hf d, hcore, hf c]

end CipConnectionObject

namespace ConnRef

/-- Whether the object belongs to one of the pools of `appcontype.c`. -/
def isIo : ConnRef → Bool
  | .explicit _ => false
  | _ => true

/-- The instance type that connections of a pool get. -/
def instanceType : ConnRef → ConnectionObjectInstanceType
  | .explicit _ => .explicitMessaging
  | .exclusiveOwner _ => .ioExclusiveOwner
  | .inputOnly _ _ => .ioInputOnly
  | .listenOnly _ _ => .ioListenOnly

/-- The configured connection point of an I/O object. -/
def point (cfg : Config) : ConnRef → ConnectionPoint
  | .explicit _ => {}
  | .exclusiveOwner i => cfg.exclusiveOwnerPoint i
  | .inputOnly i _ => cfg.inputOnlyPoint i
  | .listenOnly i _ => cfg.listenOnlyPoint i

def closeFunction (r : ConnRef) : ConnectionCloseFunction :=
  if r.isIo then .closeIoConnection else .closeConnection

def timeoutFunction (r : ConnRef) : ConnectionTimeoutFunction :=
  if r.isIo then .handleIoConnectionTimeOut else .class3ConnectionTimeoutHandler

theorem instanceType_eq_explicit {r : ConnRef} :
    r.instanceType = .explicitMessaging ↔ r.isIo = false := by
  cases r <;> simp [instanceType, isIo]

end ConnRef

open CipConnectionObject (core_field)

/-- The sequence number that a connection sends next. -/
def nextSequenceNumber (c : CipConnectionObject) : Option UInt32 :=
  if c.transportClass ≠ .class0 then some (c.eipLevelSequenceCountProducing + 1) else none

/-- What a listed connection of a pool looks like. -/
structure Kind (cfg : Config) (r : ConnRef) (c : CipConnectionObject) : Prop where
  valid : r.Valid cfg
  state : c.state = .established ∨ (c.state = .timedOut ∧ r.isIo = true)
  instanceType : c.instanceType = r.instanceType
  close : c.connectionCloseFunction = some r.closeFunction
  timeout : c.connectionTimeoutFunction = some r.timeoutFunction
  silent : r.isIo = false → c.producingSocket = eipInvalidSocket ∧
    c.consumingSocket = eipInvalidSocket ∧ c.instances = (none, none)
  transport : r.isIo = true → c.transportClass ≠ .class3
  input : r.isIo = true →
    c.producedPath.instanceId.toUInt32 = (r.point cfg).inputAssembly
  output : r.isIo = true →
    c.consumedPath.instanceId.toUInt32 = (r.point cfg).outputAssembly
  consuming : ∀ instanceNumber, c.consumingInstance = some instanceNumber →
    instanceNumber = c.consumedPath.instanceId

/-- What an object looks like while it is not listed. A failed open may leave a
close function behind, but then no producing socket. -/
structure Idle (c : CipConnectionObject) : Prop where
  state : c.state = .nonExistent
  close : c.connectionCloseFunction = none ∨ c.producingSocket = eipInvalidSocket

theorem idle_initializeEmpty : Idle .initializeEmpty := ⟨rfl, .inl rfl⟩

theorem Idle.not_master {c : CipConnectionObject} (h : Idle c)
    (hclose : c.connectionCloseFunction ≠ none) :
    StackState.isMulticastMaster c = false := by
  have hs := h.close.resolve_left hclose
  simp [StackState.isMulticastMaster, hs]

theorem Kind.congr {cfg : Config} {r : ConnRef} {c d : CipConnectionObject}
    (h : Kind cfg r c) (hcore : d.core = c.core) : Kind cfg r d := by
  have hstate : d.state = c.state := core_field hcore (·.state) fun _ => rfl
  have htype : d.instanceType = c.instanceType :=
    core_field hcore (·.instanceType) fun _ => rfl
  have hclose : d.connectionCloseFunction = c.connectionCloseFunction :=
    core_field hcore (·.connectionCloseFunction) fun _ => rfl
  have htimeout : d.connectionTimeoutFunction = c.connectionTimeoutFunction :=
    core_field hcore (·.connectionTimeoutFunction) fun _ => rfl
  have hsocket : d.producingSocket = c.producingSocket :=
    core_field hcore (·.producingSocket) fun _ => rfl
  have hinstance : d.consumingInstance = c.consumingInstance :=
    core_field hcore (·.consumingInstance) fun _ => rfl
  have hconsuming : d.consumingSocket = c.consumingSocket :=
    core_field hcore (·.consumingSocket) fun _ => rfl
  have hinstances : d.instances = c.instances := core_field hcore (·.instances) fun _ => rfl
  have hclass : d.transportClass = c.transportClass :=
    core_field hcore (·.transportClass) fun _ => rfl
  have hproduced : d.producedPath = c.producedPath :=
    core_field hcore (·.producedPath) fun _ => rfl
  have hconsumed : d.consumedPath = c.consumedPath :=
    core_field hcore (·.consumedPath) fun _ => rfl
  obtain ⟨h₁, h₂, h₃, h₄, h₅, h₆, h₇, h₈, h₉, h₁₀⟩ := h
  exact ⟨h₁, hstate ▸ h₂, htype ▸ h₃, hclose ▸ h₄, htimeout ▸ h₅,
    hsocket ▸ hconsuming ▸ hinstances ▸ h₆, hclass ▸ h₇, hproduced ▸ h₈, hconsumed ▸ h₉,
    hinstance ▸ hconsumed ▸ h₁₀⟩

/-- Only the explicit pool holds connections of transport class 3. -/
theorem Kind.explicit_of_class3 {cfg : Config} {r : ConnRef} {c : CipConnectionObject}
    (h : Kind cfg r c) (hclass : c.transportClass = .class3) : r.isIo = false := by
  cases hio : r.isIo with
  | false => rfl
  | true => exact absurd hclass (h.transport hio)

theorem Kind.inherit {cfg : Config} {r : ConnRef} {c : CipConnectionObject}
    (h : Kind cfg r c) (hio : r.isIo = true) (old : CipConnectionObject) :
    Kind cfg r (View.inherit old c) := by
  refine ⟨h.valid, h.state, h.instanceType, h.close, h.timeout, ?_, h.transport, h.input,
    h.output, h.consuming⟩
  intro hexplicit
  rw [hio] at hexplicit
  cases hexplicit

theorem Kind.retire {cfg : Config} {r : ConnRef} {c : CipConnectionObject}
    (h : Kind cfg r c) : Kind cfg r (View.retire c) :=
  ⟨h.valid, h.state, h.instanceType, h.close, h.timeout, fun hexplicit =>
    ⟨rfl, (h.silent hexplicit).2⟩, h.transport, h.input, h.output, h.consuming⟩

theorem Kind.timedOut {cfg : Config} {r : ConnRef} {c : CipConnectionObject}
    (h : Kind cfg r c) (hio : r.isIo = true) : Kind cfg r (c.setState .timedOut) :=
  ⟨h.valid, .inr ⟨rfl, hio⟩, h.instanceType, h.close, h.timeout, h.silent, h.transport,
    h.input, h.output, h.consuming⟩

theorem Kind.countPacket {cfg : Config} {r : ConnRef} {c : CipConnectionObject}
    (h : Kind cfg r c) : Kind cfg r c.countPacket :=
  ⟨h.valid, h.state, h.instanceType, h.close, h.timeout, h.silent, h.transport, h.input,
    h.output, h.consuming⟩

theorem Idle.congr {c d : CipConnectionObject} (h : Idle c) (hcore : d.core = c.core) :
    Idle d := by
  have hstate : d.state = c.state := core_field hcore (·.state) fun _ => rfl
  have hclose : d.connectionCloseFunction = c.connectionCloseFunction :=
    core_field hcore (·.connectionCloseFunction) fun _ => rfl
  have hsocket : d.producingSocket = c.producingSocket :=
    core_field hcore (·.producingSocket) fun _ => rfl
  exact ⟨hstate ▸ h.state, hclose ▸ hsocket ▸ h.close⟩

/-- How connections leave: class 3 connections are discarded, I/O connections
closed or timed out. -/
inductive Depart : View → View → Prop
  | discard {V : View} (dropped : ConnRef → Bool)
      (class3 : ∀ r, dropped r = true → r ∈ V.members ∧ r.isIo = false) :
      Depart V (V.without dropped)
  | close {V : View} {r : ConnRef} (member : r ∈ V.members) (io : r.isIo = true) :
      Depart V (V.closed r)
  | expire {V : View} {r : ConnRef} (member : r ∈ V.members) (io : r.isIo = true)
      (established : (V.object r).state = .established) : Depart V (V.expired r)

abbrev Departs : View → View → Prop := Relation.ReflTransGen Depart

inductive Move : View → View → Prop
  | touch {V V' : View} (members : V'.members = V.members) (trace : V'.trace = V.trace)
      (connectionId : V'.connectionId = V.connectionId)
      (object : ∀ r, (V'.object r).core = (V.object r).core) : Move V V'
  | send {V V' : View} {r : ConnRef} {packet : IoPacket} (member : r ∈ V.members)
      (established : (V.object r).state = .established)
      (producing : (V.object r).producingSocket ≠ eipInvalidSocket)
      (identifier : packet.connectionIdentifier = (V.object r).cipProducedConnectionId)
      (number : packet.sequenceNumber = nextSequenceNumber (V.object r))
      (members : V'.members = V.members) (trace : V'.trace = V.trace ++ [.sent packet])
      (connectionId : V'.connectionId = V.connectionId)
      (sender : (V'.object r).core = (V.object r).countPacket.core)
      (others : ∀ s, s ≠ r → (V'.object s).core = (V.object s).core) : Move V V'
  | depart {V V' : View} (departure : Depart V V') : Move V V'

/-- A move is a departure, or it keeps the members and every field that neither
bookkeeping nor a packet touches. -/
theorem Move.depart_or_same {V V' : View} (h : Move V V') :
    Depart V V' ∨ (V'.members = V.members ∧
      ∀ {β : Type} (f : CipConnectionObject → β), (∀ c, f c.core = f c) →
        (∀ c : CipConnectionObject, f c.countPacket = f c) →
        ∀ r, f (V'.object r) = f (V.object r)) := by
  cases h with
  | touch members trace connectionId object =>
      exact .inr ⟨members, fun f hf _ r => core_field (object r) f hf⟩
  | @send r packet member established producing identifier number members trace connectionId
      sender others =>
      refine .inr ⟨members, fun f hf hcount s => ?_⟩
      by_cases hs : s = r
      · subst hs
        rw [core_field sender f hf, hcount]
      · exact core_field (others s hs) f hf
  | depart departure => exact .inl departure

abbrev Moves : View → View → Prop := Relation.ReflTransGen Move

theorem Departs.moves {V V' : View} (h : Departs V V') : Moves V V' := by
  induction h with
  | refl => exact .refl
  | tail _ hdepart ih => exact ih.tail (.depart hdepart)

/-- The invariant of the connection table. -/
structure Regular (cfg : Config) (V : View) : Prop where
  nodup : V.members.Nodup
  kind : ∀ r ∈ V.members, Kind cfg r (V.object r)
  idle : ∀ r, r ∉ V.members → Idle (V.object r)
  copied : ∀ r, Event.copied r true ∉ V.trace

namespace Regular

variable {cfg : Config} {V : View}

theorem closable (h : Regular cfg V) : V.Closable := by
  intro r hr
  have hk := h.kind r hr
  cases hio : r.isIo with
  | false =>
      right
      refine ⟨?_, ?_⟩
      · rw [hk.close, ConnRef.closeFunction, hio]
        rfl
      · rw [hk.instanceType, ConnRef.instanceType_eq_explicit, hio]
  | true =>
      left
      rw [hk.close, ConnRef.closeFunction, hio]
      rfl

theorem closed_explicit (h : Regular cfg V) {r : ConnRef} (hr : r ∈ V.members)
    (hio : r.isIo = false) : V.closed r = V.without (· = r) := by
  have htype := (h.kind r hr).instanceType
  rw [ConnRef.instanceType_eq_explicit.mpr hio] at htype
  unfold View.closed
  rw [View.vacate_of_not_master
    (View.isMulticastMaster_of_type (by simp [htype]) (by simp [htype]))]

theorem without (h : Regular cfg V) (dropped : ConnRef → Bool) :
    Regular cfg (V.without dropped) := by
  refine ⟨h.nodup.filter _, ?_, ?_, h.copied⟩
  · intro r hr
    obtain ⟨hr, hd⟩ := V.mem_without.mp hr
    rw [View.without_object, hd]
    exact h.kind r hr
  · intro r hr
    cases hd : dropped r with
    | true => simpa [hd] using idle_initializeEmpty
    | false =>
        rw [View.without_object, hd]
        exact h.idle r fun hmem => hr (V.mem_without.mpr ⟨hmem, hd⟩)

theorem modify (h : Regular cfg V) {r : ConnRef}
    {f : CipConnectionObject → CipConnectionObject} (hr : r ∈ V.members)
    (hk : Kind cfg r (f (V.object r))) : Regular cfg (V.modify r f) := by
  refine ⟨h.nodup, ?_, ?_, h.copied⟩
  · intro s hs
    by_cases hsr : s = r
    · subst hsr
      rw [View.modify_object_self]
      exact hk
    · rw [V.modify_object_of_ne hsr]
      exact h.kind s hs
  · intro s hs
    have hsr : s ≠ r := fun heq => hs (heq ▸ hr)
    rw [V.modify_object_of_ne hsr]
    exact h.idle s hs

theorem successor_isIo (h : Regular cfg V) {heir : ConnRef} {inputPoint : UInt16}
    (hs : V.successor inputPoint = some heir) : heir ∈ V.members ∧ heir.isIo = true := by
  have hmem := List.mem_of_find?_eq_some hs
  refine ⟨hmem, ?_⟩
  have htake := List.find?_some hs
  have htype := (h.kind heir hmem).instanceType
  cases heir with
  | explicit i =>
      simp [View.canTakeOver, CipConnectionObject.isTypeNonLOIOConnection, htype,
        ConnRef.instanceType] at htake
  | exclusiveOwner i | inputOnly i j | listenOnly i j => rfl

theorem vacate (h : Regular cfg V) {r : ConnRef} (hr : r ∈ V.members) :
    Regular cfg (V.vacate r) ∧ (r.isIo = true → r ∈ (V.vacate r).members) := by
  unfold View.vacate
  cases hm : StackState.isMulticastMaster (V.object r) with
  | false => exact ⟨h, fun _ => hr⟩
  | true =>
      rw [if_pos rfl]
      cases hs : V.successor (V.object r).producedPath.instanceId with
      | some heir =>
          obtain ⟨hmem, hio⟩ := h.successor_isIo hs
          have hne : r ≠ heir := Ne.symm (View.successor_ne hm hs)
          have hpass := h.modify hmem ((h.kind heir hmem).inherit hio (V.object r))
          refine ⟨hpass.modify hr ?_, fun _ => hr⟩
          rw [V.modify_object_of_ne hne]
          exact (h.kind r hr).retire
      | none =>
          refine ⟨h.without _, fun _ => V.mem_without.mpr ⟨hr, ?_⟩⟩
          have htype : (V.object r).instanceType ≠ .ioListenOnly := by
            intro heq
            rw [View.isMulticastMaster_of_type (by simp [heq]) (by simp [heq])] at hm
            cases hm
          simp [View.ofInput, htype]

theorem depart (h : Regular cfg V) {V' : View} (hdepart : Depart V V') : Regular cfg V' := by
  cases hdepart with
  | discard dropped class3 => exact h.without dropped
  | close member io => exact (h.vacate member).1.without _
  | expire member io established =>
      obtain ⟨hvacated, hmem⟩ := h.vacate member
      exact hvacated.modify (hmem io) ((hvacated.kind _ (hmem io)).timedOut io)

theorem departs (h : Regular cfg V) {V' : View} (hdeparts : Departs V V') :
    Regular cfg V' := by
  induction hdeparts with
  | refl => exact h
  | tail _ hdepart ih => exact ih.depart hdepart

/-- Each move preserves the invariant. -/
theorem move (h : Regular cfg V) {V' : View} (hmove : Move V V') : Regular cfg V' := by
  cases hmove with
  | touch members trace connectionId object =>
      refine ⟨members ▸ h.nodup, ?_, ?_, trace ▸ h.copied⟩
      · intro r hr
        exact (h.kind r (members ▸ hr)).congr (object r)
      · intro r hr
        exact (h.idle r (members ▸ hr)).congr (object r)
  | @send r packet member established producing identifier number members trace
      connectionId sender others =>
      refine ⟨members ▸ h.nodup, ?_, ?_, ?_⟩
      · intro s hs
        rw [members] at hs
        by_cases hsr : s = r
        · subst hsr
          exact (h.kind s hs).countPacket.congr sender
        · exact (h.kind s hs).congr (others s hsr)
      · intro s hs
        rw [members] at hs
        have hsr : s ≠ r := fun heq => hs (heq ▸ member)
        exact (h.idle s hs).congr (others s hsr)
      · intro s hmem
        rw [trace, List.mem_append] at hmem
        rcases hmem with hmem | hmem
        · exact h.copied s hmem
        · simp at hmem
  | depart departure => exact h.depart departure

theorem moves (h : Regular cfg V) {V' : View} (hmoves : Moves V V') : Regular cfg V' := by
  induction hmoves with
  | refl => exact h
  | tail _ hmove ih => exact ih.move hmove

end Regular

end Opener

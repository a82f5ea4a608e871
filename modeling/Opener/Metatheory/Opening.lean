import Opener.Metatheory.Servicing

/-!
What an open function writes. Between the copy of the request and
`AddNewActiveConnection` only the chosen pool object is written, apart from the
producing socket that an exclusive owner takes from an existing producer.
-/

namespace Opener

namespace CipConnectionObject

/-- The object without what the connection points and the consuming channel
set. -/
def settled (c : CipConnectionObject) : CipConnectionObject :=
  { c with
    consumingInstance := none
    producingInstance := none
    consumedConnectionPathLength := 0
    producedConnectionPathLength := 0
    consumedPath := { c.consumedPath with attributeIdOrConnectionPoint := 0 }
    producedPath := { c.producedPath with attributeIdOrConnectionPoint := 0 }
    consumingSocket := 0
    originatorAddress := {} }

theorem settled_field {β : Type} {c d : CipConnectionObject} (h : d.settled = c.settled)
    (f : CipConnectionObject → β) (hf : ∀ c, f c.settled = f c) : f d = f c := by
  rw [← hf d, h, hf c]

/-- The request without the sizes that a refused size check reports in it. -/
def unsized (c : CipConnectionObject) : CipConnectionObject :=
  { c with correctOriginatorToTargetSize := 0, correctTargetToOriginatorSize := 0 }

theorem unsized_field {β : Type} {c d : CipConnectionObject} (h : d.unsized = c.unsized)
    (f : CipConnectionObject → β) (hf : ∀ c, f c.unsized = f c) : f d = f c := by
  rw [← hf d, h, hf c]

/-- A consuming instance is the one that the consumed path names. -/
def ConsumesPath (c : CipConnectionObject) : Prop :=
  ∀ instanceNumber, c.consumingInstance = some instanceNumber →
    instanceNumber = c.consumedPath.instanceId

/-- The directions that are not null got the assembly instance of their path, and their
sizes are those of assemblies with the lengths. -/
structure Points (cfg : Config) (length : UInt16 → Nat) (d c : CipConnectionObject) :
    Prop where
  consuming : d.oToTConnectionType ≠ .null →
    c.consumingInstance = some d.consumedPath.instanceId ∧
      cfg.getAssemblyInstance d.consumedPath.instanceId = .ok c.consumingInstance
  producing : d.tToOConnectionType ≠ .null →
    c.producingInstance = some d.producedPath.instanceId ∧
      cfg.getAssemblyInstance d.producedPath.instanceId = .ok c.producingInstance
  consumedSize : d.oToTConnectionType ≠ .null →
    (length d.consumedPath.instanceId : Int) =
      (connectionPointSize d cfg.consumeRunIdle d.oToTConnectionSize
        (length d.consumedPath.instanceId)).1
  producedSize : d.tToOConnectionType ≠ .null →
    (length d.producedPath.instanceId : Int) =
      (connectionPointSize d cfg.produceRunIdle d.tToOConnectionSize
        (length d.producedPath.instanceId)).1

/-- The consuming socket, and the originator that the consuming channel may have
written anew. -/
structure Channel (env : Environment) (d c : CipConnectionObject) : Prop where
  socket : c.consumingSocket = eipInvalidSocket ∨ c.consumingSocket = env.udpSocket
  originator : c.originatorAddress.sinAddr = d.originatorAddress.sinAddr ∨
    c.originatorAddress.sinAddr = env.peerAddress

theorem connectionPointSize_congr {d d' : CipConnectionObject}
    (h : d.transportClass = d'.transportClass) (runIdle : Bool) (size : UInt32) (length : Nat) :
    connectionPointSize d runIdle size length = connectionPointSize d' runIdle size length := by
  rw [connectionPointSize, h, connectionPointSize]

/-- What opening the consuming channel with the socket may change. -/
structure Channelled (env : Environment) (socket : Int) (c c' : CipConnectionObject) :
    Prop where
  consumingInstance : c'.consumingInstance = c.consumingInstance
  producingInstance : c'.producingInstance = c.producingInstance
  consumingSocket : c'.consumingSocket = c.consumingSocket ∨ c'.consumingSocket = socket
  originator : c'.originatorAddress.sinAddr = c.originatorAddress.sinAddr ∨
    c'.originatorAddress.sinAddr = env.peerAddress

theorem Channelled.refl (env : Environment) (socket : Int) (c : CipConnectionObject) :
    Channelled env socket c c := ⟨rfl, rfl, .inl rfl, .inl rfl⟩

theorem Channelled.of_eq {env : Environment} {socket : Int} {c c' : CipConnectionObject}
    {address : SockaddrIn}
    (h : c' = { c with originatorAddress := address, consumingSocket := socket })
    (haddress : address.sinAddr = env.peerAddress) : Channelled env socket c c' := by
  subst h
  exact ⟨rfl, rfl, .inr rfl, .inr haddress⟩

/-- `ConnectionObjectGeneralConfiguration` with the ids it drew. -/
def configured (consumedId producedId : UInt32) (c : CipConnectionObject) :
    CipConnectionObject :=
  { c.resetSequenceCounts.resetProductionInhibitTimer with
    consumingSocket := eipInvalidSocket
    producingSocket := eipInvalidSocket
    cipConsumedConnectionId := consumedId
    cipProducedConnectionId := producedId
    transmissionTriggerTimer := 0 }

/-- How many connection ids an open draws before the T->O id. -/
def consumedIds (c : CipConnectionObject) : UInt16 :=
  if c.oToTConnectionType = .pointToPoint then 1 else 0

/-- The counter after both ids were drawn. -/
def connectionIdAfter (c : CipConnectionObject) (connectionId : UInt16) : UInt16 :=
  connectionId + c.consumedIds + (if c.tToOConnectionType = .multicast then 1 else 0)

/-- The O->T connection id: drawn for point to point, else the one requested. -/
def consumedId (cfg : Config) (c : CipConnectionObject) (connectionId : UInt16) : UInt32 :=
  if c.oToTConnectionType = .pointToPoint then
    cfg.incarnationId ||| (connectionId + 1).toUInt32
  else c.cipConsumedConnectionId

/-- The T->O connection id: drawn for multicast, else the one requested. -/
def producedId (cfg : Config) (c : CipConnectionObject) (connectionId : UInt16) : UInt32 :=
  if c.tToOConnectionType = .multicast then
    cfg.incarnationId ||| (connectionId + c.consumedIds + 1).toUInt32
  else c.cipProducedConnectionId

/-- The request after `EstablishIoConnection` gave it callbacks and ids. -/
def prepared (cfg : Config) (inhibitTime : UInt16) (connectionId : UInt16)
    (c : CipConnectionObject) : CipConnectionObject :=
  (setIoConnectionCallbacks { c with productionInhibitTime := inhibitTime }).configured
    (c.consumedId cfg connectionId) (c.producedId cfg connectionId)

theorem Points.congr {cfg : Config} {length : UInt16 → Nat} {d d' c : CipConnectionObject}
    (h : Points cfg length d c) (hoToT : d.oToTConnectionType = d'.oToTConnectionType)
    (htToO : d.tToOConnectionType = d'.tToOConnectionType)
    (hconsumed : d.consumedPath.instanceId = d'.consumedPath.instanceId)
    (hproduced : d.producedPath.instanceId = d'.producedPath.instanceId)
    (htransport : d.transportClass = d'.transportClass)
    (hoToTSize : d.oToTConnectionSize = d'.oToTConnectionSize)
    (htToOSize : d.tToOConnectionSize = d'.tToOConnectionSize) : Points cfg length d' c := by
  obtain ⟨hconsuming, hproducing, hconsumedSize, hproducedSize⟩ := h
  rw [hoToT, hconsumed] at hconsuming hconsumedSize
  rw [htToO, hproduced] at hproducing hproducedSize
  rw [connectionPointSize_congr htransport, hoToTSize] at hconsumedSize
  rw [connectionPointSize_congr htransport, htToOSize] at hproducedSize
  exact ⟨hconsuming, hproducing, hconsumedSize, hproducedSize⟩

theorem prepared_field {β : Type} {cfg : Config} {inhibitTime connectionId : UInt16}
    {d d' : CipConnectionObject}
    (h : d.settled = (d'.prepared cfg inhibitTime connectionId).settled)
    (f : CipConnectionObject → β) (hf : ∀ c, f c.settled = f c)
    (hprepared : f (d'.prepared cfg inhibitTime connectionId) = f d') : f d = f d' :=
  (settled_field h f hf).trans hprepared

/-- The points of a prepared object are those of the request. -/
theorem Points.of_prepared {cfg : Config} {length : UInt16 → Nat} {d d' c : CipConnectionObject}
    (h : Points cfg length d c) {inhibitTime connectionId : UInt16}
    (hsettled : d.settled = (d'.prepared cfg inhibitTime connectionId).settled) :
    Points cfg length d' c := by
  refine h.congr ?_ ?_ ?_ ?_ ?_ ?_ ?_
  · exact prepared_field hsettled (·.oToTConnectionType) (fun _ => rfl) rfl
  · exact prepared_field hsettled (·.tToOConnectionType) (fun _ => rfl) rfl
  · exact prepared_field hsettled (·.consumedPath.instanceId) (fun _ => rfl) rfl
  · exact prepared_field hsettled (·.producedPath.instanceId) (fun _ => rfl) rfl
  · exact prepared_field hsettled (·.transportClass) (fun _ => rfl) rfl
  · exact prepared_field hsettled (·.oToTConnectionSize) (fun _ => rfl) rfl
  · exact prepared_field hsettled (·.tToOConnectionSize) (fun _ => rfl) rfl

/-- The producing channel that a connection gets for itself. -/
def producing (socket : Int) (address : SockaddrIn) (c : CipConnectionObject) :
    CipConnectionObject :=
  { c with producingSocket := socket, remoteAddress := address }

end CipConnectionObject

namespace StackState

variable {cfg : Config} {env : Environment} {st : StackState}

/-- Only the object of one slot was written in the connection table. -/
structure Writes (r : ConnRef) (st st' : StackState) : Prop where
  list : st'.store.connectionList = st.store.connectionList
  others : ∀ s, s ≠ r → st'.conn s = st.conn s
  events : st'.events = st.events
  dummy : st'.dummy.unsized = st.dummy.unsized

theorem Writes.refl (r : ConnRef) (st : StackState) : Writes r st st :=
  ⟨rfl, fun _ _ => rfl, rfl, rfl⟩

theorem Writes.trans {r : ConnRef} {st₂ st₃ : StackState} (h : Writes r st st₂)
    (h' : Writes r st₂ st₃) : Writes r st st₃ :=
  ⟨h'.list.trans h.list, fun s hs => (h'.others s hs).trans (h.others s hs),
    h'.events.trans h.events, h'.dummy.trans h.dummy⟩

theorem writes_modifyConn (r : ConnRef) (st : StackState)
    (f : CipConnectionObject → CipConnectionObject) : Writes r st (st.modifyConn r f) :=
  ⟨rfl, fun _ hs => conn_modifyConn_of_ne st hs f, rfl, rfl⟩

theorem drawConnectionId_spec (cfg : Config) (draws : CipConnectionObject → Bool)
    (store : UInt32 → CipConnectionObject → CipConnectionObject) (r : ConnRef)
    (st : StackState) :
    Writes r st (st.drawConnectionId cfg draws store r) ∧
      (st.drawConnectionId cfg draws store r).connectionId =
        st.connectionId + (if draws (st.conn r) then 1 else 0) ∧
      (st.drawConnectionId cfg draws store r).conn r =
        if draws (st.conn r) then
          store (cfg.incarnationId ||| (st.connectionId + 1).toUInt32) (st.conn r)
        else st.conn r := by
  unfold drawConnectionId
  split
  · refine ⟨⟨rfl, ?_, rfl, rfl⟩, rfl, ?_⟩
    · intro s hs
      exact conn_modifyConn_of_ne _ hs _
    · exact conn_modifyConn_self _ r _
  · exact ⟨Writes.refl r st, (UInt16.add_zero _).symm, rfl⟩

/-- `ConnectionObjectGeneralConfiguration` draws the ids and resets the object. -/
theorem generalConfiguration_spec (cfg : Config) (r : ConnRef) (st : StackState) :
    Writes r st (st.generalConfiguration cfg r) ∧
      (st.generalConfiguration cfg r).connectionId =
        (st.conn r).connectionIdAfter st.connectionId ∧
      (st.generalConfiguration cfg r).conn r =
        (st.conn r).configured ((st.conn r).consumedId cfg st.connectionId)
          ((st.conn r).producedId cfg st.connectionId) := by
  simp only [generalConfiguration]
  have h₁ := writes_modifyConn r st fun c =>
    { c with consumingSocket := eipInvalidSocket, producingSocket := eipInvalidSocket }
  have hconn₁ := conn_modifyConn_self st r fun c =>
    { c with consumingSocket := eipInvalidSocket, producingSocket := eipInvalidSocket }
  have hid₁ : (st.modifyConn r fun c => { c with
      consumingSocket := eipInvalidSocket
      producingSocket := eipInvalidSocket }).connectionId = st.connectionId := rfl
  generalize (st.modifyConn r fun c => { c with
    consumingSocket := eipInvalidSocket
    producingSocket := eipInvalidSocket }) = st₁ at h₁ hconn₁ hid₁
  obtain ⟨h₂, hid₂, hconn₂⟩ := drawConnectionId_spec cfg
    (fun c => c.oToTConnectionType = .pointToPoint)
    (fun id c => { c with cipConsumedConnectionId := id }) r st₁
  generalize st₁.drawConnectionId cfg (fun c => c.oToTConnectionType = .pointToPoint)
    (fun id c => { c with cipConsumedConnectionId := id }) r = st₂ at h₂ hid₂ hconn₂
  obtain ⟨h₃, hid₃, hconn₃⟩ := drawConnectionId_spec cfg
    (fun c => c.tToOConnectionType = .multicast)
    (fun id c => { c with cipProducedConnectionId := id }) r st₂
  generalize st₂.drawConnectionId cfg (fun c => c.tToOConnectionType = .multicast)
    (fun id c => { c with cipProducedConnectionId := id }) r = st₃ at h₃ hid₃ hconn₃
  have hoToT : (st₁.conn r).oToTConnectionType = (st.conn r).oToTConnectionType := by
    rw [hconn₁]
    rfl
  have htToO : (st₂.conn r).tToOConnectionType = (st.conn r).tToOConnectionType := by
    rw [hconn₂]
    split <;> rw [hconn₁] <;> rfl
  simp only [hoToT, decide_eq_true_eq] at hid₂ hconn₂
  simp only [htToO, decide_eq_true_eq] at hid₃ hconn₃
  have hid : st₂.connectionId = st.connectionId + (st.conn r).consumedIds := by
    rw [hid₂, hid₁]
    rfl
  refine ⟨((h₁.trans h₂).trans h₃).trans (writes_modifyConn r st₃ _), ?_, ?_⟩
  · change st₃.connectionId = _
    rw [hid₃, hid]
    rfl
  · have hconsumed : st₂.conn r =
        { st.conn r with
          consumingSocket := eipInvalidSocket
          producingSocket := eipInvalidSocket
          cipConsumedConnectionId := (st.conn r).consumedId cfg st.connectionId } := by
      rw [hconn₂, hconn₁, hid₁, CipConnectionObject.consumedId]
      split <;> rfl
    rw [conn_modifyConn_self, hconn₃, hid, hconsumed]
    unfold CipConnectionObject.configured CipConnectionObject.producedId
    split <;> rfl

/-- The slot keeps everything but its connection points and consuming channel. -/
structure Settles (r : ConnRef) (st st' : StackState) : Prop where
  writes : Writes r st st'
  connectionId : st'.connectionId = st.connectionId
  settled : (st'.conn r).settled = (st.conn r).settled
  consumes : (st.conn r).ConsumesPath → (st'.conn r).ConsumesPath

theorem Settles.refl (r : ConnRef) (st : StackState) : Settles r st st :=
  ⟨Writes.refl r st, rfl, rfl, id⟩

theorem Settles.trans {r : ConnRef} {st₂ st₃ : StackState} (h : Settles r st st₂)
    (h' : Settles r st₂ st₃) : Settles r st st₃ :=
  ⟨h.writes.trans h'.writes, h'.connectionId.trans h.connectionId,
    h'.settled.trans h.settled, fun hc => h'.consumes (h.consumes hc)⟩

theorem settles_modifyConn (r : ConnRef) (st : StackState)
    {f : CipConnectionObject → CipConnectionObject}
    (hsettled : (f (st.conn r)).settled = (st.conn r).settled)
    (hconsumes : (st.conn r).ConsumesPath → (f (st.conn r)).ConsumesPath) :
    Settles r st (st.modifyConn r f) := by
  refine ⟨writes_modifyConn r st f, rfl, ?_, ?_⟩
  · rw [conn_modifyConn_self, hsettled]
  · rw [conn_modifyConn_self]
    exact hconsumes

/-- The assemblies and the configuration data of the request stay. -/
structure Stores (st st' : StackState) : Prop where
  assemblyData : st'.assemblyData = st.assemblyData
  configData : st'.configData = st.configData

theorem Stores.refl (st : StackState) : Stores st st := ⟨rfl, rfl⟩

theorem Stores.trans {st₂ st₃ : StackState} (h : Stores st st₂) (h' : Stores st₂ st₃) :
    Stores st st₃ :=
  ⟨h'.assemblyData.trans h.assemblyData, h'.configData.trans h.configData⟩

theorem Stores.assemblyLength_eq {st' : StackState} (h : Stores st st')
    (instanceNumber : UInt16) :
    st'.assemblyLength cfg instanceNumber = st.assemblyLength cfg instanceNumber := by
  rw [assemblyLength, h.assemblyData, assemblyLength]

theorem stores_modifyConn (r : ConnRef) (st : StackState)
    (f : CipConnectionObject → CipConnectionObject) : Stores st (st.modifyConn r f) :=
  ⟨rfl, rfl⟩

theorem drawConnectionId_stores (draws : CipConnectionObject → Bool)
    (store : UInt32 → CipConnectionObject → CipConnectionObject) (r : ConnRef)
    (st : StackState) : Stores st (st.drawConnectionId cfg draws store r) := by
  unfold drawConnectionId
  split
  · exact ⟨rfl, rfl⟩
  · exact Stores.refl st

theorem generalConfiguration_stores (cfg : Config) (r : ConnRef) (st : StackState) :
    Stores st (st.generalConfiguration cfg r) := by
  simp only [generalConfiguration]
  refine Stores.trans ?_ (stores_modifyConn r _ _)
  refine Stores.trans ?_ (drawConnectionId_stores _ _ r _)
  refine Stores.trans ?_ (drawConnectionId_stores _ _ r _)
  exact stores_modifyConn r st _

theorem setupOriginatorToTarget_stores {r : ConnRef} {extended : UInt16} {st' : StackState}
    (hcall : st.setupIoConnectionOriginatorToTargetConnectionPoint cfg r =
      .ok (extended, st')) : Stores st st' := by
  simp only [setupIoConnectionOriginatorToTargetConnectionPoint] at hcall
  split at hcall
  · cases hcall
  · cases hcall
    exact Stores.refl st
  · split at hcall <;> cases hcall <;> exact ⟨rfl, rfl⟩

theorem setupTargetToOriginator_stores {r : ConnRef} {extended : UInt16} {st' : StackState}
    (hcall : st.setupIoConnectionTargetToOriginatorConnectionPoint cfg r =
      .ok (extended, st')) : Stores st st' := by
  simp only [setupIoConnectionTargetToOriginatorConnectionPoint] at hcall
  split at hcall
  · cases hcall
    exact Stores.refl st
  · split at hcall
    · cases hcall
    · cases hcall
      exact Stores.refl st
    · split at hcall <;> cases hcall <;> exact ⟨rfl, rfl⟩

/-- `GetCipInstance` returns the instance that it was asked for. -/
theorem getAssemblyInstance_eq {instanceNumber found : UInt16}
    (h : cfg.getAssemblyInstance instanceNumber = .ok (some found)) :
    found = instanceNumber := by
  unfold Config.getAssemblyInstance at h
  split at h
  · split at h <;> simp at h
  · simp only [Except.ok.injEq, Config.getCipInstance] at h
    split at h
    · rename_i hzero
      rw [hzero]
      exact (Option.some.inj h).symm
    · simpa using List.find?_some h

theorem setupOriginatorToTarget_settles {r : ConnRef} {extended : UInt16} {st' : StackState}
    (hcall : st.setupIoConnectionOriginatorToTargetConnectionPoint cfg r =
      .ok (extended, st')) : Settles r st st' := by
  unfold setupIoConnectionOriginatorToTargetConnectionPoint at hcall
  cases hinstance : cfg.getAssemblyInstance (st.conn r).consumedPath.instanceId with
  | error fault => simp [hinstance] at hcall
  | ok found =>
      cases found with
      | none =>
          simp only [hinstance, Except.ok.injEq, Prod.mk.injEq] at hcall
          exact hcall.2 ▸ Settles.refl r st
      | some instanceNumber =>
          have h₁ := settles_modifyConn r st (f := fun c =>
            { c with
              consumingInstance := some instanceNumber
              consumedConnectionPathLength := 6
              consumedPath := { c.consumedPath with attributeIdOrConnectionPoint := 3 } }) rfl
            (by
              intro _ n hn
              rw [← Option.some.inj hn]
              exact getAssemblyInstance_eq hinstance)
          simp only [hinstance] at hcall
          split at hcall
          · cases hcall
            exact ⟨⟨h₁.writes.list, h₁.writes.others, h₁.writes.events, rfl⟩, rfl,
              h₁.settled, h₁.consumes⟩
          · cases hcall
            exact h₁

/-- The consuming instance of a success, and what the slot keeps. -/
theorem setupOriginatorToTarget_slot {r : ConnRef} {extended : UInt16} {st' : StackState}
    (hcall : st.setupIoConnectionOriginatorToTargetConnectionPoint cfg r =
      .ok (extended, st')) :
    (st'.conn r).consumingSocket = (st.conn r).consumingSocket ∧
      (st'.conn r).originatorAddress = (st.conn r).originatorAddress ∧
      (extended = ExtendedStatus.success →
        ((st'.conn r).consumingInstance = some (st.conn r).consumedPath.instanceId ∧
          cfg.getAssemblyInstance (st.conn r).consumedPath.instanceId =
            .ok (st'.conn r).consumingInstance) ∧
        (st.assemblyLength cfg (st.conn r).consumedPath.instanceId : Int) =
          (connectionPointSize (st.conn r) cfg.consumeRunIdle (st.conn r).oToTConnectionSize
            (st.assemblyLength cfg (st.conn r).consumedPath.instanceId)).1) := by
  rw [setupIoConnectionOriginatorToTargetConnectionPoint] at hcall
  split at hcall
  · cases hcall
  · cases hcall
    exact ⟨rfl, rfl, fun h => by cases h⟩
  · rename_i instanceNumber hinstance
    have hnumber := getAssemblyInstance_eq hinstance
    have hsize : extended = ExtendedStatus.success →
        (st.assemblyLength cfg instanceNumber : Int) = (connectionPointSize (st.conn r)
          cfg.consumeRunIdle (st.conn r).oToTConnectionSize
          (st.assemblyLength cfg instanceNumber)).1 := by
      intro hsuccess
      simp only [conn_modifyConn_self] at hcall
      split at hcall
      · cases hcall
        exact absurd hsuccess (by decide)
      · rename_i hfits
        exact not_not.mp hfits
    rw [hnumber] at hsize
    have hslot : (st'.conn r) = { st.conn r with
        consumingInstance := some instanceNumber
        consumedConnectionPathLength := 6
        consumedPath :=
          { (st.conn r).consumedPath with attributeIdOrConnectionPoint := 3 } } := by
      simp only at hcall
      split at hcall
      · cases hcall
        exact Function.update_self r _ _
      · cases hcall
        exact Function.update_self r _ _
    rw [hslot]
    exact ⟨rfl, rfl, fun hsuccess => ⟨⟨congrArg some hnumber, hinstance⟩, hsize hsuccess⟩⟩

theorem producerMismatch_ne_success {c d : CipConnectionObject} {extended : UInt16}
    (h : producerMismatch c d = some extended) : extended ≠ ExtendedStatus.success := by
  unfold producerMismatch at h
  rintro rfl
  repeat (first | (split at h) | cases h)

/-- Success tells that a multicast request agrees with every listed connection of
its input. -/
theorem setupTargetToOriginator_settles {r : ConnRef} {extended : UInt16} {st' : StackState}
    (hcall : st.setupIoConnectionTargetToOriginatorConnectionPoint cfg r =
      .ok (extended, st')) :
    Settles r st st' ∧ (extended = ExtendedStatus.success →
      (st.conn r).tToOConnectionType = .multicast →
      ∀ s ∈ st.connectionList cfg, producerMismatch (st.conn r) (st.conn s) = none) := by
  simp only [setupIoConnectionTargetToOriginatorConnectionPoint] at hcall
  split at hcall
  · rename_i mismatch hmismatch
    cases hcall
    refine ⟨Settles.refl r st, fun hsuccess => ?_⟩
    split at hmismatch
    · obtain ⟨s, -, hs⟩ := List.exists_of_findSome?_eq_some hmismatch
      exact absurd hsuccess (producerMismatch_ne_success hs)
    · cases hmismatch
  · rename_i hmismatch
    refine ⟨?_, ?_⟩
    · cases hinstance : cfg.getAssemblyInstance (st.conn r).producedPath.instanceId with
      | error fault => simp [hinstance] at hcall
      | ok found =>
          cases found with
          | none =>
              simp only [hinstance, Except.ok.injEq, Prod.mk.injEq] at hcall
              exact hcall.2 ▸ Settles.refl r st
          | some instanceNumber =>
              have h₁ := settles_modifyConn r st (f := fun c =>
                { c with
                  producingInstance := some instanceNumber
                  producedPath :=
                    { c.producedPath with attributeIdOrConnectionPoint := 3 } }) rfl id
              simp only [hinstance] at hcall
              split at hcall
              · cases hcall
                exact ⟨⟨h₁.writes.list, h₁.writes.others, h₁.writes.events, rfl⟩, rfl,
                  h₁.settled, h₁.consumes⟩
              · cases hcall
                exact h₁
    · intro _ hmulticast s hs
      rw [if_pos hmulticast] at hmismatch
      exact List.findSome?_eq_none_iff.mp hmismatch s hs

/-- The producing instance of a success, and what the slot keeps. -/
theorem setupTargetToOriginator_slot {r : ConnRef} {extended : UInt16} {st' : StackState}
    (hcall : st.setupIoConnectionTargetToOriginatorConnectionPoint cfg r =
      .ok (extended, st')) :
    (st'.conn r).consumingSocket = (st.conn r).consumingSocket ∧
      (st'.conn r).originatorAddress = (st.conn r).originatorAddress ∧
      (st'.conn r).consumingInstance = (st.conn r).consumingInstance ∧
      (extended = ExtendedStatus.success →
        ((st'.conn r).producingInstance = some (st.conn r).producedPath.instanceId ∧
          cfg.getAssemblyInstance (st.conn r).producedPath.instanceId =
            .ok (st'.conn r).producingInstance) ∧
        (st.assemblyLength cfg (st.conn r).producedPath.instanceId : Int) =
          (connectionPointSize (st.conn r) cfg.produceRunIdle (st.conn r).tToOConnectionSize
            (st.assemblyLength cfg (st.conn r).producedPath.instanceId)).1) := by
  simp only [setupIoConnectionTargetToOriginatorConnectionPoint] at hcall
  split at hcall
  · rename_i mismatch hfound
    cases hcall
    refine ⟨rfl, rfl, rfl, fun hsuccess => ?_⟩
    split at hfound
    · obtain ⟨s, -, hs⟩ := List.exists_of_findSome?_eq_some hfound
      exact absurd hsuccess (producerMismatch_ne_success hs)
    · cases hfound
  · split at hcall
    · cases hcall
    · cases hcall
      exact ⟨rfl, rfl, rfl, fun h => by cases h⟩
    · rename_i instanceNumber hinstance
      have hnumber := getAssemblyInstance_eq hinstance
      have hsize : extended = ExtendedStatus.success →
          (st.assemblyLength cfg instanceNumber : Int) = (connectionPointSize (st.conn r)
            cfg.produceRunIdle (st.conn r).tToOConnectionSize
            (st.assemblyLength cfg instanceNumber)).1 := by
        intro hsuccess
        simp only [conn_modifyConn_self] at hcall
        split at hcall
        · cases hcall
          exact absurd hsuccess (by decide)
        · rename_i hfits
          exact not_not.mp hfits
      rw [hnumber] at hsize
      have hslot : (st'.conn r) = { st.conn r with
          producingInstance := some instanceNumber
          producedPath :=
            { (st.conn r).producedPath with attributeIdOrConnectionPoint := 3 } } := by
        split at hcall
        · cases hcall
          exact Function.update_self r _ _
        · cases hcall
          exact Function.update_self r _ _
      rw [hslot]
      exact ⟨rfl, rfl, rfl,
        fun hsuccess => ⟨⟨congrArg some hnumber, hinstance⟩, hsize hsuccess⟩⟩

theorem Settles.producerMismatch_eq {r : ConnRef} {st' : StackState} (h : Settles r st st')
    (d : CipConnectionObject) :
    producerMismatch (st'.conn r) d = producerMismatch (st.conn r) d :=
  CipConnectionObject.settled_field h.settled (fun c => producerMismatch c d) fun _ => rfl

theorem Settles.tToOConnectionType_eq {r : ConnRef} {st' : StackState}
    (h : Settles r st st') :
    (st'.conn r).tToOConnectionType = (st.conn r).tToOConnectionType :=
  CipConnectionObject.settled_field h.settled (·.tToOConnectionType) fun _ => rfl

theorem Writes.connectionList_eq {r : ConnRef} {st' : StackState} (h : Writes r st st') :
    st'.connectionList cfg = st.connectionList cfg := by
  unfold connectionList
  rw [h.list]

theorem setupConnectionPoints_settles {r : ConnRef} {extended : UInt16} {st' : StackState}
    (hr : r ∉ st.connectionList cfg)
    (hcall : st.setupConnectionPoints cfg r = .ok (extended, st')) :
    Settles r st st' ∧ (extended = ExtendedStatus.success →
      (st.conn r).tToOConnectionType = .multicast →
      ∀ s ∈ st.connectionList cfg, producerMismatch (st.conn r) (st.conn s) = none) := by
  simp only [setupConnectionPoints] at hcall
  generalize hconsumer : (if (st.conn r).oToTConnectionType ≠ .null then
    st.setupIoConnectionOriginatorToTargetConnectionPoint cfg r
    else .ok (ExtendedStatus.success, st)) = consumer at hcall
  cases consumer with
  | error fault => cases hcall
  | ok result =>
      obtain ⟨extended₁, st₁⟩ := result
      have h₁ : Settles r st st₁ := by
        split at hconsumer
        · exact setupOriginatorToTarget_settles hconsumer
        · cases hconsumer
          exact Settles.refl r st
      simp only at hcall
      split at hcall
      · rename_i herror
        cases hcall
        exact ⟨h₁, fun hsuccess => absurd hsuccess herror⟩
      · split at hcall
        · obtain ⟨h₂, hagrees⟩ := setupTargetToOriginator_settles hcall
          refine ⟨h₁.trans h₂, fun hsuccess hmulticast s hs => ?_⟩
          have hsr : s ≠ r := fun heq => hr (heq ▸ hs)
          have hs₁ : s ∈ st₁.connectionList cfg := by
            rw [h₁.writes.connectionList_eq]
            exact hs
          have := hagrees hsuccess (h₁.tToOConnectionType_eq.trans hmulticast) s hs₁
          rwa [h₁.producerMismatch_eq, h₁.writes.others s hsr] at this
        · rename_i hnull
          cases hcall
          refine ⟨h₁, fun _ hmulticast => ?_⟩
          rw [h₁.tToOConnectionType_eq, hmulticast] at hnull
          exact absurd (by simp) hnull

/-- Both connection points of a success, and what the slot keeps. -/
theorem setupConnectionPoints_slot {r : ConnRef} {extended : UInt16} {st' : StackState}
    (hcall : st.setupConnectionPoints cfg r = .ok (extended, st')) :
    (st'.conn r).consumingSocket = (st.conn r).consumingSocket ∧
      (st'.conn r).originatorAddress = (st.conn r).originatorAddress ∧
      (extended = ExtendedStatus.success →
        CipConnectionObject.Points cfg (st.assemblyLength cfg) (st.conn r) (st'.conn r)) := by
  simp only [setupConnectionPoints] at hcall
  generalize hconsumer : (if (st.conn r).oToTConnectionType ≠ .null then
    st.setupIoConnectionOriginatorToTargetConnectionPoint cfg r
    else .ok (ExtendedStatus.success, st)) = consumer at hcall
  cases consumer with
  | error fault => cases hcall
  | ok result =>
      obtain ⟨extended₁, st₁⟩ := result
      have h₁ : Settles r st st₁ := by
        split at hconsumer
        · exact setupOriginatorToTarget_settles hconsumer
        · cases hconsumer
          exact Settles.refl r st
      have hslot₁ : (st₁.conn r).consumingSocket = (st.conn r).consumingSocket ∧
          (st₁.conn r).originatorAddress = (st.conn r).originatorAddress ∧
          (extended₁ = ExtendedStatus.success → (st.conn r).oToTConnectionType ≠ .null →
            ((st₁.conn r).consumingInstance = some (st.conn r).consumedPath.instanceId ∧
              cfg.getAssemblyInstance (st.conn r).consumedPath.instanceId =
                .ok (st₁.conn r).consumingInstance) ∧
            (st.assemblyLength cfg (st.conn r).consumedPath.instanceId : Int) =
              (connectionPointSize (st.conn r) cfg.consumeRunIdle
                (st.conn r).oToTConnectionSize
                (st.assemblyLength cfg (st.conn r).consumedPath.instanceId)).1) := by
        split at hconsumer
        · obtain ⟨hsocket, haddress, hinstance⟩ := setupOriginatorToTarget_slot hconsumer
          exact ⟨hsocket, haddress, fun hsuccess _ => hinstance hsuccess⟩
        · rename_i hnull
          cases hconsumer
          exact ⟨rfl, rfl, fun _ hnotNull => absurd hnotNull hnull⟩
      obtain ⟨hsocket₁, haddress₁, hinstance₁⟩ := hslot₁
      have hpath : (st₁.conn r).producedPath.instanceId = (st.conn r).producedPath.instanceId :=
        CipConnectionObject.settled_field h₁.settled (·.producedPath.instanceId) fun _ => rfl
      have hstores : Stores st st₁ := by
        split at hconsumer
        · exact setupOriginatorToTarget_stores hconsumer
        · cases hconsumer
          exact Stores.refl st
      have hpoint : connectionPointSize (st₁.conn r) cfg.produceRunIdle
          (st₁.conn r).tToOConnectionSize = connectionPointSize (st.conn r) cfg.produceRunIdle
          (st.conn r).tToOConnectionSize :=
        CipConnectionObject.settled_field h₁.settled
          (fun c => connectionPointSize c cfg.produceRunIdle c.tToOConnectionSize) fun _ => rfl
      simp only at hcall
      split at hcall
      · rename_i herror
        cases hcall
        exact ⟨hsocket₁, haddress₁, fun hsuccess => absurd hsuccess herror⟩
      · rename_i hsuccess₁
        split at hcall
        · obtain ⟨hsocket₂, haddress₂, hconsuming, hinstance₂⟩ :=
            setupTargetToOriginator_slot hcall
          refine ⟨hsocket₂.trans hsocket₁, haddress₂.trans haddress₁, fun hsuccess => ?_⟩
          refine ⟨fun hnotNull => ?_, fun _ => ?_, fun hnotNull => ?_, fun _ => ?_⟩
          · rw [hconsuming]
            exact (hinstance₁ (not_not.mp hsuccess₁) hnotNull).1
          · rw [← hpath]
            exact (hinstance₂ hsuccess).1
          · exact (hinstance₁ (not_not.mp hsuccess₁) hnotNull).2
          · rw [← hpath, ← hstores.assemblyLength_eq, ← hpoint]
            exact (hinstance₂ hsuccess).2
        · rename_i hnull
          cases hcall
          have hproduces : (st.conn r).tToOConnectionType = .null := by
            rw [← h₁.tToOConnectionType_eq]
            exact not_not.mp hnull
          refine ⟨hsocket₁, haddress₁, fun _ => ⟨fun hnotNull => ?_, absurd hproduces,
            fun hnotNull => ?_, absurd hproduces⟩⟩
          · exact (hinstance₁ (not_not.mp hsuccess₁) hnotNull).1
          · exact (hinstance₁ (not_not.mp hsuccess₁) hnotNull).2

theorem settles_of_store_eq {r : ConnRef} {st' : StackState} (hstore : st'.store = st.store)
    (hevents : st'.events = st.events) (hid : st'.connectionId = st.connectionId)
    (hdummy : st'.dummy = st.dummy) : Settles r st st' := by
  have hconn : ∀ s, st'.conn s = st.conn s := fun s => by rw [conn, conn, hstore]
  refine ⟨⟨by rw [hstore], fun s _ => hconn s, hevents, by rw [hdummy]⟩, hid, ?_, ?_⟩
  · rw [hconn]
  · rw [hconn]
    exact id

theorem notifyAssembly_store {instanceNumber : UInt16} {data : List UInt8}
    {status : EipStatus} {st' : StackState}
    (hcall : st.notifyAssemblyConnectedDataReceived env instanceNumber data =
      .ok (status, st')) : ∃ assemblyData, st' = { st with assemblyData := assemblyData } := by
  unfold notifyAssemblyConnectedDataReceived at hcall
  split at hcall
  · split at hcall
    · cases hcall
    · cases hcall
      exact ⟨st.assemblyData, rfl⟩
  · split at hcall
    · cases hcall
      exact ⟨st.assemblyData, rfl⟩
    · cases hcall
      exact ⟨_, rfl⟩

/-- Configuration data only goes to an assembly. -/
theorem handleConfigData_store {r : ConnRef} {data : List UInt8} {extended : UInt16}
    {st' : StackState}
    (hcall : st.handleConfigData cfg env r data = .ok (extended, st')) :
    ∃ assemblyData, st' = { st with assemblyData := assemblyData } := by
  simp only [handleConfigData] at hcall
  split at hcall
  · cases hcall
  · split at hcall
    · cases hcall
      exact ⟨st.assemblyData, rfl⟩
    · split at hcall
      · cases hcall
      · split at hcall
        · split at hcall
          · cases hcall
            exact ⟨st.assemblyData, rfl⟩
          · split at hcall
            · cases hcall
            · split at hcall <;> cases hcall <;> exact ⟨st.assemblyData, rfl⟩
        · split at hcall
          · cases hcall
          · rename_i hnotify
            cases hcall
            exact notifyAssembly_store hnotify
          · rename_i hnotify
            cases hcall
            exact notifyAssembly_store hnotify

theorem createUdpSocket_eq (env : Environment) (st : StackState) :
    ∃ masterSocket, st.createUdpSocket env =
      { st with udpIoMessaging := env.udpSocket, masterSocket := masterSocket } := by
  simp only [createUdpSocket, closeSocket]
  split
  · exact ⟨st.masterSocket, rfl⟩
  · split
    · exact ⟨env.udpSocket :: st.masterSocket, rfl⟩
    · exact ⟨_, rfl⟩

theorem fillMulticastItem_eq (cfg : Config) (j : Fin 2) (st : StackState) :
    ∃ cpf, st.fillMulticastItem cfg j = { st with cpf := cpf } := by
  unfold fillMulticastItem
  split
  · exact ⟨_, rfl⟩
  · exact ⟨st.cpf, rfl⟩

/-- `OpenMulticastConnection` writes the packet structure and, if it succeeds, the
channel. -/
theorem openMulticastConnection_spec (cfg : Config) (env : Environment)
    (direction : UdpCommunicationDirection) (r : ConnRef) (st : StackState) :
    ∃ cpf item, (st.openMulticastConnection cfg env direction r =
        (.error, { st with cpf := cpf }) ∨
      st.openMulticastConnection cfg env direction r =
        (.ok, modifyConn { st with cpf := cpf } r
          (setChannel env direction st.udpIoMessaging item))) := by
  simp only [openMulticastConnection]
  split
  · exact ⟨st.cpf, {}, .inl rfl⟩
  · rename_i j _
    obtain ⟨cpf, hfill⟩ := fillMulticastItem_eq cfg j st
    rw [hfill]
    split
    · exact ⟨cpf, {}, .inl rfl⟩
    · split
      · exact ⟨cpf, {}, .inl rfl⟩
      · exact ⟨cpf, _, .inr rfl⟩

theorem settles_cpf (r : ConnRef) (st : StackState) (cpf : CommonPacketFormatData) :
    Settles r st { st with cpf := cpf } :=
  settles_of_store_eq rfl rfl rfl rfl

/-- The consuming channel, whether it opens or not. -/
theorem openConsumingChannel_settles {r : ConnRef} {status : UInt8} {st' : StackState}
    (hcall : st.openConsumingChannel cfg env r = (status, st')) :
    Settles r st st' ∧ st'.udpIoMessaging = st.udpIoMessaging ∧
      CipConnectionObject.Channelled env st.udpIoMessaging (st.conn r) (st'.conn r) := by
  have hpoint : ∀ result, st.openConsumingPointToPointConnection env r = result →
      Settles r st result.2 ∧ result.2.udpIoMessaging = st.udpIoMessaging ∧
        CipConnectionObject.Channelled env st.udpIoMessaging (st.conn r)
          (result.2.conn r) := by
    rintro result rfl
    unfold openConsumingPointToPointConnection
    split
    · exact ⟨Settles.refl r st, rfl, .refl _ _ _⟩
    · split
      · exact ⟨Settles.refl r st, rfl, .refl _ _ _⟩
      · have h₁ := settles_modifyConn r st (f := fun c =>
          { c with
            originatorAddress :=
              { sinFamily := afInet
                sinAddr := env.peerAddress
                sinPort := htons openerEipIoUdpPort }
            consumingSocket := st.udpIoMessaging }) rfl id
        exact ⟨⟨⟨h₁.writes.list, h₁.writes.others, h₁.writes.events, h₁.writes.dummy⟩,
          h₁.connectionId, h₁.settled, h₁.consumes⟩, rfl,
          .of_eq (Function.update_self r _ _) rfl⟩
  have hmulticast : ∀ result, st.openMulticastConnection cfg env .consuming r = result →
      Settles r st result.2 ∧ result.2.udpIoMessaging = st.udpIoMessaging ∧
        CipConnectionObject.Channelled env st.udpIoMessaging (st.conn r)
          (result.2.conn r) := by
    rintro result rfl
    obtain ⟨cpf, item, hopen | hopen⟩ :=
      openMulticastConnection_spec cfg env .consuming r st
    · rw [hopen]
      exact ⟨settles_cpf r st cpf, rfl, .refl _ _ _⟩
    · rw [hopen]
      exact ⟨(settles_cpf r st cpf).trans (settles_modifyConn r _ rfl id), rfl,
        .of_eq (Function.update_self r _ _) rfl⟩
  unfold openConsumingChannel at hcall
  split at hcall
  · generalize hopen : st.openMulticastConnection cfg env .consuming r = result at hcall
    obtain ⟨openStatus, st₁⟩ := result
    cases openStatus <;> cases hcall <;> exact hmulticast _ hopen
  · generalize hopen : st.openConsumingPointToPointConnection env r = result at hcall
    obtain ⟨openStatus, st₁⟩ := result
    cases openStatus <;> cases hcall <;> exact hpoint _ hopen
  · cases hcall
    exact ⟨Settles.refl r st, rfl, .refl _ _ _⟩

theorem processProductionInhibitTime_snd (c : CipConnectionObject) :
    ∃ inhibitTime, (processProductionInhibitTime c).2 =
      { c with productionInhibitTime := inhibitTime } := by
  unfold processProductionInhibitTime
  split
  · split
    · exact ⟨_, rfl⟩
    · split <;> exact ⟨c.productionInhibitTime, rfl⟩
  · exact ⟨c.productionInhibitTime, rfl⟩

theorem conn_modifyConn_twice (st : StackState) (r : ConnRef)
    (f g : CipConnectionObject → CipConnectionObject) :
    ((st.modifyConn r f).modifyConn r g).conn r = g (f (st.conn r)) := by
  rw [conn_modifyConn_self, conn_modifyConn_self]

theorem conn_setConn_self (st : StackState) (r : ConnRef) (c : CipConnectionObject) :
    (st.setConn r c).conn r = c := by
  simp [setConn, conn]

theorem writes_setConn (r : ConnRef) (st : StackState) (c : CipConnectionObject) :
    Writes r st (st.setConn r c) :=
  ⟨rfl, fun _ hs => by simp [setConn, conn, Function.update_of_ne hs], rfl, rfl⟩

/-- The slot with its inhibit time, before its paths are set up. -/
def configuredSlot (cfg : Config) (r : ConnRef) (inhibitTime : UInt16) (st : StackState) :
    StackState :=
  (((st.setConn r { st.conn r with productionInhibitTime := inhibitTime }).modifyConn r
    setIoConnectionCallbacks).generalConfiguration cfg r).modifyConn r
      fun c =>
        { c with
          consumingInstance := none
          consumedConnectionPathLength := 0
          producingInstance := none
          producedConnectionPathLength := 0 }

section ConfiguredSlot

variable (r : ConnRef) (inhibitTime : UInt16)

theorem configuredSlot_writes : Writes r st (st.configuredSlot cfg r inhibitTime) :=
  (((writes_setConn r st _).trans (writes_modifyConn r _ _)).trans
    (generalConfiguration_spec cfg r _).1).trans (writes_modifyConn r _ _)

theorem configuredSlot_stores : Stores st (st.configuredSlot cfg r inhibitTime) := by
  have hset : Stores st (st.setConn r { st.conn r with productionInhibitTime := inhibitTime }) :=
    ⟨rfl, rfl⟩
  exact ((hset.trans (stores_modifyConn r _ _)).trans (generalConfiguration_stores cfg r _)).trans
    (stores_modifyConn r _ _)

theorem configuredSlot_conn : (st.configuredSlot cfg r inhibitTime).conn r =
    { (st.conn r).prepared cfg inhibitTime st.connectionId with
      consumingInstance := none
      consumedConnectionPathLength := 0
      producingInstance := none
      producedConnectionPathLength := 0 } := by
  obtain ⟨-, -, hconfigured⟩ := generalConfiguration_spec cfg r
    ((st.setConn r { st.conn r with productionInhibitTime := inhibitTime }).modifyConn r
      setIoConnectionCallbacks)
  rw [conn_modifyConn_self, conn_setConn_self] at hconfigured
  rw [configuredSlot, conn_modifyConn_self, hconfigured]
  rfl

theorem configuredSlot_connectionId :
    (st.configuredSlot cfg r inhibitTime).connectionId =
      (st.conn r).connectionIdAfter st.connectionId := by
  obtain ⟨-, hid, -⟩ := generalConfiguration_spec cfg r
    ((st.setConn r { st.conn r with productionInhibitTime := inhibitTime }).modifyConn r
      setIoConnectionCallbacks)
  rw [conn_modifyConn_self, conn_setConn_self] at hid
  have hkeeps (st : StackState) (f : CipConnectionObject → CipConnectionObject) :
      (st.modifyConn r f).connectionId = st.connectionId := rfl
  rw [configuredSlot, hkeeps, hid, hkeeps]
  rfl

end ConfiguredSlot

/-- The inhibit time is refused, or the paths are set up behind the configuration. -/
theorem configureIoConnection_cases {r : ConnRef} {extended : UInt16} {st' : StackState}
    (hcall : st.configureIoConnection cfg r = .ok (extended, st')) :
    ∃ inhibitTime, (extended ≠ ExtendedStatus.success ∧
        st' = st.setConn r { st.conn r with productionInhibitTime := inhibitTime }) ∨
      (st.configuredSlot cfg r inhibitTime).setupConnectionPoints cfg r =
        .ok (extended, st') := by
  unfold configureIoConnection at hcall
  obtain ⟨inhibitTime, hinhibit⟩ := processProductionInhibitTime_snd (st.conn r)
  generalize processProductionInhibitTime (st.conn r) = processed at hcall hinhibit
  obtain ⟨extended₁, c⟩ := processed
  subst hinhibit
  simp only at hcall
  refine ⟨inhibitTime, ?_⟩
  split at hcall
  · rename_i herror
    cases hcall
    exact .inl ⟨herror, rfl⟩
  · exact .inr hcall

/-- What configuring a slot has done to it: nothing that matters when the inhibit
time was refused, else the object is the prepared request. -/
theorem configureIoConnection_spec {r : ConnRef} {extended : UInt16} {st' : StackState}
    (hr : r ∉ st.connectionList cfg)
    (hcall : st.configureIoConnection cfg r = .ok (extended, st')) :
    Writes r st st' ∧
      ((extended ≠ ExtendedStatus.success ∧ ∃ inhibitTime,
          st'.conn r = { st.conn r with productionInhibitTime := inhibitTime }) ∨
        ((∃ inhibitTime, (st'.conn r).settled =
            ((st.conn r).prepared cfg inhibitTime st.connectionId).settled) ∧
          (st'.conn r).ConsumesPath ∧
          st'.connectionId = (st.conn r).connectionIdAfter st.connectionId ∧
          (extended = ExtendedStatus.success →
            (st.conn r).tToOConnectionType = .multicast →
            ∀ s ∈ st.connectionList cfg,
              producerMismatch (st'.conn r) (st.conn s) = none) ∧
          (st'.conn r).consumingSocket = eipInvalidSocket ∧
          (st'.conn r).originatorAddress = (st.conn r).originatorAddress ∧
          (extended = ExtendedStatus.success →
            CipConnectionObject.Points cfg (st.assemblyLength cfg) (st.conn r)
              (st'.conn r)))) := by
  obtain ⟨inhibitTime, ⟨hrefused, rfl⟩ | hpoints⟩ := configureIoConnection_cases hcall
  · exact ⟨writes_setConn r st _, .inl ⟨hrefused, inhibitTime, conn_setConn_self st r _⟩⟩
  have hwrites : Writes r st (st.configuredSlot cfg r inhibitTime) :=
    configuredSlot_writes r inhibitTime
  have hstores : Stores st (st.configuredSlot cfg r inhibitTime) :=
    configuredSlot_stores r inhibitTime
  have hid : (st.configuredSlot cfg r inhibitTime).connectionId =
      (st.conn r).connectionIdAfter st.connectionId := configuredSlot_connectionId r inhibitTime
  have hconn := @configuredSlot_conn cfg st r inhibitTime
  generalize st.configuredSlot cfg r inhibitTime = st₁ at hpoints hwrites hstores hid hconn
  have hsettled : (st₁.conn r).settled =
      ((st.conn r).prepared cfg inhibitTime st.connectionId).settled := by
    rw [hconn]
    rfl
  have hlist : st₁.connectionList cfg = st.connectionList cfg := hwrites.connectionList_eq
  obtain ⟨hsettles, hagrees⟩ := setupConnectionPoints_settles (hlist ▸ hr) hpoints
  obtain ⟨hsocket, haddress, hassemblies⟩ := setupConnectionPoints_slot hpoints
  refine ⟨hwrites.trans hsettles.writes,
    .inr ⟨⟨inhibitTime, hsettles.settled.trans hsettled⟩, ?_, ?_, ?_, ?_, ?_, ?_⟩⟩
  · refine hsettles.consumes ?_
    rw [hconn]
    intro n hn
    cases hn
  · rw [hsettles.connectionId, hid]
  · intro hsuccess hmulticast s hs
    have hsr : s ≠ r := fun heq => hr (heq ▸ hs)
    have htype : (st₁.conn r).tToOConnectionType = .multicast :=
      (CipConnectionObject.settled_field hsettled (·.tToOConnectionType)
        fun _ => rfl).trans hmulticast
    have hagree := hagrees hsuccess htype s (hlist.symm ▸ hs)
    rwa [← hsettles.producerMismatch_eq, hwrites.others s hsr] at hagree
  · rw [hsocket, hconn]
    rfl
  · rw [haddress, hconn]
    rfl
  · intro hsuccess
    have hlengths : st₁.assemblyLength cfg = st.assemblyLength cfg :=
      funext hstores.assemblyLength_eq
    rw [← hlengths]
    exact (hassemblies hsuccess).of_prepared hsettled

/-- The outcomes of opening the producing channel of a slot that is not listed:
refused, a channel of its own, or joined to an existing producer. -/
inductive ProducingChannel (cfg : Config) (r : ConnRef) (st st' : StackState) :
    UInt8 → Prop
  | refused {status : UInt8} (failed : status ≠ GeneralStatus.success)
      (others : ∀ s, s ≠ r → st'.conn s = st.conn s)
      (slot : ∃ address, st'.conn r = { st.conn r with remoteAddress := address }) :
      ProducingChannel cfg r st st' status
  | plain (single : (st.conn r).tToOConnectionType ≠ .multicast)
      (others : ∀ s, s ≠ r → st'.conn s = st.conn s)
      (slot : ∃ socket address, (socket = (st.conn r).producingSocket ∨
          socket = st.udpIoMessaging) ∧
        st'.conn r = (st.conn r).producing socket address) :
      ProducingChannel cfg r st st' GeneralStatus.success
  | first (multicast : (st.conn r).tToOConnectionType = .multicast)
      (lonely : st.getExistingProducerIoConnection cfg true
        (st.conn r).producedPath.instanceId = none)
      (others : ∀ s, s ≠ r → st'.conn s = st.conn s)
      (slot : ∃ address, st'.conn r = (st.conn r).producing st.udpIoMessaging address) :
      ProducingChannel cfg r st st' GeneralStatus.success
  | join {existing : ConnRef}
      (multicast : (st.conn r).tToOConnectionType = .multicast)
      (producer : st.getExistingProducerIoConnection cfg true
        (st.conn r).producedPath.instanceId = some existing)
      (others : ∀ s, s ≠ r → s ≠ existing → st'.conn s = st.conn s)
      (left : st'.conn existing = leftBehind (st.conn r) (st.conn existing))
      (slot : ∃ address, st'.conn r = joining (st.conn existing) address (st.conn r)) :
      ProducingChannel cfg r st st' GeneralStatus.success

/-- The list, the events, the request and the id counter stay. -/
structure Keeps (st st' : StackState) : Prop where
  list : st'.store.connectionList = st.store.connectionList
  events : st'.events = st.events
  dummy : st'.dummy = st.dummy
  connectionId : st'.connectionId = st.connectionId

theorem openProducingMulticastConnection_spec {r : ConnRef} {st' : StackState}
    (hr : r ∉ st.connectionList cfg)
    (hmulticast : (st.conn r).tToOConnectionType = .multicast) {status : EipStatus}
    (hcall : st.openProducingMulticastConnection cfg env r = (status, st')) :
    Keeps st st' ∧ ProducingChannel cfg r st st'
      (if status = .error then GeneralStatus.connectionFailure else GeneralStatus.success) := by
  simp only [openProducingMulticastConnection] at hcall
  split at hcall
  · cases hcall
    exact ⟨⟨rfl, rfl, rfl, rfl⟩, .refused (by decide) (fun _ _ => rfl)
      ⟨(st.conn r).remoteAddress, rfl⟩⟩
  · split at hcall
    · rename_i j _ _ hnone
      obtain ⟨cpf, item, hopen | hopen⟩ :=
        openMulticastConnection_spec cfg env .producing r
          (st.setAddressInfoItem j { st.cpf.addressInfoItem j with
            typeId := ItemId.socketAddressInfoTargetToOriginator })
      · rw [hopen] at hcall
        cases hcall
        exact ⟨⟨rfl, rfl, rfl, rfl⟩, .refused (by decide) (fun _ _ => rfl)
          ⟨(st.conn r).remoteAddress, rfl⟩⟩
      · rw [hopen] at hcall
        cases hcall
        refine ⟨⟨rfl, rfl, rfl, rfl⟩, .first hmulticast hnone ?_ ?_⟩
        · intro s hs
          exact conn_modifyConn_of_ne _ hs _
        · exact ⟨_, conn_modifyConn_self _ r _⟩
    · rename_i j _ _ existing hexisting
      cases hcall
      have hmem : existing ∈ st.connectionList cfg := List.mem_of_find?_eq_some hexisting
      have hne : r ≠ existing := fun heq => hr (heq ▸ hmem)
      refine ⟨⟨rfl, rfl, rfl, rfl⟩, .join hmulticast hexisting ?_ ?_ ?_⟩
      · intro s hs hs'
        exact (conn_modifyConn_of_ne _ hs' _).trans (conn_modifyConn_of_ne _ hs _)
      · exact (conn_modifyConn_self _ existing _).trans
          (congrArg _ (conn_modifyConn_of_ne _ (Ne.symm hne) _))
      · exact ⟨_, (conn_modifyConn_of_ne _ hne _).trans (conn_modifyConn_self _ r _)⟩

theorem openProducingChannel_spec {r : ConnRef} {status : UInt8} {st' : StackState}
    (hr : r ∉ st.connectionList cfg)
    (hcall : st.openProducingChannel cfg env r = (status, st')) :
    Keeps st st' ∧ ProducingChannel cfg r st st' status := by
  unfold openProducingChannel at hcall
  split at hcall
  · rename_i hmulticast
    generalize hopen : st.openProducingMulticastConnection cfg env r = result at hcall
    obtain ⟨openStatus, st₁⟩ := result
    have hspec := openProducingMulticastConnection_spec hr hmulticast hopen
    cases openStatus <;> cases hcall <;> exact hspec
  · rename_i hpoint
    have hsingle : (st.conn r).tToOConnectionType ≠ .multicast := by simp [hpoint]
    simp only [openProducingPointToPointConnection] at hcall
    cases hqos : env.setQosOk .producing with
    | false =>
        simp only [hqos, if_true] at hcall
        cases hcall
        refine ⟨⟨rfl, rfl, rfl, rfl⟩, .refused (by decide) ?_
          ⟨_, conn_modifyConn_self _ r _⟩⟩
        intro s hs
        exact conn_modifyConn_of_ne _ hs _
    | true =>
        simp only [hqos, Bool.true_eq_false, if_false] at hcall
        cases hcall
        refine ⟨⟨rfl, rfl, rfl, rfl⟩, .plain hsingle ?_ ?_⟩
        · intro s hs
          exact (conn_modifyConn_of_ne _ hs _).trans (conn_modifyConn_of_ne _ hs _)
        · exact ⟨_, _, .inr rfl, conn_modifyConn_twice _ r _ _⟩
  · rename_i hnotMulticast _
    cases hcall
    exact ⟨⟨rfl, rfl, rfl, rfl⟩, .plain hnotMulticast (fun _ _ => rfl)
      ⟨(st.conn r).producingSocket, (st.conn r).remoteAddress, .inl rfl, rfl⟩⟩

end StackState

end Opener

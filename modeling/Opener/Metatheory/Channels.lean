import Opener.Metatheory.ItemCounts

/-!
`OpenCommunicationChannels` against the open functions of the two directions. The
comparison for a multicast O->T channel is the wrong way round, so such a request is
refused when the channel was opened and goes on when it was not.
-/

namespace Opener

namespace StackState

variable {cfg : Config} {env : Environment} {st : StackState} {r : ConnRef}

/-- What the open function of the O->T direction returns, none for a direction that has
no such function. -/
def consumingResult (cfg : Config) (env : Environment) (r : ConnRef) (st : StackState) :
    Option EipStatus :=
  match (st.conn r).oToTConnectionType with
  | .multicast => some (st.openMulticastConnection cfg env .consuming r).1
  | .pointToPoint => some (st.openConsumingPointToPointConnection env r).1
  | .null | .invalid => none

/-- The same for the T->O direction, whose functions return different types. -/
def producingResult (cfg : Config) (env : Environment) (r : ConnRef) (st : StackState) :
    Option Bool :=
  match (st.conn r).tToOConnectionType with
  | .multicast => some (decide ((st.openProducingMulticastConnection cfg env r).1 = .ok))
  | .pointToPoint => some (st.openProducingPointToPointConnection env r).1
  | .null | .invalid => none

/-- The open function of each direction succeeds, O->T first. -/
def OpensEachDirection (cfg : Config) (env : Environment) (r : ConnRef) (st : StackState) :
    Prop :=
  (∀ status ∈ (st.createUdpSocket env).consumingResult cfg env r, status = .ok) ∧
    ∀ opened ∈ ((st.createUdpSocket env).openConsumingChannel cfg env r).2.producingResult
      cfg env r, opened = true

instance instDecidableOpensEachDirection (cfg : Config) (env : Environment) (r : ConnRef)
    (st : StackState) : Decidable (OpensEachDirection cfg env r st) :=
  inferInstanceAs (Decidable (_ ∧ _))

/-- A T->O channel cannot be opened: its packets cannot be given a priority, or there is
no slot for its address. A multicast channel that exists already needs no priority. -/
def producingUnavailable (cfg : Config) (env : Environment) (r : ConnRef) (st : StackState) :
    Bool :=
  match (st.conn r).tToOConnectionType with
  | .multicast =>
      (st.cpf.allocateSocketAddressInfoItem ItemId.socketAddressInfoTargetToOriginator).isNone ||
        ((st.getExistingProducerIoConnection cfg true
            (st.conn r).producedPath.instanceId).isNone && !env.setQosOk .producing)
  | .pointToPoint => !env.setQosOk .producing
  | .null | .invalid => false

theorem openConsumingPointToPoint_or (env : Environment) (r : ConnRef) (st : StackState) :
    (st.openConsumingPointToPointConnection env r).1 = .error ∨
      (st.openConsumingPointToPointConnection env r).1 = .ok := by
  simp only [openConsumingPointToPointConnection]
  split
  · exact .inl rfl
  · split
    · exact .inl rfl
    · exact .inr rfl

theorem openMulticast_or (cfg : Config) (env : Environment)
    (direction : UdpCommunicationDirection) (r : ConnRef) (st : StackState) :
    (st.openMulticastConnection cfg env direction r).1 = .error ∨
      (st.openMulticastConnection cfg env direction r).1 = .ok := by
  obtain ⟨cpf, item, hopen | hopen⟩ := openMulticastConnection_spec cfg env direction r st
  · exact .inl (congrArg Prod.fst hopen)
  · exact .inr (congrArg Prod.fst hopen)

theorem openProducingMulticast_or (cfg : Config) (env : Environment) (r : ConnRef)
    (st : StackState) :
    (st.openProducingMulticastConnection cfg env r).1 = .error ∨
      (st.openProducingMulticastConnection cfg env r).1 = .ok := by
  simp only [openProducingMulticastConnection]
  split
  · exact .inl rfl
  · split
    · exact openMulticast_or cfg env .producing r _
    · exact .inr rfl

theorem openMulticast_refused {direction : UdpCommunicationDirection}
    (hqos : env.setQosOk direction = false) :
    (st.openMulticastConnection cfg env direction r).1 = .error := by
  simp only [openMulticastConnection]
  split
  · rfl
  · split
    · rfl
    · rfl

theorem openConsumingChannel_multicast (h : (st.conn r).oToTConnectionType = .multicast) :
    (st.openConsumingChannel cfg env r).1 = GeneralStatus.success ↔
      ¬∀ status ∈ st.consumingResult cfg env r, status = .ok := by
  have hstatus := openMulticast_or cfg env .consuming r st
  simp only [openConsumingChannel, consumingResult, h, Option.mem_some_iff, forall_eq']
  generalize st.openMulticastConnection cfg env .consuming r = result at hstatus
  obtain ⟨status, st'⟩ := result
  obtain rfl | rfl := hstatus
  · simp
  · simp [GeneralStatus.success, GeneralStatus.connectionFailure]

theorem openConsumingChannel_iff (h : (st.conn r).oToTConnectionType ≠ .multicast) :
    (st.openConsumingChannel cfg env r).1 = GeneralStatus.success ↔
      ∀ status ∈ st.consumingResult cfg env r, status = .ok := by
  simp only [openConsumingChannel, consumingResult]
  cases htype : (st.conn r).oToTConnectionType with
  | multicast => exact absurd htype h
  | null | invalid => simp
  | pointToPoint =>
      have hstatus := openConsumingPointToPoint_or env r st
      simp only [Option.mem_some_iff, forall_eq']
      generalize st.openConsumingPointToPointConnection env r = result at hstatus
      obtain ⟨status, st'⟩ := result
      obtain rfl | rfl := hstatus
      · simp [GeneralStatus.success, GeneralStatus.connectionFailure]
      · simp

theorem openProducingMulticast_iff :
    (st.openProducingMulticastConnection cfg env r).1 = .ok ↔
      st.cpf.allocateSocketAddressInfoItem ItemId.socketAddressInfoTargetToOriginator ≠ none ∧
        (st.getExistingProducerIoConnection cfg true (st.conn r).producedPath.instanceId ≠ none ∨
          env.setQosOk .producing = true) := by
  simp only [openProducingMulticastConnection]
  cases hitem : st.cpf.allocateSocketAddressInfoItem
      ItemId.socketAddressInfoTargetToOriginator with
  | none => simp
  | some j =>
      cases st.getExistingProducerIoConnection cfg true (st.conn r).producedPath.instanceId with
      | some existing => simp
      | none =>
          have hopens := @openMulticastConnection_producing cfg env
            (st.setAddressInfoItem j { st.cpf.addressInfoItem j with
              typeId := ItemId.socketAddressInfoTargetToOriginator }) r
            (CommonPacketFormatData.addressInfoItemOfType_setAddressInfoItem st.cpf j _)
          simp only [ne_eq, reduceCtorEq, not_false_eq_true, not_true_eq_false, false_or, true_and]
          constructor
          · intro hok
            by_contra hqos
            rw [openMulticast_refused (Bool.eq_false_iff.mpr hqos)] at hok
            cases hok
          · exact hopens

theorem producingResult_iff :
    (∀ opened ∈ st.producingResult cfg env r, opened = true) ↔
      producingUnavailable cfg env r st = false := by
  rw [producingResult, producingUnavailable]
  cases (st.conn r).tToOConnectionType with
  | null | invalid => simp
  | pointToPoint =>
      simp only [openProducingPointToPointConnection, Option.mem_some_iff, forall_eq']
      cases env.setQosOk .producing <;> simp
  | multicast =>
      simp only [Option.mem_some_iff, forall_eq', decide_eq_true_eq, openProducingMulticast_iff]
      simp only [Bool.or_eq_false_iff, Bool.and_eq_false_iff, Option.isNone_eq_false_iff,
        Bool.not_eq_false', Option.isSome_iff_ne_none]

theorem openProducingChannel_iff :
    (st.openProducingChannel cfg env r).1 = GeneralStatus.success ↔
      ∀ opened ∈ st.producingResult cfg env r, opened = true := by
  simp only [openProducingChannel, producingResult]
  cases (st.conn r).tToOConnectionType with
  | null | invalid => simp
  | pointToPoint =>
      simp only [Option.mem_some_iff, forall_eq']
      generalize st.openProducingPointToPointConnection env r = result
      obtain ⟨opened, st'⟩ := result
      cases opened <;> simp [GeneralStatus.success, GeneralStatus.connectionFailure]
  | multicast =>
      have hstatus := openProducingMulticast_or cfg env r st
      simp only [Option.mem_some_iff, forall_eq', decide_eq_true_eq]
      generalize st.openProducingMulticastConnection cfg env r = result at hstatus
      obtain ⟨status, st'⟩ := result
      obtain rfl | rfl := hstatus
      · simp [GeneralStatus.success, GeneralStatus.connectionFailure]
      · simp

theorem getExistingProducerIoConnection_settles {st' : StackState} (h : Settles r st st')
    (multicastOnly : Bool) (inputPoint : UInt16) :
    st'.getExistingProducerIoConnection cfg multicastOnly inputPoint =
      st.getExistingProducerIoConnection cfg multicastOnly inputPoint := by
  have hlist : st'.connectionList cfg = st.connectionList cfg := by
    rw [connectionList, h.writes.list, connectionList]
  have hconn : ∀ s, (st'.conn s).settled = (st.conn s).settled := by
    intro s
    by_cases hs : s = r
    · rw [hs, h.settled]
    · rw [h.writes.others s hs]
  simp only [getExistingProducerIoConnection, findConnection, hlist]
  congr 1
  funext s
  exact CipConnectionObject.settled_field (hconn s) (fun c =>
    c.isTypeIOConnection && c.producedPath.instanceId = inputPoint &&
      c.producingSocket ≠ eipInvalidSocket &&
      (c.tToOConnectionType = .multicast ||
        (!multicastOnly && c.tToOConnectionType = .pointToPoint))) fun _ => rfl

theorem allocate_isNone (cpf : CommonPacketFormatData) (type : UInt16) :
    (cpf.allocateSocketAddressInfoItem type).isNone =
      (CommonPacketFormatData.withSlot type cpf.slots).isNone := by
  cases h : cpf.allocateSocketAddressInfoItem type with
  | none => rw [CommonPacketFormatData.withSlot_of_allocate_none h]; rfl
  | some j =>
      rw [CommonPacketFormatData.withSlot_of_allocate { typeId := type } h rfl]
      rfl

/-- A consuming multicast channel takes nothing that the other direction needs. -/
theorem producingUnavailable_multicast (h : (st.conn r).oToTConnectionType = .multicast) :
    producingUnavailable cfg env r (st.openConsumingChannel cfg env r).2 =
      producingUnavailable cfg env r st := by
  have hslots : (st.openConsumingChannel cfg env r).2.cpf.slots = st.cpf.slots := by
    obtain ⟨hslots, -⟩ | ⟨-, -, -, hpoint⟩ := slots_openConsumingChannel cfg env r st
    · exact hslots
    · rw [h] at hpoint
      cases hpoint
  generalize hopen : st.openConsumingChannel cfg env r = result at hslots ⊢
  obtain ⟨status, st'⟩ := result
  obtain ⟨hsettles, -⟩ := openConsumingChannel_settles hopen
  have htype : (st'.conn r).tToOConnectionType = (st.conn r).tToOConnectionType :=
    CipConnectionObject.settled_field hsettles.settled (·.tToOConnectionType) fun _ => rfl
  have hinput : (st'.conn r).producedPath.instanceId = (st.conn r).producedPath.instanceId :=
    CipConnectionObject.settled_field hsettles.settled (·.producedPath.instanceId) fun _ => rfl
  rw [producingUnavailable, producingUnavailable, allocate_isNone, allocate_isNone, hslots,
    htype, hinput, getExistingProducerIoConnection_settles hsettles]

theorem producingUnavailable_createUdpSocket (cfg : Config) (env : Environment) (r : ConnRef)
    (st : StackState) :
    producingUnavailable cfg env r (st.createUdpSocket env) =
      producingUnavailable cfg env r st := by
  obtain ⟨masterSocket, hcreate⟩ := createUdpSocket_eq env st
  rw [hcreate]
  rfl

/-- T->O is opened only after O->T, and both answers have to be a success. -/
theorem answer_iff (cfg : Config) (env : Environment) (r : ConnRef)
    (result : UInt8 × StackState) :
    (if result.1 ≠ GeneralStatus.success then result
      else result.2.openProducingChannel cfg env r).1 = GeneralStatus.success ↔
      result.1 = GeneralStatus.success ∧
        (result.2.openProducingChannel cfg env r).1 = GeneralStatus.success := by
  split
  · rename_i hfailed
    exact ⟨fun h => absurd h hfailed, fun h => absurd h.1 hfailed⟩
  · rename_i hopened
    exact ⟨fun h => ⟨not_not.mp hopened, h⟩, And.right⟩

/-- Success means that each direction was opened, except that a multicast O->T direction
is taken for opened when it is not, which shows as soon as T->O can be opened. -/
theorem openCommunicationChannels_iff (cfg : Config) (env : Environment) (r : ConnRef)
    (st : StackState) :
    ((st.openCommunicationChannels cfg env r).1 = GeneralStatus.success ↔
        OpensEachDirection cfg env r st) ↔
      ((st.conn r).oToTConnectionType ≠ .multicast ∨
        producingUnavailable cfg env r st = true) := by
  have hconn : (st.createUdpSocket env).conn r = st.conn r := by
    obtain ⟨masterSocket, hcreate⟩ := createUdpSocket_eq env st
    rw [hcreate]
    rfl
  rw [← producingUnavailable_createUdpSocket, OpensEachDirection, openCommunicationChannels,
    ← hconn]
  generalize st.createUdpSocket env = st₁
  have hproducing := @openProducingChannel_iff cfg env (st₁.openConsumingChannel cfg env r).2 r
  have hanswer := answer_iff cfg env r (st₁.openConsumingChannel cfg env r)
  by_cases htype : (st₁.conn r).oToTConnectionType = .multicast
  · have hboth := hanswer.trans (and_congr (openConsumingChannel_multicast htype) hproducing)
    have havailable := @producingResult_iff cfg env (st₁.openConsumingChannel cfg env r).2 r
    rw [producingUnavailable_multicast htype] at havailable
    refine (iff_congr hboth Iff.rfl).trans ?_
    rw [havailable]
    generalize (∀ status ∈ consumingResult cfg env r st₁, status = EipStatus.ok) = opens
    cases producingUnavailable cfg env r st₁ with
    | true => simp
    | false => simp [htype]
  · have hboth := hanswer.trans (and_congr (openConsumingChannel_iff htype) hproducing)
    exact iff_of_true hboth (.inl htype)

open SampleApplication in
/-- O->T is multicast: without an address item its open function fails, the request is
granted and the connection has no socket to receive on. With the item it is refused. -/
theorem openCommunicationChannels_multicast_sample :
    ∃ st, Reachable config st ∧ ∃ r ∈ st.connectionList config,
      (st.conn r).state = .established ∧ (st.conn r).consumingSocket = eipInvalidSocket ∧
        (st.conn r).oToTConnectionType = .multicast ∧
        (st.openCommunicationChannels config (environment 0 20) r).1 = GeneralStatus.success ∧
        ¬OpensEachDirection config (environment 0 20) r st := by
  obtain ⟨st, hreachable, hst⟩ := reachable_of_ends config
    [request { exclusiveOwner 1 1 pointToPoint with oToTParameters := multicast + 38 }]
    (fun st => decide (∃ r ∈ st.connectionList config,
      (st.conn r).state = .established ∧ (st.conn r).consumingSocket = eipInvalidSocket ∧
        (st.conn r).oToTConnectionType = .multicast ∧
        (st.openCommunicationChannels config (environment 0 20) r).1 = GeneralStatus.success ∧
        ¬OpensEachDirection config (environment 0 20) r st))
    (by decide +kernel)
  exact ⟨st, hreachable, of_decide_eq_true hst⟩

end StackState

end Opener

import Opener.Metatheory.StoredReplies

/-!
The item count of a reply. It is written from one field and the items from others,
so it is right when the parts that fill these fields agree: the parser for most
services, the channels and the answer of a Forward Open, the answer of a Forward
Close. A stored reply was right when it was sent.
-/

namespace Opener

namespace CommonPacketFormatData

variable {cpf cpf' : CommonPacketFormatData}

/-- The items that `AssembleLinearMessage` writes after the count, in order. -/
def encodedItems (response : MessageRouterResponse) (cpf : CommonPacketFormatData) :
    List (List UInt8) :=
  match addressItemBytes cpf with
  | none => []
  | some addressItem =>
      addressItem ::
        [dataItemBytes response cpf,
          socketAddressInfoOfType cpf ItemId.socketAddressInfoOriginatorToTarget,
          socketAddressInfoOfType cpf ItemId.socketAddressInfoTargetToOriginator].filter (· ≠ [])

theorem flatten_filter_ne_nil (items : List (List UInt8)) :
    (items.filter (· ≠ [])).flatten = items.flatten := by
  induction items with
  | nil => rfl
  | cons item items ih =>
      by_cases hitem : item = []
      · rw [List.filter_cons_of_neg (by simp [hitem]), ih, hitem]
        rfl
      · rw [List.filter_cons_of_pos (by simp [hitem]), List.flatten_cons, ih, List.flatten_cons]

theorem assembleLinearMessage_eq (response : MessageRouterResponse)
    (cpf : CommonPacketFormatData) :
    cpf.assembleLinearMessage response =
      dintBytes 0 ++ intBytes 0 ++ intBytes cpf.itemCount ++
        (cpf.encodedItems response).flatten := by
  simp only [assembleLinearMessage, encodedItems]
  cases addressItemBytes cpf with
  | none => rw [List.flatten_nil, List.append_nil]
  | some addressItem =>
      simp only [List.flatten_cons, flatten_filter_ne_nil, List.flatten_nil, List.append_nil,
        List.append_assoc]

/-- The count says how many items follow. -/
def CountsItems (response : MessageRouterResponse) (cpf : CommonPacketFormatData) : Prop :=
  cpf.itemCount.toNat = (cpf.encodedItems response).length

/-- The types of the two socket address slots. -/
def slots (cpf : CommonPacketFormatData) : UInt16 × UInt16 :=
  (cpf.addressInfoItem0.typeId, cpf.addressInfoItem1.typeId)

/-- The slots are filled from the first on, and not twice with one type. -/
def properSlots (slots : UInt16 × UInt16) : Bool :=
  slots ∈ [(0, 0), (ItemId.socketAddressInfoOriginatorToTarget, 0),
    (ItemId.socketAddressInfoTargetToOriginator, 0),
    (ItemId.socketAddressInfoOriginatorToTarget, ItemId.socketAddressInfoTargetToOriginator),
    (ItemId.socketAddressInfoTargetToOriginator, ItemId.socketAddressInfoOriginatorToTarget)]

def carries (type : UInt16) (slots : UInt16 × UInt16) : Bool :=
  slots.1 = type || slots.2 = type

/-- How many socket address items are written: one for each type. -/
def socketCount (slots : UInt16 × UInt16) : Nat :=
  (carries ItemId.socketAddressInfoOriginatorToTarget slots).toNat +
    (carries ItemId.socketAddressInfoTargetToOriginator slots).toNat

theorem socketAddressInfoOfType_eq_nil (type : UInt16) :
    cpf.socketAddressInfoOfType type = [] ↔ carries type cpf.slots = false := by
  rw [socketAddressInfoOfType, addressInfoItemOfType, carries, slots]
  split
  · rename_i hnone
    split at hnone
    · cases hnone
    · split at hnone
      · cases hnone
      · simp [*]
  · rename_i j hsome
    have hne : socketAddressInfoBytes (cpf.addressInfoItem j) ≠ [] := List.cons_ne_nil _ _
    split at hsome
    · simp [*]
    · split at hsome
      · simp [*]
      · cases hsome

/-- With an address item and a data item of a known type. -/
theorem length_encodedItems (response : MessageRouterResponse)
    (haddress : cpf.addressItem.typeId = ItemId.nullAddress ∨
      cpf.addressItem.typeId = ItemId.connectionAddress)
    (hdata : cpf.dataItem.typeId = ItemId.unconnectedDataItem ∨
      cpf.dataItem.typeId = ItemId.connectedDataItem) :
    (cpf.encodedItems response).length = 2 + socketCount cpf.slots := by
  obtain ⟨addressItem, hitem⟩ : ∃ addressItem, addressItemBytes cpf = some addressItem := by
    rw [addressItemBytes]
    obtain h | h := haddress <;> rw [h] <;> exact ⟨_, rfl⟩
  have hbytes : dataItemBytes response cpf ≠ [] := by
    simp only [dataItemBytes]
    obtain h | h := hdata <;> rw [h] <;> exact List.cons_ne_nil _ _
  have hcons := fun type => @socketAddressInfoOfType_eq_nil cpf type
  rw [encodedItems, hitem, socketCount]
  simp only [List.filter_cons, List.filter_nil, ne_eq, hbytes, not_false_eq_true, decide_true,
    if_true, hcons, List.length_cons]
  cases carries ItemId.socketAddressInfoOriginatorToTarget cpf.slots <;>
    cases carries ItemId.socketAddressInfoTargetToOriginator cpf.slots <;> rfl

/-- The count that a granted Forward Open writes. -/
theorem count_of_properSlots {slots : UInt16 × UInt16} (h : properSlots slots = true) :
    (if slots.1 ≠ 0 then if slots.2 ≠ 0 then 4 else 3 else 2 : UInt16).toNat =
      2 + socketCount slots := by
  rw [properSlots] at h
  simp only [List.mem_cons, List.not_mem_nil, or_false, decide_eq_true_eq] at h
  obtain rfl | rfl | rfl | rfl | rfl := h <;> rfl

/-- The slots after the first one that is unset or of the type gets the type. -/
def withSlot (type : UInt16) (slots : UInt16 × UInt16) : Option (UInt16 × UInt16) :=
  if slots.1 = 0 ∨ slots.1 = type then some (type, slots.2)
  else if slots.2 = 0 ∨ slots.2 = type then some (slots.1, type)
  else none

theorem withSlot_of_allocate {type : UInt16} {j : Fin 2} (item : SocketAddressInfoItem)
    (h : cpf.allocateSocketAddressInfoItem type = some j) (htype : item.typeId = type) :
    withSlot type cpf.slots = some (cpf.setAddressInfoItem j item).slots := by
  rw [allocateSocketAddressInfoItem] at h
  rw [withSlot, slots, slots, setAddressInfoItem]
  split at h
  · cases h
    rw [if_pos (by assumption), if_pos rfl, htype]
  · split at h
    · cases h
      rw [if_neg (by assumption), if_pos (by assumption), if_neg (by decide), htype]
    · cases h

theorem withSlot_of_allocate_none {type : UInt16}
    (h : cpf.allocateSocketAddressInfoItem type = none) : withSlot type cpf.slots = none := by
  rw [allocateSocketAddressInfoItem] at h
  rw [withSlot, slots]
  split at h
  · cases h
  · split at h
    · cases h
    · rw [if_neg (by assumption), if_neg (by assumption)]

theorem slots_setAddressInfoItem (j : Fin 2) (item : SocketAddressInfoItem)
    (h : item.typeId = (cpf.addressInfoItem j).typeId) :
    (cpf.setAddressInfoItem j item).slots = cpf.slots := by
  rw [addressInfoItem] at h
  rw [setAddressInfoItem, slots, slots]
  split
  · rw [if_pos (by assumption)] at h
    rw [h]
  · rw [if_neg (by assumption)] at h
    rw [h]

theorem addressInfoItemOfType_setAddressInfoItem (cpf : CommonPacketFormatData) (j : Fin 2)
    (item : SocketAddressInfoItem) :
    (cpf.setAddressInfoItem j item).addressInfoItemOfType item.typeId ≠ none := by
  rw [setAddressInfoItem, addressInfoItemOfType]
  split
  · rw [if_pos rfl]
    exact Option.some_ne_none _
  · split
    · exact Option.some_ne_none _
    · rw [if_pos rfl]
      exact Option.some_ne_none _

theorem properSlots_withSlot {type : UInt16} {before after : UInt16 × UInt16}
    (htype : type = ItemId.socketAddressInfoOriginatorToTarget ∨
      type = ItemId.socketAddressInfoTargetToOriginator)
    (h : properSlots before = true) (hafter : withSlot type before = some after) :
    properSlots after = true := by
  rw [properSlots] at h
  simp only [List.mem_cons, List.not_mem_nil, or_false, decide_eq_true_eq] at h
  obtain rfl | rfl := htype <;> obtain rfl | rfl | rfl | rfl | rfl := h <;> cases hafter <;> rfl

end CommonPacketFormatData

namespace StackState

open CommonPacketFormatData

variable {cfg : Config} {env : Environment} {st : StackState}

theorem slots_fillMulticastItem (cfg : Config) (j : Fin 2) (st : StackState) :
    (st.fillMulticastItem cfg j).cpf.slots = st.cpf.slots := by
  rw [fillMulticastItem]
  split
  · rename_i htype
    exact slots_setAddressInfoItem j _ htype.symm
  · rfl

theorem slots_openMulticastConnection (cfg : Config) (env : Environment)
    (direction : UdpCommunicationDirection) (r : ConnRef) (st : StackState) :
    (st.openMulticastConnection cfg env direction r).2.cpf.slots = st.cpf.slots := by
  simp only [openMulticastConnection]
  split
  · rfl
  · rename_i j _
    split
    · exact slots_fillMulticastItem cfg j st
    · split
      · exact slots_fillMulticastItem cfg j st
      · exact slots_fillMulticastItem cfg j st

/-- A producing multicast channel that has its item fails only with the socket
option. -/
theorem openMulticastConnection_producing {r : ConnRef}
    (hitem : st.cpf.addressInfoItemOfType ItemId.socketAddressInfoTargetToOriginator ≠ none)
    (hqos : env.setQosOk .producing = true) :
    (st.openMulticastConnection cfg env .producing r).1 = .ok := by
  simp only [openMulticastConnection]
  split
  · rename_i hnone
    exact absurd hnone hitem
  · rename_i j hj
    have htype : (st.cpf.addressInfoItem j).typeId =
        ItemId.socketAddressInfoTargetToOriginator := by
      rw [addressInfoItemOfType] at hj
      split at hj
      · cases hj
        assumption
      · split at hj
        · cases hj
          assumption
        · cases hj
    have hfamily : ((st.fillMulticastItem cfg j).cpf.addressInfoItem j).sinFamily =
        htons afInet := by
      rw [fillMulticastItem, if_pos htype]
      obtain rfl | rfl : j = 0 ∨ j = 1 := by omega
      · rfl
      · rfl
    rw [if_neg (not_not.mpr hfamily), if_neg (by simp [hqos])]

/-- The consuming channel takes a slot exactly when it is opened point-to-point. -/
theorem slots_openConsumingChannel (cfg : Config) (env : Environment) (r : ConnRef)
    (st : StackState) :
    let result := st.openConsumingChannel cfg env r
    (result.2.cpf.slots = st.cpf.slots ∧
        ((st.conn r).oToTConnectionType = .pointToPoint → result.1 ≠ GeneralStatus.success)) ∨
      (result.1 = GeneralStatus.success ∧ env.setQosOk .consuming = true ∧
        withSlot ItemId.socketAddressInfoOriginatorToTarget st.cpf.slots =
          some result.2.cpf.slots ∧
        (st.conn r).oToTConnectionType = .pointToPoint) := by
  have hfailure : GeneralStatus.connectionFailure ≠ GeneralStatus.success := by decide
  simp only [openConsumingChannel]
  cases htype : (st.conn r).oToTConnectionType with
  | null | invalid => exact .inl ⟨rfl, fun h => by cases h⟩
  | multicast =>
      have hslots := slots_openMulticastConnection cfg env .consuming r st
      simp only
      generalize st.openMulticastConnection cfg env .consuming r = result at hslots ⊢
      obtain ⟨status, st'⟩ := result
      cases status <;> exact .inl ⟨hslots, fun h => by cases h⟩
  | pointToPoint =>
      simp only [openConsumingPointToPointConnection]
      cases hitem : st.cpf.allocateSocketAddressInfoItem
          ItemId.socketAddressInfoOriginatorToTarget with
      | none => exact .inl ⟨rfl, fun _ => hfailure⟩
      | some j =>
          cases hqos : env.setQosOk .consuming with
          | false => exact .inl ⟨rfl, fun _ => hfailure⟩
          | true => exact .inr ⟨rfl, rfl, withSlot_of_allocate _ hitem rfl, trivial⟩

/-- The producing channel takes a slot exactly when it is a multicast channel, and a
failure leaves one behind only without the socket option. -/
theorem slots_openProducingChannel (cfg : Config) (env : Environment) (r : ConnRef)
    (st : StackState) :
    let result := st.openProducingChannel cfg env r
    (result.2.cpf.slots = st.cpf.slots ∧
        (result.1 ≠ GeneralStatus.success →
          ((st.conn r).tToOConnectionType = .pointToPoint ∧ env.setQosOk .producing = false) ∨
            withSlot ItemId.socketAddressInfoTargetToOriginator st.cpf.slots = none)) ∨
      (withSlot ItemId.socketAddressInfoTargetToOriginator st.cpf.slots =
          some result.2.cpf.slots ∧
        (result.1 = GeneralStatus.success ∨
          ((st.conn r).tToOConnectionType = .multicast ∧ env.setQosOk .producing = false))) := by
  simp only [openProducingChannel]
  cases htype : (st.conn r).tToOConnectionType with
  | null | invalid => exact .inl ⟨rfl, fun h => absurd rfl h⟩
  | pointToPoint =>
      simp only [openProducingPointToPointConnection]
      cases hqos : env.setQosOk .producing with
      | false => exact .inl ⟨rfl, fun _ => .inl ⟨trivial, rfl⟩⟩
      | true => exact .inl ⟨rfl, fun h => absurd rfl h⟩
  | multicast =>
      simp only [openProducingMulticastConnection]
      cases hitem : st.cpf.allocateSocketAddressInfoItem
          ItemId.socketAddressInfoTargetToOriginator with
      | none => exact .inl ⟨rfl, fun _ => .inr (withSlot_of_allocate_none hitem)⟩
      | some j =>
          have hadded := withSlot_of_allocate { st.cpf.addressInfoItem j with
            typeId := ItemId.socketAddressInfoTargetToOriginator } hitem rfl
          refine .inr ?_
          cases st.getExistingProducerIoConnection cfg true
              (st.conn r).producedPath.instanceId with
          | some existing =>
              refine ⟨hadded.trans (congrArg some (Eq.symm ?_)), .inl rfl⟩
              dsimp only
              rw [joinProducingMulticastConnection]
              exact slots_setAddressInfoItem j _ rfl
          | none =>
              dsimp only
              have hslots := slots_openMulticastConnection cfg env .producing r
                (st.setAddressInfoItem j { st.cpf.addressInfoItem j with
                  typeId := ItemId.socketAddressInfoTargetToOriginator })
              have hopens := @openMulticastConnection_producing cfg env
                (st.setAddressInfoItem j { st.cpf.addressInfoItem j with
                  typeId := ItemId.socketAddressInfoTargetToOriginator }) r
                (addressInfoItemOfType_setAddressInfoItem st.cpf j _)
              rw [hadded]
              generalize (st.setAddressInfoItem j { st.cpf.addressInfoItem j with
                typeId := ItemId.socketAddressInfoTargetToOriginator }).openMulticastConnection
                cfg env .producing r = result at hslots hopens ⊢
              obtain ⟨status, st'⟩ := result
              cases status with
              | ok | okSend => exact ⟨congrArg some hslots.symm, .inl rfl⟩
              | error =>
                  refine ⟨congrArg some hslots.symm, .inr ⟨trivial, ?_⟩⟩
                  cases hqos : env.setQosOk .producing with
                  | false => rfl
                  | true => exact absurd (hopens hqos) EipStatus.noConfusion

/-- The channels of a connection can be opened without leaving a slot behind. -/
def leavesNoSlot (env : Environment) (c : CipConnectionObject) : Bool :=
  env.setQosOk .producing ||
    if c.oToTConnectionType = .pointToPoint then
      !env.setQosOk .consuming ||
        (c.tToOConnectionType ≠ .multicast && c.tToOConnectionType ≠ .pointToPoint)
    else c.tToOConnectionType ≠ .multicast

theorem leavesNoSlot_congr {c d : CipConnectionObject}
    (hoToT : d.oToTConnectionType = c.oToTConnectionType)
    (htToO : d.tToOConnectionType = c.tToOConnectionType) :
    leavesNoSlot env d = leavesNoSlot env c := by
  rw [leavesNoSlot, leavesNoSlot, hoToT, htToO]

/-- Slots stay proper, and a failure of the channels leaves empty slots empty. -/
theorem slots_openCommunicationChannels (cfg : Config) (env : Environment) (r : ConnRef)
    (st : StackState) :
    let result := st.openCommunicationChannels cfg env r
    (properSlots st.cpf.slots = true → properSlots result.2.cpf.slots = true) ∧
      (st.cpf.slots = (0, 0) → result.1 ≠ GeneralStatus.success →
        leavesNoSlot env (st.conn r) = true → result.2.cpf.slots = (0, 0)) := by
  obtain ⟨masterSocket, hcreate⟩ := createUdpSocket_eq env st
  have hconsuming := slots_openConsumingChannel cfg env r (st.createUdpSocket env)
  have hslots : (st.createUdpSocket env).cpf.slots = st.cpf.slots := by rw [hcreate]
  have hconn : (st.createUdpSocket env).conn r = st.conn r := by rw [hcreate]; rfl
  simp only [openCommunicationChannels]
  rw [hslots, hconn] at hconsuming
  cases hopen : (st.createUdpSocket env).openConsumingChannel cfg env r with
  | mk status st₁ =>
      rw [hopen] at hconsuming
      dsimp only at hconsuming ⊢
      have htypes : (st₁.conn r).tToOConnectionType = (st.conn r).tToOConnectionType := by
        rw [← hconn]
        exact CipConnectionObject.settled_field (openConsumingChannel_settles hopen).1.settled
          (·.tToOConnectionType) fun _ => rfl
      have hproper₁ : properSlots st.cpf.slots = true → properSlots st₁.cpf.slots = true := by
        intro hproper
        obtain ⟨hsame, -⟩ | ⟨-, -, hadded, -⟩ := hconsuming
        · rw [hsame]
          exact hproper
        · exact properSlots_withSlot (.inl rfl) hproper hadded
      split
      · rename_i hfailed
        refine ⟨hproper₁, fun hempty _ _ => ?_⟩
        obtain ⟨hsame, -⟩ | ⟨hsuccess, -, -⟩ := hconsuming
        · rw [hsame, hempty]
        · exact absurd hsuccess hfailed
      · rename_i hsuccess
        have hproducing := slots_openProducingChannel cfg env r st₁
        rw [htypes] at hproducing
        generalize st₁.openProducingChannel cfg env r = result at hproducing ⊢
        refine ⟨fun hproper => ?_, fun hempty hfailed hleaves => ?_⟩
        · obtain ⟨hsame, -⟩ | ⟨hadded, -⟩ := hproducing
          · rw [hsame]
            exact hproper₁ hproper
          · exact properSlots_withSlot (.inr rfl) (hproper₁ hproper) hadded
        · have hpoint : (st.conn r).oToTConnectionType = .pointToPoint →
              env.setQosOk .consuming = true := by
            intro htype
            obtain ⟨-, hfails⟩ | ⟨-, hok, -⟩ := hconsuming
            · exact absurd (hfails htype) hsuccess
            · exact hok
          rw [hempty] at hconsuming
          obtain ⟨hsame, hwhy⟩ | ⟨-, hwhy⟩ := hproducing
          · rw [hsame]
            obtain ⟨hsame₁, -⟩ | ⟨-, -, hadded, htype⟩ := hconsuming
            · exact hsame₁
            · have hslots₁ : st₁.cpf.slots = (ItemId.socketAddressInfoOriginatorToTarget, 0) :=
                (Option.some.inj hadded).symm
              obtain ⟨hpoint', hfalse⟩ | hnone := hwhy hfailed
              · simp [leavesNoSlot, hfalse, htype, hpoint htype, hpoint'] at hleaves
              · rw [hslots₁] at hnone
                cases hnone
          · obtain hsuccess' | ⟨hmulticast, hfalse⟩ := hwhy
            · exact absurd hsuccess' hfailed
            · by_cases htype : (st.conn r).oToTConnectionType = .pointToPoint
              · simp [leavesNoSlot, hfalse, htype, hpoint htype, hmulticast] at hleaves
              · simp [leavesNoSlot, hfalse, htype, hmulticast] at hleaves

/-- The packet is as before, and so are the connection types of an object. -/
structure Directed (r : ConnRef) (st st' : StackState) : Prop where
  cpf : st'.cpf = st.cpf
  oToT : (st'.conn r).oToTConnectionType = (st.conn r).oToTConnectionType
  tToO : (st'.conn r).tToOConnectionType = (st.conn r).tToOConnectionType

theorem Directed.refl (r : ConnRef) (st : StackState) : Directed r st st := ⟨rfl, rfl, rfl⟩

theorem Directed.trans {r : ConnRef} {st₁ st₂ st₃ : StackState} (h : Directed r st₁ st₂)
    (h' : Directed r st₂ st₃) : Directed r st₁ st₃ :=
  ⟨h'.cpf.trans h.cpf, h'.oToT.trans h.oToT, h'.tToO.trans h.tToO⟩

theorem Directed.update {r : ConnRef} {st st' : StackState} {c : CipConnectionObject}
    (hcpf : st'.cpf = st.cpf) (hpool : st'.store.pool = Function.update st.store.pool r c)
    (hoToT : c.oToTConnectionType = (st.conn r).oToTConnectionType)
    (htToO : c.tToOConnectionType = (st.conn r).tToOConnectionType) : Directed r st st' := by
  have hconn : st'.conn r = c := by rw [conn, hpool, Function.update_self]
  exact ⟨hcpf, hconn ▸ hoToT, hconn ▸ htToO⟩

theorem directed_modifyConn (r : ConnRef) (st : StackState)
    {f : CipConnectionObject → CipConnectionObject}
    (hoToT : ∀ c, (f c).oToTConnectionType = c.oToTConnectionType)
    (htToO : ∀ c, (f c).tToOConnectionType = c.tToOConnectionType) :
    Directed r st (st.modifyConn r f) := by
  exact .update rfl rfl (hoToT _) (htToO _)

theorem drawConnectionId_directed (cfg : Config) (draws : CipConnectionObject → Bool)
    {store : UInt32 → CipConnectionObject → CipConnectionObject} (r : ConnRef) (st : StackState)
    (hoToT : ∀ id c, (store id c).oToTConnectionType = c.oToTConnectionType)
    (htToO : ∀ id c, (store id c).tToOConnectionType = c.tToOConnectionType) :
    Directed r st (st.drawConnectionId cfg draws store r) := by
  rw [drawConnectionId]
  split
  · exact .update rfl rfl (hoToT _ _) (htToO _ _)
  · exact .refl r st

theorem generalConfiguration_directed (cfg : Config) (r : ConnRef) (st : StackState) :
    Directed r st (st.generalConfiguration cfg r) := by
  simp only [generalConfiguration]
  refine Directed.trans (Directed.trans (Directed.trans (directed_modifyConn r st ?_ ?_)
    (drawConnectionId_directed cfg _ r _ ?_ ?_)) (drawConnectionId_directed cfg _ r _ ?_ ?_))
    (directed_modifyConn r _ ?_ ?_)
  · exact fun _ => rfl
  · exact fun _ => rfl
  · exact fun _ _ => rfl
  · exact fun _ _ => rfl
  · exact fun _ _ => rfl
  · exact fun _ _ => rfl
  · exact fun _ => rfl
  · exact fun _ => rfl

theorem setupOriginatorToTarget_directed {r : ConnRef} {extended : UInt16} {st' : StackState}
    (h : st.setupIoConnectionOriginatorToTargetConnectionPoint cfg r = .ok (extended, st')) :
    Directed r st st' := by
  rw [setupIoConnectionOriginatorToTargetConnectionPoint] at h
  split at h
  · cases h
  · cases h
    exact .refl r st
  · simp only at h
    split at h
    all_goals
      cases h
      exact .update rfl rfl rfl rfl

theorem setupTargetToOriginator_directed {r : ConnRef} {extended : UInt16} {st' : StackState}
    (h : st.setupIoConnectionTargetToOriginatorConnectionPoint cfg r = .ok (extended, st')) :
    Directed r st st' := by
  simp only [setupIoConnectionTargetToOriginatorConnectionPoint] at h
  split at h
  · cases h
    exact .refl r st
  · split at h
    · cases h
    · cases h
      exact .refl r st
    · split at h
      all_goals
        cases h
        exact .update rfl rfl rfl rfl

theorem setupConnectionPoints_directed {r : ConnRef} {extended : UInt16} {st' : StackState}
    (h : st.setupConnectionPoints cfg r = .ok (extended, st')) : Directed r st st' := by
  simp only [setupConnectionPoints] at h
  split at h
  · cases h
  · rename_i extended₁ st₁ hconsumer
    have h₁ : Directed r st st₁ := by
      split at hconsumer
      · exact setupOriginatorToTarget_directed hconsumer
      · cases hconsumer
        exact .refl r st
    split at h
    · cases h
      exact h₁
    · split at h
      · exact h₁.trans (setupTargetToOriginator_directed h)
      · cases h
        exact h₁

theorem processProductionInhibitTime_directed (r : ConnRef) (st : StackState) :
    Directed r st (st.setConn r (processProductionInhibitTime (st.conn r)).2) := by
  refine .update rfl rfl ?_ ?_
  all_goals
    rw [processProductionInhibitTime]
    split
    · split
      · rfl
      · split <;> rfl
    · rfl

theorem configureIoConnection_directed {r : ConnRef} {extended : UInt16} {st' : StackState}
    (h : st.configureIoConnection cfg r = .ok (extended, st')) : Directed r st st' := by
  have hinhibit := processProductionInhibitTime_directed r st
  simp only [configureIoConnection] at h
  split at h
  · cases h
    exact hinhibit
  · refine hinhibit.trans (Directed.trans (Directed.trans (Directed.trans ?_
      (generalConfiguration_directed cfg r _)) (directed_modifyConn r _ ?_ ?_))
      (setupConnectionPoints_directed h))
    · exact directed_modifyConn r _ (fun _ => rfl) fun _ => rfl
    · exact fun _ => rfl
    · exact fun _ => rfl

theorem notifyAssembly_directed {instanceNumber : UInt16} {data : List UInt8}
    {status : EipStatus} {st' : StackState} (r : ConnRef)
    (h : st.notifyAssemblyConnectedDataReceived env instanceNumber data = .ok (status, st')) :
    Directed r st st' := by
  rw [notifyAssemblyConnectedDataReceived] at h
  split at h
  · split at h
    · cases h
    · cases h
      exact .refl r st
  · split at h
    · cases h
      exact .refl r st
    · cases h
      exact ⟨rfl, rfl, rfl⟩

theorem handleConfigData_directed {r : ConnRef} {data : List UInt8} {extended : UInt16}
    {st' : StackState} (h : st.handleConfigData cfg env r data = .ok (extended, st')) :
    Directed r st st' := by
  simp only [handleConfigData] at h
  split at h
  · cases h
  · split at h
    · cases h
      exact .refl r st
    · split at h
      · cases h
      · split at h
        · split at h
          · cases h
            exact .refl r st
          · split at h
            · cases h
            · split at h <;> cases h <;> exact .refl r st
        · split at h
          · cases h
          · rename_i hnotify
            cases h
            exact notifyAssembly_directed r hnotify
          · rename_i hnotify
            cases h
            exact notifyAssembly_directed r hnotify

theorem applyConfigData_directed {r : ConnRef} {extended : UInt16} {st' : StackState}
    (h : st.applyConfigData cfg env r = .ok (extended, st')) : Directed r st st' := by
  rw [applyConfigData] at h
  split at h
  · cases h
    exact .refl r st
  · exact handleConfigData_directed h

/-- What an open function makes of the slots: they stay proper, and with a request
that leaves none behind a failure leaves empty ones empty. -/
def KeepsSlots (env : Environment) (st : StackState) (status : OpenStatus)
    (st' : StackState) : Prop :=
  (properSlots st.cpf.slots = true → properSlots st'.cpf.slots = true) ∧
    (st.cpf.slots = (0, 0) → status.general ≠ GeneralStatus.success →
      leavesNoSlot env st.dummy = true → st'.cpf.slots = (0, 0))

theorem KeepsSlots.of_cpf {status : OpenStatus} {st' : StackState} (h : st'.cpf = st.cpf) :
    KeepsSlots env st status st' := by
  rw [KeepsSlots, h]
  exact ⟨id, fun hempty _ _ => hempty⟩

theorem prepareIoConnection_slots {r : ConnRef} {status : OpenStatus} {st' : StackState}
    (h : st.prepareIoConnection cfg env r = .ok (status, st')) :
    (properSlots st.cpf.slots = true → properSlots st'.cpf.slots = true) ∧
      (st.cpf.slots = (0, 0) → status.general ≠ GeneralStatus.success →
        leavesNoSlot env (st.conn r) = true → st'.cpf.slots = (0, 0)) := by
  rw [prepareIoConnection] at h
  split at h
  · cases h
  · rename_i extended st₁ hconfigure
    have h₁ := configureIoConnection_directed hconfigure
    split at h
    · cases h
      rw [h₁.cpf]
      exact ⟨id, fun hempty _ _ => hempty⟩
    · split at h
      · cases h
      · rename_i extended₂ st₂ happly
        have h₂ := h₁.trans (applyConfigData_directed happly)
        split at h
        · cases h
          rw [h₂.cpf]
          exact ⟨id, fun hempty _ _ => hempty⟩
        · have hslots := slots_openCommunicationChannels cfg env r st₂
          rw [h₂.cpf, leavesNoSlot_congr h₂.oToT h₂.tToO] at hslots
          cases h
          exact hslots

theorem addNewActiveConnection_cpf {r : ConnRef} {st' : StackState}
    (h : st.addNewActiveConnection cfg r = .ok st') : st'.cpf = st.cpf := by
  simp only [addNewActiveConnection] at h
  split at h
  · cases h
  · cases h
    rfl

theorem establishIoConnection_slots {ns : List Nat} (hlisted : st.Listed cfg ns)
    (hregular : Regular cfg (st.view cfg)) {status : OpenStatus} {st' : StackState}
    (h : st.establishIoConnection cfg env = .ok (status, st')) :
    KeepsSlots env st status st' := by
  rw [establishIoConnection] at h
  split at h
  · cases h
  · rename_i extended st₁ hresolve
    cases h
    exact .of_cpf (resolveIoConnection_spec hlisted hregular hresolve).1.cpf
  · rename_i r st₁ hresolve
    have hframe := (resolveIoConnection_spec hlisted hregular hresolve).1
    have hconn : (st₁.deepCopyDummy cfg r).conn r = st₁.dummy := conn_setConn_self _ r _
    have hleaves : leavesNoSlot env ((st₁.deepCopyDummy cfg r).conn r) =
        leavesNoSlot env st.dummy := by
      rw [hconn, hframe.dummy]
      rfl
    have hcpf : (st₁.deepCopyDummy cfg r).cpf = st.cpf := hframe.cpf
    split at h
    · cases h
    · rename_i status₂ st₂ hprepare
      have hslots := prepareIoConnection_slots hprepare
      rw [hcpf, hleaves] at hslots
      split at h
      · cases h
        exact hslots
      · rw [activateIoConnection] at h
        split at h
        · cases h
        · rename_i st₃ hadd
          cases h
          rw [KeepsSlots]
          change (_ → properSlots st₃.cpf.slots = true) ∧ _
          rw [addNewActiveConnection_cpf hadd]
          exact ⟨hslots.1, fun _ hfailed => absurd rfl hfailed⟩

theorem establishClass3Connection_slots {status : OpenStatus} {st' : StackState}
    (h : st.establishClass3Connection cfg = .ok (status, st')) :
    KeepsSlots env st status st' := by
  rw [establishClass3Connection] at h
  split at h
  · cases h
    exact .of_cpf rfl
  · rename_i r _
    split at h
    · cases h
    · rename_i st₁ hadd
      cases h
      refine .of_cpf ((addNewActiveConnection_cpf hadd).trans ?_)
      have hcopied : (st.deepCopyDummy cfg r).cpf = st.cpf := rfl
      have hmodified : ∀ (s : StackState) f, (s.modifyConn r f).cpf = s.cpf := fun _ _ => rfl
      rw [prepareClass3Connection, hmodified, (generalConfiguration_directed cfg r _).cpf, hcopied]

theorem openConnection_slots {ns : List Nat} (hlisted : st.Listed cfg ns)
    (hregular : Regular cfg (st.view cfg)) {status : OpenStatus} {st' : StackState}
    (h : st.openConnection cfg env = .ok (status, st')) : KeepsSlots env st status st' := by
  rw [openConnection] at h
  split at h
  · cases h
    exact .of_cpf rfl
  · cases h
    exact .of_cpf rfl
  · exact establishClass3Connection_slots h
  · exact establishIoConnection_slots hlisted hregular h

/-- An address item and a data item of known types, and a count of these two and the
socket address items. -/
structure Announces (cpf : CommonPacketFormatData) : Prop where
  address : cpf.addressItem.typeId = ItemId.nullAddress ∨
    cpf.addressItem.typeId = ItemId.connectionAddress
  data : cpf.dataItem.typeId = ItemId.unconnectedDataItem ∨
    cpf.dataItem.typeId = ItemId.connectedDataItem
  count : cpf.itemCount.toNat = 2 + socketCount cpf.slots

theorem Announces.countsItems {cpf : CommonPacketFormatData} (h : Announces cpf)
    (response : MessageRouterResponse) : CountsItems response cpf :=
  h.count.trans (length_encodedItems response h.address h.data).symm

theorem assembleForwardOpenResponse_generalStatus (c : CipConnectionObject)
    (status : OpenStatus) (st : StackState) :
    (st.assembleForwardOpenResponse c status).1.generalStatus = status.general := by
  simp only [assembleForwardOpenResponse]
  split <;> rfl

/-- The answer to a Forward Open that is granted with proper slots, or refused with
empty ones. -/
theorem assembleForwardOpenResponse_announces {c : CipConnectionObject} {status : OpenStatus}
    {response : MessageRouterResponse} {st' : StackState}
    (h : st.assembleForwardOpenResponse c status = (response, st'))
    (hproper : properSlots st.cpf.slots = true)
    (hrefused : response.generalStatus ≠ GeneralStatus.success → st.cpf.slots = (0, 0)) :
    Announces st'.cpf := by
  have hgeneral := assembleForwardOpenResponse_generalStatus c status st
  rw [h] at hgeneral
  simp only [assembleForwardOpenResponse] at h
  split at h
  · cases h
    exact ⟨.inl rfl, .inl rfl, count_of_properSlots hproper⟩
  · rename_i hfailed
    have hempty := hrefused (fun hsuccess => hfailed (hgeneral.symm.trans hsuccess))
    cases h
    refine ⟨.inl rfl, .inl rfl, ?_⟩
    change (2 : UInt16).toNat = 2 + socketCount st.cpf.slots
    rw [hempty]
    rfl

/-- The socket address items of a Forward Open are two of different types at most, and
a request that is refused has none and leaves none behind. -/
def forwardOpenCounts (cfg : Config) (env : Environment) (isLarge : Bool)
    (request : MessageRouterRequest) (originatorAddress : SockaddrIn)
    (encapsulationSession : UInt32) (st : StackState) : Bool :=
  properSlots st.cpf.slots &&
    match st.forwardOpenRoutine cfg env isLarge request originatorAddress
        encapsulationSession with
    | .error _ => true
    | .ok (response, _) =>
        response.generalStatus = GeneralStatus.success ||
          (st.cpf.slots = (0, 0) &&
            match st.forwardOpenRequest cfg env isLarge request originatorAddress
                encapsulationSession with
            | .ok (none, st) => leavesNoSlot env st.dummy
            | _ => true)

theorem forwardOpenRoutine_announces (hsound : st.Sound cfg) {isLarge : Bool}
    {request : MessageRouterRequest} {originatorAddress : SockaddrIn}
    {encapsulationSession : UInt32} {response : MessageRouterResponse} {st' : StackState}
    (hcall : st.forwardOpenRoutine cfg env isLarge request originatorAddress
      encapsulationSession = .ok (response, st'))
    (hcounts : forwardOpenCounts cfg env isLarge request originatorAddress
      encapsulationSession st = true) : Announces st'.cpf := by
  rw [forwardOpenCounts, hcall, Bool.and_eq_true, Bool.or_eq_true, decide_eq_true_eq,
    Bool.and_eq_true, decide_eq_true_eq] at hcounts
  obtain ⟨hproper, hrefused⟩ := hcounts
  have hrefused := fun hfailed => hrefused.resolve_left hfailed
  rw [forwardOpenRoutine_eq] at hcall
  split at hcall
  · cases hcall
  · rename_i status st₁ hrequest
    have hreceives := (forwardOpenRequest_receives hrequest).1
    have hcpf : st₁.cpf = st.cpf := by rw [hreceives.eq]
    rw [← hcpf] at hproper hrefused
    rw [Except.ok.injEq, refuse] at hcall
    exact assembleForwardOpenResponse_announces hcall hproper fun hfailed => (hrefused hfailed).1
  · rename_i st₁ hrequest
    have hreceives := (forwardOpenRequest_receives hrequest).1
    have hcpf : st₁.cpf = st.cpf := by rw [hreceives.eq]
    obtain ⟨hsound₁, -⟩ := hreceives.requested hsound
    obtain ⟨ns, hlisted⟩ := hsound₁.wellFormed
    split at hcall
    · cases hcall
    · rename_i status st₂ hopen
      obtain ⟨hkeeps, hempty⟩ := openConnection_slots hlisted hsound₁.regular hopen
      rw [← hcpf] at hproper hrefused
      rw [hrequest] at hrefused
      obtain ⟨c, status', hanswer, hstatus⟩ := answerOpenConnection_response hcall
      have hgeneral := assembleForwardOpenResponse_generalStatus c status' st₂
      rw [hanswer, hstatus] at hgeneral
      refine assembleForwardOpenResponse_announces hanswer (hkeeps hproper) fun hfailed => ?_
      obtain ⟨hslots, hleaves⟩ := hrefused hfailed
      exact hempty hslots (hgeneral ▸ hfailed) hleaves

theorem assembleForwardCloseResponse_announces {serialNumber vendorId : UInt16}
    {originatorSerialNumber : UInt32} {service remainingPathSize : UInt8} {extended : UInt16}
    {response : MessageRouterResponse} {st' : StackState} (hslots : st.cpf.slots = (0, 0))
    (h : st.assembleForwardCloseResponse serialNumber vendorId originatorSerialNumber service
      remainingPathSize extended = (response, st')) : Announces st'.cpf := by
  simp only [assembleForwardCloseResponse, Prod.mk.injEq] at h
  obtain ⟨-, rfl⟩ := h
  refine ⟨.inl rfl, .inl rfl, ?_⟩
  change (2 : UInt16).toNat = 2 + socketCount st.cpf.slots
  rw [hslots]
  rfl

/-- Forward Close writes no socket address item. -/
theorem forwardClose_announces (hsound : st.Sound cfg) {request : MessageRouterRequest}
    {originatorAddress : SockaddrIn} {response : MessageRouterResponse} {st' : StackState}
    (h : st.forwardClose cfg request originatorAddress = .ok (response, st')) :
    Announces st'.cpf := by
  simp only [forwardClose] at h
  generalize hst₁ : ({ st with cpf := _ } : StackState) = st₁ at h
  have hslots : st₁.cpf.slots = (0, 0) := by
    rw [← hst₁]
    rfl
  have hsound₁ : st₁.Sound cfg := by
    rw [← hst₁]
    exact ((touched_cpf st _).sound hsound).1
  split at h
  · exact assembleForwardCloseResponse_announces hslots (Except.ok.inj h)
  · rename_i r hfind
    split at h
    · split at h
      · cases h
      · rename_i st₂ hclose
        obtain ⟨ns, hlisted⟩ := hsound₁.wellFormed
        have hr : r ∈ st₁.connectionList cfg := List.mem_of_find?_eq_some hfind
        obtain ⟨st₃, ns', hok, hshrunk⟩ :=
          connectionCloseFunction_ok hlisted hsound₁.regular.closable hr
        rw [hclose, Except.ok.injEq] at hok
        subst hok
        rw [← hshrunk.frame.cpf] at hslots
        exact assembleForwardCloseResponse_announces hslots (Except.ok.inj h)
    · exact assembleForwardCloseResponse_announces hslots (Except.ok.inj h)

/-- The request announces its socket address items, where they are answered as they
came; those of a Forward Open may differ. -/
def messageCounts (cfg : Config) (env : Environment) (data : Message) (dataLength : UInt16)
    (originatorAddress : SockaddrIn) (encapsulationSession : UInt32) (st : StackState) : Bool :=
  let announced : Bool := st.cpf.itemCount.toNat = 2 + socketCount st.cpf.slots
  match createMessageRouterRequestStructure data dataLength with
  | .error _ => announced
  | .ok (epath, request) =>
      if epath.classId.toUInt32 = connectionManagerClassCode ∧ epath.instanceNumber = 1 then
        if request.service = 0x54 then
          forwardOpenCounts cfg env false request originatorAddress encapsulationSession st
        else if request.service = 0x5B then
          forwardOpenCounts cfg env true request originatorAddress encapsulationSession st
        else if request.service = 0x4E then true
        else announced || (env.objectResponse data dataLength).isNone
      else announced || (env.objectResponse data dataLength).isNone

theorem notifyMessageRouter_announces (hsound : st.Sound cfg) {data : Message}
    {dataLength : UInt16} {originatorAddress : SockaddrIn} {encapsulationSession : UInt32}
    {response : MessageRouterResponse} {st' : StackState}
    (haddress : st.cpf.addressItem.typeId = ItemId.nullAddress ∨
      st.cpf.addressItem.typeId = ItemId.connectionAddress)
    (hdata : st.cpf.dataItem.typeId = ItemId.unconnectedDataItem ∨
      st.cpf.dataItem.typeId = ItemId.connectedDataItem)
    (hcall : st.notifyMessageRouter cfg env data dataLength originatorAddress
      encapsulationSession = .ok (some response, st'))
    (hcounts : messageCounts cfg env data dataLength originatorAddress encapsulationSession
      st = true) : Announces st'.cpf := by
  simp only [notifyMessageRouter] at hcall
  simp only [messageCounts] at hcounts
  split at hcall
  · rename_i hparse
    rw [hparse] at hcounts
    cases hcall
    exact ⟨haddress, hdata, of_decide_eq_true hcounts⟩
  · rename_i epath request hparse
    rw [hparse] at hcounts
    dsimp only at hcounts
    split at hcall
    · rename_i hmanager
      rw [if_pos hmanager] at hcounts
      split at hcall
      · rename_i hservice
        rw [if_pos hservice] at hcounts
        split at hcall
        · cases hcall
        · rename_i hopen
          cases hcall
          exact forwardOpenRoutine_announces hsound hopen hcounts
      · rename_i hservice
        rw [if_neg hservice] at hcounts
        split at hcall
        · rename_i hlarge
          rw [if_pos hlarge] at hcounts
          split at hcall
          · cases hcall
          · rename_i hopen
            cases hcall
            exact forwardOpenRoutine_announces hsound hopen hcounts
        · rename_i hlarge
          rw [if_neg hlarge] at hcounts
          split at hcall
          · split at hcall
            · cases hcall
            · rename_i hclose
              cases hcall
              exact forwardClose_announces hsound hclose
          · rename_i hother
            rw [if_neg hother] at hcounts
            obtain ⟨hresponse, rfl⟩ := Prod.mk.inj (Except.ok.inj hcall)
            rw [hresponse, Option.isNone_some, Bool.or_false] at hcounts
            exact ⟨haddress, hdata, of_decide_eq_true hcounts⟩
    · rename_i hmanager
      rw [if_neg hmanager] at hcounts
      obtain ⟨hresponse, rfl⟩ := Prod.mk.inj (Except.ok.inj hcall)
      rw [hresponse, Option.isNone_some, Bool.or_false] at hcounts
      exact ⟨haddress, hdata, of_decide_eq_true hcounts⟩

/-- The items of the request and of its answer agree, for every request that the
message router gets. -/
def keepsItemCount (cfg : Config) (label : Environment × Action) (st : StackState) : Bool :=
  match label with
  | (env, .sendRRData session originatorAddress data) =>
      let (status, cpf) :=
        CommonPacketFormatData.createCommonPacketFormatStructure data data.length st.cpf
      if st.checkRegisteredSessions session ∧ status ≠ .error ∧
          cpf.addressItem.typeId = ItemId.nullAddress ∧
          cpf.dataItem.typeId = ItemId.unconnectedDataItem then
        messageCounts cfg env cpf.dataItem.data cpf.dataItem.length originatorAddress session
          { st with cpf := cpf }
      else true
  | (env, .sendUnitData session originatorAddress data) =>
      match connectedEntry cfg data st with
      | none => true
      | some (_, buffer, length, st₁) =>
          !st.checkRegisteredSessions session ||
            messageCounts cfg env buffer length originatorAddress session st₁
  | _ => true

/-- A reply whose count is the number of items that follow, or no payload at all. -/
def TruthfulReply (reply : List UInt8) : Prop :=
  reply = [] ∨ ∃ (cpf : CommonPacketFormatData) (response : MessageRouterResponse),
    reply = cpf.assembleLinearMessage response ∧ CountsItems response cpf

theorem notifyCommonPacketFormat_counts (hsound : st.Sound cfg) {session : UInt32}
    (hsession : st.checkRegisteredSessions session = true) {originatorAddress : SockaddrIn}
    {data : Message} {reply : List UInt8} {st' : StackState}
    (hkeeps : keepsItemCount cfg (env, .sendRRData session originatorAddress data) st = true)
    (h : st.notifyCommonPacketFormat cfg env data originatorAddress session =
      .ok (some reply, st')) :
    ∃ response, reply = st'.cpf.assembleLinearMessage response ∧
      CountsItems response st'.cpf := by
  simp only [keepsItemCount] at hkeeps
  simp only [notifyCommonPacketFormat] at h
  generalize CommonPacketFormatData.createCommonPacketFormatStructure data data.length st.cpf =
    parsed at h hkeeps
  obtain ⟨status, cpf⟩ := parsed
  have hsound₁ := ((touched_cpf st cpf).sound hsound).1
  dsimp only at h hkeeps
  split at h
  · cases h
  · rename_i hstatus
    split at h
    · rename_i htypes
      rw [if_pos ⟨hsession, hstatus, htypes⟩] at hkeeps
      split at h
      · cases h
      · rename_i response st₁ hcall
        simp only [Except.ok.injEq, Prod.mk.injEq] at h
        obtain ⟨hreply, rfl⟩ := h
        rw [StackState.reply, Option.map_eq_some_iff] at hreply
        obtain ⟨response, rfl, hwritten⟩ := hreply
        have hannounces := notifyMessageRouter_announces hsound₁ (.inl htypes.1)
          (.inl htypes.2) hcall hkeeps
        exact ⟨response, hwritten.symm, hannounces.countsItems response⟩
    · cases h

theorem answerConnected_truthful {r : ConnRef} {response : MessageRouterResponse}
    {reply : Option (List UInt8)} {st' : StackState} (hannounces : Announces st.cpf)
    (h : st.answerConnected r (some response) = (reply, st')) :
    ∀ sent ∈ reply, TruthfulReply sent := by
  cases h
  rintro sent hsent
  cases hsent
  have hcounts : Announces { st.cpf with addressItem :=
      { st.cpf.addressItem with
        connectionIdentifier := (st.conn r).cipProducedConnectionId } } :=
    ⟨hannounces.address, hannounces.data, hannounces.count⟩
  exact .inr ⟨_, response, rfl, hcounts.countsItems response⟩

/-- The message router gets a connected request in a sound state. -/
theorem connectedEntry_sound (hsound : st.Sound cfg) {data : Message} {r : ConnRef}
    {buffer : Message} {length : UInt16} {st₁ : StackState}
    (h : connectedEntry cfg data st = some (r, buffer, length, st₁)) : st₁.Sound cfg := by
  simp only [connectedEntry] at h
  generalize CommonPacketFormatData.createCommonPacketFormatStructure data data.length st.cpf =
    parsed at h
  obtain ⟨status, cpf⟩ := parsed
  dsimp only at h
  split at h
  · cases h
  · split at h
    · cases h
    · rename_i q _
      split at h
      · cases h
      · split at h
        · cases h
        · simp only [Option.some.injEq, Prod.mk.injEq] at h
          obtain ⟨-, -, -, rfl⟩ := h
          have htouched := ((touched_cpf st cpf).trans (receiveConnectedRequest_touched q
            (Message.getUint cpf.dataItem.data).1 _)).trans (touched_modifyConn _ q
              (f := fun c => { c with
                sequenceCountConsuming := (Message.getUint cpf.dataItem.data).1 }) rfl)
          exact (htouched.sound hsound).1

/-- A connected message: what it is answered with and what is stored. -/
theorem notifyConnected_truthful (hsound : st.Sound cfg) (hstored : st.Stored TruthfulReply)
    {session : UInt32} (hsession : st.checkRegisteredSessions session = true)
    {originatorAddress : SockaddrIn} {data : Message} {reply : Option (List UInt8)}
    {st' : StackState}
    (hkeeps : keepsItemCount cfg (env, .sendUnitData session originatorAddress data) st = true)
    (h : st.notifyConnectedCommonPacketFormat cfg env data originatorAddress session =
      .ok (reply, st')) :
    (∀ sent ∈ reply, TruthfulReply sent) ∧ st'.Stored TruthfulReply := by
  simp only [keepsItemCount] at hkeeps
  cases hentry : connectedEntry cfg data st with
  | none =>
      obtain ⟨st₁, hcall, hkept⟩ :=
        notifyConnected_of_none hentry env originatorAddress session
      cases hcall.symm.trans h
      refine ⟨fun sent hsent => ?_, hstored.kept (.inl rfl) hkept⟩
      obtain ⟨r, -, rfl⟩ := Option.mem_map.mp hsent
      exact hstored.objects r
  | some entry =>
      obtain ⟨r, buffer, length, st₁⟩ := entry
      simp only [hentry, hsession, Bool.not_true, Bool.false_or] at hkeeps
      obtain ⟨hkept, htypes, hconnected⟩ :=
        notifyConnected_of_some hentry env originatorAddress session
      have hrouter := notifyMessageRouter_reserved cfg env buffer length originatorAddress
        session st₁
      cases hcall : st₁.notifyMessageRouter cfg env buffer length originatorAddress session with
      | error fault =>
          rw [hcall] at hconnected
          cases hconnected.symm.trans h
      | ok answer =>
          obtain ⟨response, st₂⟩ := answer
          rw [hcall] at hrouter hconnected
          have hanswer := Except.ok.inj (hconnected.symm.trans h)
          have hstored₂ := (hstored.kept (.inl rfl) hkept).kept (.inl rfl) hrouter.toRepliesKept
          have hreply : ∀ sent ∈ reply, TruthfulReply sent := by
            cases response with
            | none =>
                cases hanswer
                rintro sent ⟨⟩
            | some response =>
                exact answerConnected_truthful (notifyMessageRouter_announces
                  (connectedEntry_sound hsound hentry) (.inr htypes.1) (.inr htypes.2) hcall hkeeps)
                  hanswer
          exact ⟨hreply, hstored₂.answerConnected hanswer hreply⟩

theorem stored_of_reaches {assemblyData : UInt16 → List UInt8}
    (h : Runs.Reaches (step cfg) (fun label st => keepsItemCount cfg label st = true)
      (initialState cfg assemblyData) st) : st.Sound cfg ∧ st.Stored TruthfulReply := by
  refine h.invariant (fun st => st.Sound cfg ∧ st.Stored TruthfulReply)
    ⟨sound_initialState cfg assemblyData, fun _ => .inl rfl, .inl rfl⟩ ?_
  rintro ⟨env, action⟩ s s' ⟨hsound, hstored⟩ hkeeps hstep
  refine ⟨(step_spec hsound hstep).1, ?_⟩
  cases action with
  | sendUnitData session originatorAddress data =>
      rw [step] at hstep
      split at hstep
      · rename_i hsession
        split at hstep
        · cases hstep
        · rename_i hcall
          cases hstep
          exact (notifyConnected_truthful hsound hstored hsession hkeeps hcall).2
      · cases hstep
        exact hstored
  | _ =>
      refine hstored.kept (.inl rfl) (step_replies hsound ?_ hstep)
      intro _ _ _ hlabel
      cases hlabel

/-- In a run in which the items of the requests and of their answers agree, every
reply counts its items, the stored ones too. -/
theorem reply_counts_items {assemblyData : UInt16 → List UInt8}
    (h : Runs.Reaches (step cfg) (fun label st => keepsItemCount cfg label st = true)
      (initialState cfg assemblyData) st) {session : UInt32}
    (hsession : st.checkRegisteredSessions session = true) (originatorAddress : SockaddrIn)
    (data : Message) (env : Environment) (reply : List UInt8) (st' : StackState) :
    (keepsItemCount cfg (env, .sendRRData session originatorAddress data) st = true →
      st.notifyCommonPacketFormat cfg env data originatorAddress session =
        .ok (some reply, st') →
      ∃ response, reply = st'.cpf.assembleLinearMessage response ∧
        CountsItems response st'.cpf) ∧
    (keepsItemCount cfg (env, .sendUnitData session originatorAddress data) st = true →
      st.notifyConnectedCommonPacketFormat cfg env data originatorAddress session =
        .ok (some reply, st') → TruthfulReply reply) := by
  obtain ⟨hsound, hstored⟩ := stored_of_reaches h
  refine ⟨notifyCommonPacketFormat_counts hsound hsession, ?_⟩
  intro hkeeps hcall
  exact (notifyConnected_truthful hsound hstored hsession hkeeps hcall).1 reply rfl

open SampleApplication in
/-- The request with the socket address of the originator for the T->O direction. -/
def unconnectedWithAddress (message : Message) : Message :=
  intBytes 3 ++ (unconnected message).drop 2 ++
    intBytes ItemId.socketAddressInfoTargetToOriginator ++ intBytes 16 ++
    intBytes (htons afInet) ++ intBytes (htons openerEipIoUdpPort) ++ dintBytes 0x0500A8C0 ++
    List.replicate 8 0

open SampleApplication in
/-- A Forward Open with a socket address item that is granted. -/
theorem reply_counts_items_sample :
    ∃ st reply st', Runs.Reaches (step config)
        (fun label st => keepsItemCount config label st = true)
        (initialState config SampleApplication.assemblyData) st ∧
      st.notifyCommonPacketFormat config (environment 1002 22)
        (unconnectedWithAddress (forwardOpen (inputOnly 2 2 pointToPoint))) originator 1 =
          .ok (some reply, st') ∧
      st'.cpf.itemCount = 4 ∧
      ∃ response, reply = st'.cpf.assembleLinearMessage response ∧
        CountsItems response st'.cpf := by
  obtain ⟨st, hreaches, hst⟩ := reaches_of_endsWithin config (keepsItemCount config)
    [request (exclusiveOwner 1 1 pointToPoint)]
    (fun st => st.checkRegisteredSessions 1 &&
      keepsItemCount config (environment 1002 22, .sendRRData 1 originator
        (unconnectedWithAddress (forwardOpen (inputOnly 2 2 pointToPoint)))) st &&
      returns (st.notifyCommonPacketFormat config (environment 1002 22)
          (unconnectedWithAddress (forwardOpen (inputOnly 2 2 pointToPoint))) originator 1)
        fun answer => answer.1.isSome && answer.2.cpf.itemCount = 4)
    (by decide +kernel)
  rw [Bool.and_eq_true, Bool.and_eq_true, returns_iff] at hst
  obtain ⟨⟨hsession, hkeeps⟩, ⟨answer, st'⟩, hcall, hanswer⟩ := hst
  rw [Bool.and_eq_true, decide_eq_true_eq] at hanswer
  obtain ⟨reply, rfl⟩ := Option.isSome_iff_exists.mp hanswer.1
  exact ⟨st, reply, st', hreaches, hcall, hanswer.2,
    (reply_counts_items hreaches hsession originator _ _ reply st').1 hkeeps hcall⟩

open SampleApplication in
/-- The same request sent again is refused, and the reply has one item more than it
says. -/
theorem reply_miscounts_items_sample :
    ∃ st reply st', Reachable config st ∧ st.checkRegisteredSessions 1 = true ∧
      st.notifyCommonPacketFormat config (environment 1002 22)
        (unconnectedWithAddress (forwardOpen (exclusiveOwner 1 1 pointToPoint))) originator 1 =
          .ok (some reply, st') ∧
      ∀ response, ¬CountsItems response st'.cpf := by
  obtain ⟨st, hreachable, hst⟩ := reachable_of_ends config
    [request (exclusiveOwner 1 1 pointToPoint)]
    (fun st => st.checkRegisteredSessions 1 &&
      returns (st.notifyCommonPacketFormat config (environment 1002 22)
          (unconnectedWithAddress (forwardOpen (exclusiveOwner 1 1 pointToPoint)))
          originator 1)
        fun answer => answer.1.isSome && decide (
          answer.2.cpf.addressItem.typeId = ItemId.nullAddress ∧
            answer.2.cpf.dataItem.typeId = ItemId.unconnectedDataItem ∧
            answer.2.cpf.itemCount.toNat ≠ 2 + socketCount answer.2.cpf.slots))
    (by decide +kernel)
  rw [Bool.and_eq_true, returns_iff] at hst
  obtain ⟨hsession, ⟨answer, st'⟩, hcall, hanswer⟩ := hst
  rw [Bool.and_eq_true, decide_eq_true_eq] at hanswer
  obtain ⟨reply, rfl⟩ := Option.isSome_iff_exists.mp hanswer.1
  obtain ⟨haddress, hdata, hcount⟩ := hanswer.2
  refine ⟨st, reply, st', hreachable, hsession, hcall, fun response hcounts => hcount ?_⟩
  exact hcounts.trans (length_encodedItems response (.inl haddress) (.inl hdata))

end StackState

end Opener

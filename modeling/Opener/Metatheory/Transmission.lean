import Mathlib.Data.List.Chain
import Opener.Metatheory.IoPackets
import Opener.Metatheory.WireSizes

/-!
I/O data from one device to another over a network that loses, delays, repeats and
reorders datagrams. The producer numbers its packets one by one; the consumer takes what is
above everything before it, so what it takes is a subsequence of what was sent.
-/

namespace Opener

/-- The two ends of an I/O connection. -/
structure IoLink where
  producerCfg : Config
  consumerCfg : Config
  producer : ConnRef
  consumer : ConnRef
  connectionId : UInt32

/-- A packet at the consumer, whether `HandleReceivedConnectedData` passed it to the receive
function, and the data that was written then. -/
structure Delivery where
  packet : IoPacket
  passed : Bool
  written : Option (List UInt8)

/-- The two devices, the packets that were sent over the connection so far, and those that
have arrived. -/
structure Transmission where
  producer : StackState
  consumer : StackState
  sent : List IoPacket := []
  log : List Delivery := []

namespace Transmission

/-- The packets that were passed to the receive function. -/
def taken (t : Transmission) : List IoPacket :=
  (t.log.filter (·.passed)).map (·.packet)

/-- The data that was written. -/
def writes (t : Transmission) : List (List UInt8) := t.log.filterMap (·.written)

def deliver (t : Transmission) (delivery : Delivery) (consumer : StackState) : Transmission :=
  { t with consumer := consumer, log := t.log ++ [delivery] }

@[simp] theorem taken_deliver (t : Transmission) (delivery : Delivery) (consumer : StackState) :
    (t.deliver delivery consumer).taken =
      t.taken ++ if delivery.passed then [delivery.packet] else [] := by
  rw [taken, deliver, List.filter_append, List.map_append, List.filter_singleton]
  cases delivery.passed with
  | false => rfl
  | true => rfl

@[simp] theorem writes_deliver (t : Transmission) (delivery : Delivery) (consumer : StackState) :
    (t.deliver delivery consumer).writes = t.writes ++ delivery.written.toList := by
  rw [writes, deliver, List.filterMap_append]
  cases hwritten : delivery.written with
  | none => simp [hwritten, writes]
  | some data => simp [hwritten, writes]

end Transmission

namespace CipConnectionObject

/-- What the packets of a connection depend on. -/
def sending (c : CipConnectionObject) : UInt32 × UInt16 × UInt32 × TransportClass :=
  (c.eipLevelSequenceCountProducing, c.sequenceCountProducing, c.cipProducedConnectionId,
    c.transportClass)

theorem heard_receiving (sequenceNumber : UInt32) (c : CipConnectionObject) :
    (c.heard sequenceNumber).sequenceCountConsuming = c.sequenceCountConsuming ∧
      (c.heard sequenceNumber).transportClass = c.transportClass ∧
      (c.heard sequenceNumber).consumingInstance = c.consumingInstance := by
  rw [heard]
  split
  · exact ⟨rfl, rfl, rfl⟩
  · exact ⟨rfl, rfl, rfl⟩

theorem countData_changes (changed : Bool) (base : UInt16) {c : CipConnectionObject}
    (hclass : c.transportClass = .class1)
    (hmost : (c.sequenceCountProducing - base).toNat < 2 ^ 15) :
    (c.countPacket.countData changed).transportClass = .class1 ∧
      (c.sequenceCountProducing - base).toNat ≤
        ((c.countPacket.countData changed).sequenceCountProducing - base).toNat ∧
      ((c.countPacket.countData changed).sequenceCountProducing - base).toNat ≤
        (c.sequenceCountProducing - base).toNat + 1 := by
  cases changed with
  | false => exact ⟨hclass, Nat.le_refl _, Nat.le_succ _⟩
  | true =>
      have hnext : (c.sequenceCountProducing + 1 - base).toNat =
          (c.sequenceCountProducing - base).toNat + 1 := by
        have hone : (1 : UInt16).toNat = 1 := rfl
        have hsum : c.sequenceCountProducing + 1 - base = c.sequenceCountProducing - base + 1 := by
          grind
        rw [hsum, UInt16.toNat_add, hone]
        exact Nat.mod_eq_of_lt (by omega)
      exact ⟨hclass, hnext ▸ Nat.le_succ _, Nat.le_of_eq hnext⟩

theorem ioPacket_class1 (cfg : Config) {c : CipConnectionObject}
    (hclass : c.transportClass = .class1) (runIdleState : UInt32) (data : List UInt8) :
    (c.ioPacket cfg runIdleState data).sequenceCount = some c.sequenceCountProducing ∧
      (c.ioPacket cfg runIdleState data).runIdle.isSome =
        (cfg.produceRunIdle && data ≠ []) := by
  refine ⟨by rw [ioPacket, if_pos hclass], ?_⟩
  cases hrunIdle : cfg.produceRunIdle with
  | false => simp [ioPacket, sendsRunIdle, hrunIdle]
  | true =>
      cases data with
      | nil => simp [ioPacket, sendsRunIdle]
      | cons byte data => simp [ioPacket, sendsRunIdle, hrunIdle]

end CipConnectionObject

namespace StackState

/-- `HandleReceivedConnectedData` for the datagram of a packet, with what is logged. -/
def receivePacket (cfg : Config) (env : Environment) (identity : CipIdentityObject)
    (fromAddress : UInt32) (packet : IoPacket) (st : StackState) :
    Except Fault (Delivery × StackState) :=
  match st.acceptConnectedData cfg packet.bytes fromAddress with
  | (none, _, st') => .ok ({ packet, passed := false, written := none }, st')
  | (some (r, data, dataLength), _, st') =>
      match Reception.handleReceivedIoConnectionData cfg env r data dataLength
          { state := st', identity } with
      | .error fault => .error fault
      | .ok (_, after) =>
          .ok ({ packet, passed := true, written := after.writtenData }, after.state)

/-- It does to the stack what the function of the source does. -/
theorem receivePacket_state (cfg : Config) (env : Environment) (identity : CipIdentityObject)
    (fromAddress : UInt32) (packet : IoPacket) (st : StackState) :
    (st.receivePacket cfg env identity fromAddress packet).map Prod.snd =
      (st.handleReceivedConnectedData cfg env packet.bytes fromAddress).map Prod.snd := by
  rw [handleReceivedConnectedData_eq, receivePacket]
  generalize st.acceptConnectedData cfg packet.bytes fromAddress = accepted
  obtain ⟨call, status, st'⟩ := accepted
  cases call with
  | none => rfl
  | some call =>
      obtain ⟨r, data, dataLength⟩ := call
      have hstate := @Reception.handleReceivedIoConnectionData_onState cfg env r data dataLength
        { state := st', identity }
      dsimp only at hstate ⊢
      rw [← hstate]
      cases Reception.handleReceivedIoConnectionData cfg env r data dataLength
          { state := st', identity } with
      | error fault => rfl
      | ok result => rfl

end StackState

open StackState

/-- The producer sends, the network delivers any packet that was sent, and at both ends
anything else may happen that leaves the connection alone. -/
inductive Transmits (link : IoLink) (length : UInt16 → Nat) (producer consumer : StackState) :
    Transmission → Prop
  | start : Transmits link length producer consumer { producer, consumer }
  | send {t : Transmission} {env : Environment} {st' : StackState} {packet : IoPacket}
      (before : Transmits link length producer consumer t)
      (call : t.producer.sendConnectedData link.producerCfg env link.producer = .ok st')
      (sends : st'.events = t.producer.events ++ [.sent packet]) :
      Transmits link length producer consumer
        { t with producer := st', sent := t.sent ++ [packet] }
  | deliver {t : Transmission} {env : Environment} {identity : CipIdentityObject}
      {packet : IoPacket} {delivery : Delivery} {st' : StackState}
      (before : Transmits link length producer consumer t) (sent : packet ∈ t.sent)
      (keeps : env.KeepsLengths length)
      (call : t.consumer.receivePacket link.consumerCfg env identity
        (t.consumer.conn link.consumer).originatorAddress.sinAddr packet =
          .ok (delivery, st')) :
      Transmits link length producer consumer (t.deliver delivery st')
  | elsewhereProducer {t : Transmission} {st' : StackState}
      (before : Transmits link length producer consumer t)
      (same : (st'.conn link.producer).sending = (t.producer.conn link.producer).sending) :
      Transmits link length producer consumer { t with producer := st' }
  | elsewhereConsumer {t : Transmission} {st' : StackState}
      (before : Transmits link length producer consumer t)
      (undisturbed : Undisturbed link.consumerCfg link.connectionId link.consumer t.consumer st')
      (unvisited : Unvisited length link.consumer t.consumer st') :
      Transmits link length producer consumer { t with consumer := st' }

/-- Both ends have just been opened, with class 1, for each other. -/
structure IoLink.Ready (link : IoLink) (length : UInt16 → Nat) (producer consumer : StackState) :
    Prop where
  transportClass : (producer.conn link.producer).transportClass = .class1
  connectionId : (producer.conn link.producer).cipProducedConnectionId = link.connectionId
  attends : Attends link.consumerCfg link.connectionId link.consumer consumer
  unheard : (consumer.conn link.consumer).lastTaken = none
  consumes : Reception.ConsumesData link.consumerCfg length (consumer.conn link.consumer)
  lengths : HasLengths length consumer.assemblyData
  runIdle : link.consumerCfg.consumeRunIdle = link.producerCfg.produceRunIdle
  counts : (producer.conn link.producer).sequenceCountProducing =
    (consumer.conn link.consumer).sequenceCountConsuming

namespace IoPacket

/-- The position of a packet by its sequence number. -/
def position (base : UInt32) (packet : IoPacket) : Nat :=
  (packet.sequenceNumber.getD 0 - base).toNat

/-- How often the data had changed when it was sent, by its sequence count. -/
def changes (base : UInt16) (packet : IoPacket) : Nat :=
  (packet.sequenceCount.getD 0 - base).toNat

theorem changes_eq {base a : UInt16} {packet : IoPacket} (h : packet.sequenceCount = some a) :
    packet.changes base = (a - base).toNat := by
  rw [changes, h, Option.getD_some]

end IoPacket

theorem offset_inj {a b : UInt16} (base : UInt16) :
    (a - base).toNat = (b - base).toNat ↔ a = b := by
  rw [UInt16.toNat_inj]
  constructor
  · intro h
    grind
  · rintro rfl
    rfl

namespace StackState

variable {cfg : Config} {env : Environment} {st st' : StackState} {r : ConnRef}

/-- The packet that is sent, with its headers. It fits into the message buffer. -/
theorem sendConnectedData_packet {packet : IoPacket}
    (hcall : st.sendConnectedData cfg env r = .ok st')
    (hsends : st'.events = st.events ++ [.sent packet]) :
    packet.bytes.length ≤ ethernetBufferSize ∧
      ∃ changed data, st'.conn r = (st.conn r).countPacket.countData changed ∧
        packet = ((st.conn r).countPacket.countData changed).ioPacket cfg st.runIdleState
          data := by
  simp only [sendConnectedData] at hcall
  split at hcall
  · cases hcall
  · rename_i instanceNumber _
    split at hcall
    · cases hcall
    · obtain ⟨changed, assemblyData, hcollect⟩ := collectData_eq env instanceNumber r
        (st.modifyConn r CipConnectionObject.countPacket)
      rw [hcollect] at hcall
      have hself : (modifyConn { st.modifyConn r CipConnectionObject.countPacket with
          assemblyData := assemblyData } r (CipConnectionObject.countData changed)).conn r =
            (st.conn r).countPacket.countData changed :=
        (conn_modifyConn_self _ r _).trans (congrArg _ (conn_modifyConn_self _ r _))
      rw [hself] at hcall
      split at hcall
      · cases hcall
      · rename_i hfits
        cases hcall
        have hpacket := List.append_cancel_left hsends
        injection hpacket with hpacket
        injection hpacket with hpacket
        rw [outgoingMessage_eq, Nat.not_lt] at hfits
        exact ⟨hpacket ▸ hfits, changed, assemblyData instanceNumber, hself, hpacket.symm⟩

theorem receivePacket_outcome {length : UInt16 → Nat} {identity : CipIdentityObject}
    {packet : IoPacket} {sequenceNumber : UInt32} {sequenceCount : UInt16} {delivery : Delivery}
    (hattends : Attends cfg packet.connectionIdentifier r st)
    (hconsumes : Reception.ConsumesData cfg length (st.conn r))
    (hlengths : HasLengths length st.assemblyData) (hkeeps : env.KeepsLengths length)
    (hnumber : packet.sequenceNumber = some sequenceNumber)
    (hpacket : packet.Class1 cfg sequenceCount)
    (hcall : st.receivePacket cfg env identity (st.conn r).originatorAddress.sinAddr packet =
      .ok (delivery, st')) :
    delivery = { packet
                 passed := (st.conn r).takesNumber sequenceNumber
                 written :=
                  if (st.conn r).takesNumber sequenceNumber = true ∧ packet.data ≠ [] ∧
                    seqLeq16 sequenceCount (st.conn r).sequenceCountConsuming = false ∧
                    packet.data.length = length (st.conn r).consumedPath.instanceId
                  then some packet.data else none } ∧
      (Attends cfg packet.connectionIdentifier r st' ∧ (st'.conn r).lastTaken =
        if (st.conn r).takesNumber sequenceNumber then some sequenceNumber
        else (st.conn r).lastTaken) ∧
      (st'.conn r).lasting = (st.conn r).lasting ∧ HasLengths length st'.assemblyData ∧
      (st'.conn r).sequenceCountConsuming =
        if (st.conn r).takesNumber sequenceNumber then sequenceCount
        else (st.conn r).sequenceCountConsuming := by
  have hcarries := IoPacket.sequencedPacket hnumber hpacket.length
  have hafter : ∃ status, st.handleReceivedConnectedData cfg env packet.bytes
      (st.conn r).originatorAddress.sinAddr = .ok (status, st') := by
    have hstate := st.receivePacket_state cfg env identity
      (st.conn r).originatorAddress.sinAddr packet
    rw [hcall] at hstate
    cases hhandled : st.handleReceivedConnectedData cfg env packet.bytes
        (st.conn r).originatorAddress.sinAddr with
    | error fault =>
        rw [hhandled] at hstate
        cases hstate
    | ok result =>
        rw [hhandled] at hstate
        cases hstate
        exact ⟨result.1, rfl⟩
  obtain ⟨status, hhandled⟩ := hafter
  have hattended := (hattends.packet env hcarries).2 status st' hhandled
  obtain ⟨cpf, haccept⟩ := acceptConnectedData_sequenced hcarries hattends.found hattends.receives
  obtain ⟨hword, hdrop⟩ := IoPacket.bytes_dataItem hnumber
  rw [hword, hdrop] at haccept
  have hheard : (conn { st.modifyConn r fun c => c.heard sequenceNumber with cpf := cpf } r) =
      (st.conn r).heard sequenceNumber := conn_modifyConn_self _ r _
  obtain ⟨hcount, hclass, hinstance⟩ := (st.conn r).heard_receiving sequenceNumber
  rw [receivePacket, haccept] at hcall
  have hassembly : ({ st.modifyConn r fun c => c.heard sequenceNumber with
    cpf := cpf } : StackState).assemblyData = st.assemblyData := rfl
  generalize ({ st.modifyConn r fun c => c.heard sequenceNumber with cpf := cpf } : StackState) =
    heard at hcall hheard hassembly
  have hlasting := CipConnectionObject.lasting_of_core
    ((handleReceivedConnectedData_touched hhandled).object r)
  have hretains := handleReceivedConnectedData_lengths hkeeps hhandled hlengths
  rw [← hheard] at hcount hclass hinstance
  by_cases htakes : (st.conn r).takesNumber sequenceNumber = true
  · simp only [if_pos htakes] at hcall
    split at hcall
    · cases hcall
    · rename_i status after hreceived
      cases hcall
      obtain ⟨hlast, hwritten⟩ := Reception.handleReceivedIoConnectionData_packet
        (hclass.trans hconsumes.transportClass) (hinstance.trans hconsumes.consumingInstance)
        hpacket rfl hreceived
      rw [hcount, takenLength, if_neg hconsumes.instance_ne, hassembly, hlengths] at hwritten
      refine ⟨?_, hattended, hlasting, hretains, ?_⟩
      · rw [hwritten, htakes]
        simp only [true_and]
      · rw [if_pos htakes]
        exact hlast
  · simp only [if_neg htakes] at hcall
    cases hcall
    refine ⟨?_, hattended, hlasting, hretains, ?_⟩
    · rw [if_neg fun hall => htakes hall.1, Bool.eq_false_of_not_eq_true htakes]
    · rw [if_neg htakes]
      exact hcount

end StackState

namespace Transmits

variable {link : IoLink} {length : UInt16 → Nat} {producer consumer : StackState}
  {t : Transmission}

/-- The producer numbers its packets one by one, and its headers are those of class 1. -/
structure Numbered (link : IoLink) (producer : StackState) (t : Transmission) : Prop where
  transportClass : (t.producer.conn link.producer).transportClass = .class1
  connectionId : (t.producer.conn link.producer).cipProducedConnectionId = link.connectionId
  next : (t.producer.conn link.producer).eipLevelSequenceCountProducing =
    (producer.conn link.producer).eipLevelSequenceCountProducing + UInt32.ofNat t.sent.length
  numbers : t.sent.map (·.sequenceNumber) = (List.range t.sent.length).map fun i =>
    some ((producer.conn link.producer).eipLevelSequenceCountProducing + 1 + UInt32.ofNat i)
  headers : ∀ packet ∈ t.sent, packet.connectionIdentifier = link.connectionId ∧
    packet.sequenceCount.isSome = true ∧
      packet.runIdle.isSome = (link.producerCfg.produceRunIdle && packet.data ≠ [])
  sizes : ∀ packet ∈ t.sent, packet.bytes.length ≤ ethernetBufferSize

theorem numbered (hrun : Transmits link length producer consumer t)
    (hready : link.Ready length producer consumer) : Numbered link producer t := by
  induction hrun with
  | start =>
      exact ⟨hready.transportClass, hready.connectionId, (UInt32.add_zero _).symm, rfl,
        fun packet hmem => absurd hmem List.not_mem_nil,
        fun packet hmem => absurd hmem List.not_mem_nil⟩
  | @send t env st' packet before call sends ih =>
      obtain ⟨hfits, changed, data, hconn, rfl⟩ := sendConnectedData_packet call sends
      have hsame : ((t.producer.conn link.producer).countPacket.countData changed).transportClass =
          (t.producer.conn link.producer).transportClass ∧
          ((t.producer.conn link.producer).countPacket.countData
            changed).cipProducedConnectionId =
              (t.producer.conn link.producer).cipProducedConnectionId ∧
          ((t.producer.conn link.producer).countPacket.countData
            changed).eipLevelSequenceCountProducing =
              (t.producer.conn link.producer).eipLevelSequenceCountProducing + 1 := by
        cases changed with
        | false => exact ⟨rfl, rfl, rfl⟩
        | true => exact ⟨rfl, rfl, rfl⟩
      generalize (t.producer.conn link.producer).countPacket.countData changed = sender
        at hfits hconn hsame
      obtain ⟨hclass, hid, hcount⟩ := hsame
      rw [ih.next] at hcount
      rw [ih.transportClass] at hclass
      rw [ih.connectionId] at hid
      have hlength : ∀ packet : IoPacket, (t.sent ++ [packet]).length = t.sent.length + 1 :=
        fun _ => List.length_append
      refine ⟨hconn ▸ hclass, hconn ▸ hid, ?_, ?_, fun packet hmem => ?_, fun packet hmem => ?_⟩
      · dsimp only
        rw [hconn, hcount, hlength, UInt32.ofNat_add, UInt32.add_assoc]
        rfl
      · have hnumber : (sender.ioPacket link.producerCfg t.producer.runIdleState
            data).sequenceNumber = some ((producer.conn
              link.producer).eipLevelSequenceCountProducing + 1 +
                UInt32.ofNat t.sent.length) := by
          rw [CipConnectionObject.ioPacket, if_pos (by rw [hclass]; decide), hcount]
          exact congrArg some (by ac_rfl)
        dsimp only
        rw [hlength, List.range_succ, List.map_append, List.map_append, ih.numbers,
          List.map_singleton, List.map_singleton, hnumber]
      · rcases List.mem_append.mp hmem with hmem | hmem
        · exact ih.headers packet hmem
        · cases List.mem_singleton.mp hmem
          obtain ⟨hsequenceCount, hrunIdle⟩ := CipConnectionObject.ioPacket_class1
            link.producerCfg hclass t.producer.runIdleState data
          exact ⟨hid, by rw [hsequenceCount]; rfl, hrunIdle⟩
      · rcases List.mem_append.mp hmem with hmem | hmem
        · exact ih.sizes packet hmem
        · exact List.mem_singleton.mp hmem ▸ hfits
  | deliver before sent keeps call ih => exact ⟨ih.transportClass, ih.connectionId, ih.next,
      ih.numbers, ih.headers, ih.sizes⟩
  | @elsewhereProducer t st' before same ih =>
      have hclass := congrArg (·.2.2.2) same
      have hid := congrArg (·.2.2.1) same
      have hnext := congrArg (·.1) same
      exact ⟨hclass.trans ih.transportClass, hid.trans ih.connectionId, hnext.trans ih.next,
        ih.numbers, ih.headers, ih.sizes⟩
  | elsewhereConsumer before undisturbed unvisited ih => exact ⟨ih.transportClass,
      ih.connectionId, ih.next, ih.numbers, ih.headers, ih.sizes⟩

theorem Numbered.positions (h : Numbered link producer t) (hwindow : t.sent.length ≤ 2 ^ 31) :
    t.sent.map (·.position
      ((producer.conn link.producer).eipLevelSequenceCountProducing + 1)) =
        List.range t.sent.length := by
  have hnumbers := congrArg (List.map fun number => (Option.getD number 0 -
    ((producer.conn link.producer).eipLevelSequenceCountProducing + 1)).toNat) h.numbers
  rw [List.map_map, List.map_map] at hnumbers
  refine hnumbers.trans ?_
  refine (List.map_congr_left fun i hi => ?_).trans (List.map_id _)
  have hlt := List.mem_range.mp hi
  generalize (producer.conn link.producer).eipLevelSequenceCountProducing + 1 = base
  have hcancel : base + UInt32.ofNat i - base = UInt32.ofNat i := by
    rw [UInt32.add_comm, UInt32.add_sub_cancel]
  dsimp only [Function.comp_apply, Option.getD_some, id_eq]
  rw [hcancel, UInt32.toNat_ofNat']
  exact Nat.mod_eq_of_lt (by omega)

theorem Numbered.position_lt (h : Numbered link producer t) (hwindow : t.sent.length ≤ 2 ^ 31)
    {packet : IoPacket} (hmem : packet ∈ t.sent) :
    packet.position ((producer.conn link.producer).eipLevelSequenceCountProducing + 1) <
      2 ^ 31 := by
  have hposition := List.mem_map_of_mem (f := IoPacket.position
    ((producer.conn link.producer).eipLevelSequenceCountProducing + 1)) hmem
  rw [h.positions hwindow] at hposition
  exact Nat.lt_of_lt_of_le (List.mem_range.mp hposition) hwindow

theorem Numbered.increasing (h : Numbered link producer t) (hwindow : t.sent.length ≤ 2 ^ 31) :
    t.sent.Pairwise fun a b =>
      a.position ((producer.conn link.producer).eipLevelSequenceCountProducing + 1) <
        b.position ((producer.conn link.producer).eipLevelSequenceCountProducing + 1) := by
  have hrange : (List.range t.sent.length).Pairwise (· < ·) := List.pairwise_lt_range
  rw [← h.positions hwindow, List.pairwise_map] at hrange
  exact hrange

theorem Numbered.number (h : Numbered link producer t) {packet : IoPacket}
    (hmem : packet ∈ t.sent) : ∃ number, packet.sequenceNumber = some number := by
  have hnumber := List.mem_map_of_mem (f := IoPacket.sequenceNumber) hmem
  rw [h.numbers] at hnumber
  obtain ⟨i, -, hi⟩ := List.mem_map.mp hnumber
  exact ⟨_, hi.symm⟩

theorem Numbered.class1 (h : Numbered link producer t)
    (hrunIdle : link.consumerCfg.consumeRunIdle = link.producerCfg.produceRunIdle)
    {packet : IoPacket} (hmem : packet ∈ t.sent) :
    ∃ count, packet.Class1 link.consumerCfg count := by
  obtain ⟨-, hcount, hheader⟩ := h.headers packet hmem
  obtain ⟨count, hcount⟩ := Option.isSome_iff_exists.mp hcount
  have hfits : packet.bytes.length ≤ 512 := h.sizes packet hmem
  rw [IoPacket.bytes, List.length_append] at hfits
  rw [← hrunIdle] at hheader
  exact ⟨count, hcount, hheader, by omega⟩

/-- The consumer takes the packets that are above everything before them, and writes nothing
but their data. -/
structure Received (link : IoLink) (length : UInt16 → Nat) (consumer : StackState)
    (base : UInt32) (t : Transmission) : Prop where
  lasting : (t.consumer.conn link.consumer).lasting = (consumer.conn link.consumer).lasting
  attends : Attends link.consumerCfg link.connectionId link.consumer t.consumer
  consumes : Reception.ConsumesData link.consumerCfg length (t.consumer.conn link.consumer)
  lengths : HasLengths length t.consumer.assemblyData
  sent : ∀ delivery ∈ t.log, delivery.packet ∈ t.sent
  written : ∀ delivery ∈ t.log, ∀ data, delivery.written = some data →
    delivery.passed = true ∧ data = delivery.packet.data
  tracks : Records.Tracks (fun number : UInt32 => (number - base).toNat)
    (t.log.map fun delivery => (delivery.packet.sequenceNumber.getD 0, delivery.passed))
    (t.consumer.conn link.consumer).lastTaken

theorem takes_eq {base : UInt32} (h : Received link length consumer base t)
    (hwindow : ∀ packet ∈ t.sent, packet.position base < 2 ^ 31) {packet : IoPacket}
    (hmem : packet ∈ t.sent) {number : UInt32} (hnumber : packet.sequenceNumber = some number) :
    (t.consumer.conn link.consumer).takesNumber number =
      Records.takes (fun number : UInt32 => (number - base).toNat)
        (t.consumer.conn link.consumer).lastTaken number := by
  have hposition := hwindow packet hmem
  rw [IoPacket.position, hnumber, Option.getD_some] at hposition
  refine CipConnectionObject.takesNumber_eq hposition fun last hlast => ?_
  obtain ⟨⟨taken, hmem⟩, -⟩ := h.tracks.highest last hlast
  obtain ⟨earlier, hearlier, heq⟩ := List.mem_map.mp hmem
  have hbound := hwindow earlier.packet (h.sent earlier hearlier)
  have hlastNumber : earlier.packet.sequenceNumber.getD 0 = last := congrArg Prod.fst heq
  rw [IoPacket.position, hlastNumber] at hbound
  exact hbound

theorem received (hrun : Transmits link length producer consumer t)
    (hready : link.Ready length producer consumer) (hwindow : t.sent.length ≤ 2 ^ 31) :
    Received link length consumer
      ((producer.conn link.producer).eipLevelSequenceCountProducing + 1) t := by
  induction hrun with
  | start =>
      refine ⟨rfl, hready.attends, hready.consumes, hready.lengths,
        fun _ hmem => absurd hmem List.not_mem_nil, fun _ hmem => absurd hmem List.not_mem_nil, ?_⟩
      rw [hready.unheard]
      exact Records.tracks_nil
  | @send t env st' packet before call sends ih =>
      rw [List.length_append] at hwindow
      obtain ⟨hsame, hattends, hconsumes, hlengths, hsent, hwritten, htracks⟩ :=
        ih (Nat.le_of_add_right_le hwindow)
      exact ⟨hsame, hattends, hconsumes, hlengths,
        fun delivery hmem => List.mem_append_left _ (hsent delivery hmem), hwritten, htracks⟩
  | @deliver t env identity packet delivery st' before sent keeps call ih =>
      have hreceived := ih hwindow
      have hnumbered := before.numbered hready
      obtain ⟨number, hnumber⟩ := hnumbered.number sent
      have htakes := takes_eq hreceived (fun _ => hnumbered.position_lt hwindow) sent hnumber
      obtain ⟨hsame, hattends, hconsumes, hlengths, hsent, hwritten, htracks⟩ := hreceived
      have hid := (hnumbered.headers packet sent).1
      obtain ⟨count, hpacket⟩ := hnumbered.class1 hready.runIdle sent
      obtain ⟨rfl, ⟨hattended, hlast⟩, hlasting, hretained, -⟩ :=
        receivePacket_outcome (hid ▸ hattends) hconsumes hlengths keeps hnumber hpacket call
      refine ⟨hlasting.trans hsame, hid ▸ hattended, hconsumes.of_lasting hlasting, hretained, ?_,
        ?_, ?_⟩
      · intro later hmem
        rcases List.mem_append.mp hmem with hmem | hmem
        · exact hsent later hmem
        · cases List.mem_singleton.mp hmem
          exact sent
      · intro later hmem data hdata
        rcases List.mem_append.mp hmem with hmem | hmem
        · exact hwritten later hmem data hdata
        · cases List.mem_singleton.mp hmem
          dsimp only at hdata
          split at hdata
          · rename_i hall
            cases hdata
            exact ⟨hall.1, rfl⟩
          · cases hdata
      · have happended := htracks.append number
        rw [← htakes] at happended
        rw [Transmission.deliver]
        dsimp only
        rw [List.map_append, List.map_singleton, hnumber, Option.getD_some, hlast]
        exact happended
  | elsewhereProducer before same ih =>
      obtain ⟨hsame, hattends, hconsumes, hlengths, hsent, hwritten, htracks⟩ := ih hwindow
      exact ⟨hsame, hattends, hconsumes, hlengths, hsent, hwritten, htracks⟩
  | @elsewhereConsumer t st' before undisturbed unvisited ih =>
      obtain ⟨hsame, hattends, hconsumes, hlengths, hsent, hwritten, htracks⟩ := ih hwindow
      obtain ⟨hattended, hlast⟩ := hattends.undisturbed undisturbed
      refine ⟨unvisited.lasting.trans hsame, hattended, hconsumes.of_lasting unvisited.lasting,
        unvisited.lengths hlengths, hsent, hwritten, ?_⟩
      dsimp only
      rw [hlast]
      exact htracks

/-- The sequence count of the producer counts the changes. -/
structure Counted (link : IoLink) (base : UInt16) (t : Transmission) : Prop where
  most : ((t.producer.conn link.producer).sequenceCountProducing - base).toNat ≤ t.sent.length
  behind : ∀ packet ∈ t.sent, packet.changes base ≤
    ((t.producer.conn link.producer).sequenceCountProducing - base).toNat
  increasing : t.sent.Pairwise fun a b => a.changes base ≤ b.changes base

theorem counted (hrun : Transmits link length producer consumer t)
    (hready : link.Ready length producer consumer) (hwindow : t.sent.length < 2 ^ 15) :
    Counted link (producer.conn link.producer).sequenceCountProducing t := by
  induction hrun with
  | start =>
      refine ⟨?_, fun _ hmem => absurd hmem List.not_mem_nil, List.Pairwise.nil⟩
      rw [UInt16.sub_self]
      exact Nat.le_refl 0
  | @send t env st' packet before call sends ih =>
      have hclass := (before.numbered hready).transportClass
      obtain ⟨-, changed, data, hconn, rfl⟩ := sendConnectedData_packet call sends
      rw [List.length_append, List.length_singleton] at hwindow
      obtain ⟨hmost, hbehind, hincreasing⟩ := ih (by omega)
      obtain ⟨hsender, hadvance, hstep⟩ := CipConnectionObject.countData_changes changed
        (producer.conn link.producer).sequenceCountProducing hclass (by omega)
      obtain ⟨hsequenceCount, -⟩ := CipConnectionObject.ioPacket_class1 link.producerCfg hsender
        t.producer.runIdleState data
      generalize (t.producer.conn link.producer).countPacket.countData changed = sender
        at hconn hadvance hstep hsequenceCount
      generalize sender.ioPacket link.producerCfg t.producer.runIdleState data = packet
        at hsequenceCount
      have hchanges : packet.changes (producer.conn link.producer).sequenceCountProducing =
          (sender.sequenceCountProducing -
            (producer.conn link.producer).sequenceCountProducing).toNat := by
        rw [IoPacket.changes, hsequenceCount, Option.getD_some]
      refine ⟨?_, fun later hmem => ?_, ?_⟩
      · dsimp only
        rw [hconn, List.length_append, List.length_singleton]
        omega
      · dsimp only
        rw [hconn]
        rcases List.mem_append.mp hmem with hmem | hmem
        · exact (hbehind later hmem).trans hadvance
        · rw [List.mem_singleton.mp hmem, hchanges]
      · refine List.pairwise_append.mpr ⟨hincreasing, List.pairwise_singleton _ _, ?_⟩
        intro earlier hearlier later hlater
        rw [List.mem_singleton.mp hlater, hchanges]
        exact (hbehind earlier hearlier).trans hadvance
  | deliver before sent keeps call ih =>
      obtain ⟨hmost, hbehind, hincreasing⟩ := ih hwindow
      exact ⟨hmost, hbehind, hincreasing⟩
  | @elsewhereProducer t st' before same ih =>
      obtain ⟨hmost, hbehind, hincreasing⟩ := ih hwindow
      have hcount := congrArg (·.2.1) same
      dsimp only [CipConnectionObject.sending] at hcount
      rw [← hcount] at hmost hbehind
      exact ⟨hmost, hbehind, hincreasing⟩
  | elsewhereConsumer before undisturbed unvisited ih =>
      obtain ⟨hmost, hbehind, hincreasing⟩ := ih hwindow
      exact ⟨hmost, hbehind, hincreasing⟩

theorem seqLeq16_eq_false_iff_lt {a b base : UInt16}
    (hbehind : (b - base).toNat ≤ (a - base).toNat) (hwindow : (a - base).toNat < 2 ^ 15) :
    seqLeq16 a b = false ↔ (b - base).toNat < (a - base).toNat := by
  have hdifference : a - b = (a - base) - (b - base) := by grind
  rw [seqLeq16_eq_false_iff, Newer, hdifference,
    UInt16.toNat_sub_of_le _ _ (UInt16.le_iff_toNat_le.mpr hbehind)]
  omega

/-- What the consumer has last written is as new as what it has last taken. -/
structure Current (link : IoLink) (base : UInt16) (t : Transmission) : Prop where
  last : ∀ packet, t.taken.getLast? = some packet → packet.changes base =
    ((t.consumer.conn link.consumer).sequenceCountConsuming - base).toNat
  untaken : t.taken = [] → (t.consumer.conn link.consumer).sequenceCountConsuming = base
  unwritten : (t.consumer.conn link.consumer).sequenceCountConsuming = base → t.writes = []
  written : (t.consumer.conn link.consumer).sequenceCountConsuming ≠ base →
    ∃ packet ∈ t.sent, packet.changes base =
        ((t.consumer.conn link.consumer).sequenceCountConsuming - base).toNat ∧
      t.writes.getLast? = some packet.data

namespace Current

variable {base : UInt16} {st' : StackState} {packet : IoPacket} {count : UInt16}

theorem left (h : Current link base t)
    (hstored : (st'.conn link.consumer).sequenceCountConsuming =
      (t.consumer.conn link.consumer).sequenceCountConsuming) :
    Current link base (t.deliver { packet, passed := false, written := none } st') := by
  have htaken : (t.deliver { packet, passed := false, written := none } st').taken = t.taken := by
    simp
  have hwrites : (t.deliver { packet, passed := false, written := none } st').writes =
      t.writes := by simp
  obtain ⟨hlast, huntaken, hunwritten, hwritten⟩ := h
  rw [← hstored] at hlast huntaken hunwritten hwritten
  rw [← htaken] at hlast huntaken
  rw [← hwrites] at hunwritten hwritten
  exact ⟨hlast, huntaken, hunwritten, hwritten⟩

/-- A packet that is taken. It is written when its data is newer than what was taken last. -/
theorem taken (h : Current link base t) (sent : packet ∈ t.sent)
    (hcount : packet.sequenceCount = some count)
    (hbehind : ((t.consumer.conn link.consumer).sequenceCountConsuming - base).toNat ≤
      packet.changes base)
    (hwindow : packet.changes base < 2 ^ 15)
    (hstored : (st'.conn link.consumer).sequenceCountConsuming = count) :
    Current link base (t.deliver
      { packet
        passed := true
        written :=
          if seqLeq16 count (t.consumer.conn link.consumer).sequenceCountConsuming = false
          then some packet.data else none } st') := by
  have hchanges : packet.changes base = (count - base).toNat := IoPacket.changes_eq hcount
  have hzero : ∀ a : UInt16, a = base ↔ (a - base).toNat = 0 := by
    intro a
    rw [← offset_inj base, UInt16.sub_self]
    rfl
  rw [hchanges] at hbehind hwindow
  have hnewer := seqLeq16_eq_false_iff_lt hbehind hwindow
  obtain ⟨hlast, huntaken, hunwritten, hwritten⟩ := h
  refine ⟨fun packet' hlast' => ?_, fun hnone => ?_, fun hsame => ?_, fun hdiffers => ?_⟩
  · rw [Transmission.taken_deliver, if_pos rfl, List.getLast?_concat] at hlast'
    cases hlast'
    exact hchanges.trans (congrArg (fun count => (count - base).toNat) hstored.symm)
  · rw [Transmission.taken_deliver] at hnone
    simp at hnone
  · have hcountSame : count = base := hstored.symm.trans hsame
    have hnone := (hzero count).mp hcountSame
    have hold : ¬seqLeq16 count (t.consumer.conn link.consumer).sequenceCountConsuming = false := by
      rw [hnewer]
      omega
    rw [Transmission.writes_deliver, if_neg hold]
    have hbefore := hunwritten ((hzero _).mpr (by omega))
    rw [hbefore]
    rfl
  · have hcountDiffers : count ≠ base := fun hsame => hdiffers (hstored.trans hsame)
    have hstoredChanges : ((t.deliver
        { packet
          passed := true
          written :=
            if seqLeq16 count (t.consumer.conn link.consumer).sequenceCountConsuming = false
            then some packet.data else none } st').consumer.conn
              link.consumer).sequenceCountConsuming = count := hstored
    rw [hstoredChanges, Transmission.writes_deliver]
    by_cases hnew : seqLeq16 count (t.consumer.conn link.consumer).sequenceCountConsuming = false
    · rw [if_pos hnew]
      exact ⟨packet, sent, hchanges, List.getLast?_concat⟩
    · have hequal : ((t.consumer.conn link.consumer).sequenceCountConsuming - base).toNat =
          (count - base).toNat := by
        rw [hnewer] at hnew
        omega
      have hbefore : (t.consumer.conn link.consumer).sequenceCountConsuming ≠ base := by
        intro hsame
        rw [(hzero _).mp hsame] at hequal
        exact hcountDiffers ((hzero count).mpr hequal.symm)
      obtain ⟨earlier, hmem, hearlier, hwrote⟩ := hwritten hbefore
      rw [if_neg hnew, Option.toList_none, List.append_nil]
      exact ⟨earlier, hmem, hearlier.trans hequal, hwrote⟩

end Current

theorem current (hrun : Transmits link length producer consumer t)
    (hready : link.Ready length producer consumer) (hwindow : t.sent.length < 2 ^ 15)
    (hdata : ∀ packet ∈ t.sent, packet.data.length =
      length (consumer.conn link.consumer).consumedPath.instanceId) :
    Current link (producer.conn link.producer).sequenceCountProducing t := by
  induction hrun with
  | start =>
      refine ⟨fun _ hlast => ?_, fun _ => hready.counts.symm, fun _ => rfl,
        fun hdiffers => absurd hready.counts.symm hdiffers⟩
      cases hlast
  | @send t env st' packet before call sends ih =>
      rw [List.length_append] at hwindow
      obtain ⟨hlast, huntaken, hunwritten, hwritten⟩ := ih (Nat.lt_of_add_right_lt hwindow)
        fun packet hmem => hdata packet (List.mem_append_left _ hmem)
      refine ⟨hlast, huntaken, hunwritten, fun hdiffers => ?_⟩
      obtain ⟨packet, hmem, hchanges, hwrote⟩ := hwritten hdiffers
      exact ⟨packet, List.mem_append_left _ hmem, hchanges, hwrote⟩
  | @deliver t env identity packet delivery st' before sent keeps call ih =>
      have hnumbered := before.numbered hready
      have hpositions : t.sent.length ≤ 2 ^ 31 := by
        have hlength : t.sent.length < 2 ^ 15 := hwindow
        omega
      have hreceived := before.received hready hpositions
      have hcounted := before.counted hready hwindow
      have hcurrent := ih hwindow hdata
      obtain ⟨number, hnumber⟩ := hnumbered.number sent
      have hid := (hnumbered.headers packet sent).1
      obtain ⟨count, hpacket⟩ := hnumbered.class1 hready.runIdle sent
      have hcount := hpacket.sequenceCount
      have htakes := takes_eq hreceived (fun _ => hnumbered.position_lt hpositions) sent hnumber
      have habove := hreceived.tracks.takes_iff number
      rw [← htakes] at habove
      obtain ⟨rfl, -, -, -, hstored⟩ := receivePacket_outcome (hid ▸ hreceived.attends)
        hreceived.consumes hreceived.lengths keeps hnumber hpacket call
      cases hpassed : (t.consumer.conn link.consumer).takesNumber number with
      | false =>
          rw [hpassed, if_neg Bool.false_ne_true] at hstored
          rw [if_neg fun hall => Bool.false_ne_true hall.1]
          exact hcurrent.left hstored
      | true =>
          have hlength : packet.data.length =
              length (t.consumer.conn link.consumer).consumedPath.instanceId := by
            have hpath := CipConnectionObject.lasting_field hreceived.lasting
              (·.consumedPath.instanceId) fun _ => rfl
            rw [hpath]
            exact hdata packet sent
          have hnonempty : packet.data ≠ [] := by
            intro hnil
            rw [hnil] at hlength
            exact hreceived.consumes.nonempty hlength.symm
          have hbehind : ((t.consumer.conn link.consumer).sequenceCountConsuming -
              (producer.conn link.producer).sequenceCountProducing).toNat ≤
                packet.changes (producer.conn link.producer).sequenceCountProducing := by
            cases hlast : t.taken.getLast? with
            | none =>
                rw [hcurrent.untaken (List.getLast?_eq_none_iff.mp hlast), UInt16.sub_self]
                exact Nat.zero_le _
            | some last =>
                rw [← hcurrent.last last hlast]
                obtain ⟨earlier, hearlier, rfl⟩ :=
                  List.mem_map.mp (List.mem_of_getLast? hlast)
                have hlog := List.mem_of_mem_filter hearlier
                have hlt := (habove.mp hpassed) _ (List.mem_map_of_mem hlog)
                rw [← Option.getD_some (a := number) (b := 0), ← hnumber] at hlt
                exact Records.related_of_lt (hnumbered.increasing hpositions) hcounted.increasing
                  (hreceived.sent earlier hlog) sent hlt
          rw [hpassed, if_pos rfl] at hstored
          simp only [hnonempty, hlength, ne_eq, not_false_eq_true, true_and, and_true]
          exact hcurrent.taken sent hcount hbehind
            ((hcounted.behind packet sent).trans_lt (hcounted.most.trans_lt hwindow)) hstored
  | elsewhereProducer before same ih =>
      obtain ⟨hlast, huntaken, hunwritten, hwritten⟩ := ih hwindow hdata
      exact ⟨hlast, huntaken, hunwritten, hwritten⟩
  | @elsewhereConsumer t st' before undisturbed unvisited ih =>
      obtain ⟨hlast, huntaken, hunwritten, hwritten⟩ := ih hwindow hdata
      rw [← unvisited.sequenceCountConsuming] at hlast huntaken hunwritten hwritten
      exact ⟨hlast, huntaken, hunwritten, hwritten⟩

end Transmits

open Transmits

variable {link : IoLink} {length : UInt16 → Nat} {producer consumer : StackState}
  {t : Transmission}

/-- Whatever the network does with the datagrams, the consumer takes packets in the order in
which they were sent and none of them twice, and what it writes into its assembly is the data
of packets in this order, byte for byte. -/
theorem transmission_in_order (hready : link.Ready length producer consumer)
    (hrun : Transmits link length producer consumer t) (hwindow : t.sent.length ≤ 2 ^ 31) :
    t.taken.Sublist t.sent ∧ t.writes.Sublist (t.sent.map (·.data)) := by
  have hreceived := hrun.received hready hwindow
  have hmarked : Records.Marked (IoPacket.position
      ((producer.conn link.producer).eipLevelSequenceCountProducing + 1))
      (t.log.map fun delivery => (delivery.packet, delivery.passed)) := by
    have hnumbers : t.log.map (fun delivery =>
        (delivery.packet.sequenceNumber.getD 0, delivery.passed)) =
        (t.log.map fun delivery => (delivery.packet, delivery.passed)).map
          fun entry => (entry.1.sequenceNumber.getD 0, entry.2) := by
      rw [List.map_map]
      rfl
    have hnumbered := hreceived.tracks.marked
    rw [hnumbers] at hnumbered
    exact hnumbered.of_map fun packet : IoPacket => packet.sequenceNumber.getD 0
  have hup := (hrun.numbered hready).increasing hwindow
  have htaken := hmarked.sublist hup fun entry hmem => by
    obtain ⟨delivery, hdelivery, rfl⟩ := List.mem_map.mp hmem
    exact hreceived.sent delivery hdelivery
  rw [List.filter_map, List.map_map] at htaken
  refine ⟨htaken, ?_⟩
  have hwritten := Records.filterMap_sublist (fun delivery : Delivery => delivery.packet.data)
    hreceived.written
  have hdata := htaken.map (·.data)
  rw [List.map_map] at hdata
  exact hwritten.trans hdata

/-- While the data has changed less than 2 ^ 15 times, no change is lost at the end: the data
that the consumer wrote last is that of the packet it took last, unless the data had not
changed yet. The application says that the data has changed whenever it has. -/
theorem transmission_current (hready : link.Ready length producer consumer)
    (hrun : Transmits link length producer consumer t) (hwindow : t.sent.length < 2 ^ 15)
    (hdata : ∀ packet ∈ t.sent, packet.data.length =
      length (consumer.conn link.consumer).consumedPath.instanceId)
    (htruthful : t.sent.IsChain fun a b => b.sequenceCount = a.sequenceCount → b.data = a.data)
    {packet : IoPacket} (hlast : t.taken.getLast? = some packet) :
    if packet.sequenceCount = some (producer.conn link.producer).sequenceCountProducing
    then t.writes = [] else t.writes.getLast? = some packet.data := by
  have hcurrent := hrun.current hready hwindow hdata
  have hnumbered := hrun.numbered hready
  have hcounted := hrun.counted hready hwindow
  have hreceived := hrun.received hready (by omega)
  have hsent : packet ∈ t.sent := by
    obtain ⟨delivery, hdelivery, rfl⟩ := List.mem_map.mp (List.mem_of_getLast? hlast)
    exact hreceived.sent delivery (List.mem_of_mem_filter hdelivery)
  have hcounts : ∀ packet ∈ t.sent, ∃ count, packet.sequenceCount = some count :=
    fun packet hmem => Option.isSome_iff_exists.mp (hnumbered.headers packet hmem).2.1
  obtain ⟨count, hcount⟩ := hcounts packet hsent
  have hsame := hcurrent.last packet hlast
  rw [IoPacket.changes_eq hcount, offset_inj] at hsame
  split
  · rename_i hunchanged
    rw [hcount, Option.some_inj] at hunchanged
    exact hcurrent.unwritten (hsame ▸ hunchanged)
  · rename_i hchanged
    rw [hcount, Option.some_inj] at hchanged
    obtain ⟨written, hmem, hchanges, hwrote⟩ := hcurrent.written (hsame ▸ hchanged)
    rw [hwrote, Option.some_inj]
    have hchain : t.sent.IsChain fun a b =>
        b.changes (producer.conn link.producer).sequenceCountProducing =
          a.changes (producer.conn link.producer).sequenceCountProducing → b.data = a.data := by
      refine htruthful.imp_of_mem_imp fun a b ha hb hunchanged hequal => hunchanged ?_
      obtain ⟨countA, hcountA⟩ := hcounts a ha
      obtain ⟨countB, hcountB⟩ := hcounts b hb
      rw [IoPacket.changes_eq hcountA, IoPacket.changes_eq hcountB, offset_inj] at hequal
      rw [hcountA, hcountB, hequal]
    refine Records.eq_of_rank_eq hcounted.increasing hchain hmem hsent (hchanges.trans ?_)
    rw [IoPacket.changes_eq hcount, hsame]

section Sample

open SampleApplication

/-- The link from the exclusive owner of one device to that of another. -/
def sampleLink (connectionId : UInt32) : IoLink :=
  { producerCfg := { config with produceRunIdle := true }
    consumerCfg := config
    producer := .exclusiveOwner 0
    consumer := .exclusiveOwner 0
    connectionId }

/-- The consumer's state with the id that the other device produces. -/
def sampleProducer (st : StackState) : StackState :=
  st.modifyConn (.exclusiveOwner 0) fun c =>
    { c with cipProducedConnectionId := c.cipConsumedConnectionId }

/-- The two ends are ready for each other. -/
def opensReady (st : StackState) : Bool :=
  let c := st.conn (.exclusiveOwner 0)
  let length := (st.assemblyData 150).length
  c.transportClass = .class1 &&
    st.getConnectedObject config c.cipConsumedConnectionId = some (.exclusiveOwner 0) &&
    c.connectionReceiveDataFunction.isSome && c.lastTaken = none &&
    c.consumedPath.instanceId = 150 && c.consumingInstance = some 150 &&
    c.oToTConnectionSize.toNat = 6 + length && length ≠ 0 &&
    c.sequenceCountProducing = c.sequenceCountConsuming

theorem ready_of_opensReady {st : StackState} (h : opensReady st = true) :
    (sampleLink (st.conn (.exclusiveOwner 0)).cipConsumedConnectionId).Ready
        (fun instanceNumber => (st.assemblyData instanceNumber).length) (sampleProducer st) st ∧
      (st.conn (.exclusiveOwner 0)).consumedPath.instanceId = 150 ∧
      ((sampleProducer st).conn (.exclusiveOwner 0)).sequenceCountProducing =
        (st.conn (.exclusiveOwner 0)).sequenceCountProducing := by
  simp only [opensReady, Bool.and_eq_true, decide_eq_true_eq] at h
  obtain ⟨⟨⟨⟨⟨⟨⟨⟨hclass, hfound⟩, hreceives⟩, hunheard⟩, hpath⟩, hinstance⟩, hsize⟩, hnonempty⟩,
    hcounts⟩ := h
  have hconn : (sampleProducer st).conn (.exclusiveOwner 0) =
      { st.conn (.exclusiveOwner 0) with
        cipProducedConnectionId := (st.conn (.exclusiveOwner 0)).cipConsumedConnectionId } :=
    conn_modifyConn_self st _ _
  refine ⟨?_, hpath, congrArg (·.sequenceCountProducing) hconn⟩
  refine ⟨?_, ?_, ⟨hfound, hreceives⟩, hunheard, ⟨hclass, ?_, ?_, ?_, ?_⟩, fun _ => rfl, rfl, ?_⟩
  · exact (congrArg (·.transportClass) hconn).trans hclass
  · exact congrArg (·.cipProducedConnectionId) hconn
  · exact hpath ▸ by decide
  · exact hinstance.trans (congrArg some hpath.symm)
  · exact hsize.trans (by rw [← hpath]; rfl)
  · exact hpath.symm ▸ hnonempty
  · exact (congrArg (·.sequenceCountProducing) hconn).trans hcounts

/-- The producer sends a packet. -/
def sends (link : IoLink) (st : StackState) (p : StackState → IoPacket → Bool) : Bool :=
  returns (st.sendConnectedData link.producerCfg (environment 0 20) link.producer) fun st' =>
    match st'.events.getLast? with
    | some (.sent packet) => st'.events = st.events ++ [.sent packet] && p st' packet
    | _ => false

theorem of_sends {link : IoLink} {st : StackState} {p : StackState → IoPacket → Bool}
    (h : sends link st p = true) :
    ∃ st' packet, st.sendConnectedData link.producerCfg (environment 0 20) link.producer =
        .ok st' ∧ st'.events = st.events ++ [.sent packet] ∧ p st' packet = true := by
  obtain ⟨st', hcall, hsent⟩ := returns_iff.mp h
  split at hsent
  · rename_i packet _
    rw [Bool.and_eq_true, decide_eq_true_eq] at hsent
    exact ⟨st', packet, hcall, hsent.1, hsent.2⟩
  · cases hsent

/-- The consumer receives a packet of its peer. -/
def receives (st : StackState) (packet : IoPacket) (p : Delivery → StackState → Bool) : Bool :=
  returns (st.receivePacket config {} {}
    (st.conn (.exclusiveOwner 0)).originatorAddress.sinAddr packet) fun result =>
      p result.1 result.2

/-- Two packets are sent, and the second arrives before the first. -/
def overtakes (st : StackState) : Bool :=
  let c := st.conn (.exclusiveOwner 0)
  let fits (packet : IoPacket) : Bool := packet.data.length = (st.assemblyData 150).length
  opensReady st &&
    sends (sampleLink c.cipConsumedConnectionId) (sampleProducer st) fun st₁ first =>
      sends (sampleLink c.cipConsumedConnectionId) st₁ fun _ second =>
        fits first && fits second && second.sequenceCount ≠ some c.sequenceCountProducing &&
          second.sequenceCount ≠ first.sequenceCount &&
          receives st second fun early st₂ =>
            early.passed && early.packet = second &&
              receives st₂ first fun late _ => !late.passed && late.packet = first

theorem transmits_of_overtakes {st : StackState} (h : overtakes st = true) :
    ∃ (link : IoLink) (length : UInt16 → Nat) (producer consumer : StackState)
      (t : Transmission) (first second : IoPacket), link.Ready length producer consumer ∧
      Transmits link length producer consumer t ∧ t.sent = [first, second] ∧
      t.log.map (·.packet) = [second, first] ∧ t.taken = [second] ∧
      (∀ packet ∈ t.sent, packet.data.length =
        length (consumer.conn link.consumer).consumedPath.instanceId) ∧
      second.sequenceCount ≠ some (producer.conn link.producer).sequenceCountProducing ∧
      second.sequenceCount ≠ first.sequenceCount := by
  rw [overtakes, Bool.and_eq_true] at h
  obtain ⟨hopens, h⟩ := h
  obtain ⟨hready, hpath, hcount⟩ := ready_of_opensReady hopens
  obtain ⟨st₁, first, hfirst, hsentFirst, h⟩ := of_sends h
  obtain ⟨st₂, second, hsecond, hsentSecond, h⟩ := of_sends h
  simp only [Bool.and_eq_true, decide_eq_true_eq] at h
  obtain ⟨⟨⟨⟨hdata₁, hdata₂⟩, hchanged⟩, hdiffers⟩, h⟩ := h
  obtain ⟨⟨early, st₃⟩, hearly, h⟩ := returns_iff.mp h
  simp only [Bool.and_eq_true, decide_eq_true_eq] at h
  obtain ⟨⟨hpassed, hearlyPacket⟩, h⟩ := h
  obtain ⟨⟨late, st₄⟩, hlate, h⟩ := returns_iff.mp h
  simp only [Bool.and_eq_true, decide_eq_true_eq, Bool.not_eq_true'] at h
  obtain ⟨hrefused, hlatePacket⟩ := h
  have hkeeps : Environment.KeepsLengths
      (fun instanceNumber => (st.assemblyData instanceNumber).length) {} :=
    ⟨fun _ h => h, fun _ _ h => h, fun _ _ h => h⟩
  have hsent : Transmits (sampleLink (st.conn (.exclusiveOwner 0)).cipConsumedConnectionId)
      (fun instanceNumber => (st.assemblyData instanceNumber).length) (sampleProducer st) st
      { producer := st₂, consumer := st, sent := [first, second] } :=
    (Transmits.start.send hfirst hsentFirst).send hsecond hsentSecond
  have hdelivered := (hsent.deliver (.tail _ (.head _)) hkeeps hearly).deliver (.head _) hkeeps
    hlate
  refine ⟨_, _, _, _, _, first, second, hready, hdelivered, rfl, ?_, ?_, ?_, hcount ▸ hchanged,
    hdiffers⟩
  · exact congrArg₂ (fun p q => [p, q]) hearlyPacket hlatePacket
  · rw [Transmission.taken_deliver, Transmission.taken_deliver, hpassed, hrefused, hearlyPacket]
    rfl
  · have hlength := congrArg (fun i => (st.assemblyData i).length) hpath.symm
    intro packet hmem
    rcases List.mem_cons.mp hmem with rfl | hmem
    · exact hdata₁.trans hlength
    · cases List.mem_singleton.mp hmem
      exact hdata₂.trans hlength

/-- The packet that was overtaken is not taken any more. -/
theorem transmission_in_order_overtaken : ∃ t : Transmission, t.log.length = 2 ∧
    t.sent.length = 2 ∧ t.taken.length = 1 ∧ t.taken.Sublist t.sent ∧
    t.writes.Sublist (t.sent.map (·.data)) := by
  obtain ⟨st, -, hovertakes⟩ := reachable_of_ends config
    [request (exclusiveOwner 1 1 pointToPoint)] overtakes (by decide +kernel)
  obtain ⟨link, length, producer, consumer, t, first, second, hready, hrun, hsent, hlog, htaken,
    hfits, -⟩ := transmits_of_overtakes hovertakes
  have hlength := congrArg List.length hlog
  have htwo : t.sent.length = 2 := congrArg List.length hsent
  rw [List.length_map] at hlength
  exact ⟨t, hlength, htwo, congrArg List.length htaken,
    transmission_in_order hready hrun (by omega)⟩

/-- The data of the second packet are written, and stay when the first one arrives. -/
theorem transmission_current_overtaken : ∃ (t : Transmission) (first second : IoPacket),
    t.sent = [first, second] ∧ t.log.map (·.packet) = [second, first] ∧
    t.writes.getLast? = some second.data := by
  obtain ⟨st, -, hovertakes⟩ := reachable_of_ends config
    [request (exclusiveOwner 1 1 pointToPoint)] overtakes (by decide +kernel)
  obtain ⟨link, length, producer, consumer, t, first, second, hready, hrun, hsent, hlog, htaken,
    hfits, hchanged, hdiffers⟩ := transmits_of_overtakes hovertakes
  have hlast : t.taken.getLast? = some second := by
    rw [htaken]
    rfl
  have htruthful : t.sent.IsChain fun a b =>
      b.sequenceCount = a.sequenceCount → b.data = a.data := by
    rw [hsent]
    exact .cons_cons (fun hsame => absurd hsame hdiffers) (.singleton second)
  have htwo : t.sent.length = 2 := congrArg List.length hsent
  have hcurrent := transmission_current hready hrun (by omega) hfits htruthful hlast
  rw [if_neg hchanged] at hcurrent
  exact ⟨t, first, second, hsent, hlog, hcurrent⟩

end Sample

end Opener

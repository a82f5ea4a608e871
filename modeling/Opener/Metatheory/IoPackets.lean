import Opener.Core.IoPackets
import Opener.Metatheory.FirstData

/-!
What a receiver reads out of the datagram that a producer has assembled: the packet, field
by field.
-/

namespace Opener

namespace IoPacket

variable {packet : IoPacket} {sequenceNumber : UInt32} {sequenceCount : UInt16}

theorem bytes_eq (hnumber : packet.sequenceNumber = some sequenceNumber) :
    packet.bytes = SampleApplication.sequencedPacket packet.connectionIdentifier sequenceNumber
      packet.payload := by
  rw [bytes, addressItemBytes, hnumber]
  simp only [SampleApplication.sequencedPacket, List.append_assoc]

theorem sequencedPacket (hnumber : packet.sequenceNumber = some sequenceNumber)
    (hlength : packet.payload.length < 65536) :
    StackState.SequencedPacket packet.bytes packet.connectionIdentifier sequenceNumber := by
  rw [bytes_eq hnumber]
  exact StackState.sequencedPacket_carries _ _ hlength

theorem bytes_dataItem (hnumber : packet.sequenceNumber = some sequenceNumber) :
    Message.word packet.bytes 16 = UInt16.ofNat packet.payload.length ∧
      packet.bytes.drop 18 = packet.payload := by
  rw [bytes_eq hnumber]
  exact ⟨congrArg Prod.fst (Message.getUint_intBytes _ _), rfl⟩

/-- The headers are those that a class 1 connection expects. -/
structure Class1 (cfg : Config) (sequenceCount : UInt16) (packet : IoPacket) : Prop where
  sequenceCount : packet.sequenceCount = some sequenceCount
  runIdle : packet.runIdle.isSome = (cfg.consumeRunIdle && packet.data ≠ [])
  length : packet.payload.length < 65536

theorem Class1.payload_eq {cfg : Config} (h : packet.Class1 cfg sequenceCount) :
    ∃ header, packet.payload = intBytes sequenceCount ++ header ++ packet.data ∧
      (packet.data ≠ [] → header.length = if cfg.consumeRunIdle then 4 else 0) ∧
      (packet.data = [] → header = []) := by
  refine ⟨packet.runIdle.elim [] dintBytes, ?_, fun hdata => ?_, fun hdata => ?_⟩
  · rw [payload, h.sequenceCount]
    rfl
  · have hrunIdle := h.runIdle
    cases hheader : packet.runIdle with
    | none =>
        simp only [hheader, hdata, ne_eq, not_false_eq_true, decide_true, Bool.and_true,
          Option.isSome_none] at hrunIdle
        simp [← hrunIdle]
    | some runIdle =>
        simp only [hheader, hdata, ne_eq, not_false_eq_true, decide_true, Bool.and_true,
          Option.isSome_some] at hrunIdle
        simp [← hrunIdle, dintBytes]
  · have hrunIdle := h.runIdle
    rw [hdata] at hrunIdle
    cases hheader : packet.runIdle with
    | none => rfl
    | some runIdle => simp [hheader] at hrunIdle

end IoPacket

namespace Reception

variable {cfg : Config} {env : Environment} {r : ConnRef} {reception after : Reception}
  {status : EipStatus} {packet : IoPacket} {sequenceCount : UInt16}

/-- The data that a call writes. -/
def callData : ReceptionCall → Option (List UInt8)
  | .written _ data => some data
  | .runIdleChanged _ | .afterAssemblyDataReceived _ => none

/-- The data that was written first. -/
def writtenData (reception : Reception) : Option (List UInt8) :=
  reception.calls.findSome? callData

theorem headed_writtenData (cfg : Config) (data : Message) (hcalls : reception.calls = []) :
    (reception.headed cfg data).writtenData = none := by
  rw [writtenData, List.findSome?_eq_none_iff]
  intro call hcall
  rcases mem_headed_calls hcall with hbefore | ⟨runIdle, rfl⟩
  · rw [hcalls] at hbefore
    cases hbefore
  · rfl

/-- Of a class 1 packet its data is written, if its count is newer and the assembly has its
length. -/
theorem handleReceivedIoConnectionData_packet {instanceNumber : UInt16}
    (hclass : (reception.state.conn r).transportClass = .class1)
    (hconsuming : (reception.state.conn r).consumingInstance = some instanceNumber)
    (hpacket : packet.Class1 cfg sequenceCount) (hcalls : reception.calls = [])
    (hcall : reception.handleReceivedIoConnectionData cfg env r packet.payload
      (UInt16.ofNat packet.payload.length) = .ok (status, after)) :
    (after.state.conn r).sequenceCountConsuming = sequenceCount ∧
      after.writtenData =
        if packet.data ≠ [] ∧
            seqLeq16 sequenceCount (reception.state.conn r).sequenceCountConsuming = false ∧
            packet.data.length = reception.state.takenLength instanceNumber
        then some packet.data else none := by
  obtain ⟨header, hpayload, hheader, hempty⟩ := hpacket.payload_eq
  have hlength := hpacket.length
  have hcount : (Message.getUint packet.payload).1 = sequenceCount := by
    rw [hpayload, List.append_assoc]
    exact congrArg Prod.fst (Message.getUint_intBytes _ _)
  have hrest : packet.payload.drop 2 = header ++ packet.data := by
    rw [hpayload, List.append_assoc]
    rfl
  have htwo : packet.payload.length = 2 + header.length + packet.data.length := by
    rw [hpayload, List.length_append, List.length_append]
    rfl
  have hshort : (UInt16.ofNat packet.payload.length - 2).toNat =
      header.length + packet.data.length := by
    have hnat : (UInt16.ofNat packet.payload.length).toNat = packet.payload.length := by
      rw [UInt16.toNat_ofNat']
      exact Nat.mod_eq_of_lt hlength
    have hfits : (2 : UInt16) ≤ UInt16.ofNat packet.payload.length := by
      rw [UInt16.le_iff_toNat_le, hnat, htwo, Nat.add_assoc]
      exact Nat.le_add_right 2 _
    rw [UInt16.toNat_sub_of_le _ _ hfits, hnat, htwo, Nat.add_assoc]
    exact Nat.add_sub_cancel_left 2 _
  rw [handleReceivedIoConnectionData_class1 hclass, hcount] at hcall
  have hcounted := counted_sequenceCountConsuming r sequenceCount reception
  have hinstance : ((reception.counted r sequenceCount).state.conn r).consumingInstance =
      some instanceNumber :=
    (congrArg CipConnectionObject.consumingInstance
      (StackState.conn_modifyConn_self _ _ _)).trans hconsuming
  have hassembly : (reception.counted r sequenceCount).state.takenLength instanceNumber =
    reception.state.takenLength instanceNumber := rfl
  have hnone : (reception.counted r sequenceCount).calls = [] := hcalls
  generalize reception.counted r sequenceCount = counted
    at hcall hcounted hinstance hassembly hnone
  refine ⟨(congrArg (·.sequenceCountConsuming) ((receiveContent_onward hcall).conn r)).trans
    hcounted, ?_⟩
  by_cases hdata : packet.data = []
  · have hnil : (UInt16.ofNat packet.payload.length - 2).toNat = 0 := by
      rw [hshort, hempty hdata, hdata]
      rfl
    rw [receiveContent_nil hnil] at hcall
    cases hcall
    rw [if_neg fun hall => hall.1 hdata, writtenData, hnone]
    rfl
  · have hnotNil : (UInt16.ofNat packet.payload.length - 2).toNat ≠ 0 := by
      have hpositive := List.length_pos_of_ne_nil hdata
      omega
    have hquiet := headed_writtenData cfg (packet.payload.drop 2) hnone
    cases hold : seqLeq16 sequenceCount (reception.state.conn r).sequenceCountConsuming with
    | true =>
        rw [hold, receiveContent_repeated hnotNil] at hcall
        cases hcall
        rw [if_neg fun hall => absurd hall.2.1 Bool.true_eq_false.mp]
        exact hquiet
    | false =>
        have hlengths := hheader hdata
        have hcontent : (if cfg.consumeRunIdle then (packet.payload.drop 2).drop 4
            else packet.payload.drop 2) = packet.data := by
          rw [hrest]
          split
          · rename_i hrunIdle
            rw [if_pos hrunIdle] at hlengths
            exact List.drop_left' hlengths
          · rename_i hrunIdle
            rw [if_neg hrunIdle] at hlengths
            rw [List.length_eq_zero_iff.mp hlengths, List.nil_append]
        have hcontentLength : (if cfg.consumeRunIdle then UInt16.ofNat packet.payload.length - 2 - 4
            else UInt16.ofNat packet.payload.length - 2).toNat = packet.data.length := by
          rw [toNat_contentLength fun hrunIdle => ?_, contentLength, hshort, ← hlengths]
          · exact Nat.add_sub_cancel_left _ _
          · rw [hshort, hlengths, if_pos hrunIdle]
            exact Nat.le_add_right 4 _
        have hstill : ((counted.headed cfg (packet.payload.drop 2)).state.conn
            r).consumingInstance = some instanceNumber := by
          rw [(headed_onward cfg _ counted).conn]
          exact hinstance
        have htaken : (counted.headed cfg (packet.payload.drop 2)).state.takenLength
            instanceNumber = reception.state.takenLength instanceNumber := by
          rw [← hassembly, StackState.takenLength, StackState.takenLength, headed_assemblyData]
        rw [hold, receiveContent_new hnotNil, hcontent] at hcall
        obtain ⟨instanceNumber', hsame, hcases⟩ := receiveData_cases hcall
        rw [hstill] at hsame
        cases hsame
        rw [htaken, hcontentLength] at hcases
        rcases hcases with ⟨hrefused, rfl⟩ | ⟨hfits, -, hwritten, -⟩
        · rw [if_neg fun hall => hrefused hall.2.2]
          exact hquiet
        · rw [if_pos ⟨hdata, rfl, hfits⟩, writtenData, hwritten, List.findSome?_append]
          have hbefore : (counted.headed cfg (packet.payload.drop 2)).calls.findSome? callData =
            none := hquiet
          rw [hbefore]
          exact congrArg some (Message.takeBytes_self rfl)

end Reception

end Opener

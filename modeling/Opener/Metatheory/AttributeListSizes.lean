import Opener.Metatheory.AttributeLists

/-!
The size of a reply with a list of attributes: the packet around the response message, and
the space check against what the listed attributes really take.
-/

namespace Opener

open PartialRuns (run)

variable {σ : Type}

namespace CommonPacketFormatData

/-- The complete reply to a received packet. -/
def completeReply (receiveBuffer : Message) (cpf : CommonPacketFormatData)
    (response : MessageRouterResponse) : ENIPMessage :=
  encapsulate (createEncapsulationStructure receiveBuffer).2
    (cpf.assembleLinearMessage response)

variable {cpf : CommonPacketFormatData} {response : MessageRouterResponse}

theorem replyOverhead_le (cpf : CommonPacketFormatData) : cpf.replyOverhead ≤ 90 := by
  have hconsuming := socketAddressInfoOfType_length cpf ItemId.socketAddressInfoOriginatorToTarget
  have hproducing := socketAddressInfoOfType_length cpf ItemId.socketAddressInfoTargetToOriginator
  rw [replyOverhead]
  split <;> omega

theorem completeReply_length (hdelivered : cpf.Delivered)
    (hadditional : response.additionalStatus = []) (receiveBuffer : Message) :
    (completeReply receiveBuffer cpf response).usedMessageLength =
      cpf.replyOverhead + response.message.length := by
  have hcontext : (createEncapsulationStructure receiveBuffer).2.senderContext.length =
    senderContextSize := rfl
  have hlength := assembleLinearMessage_delivered hdelivered response
  rw [hadditional] at hlength
  exact (encapsulate_length hcontext _).trans hlength

/-- The complete reply and the response message each fit their buffer. -/
def ReplyFits (receiveBuffer : Message) (cpf : CommonPacketFormatData)
    (response : MessageRouterResponse) : Prop :=
  (completeReply receiveBuffer cpf response).usedMessageLength ≤ ethernetBufferSize ∧
    response.message.length ≤ ethernetBufferSize

theorem replyFits_iff (hdelivered : cpf.Delivered)
    (hadditional : response.additionalStatus = []) (receiveBuffer : Message) :
    ReplyFits receiveBuffer cpf response ↔
      cpf.replyOverhead + response.message.length ≤ ethernetBufferSize := by
  rw [ReplyFits, completeReply_length hdelivered hadditional]
  omega

end CommonPacketFormatData

open CommonPacketFormatData (ReplyFits)

section Sizes

variable {serve : ListService σ} {inst : CipInstance σ} {front : List UInt8}
  {request : MessageRouterRequest} {state : σ} {places : Nat → ListPlace σ}
  {recordLength : ListPlace σ → Nat → Nat} {stays : ListPlace σ → Prop} {reply : ListReply σ}

/-- The records in front of a place have the length of the message there, less the count. -/
theorem Reads.records_length
    (hreads : Reads serve inst front request state places recordLength stays) {k : Nat}
    {log : List AttributeRecord} {s : ListState σ}
    (h : run (nextTurn serve inst (front ++ request.data)) k (listStart front state) =
      some (log, s)) :
    2 + (log.flatMap AttributeRecord.bytes).length = listMessageLength places recordLength k := by
  induction k generalizing log s with
  | zero =>
      cases h
      rfl
  | succ k ih =>
      obtain ⟨before, s₁, record, hrun, hnext, rfl⟩ := PartialRuns.run_last h
      obtain ⟨hplace, hused⟩ := hreads.reached hrun
      obtain ⟨hrecord, -⟩ := hreads.length _ _ _ _ (nextTurn_eq_some.mp hnext).2
      rw [List.flatMap_append, List.length_append, ← Nat.add_assoc, ih hrun,
        List.flatMap_singleton, hrecord, hplace, hused, listMessageLength]

/-- The message fits exactly when it does up to every listed attribute that passes the space
check with all those before it. -/
theorem attributeList_fits_iff
    (hreads : Reads serve inst front request state places recordLength stays)
    {limit : Nat} (hlimit : 2 ≤ limit)
    (h : attributeList serve inst front request state = .ok reply) :
    reply.response.message.length ≤ limit ↔
      ∀ k < (attributeCount request).toNat,
        (∀ j < k, stays (places j)) →
        (∀ j ≤ k,
          (places j).Fits inst (front ++ request.data) (listMessageLength places recordLength j)) →
        listMessageLength places recordLength (k + 1) ≤ limit := by
  by_cases hcount : attributeCount request = 0
  · cases (if_neg (not_not.mpr hcount)).symm.trans h
    refine iff_of_true (Nat.zero_le limit) fun k hk => ?_
    rw [hcount] at hk
    exact absurd hk (Nat.not_lt_zero k)
  obtain ⟨s, exit, hleaves, -, hmessage, -⟩ := attributeList_leaves hcount h
  have hlength : reply.response.message.length =
      2 + (reply.records.flatMap AttributeRecord.bytes).length := by
    rw [hmessage, List.length_append]
    rfl
  rw [hlength]
  constructor
  · intro hfits k hk hstays hpasses
    obtain ⟨log, s₁, hrun⟩ := hreads.comesTo hleaves hk fun j hj =>
      ⟨hpasses j (Nat.le_of_lt hj), hstays j hj⟩
    obtain ⟨record, s₂, returns, hanswer, hbegins⟩ := hleaves.answered hk hrun
      ((hreads.fits_iff hrun).mpr (hpasses k (Nat.le_refl k)))
    have hrecords := (hbegins.flatMap AttributeRecord.bytes).length_le
    obtain ⟨hplace, hused⟩ := hreads.reached hrun
    rw [List.flatMap_append, List.length_append, List.flatMap_singleton,
      (hreads.length _ _ _ _ hanswer).1, hplace, hused] at hrecords
    have hlog := hreads.records_length hrun
    rw [listMessageLength]
    omega
  · intro hall
    rcases hleaves.last with
      hnil | ⟨k, log, s₁, record, s₂, returns, hk, hrun, hfits, hanswer, hrecords⟩
    · rw [hnil]
      exact hlimit
    · -- the attributes before the last record passed the check and let the loop stay
      have hbefore : ∀ j < k, stays (places j) ∧
          (places j).Fits inst (front ++ request.data)
            (listMessageLength places recordLength j) := by
        intro j hj
        obtain ⟨s₃, record', s₄, hreached, hnext, -⟩ := PartialRuns.run_at hrun hj
        obtain ⟨hpasses, hstayed⟩ := nextTurn_eq_some.mp hnext
        refine ⟨?_, (hreads.fits_iff hreached).mp hpasses⟩
        rw [← (hreads.reached hreached).1]
        refine (hreads.stays s₃).mp fun other s₅ hreturns => ?_
        cases hstayed.symm.trans hreturns
      have hlast := hall k hk (fun j hj => (hbefore j hj).1) fun j hj => by
        obtain hlt | rfl := Nat.lt_or_eq_of_le hj
        · exact (hbefore j hlt).2
        · exact (hreads.fits_iff hrun).mp hfits
      obtain ⟨hplace, hused⟩ := hreads.reached hrun
      rw [hrecords, List.flatMap_append, List.length_append, List.flatMap_singleton,
        (hreads.length _ _ _ _ hanswer).1, hplace, hused, ← Nat.add_assoc,
        hreads.records_length hrun]
      exact hlast

theorem attributeList_replyFits_iff
    (hreads : Reads serve inst front request state places recordLength stays)
    {cpf : CommonPacketFormatData} (hdelivered : cpf.Delivered) (receiveBuffer : Message)
    (h : attributeList serve inst front request state = .ok reply) :
    ReplyFits receiveBuffer cpf reply.response ↔
      ∀ k < (attributeCount request).toNat,
        (∀ j < k, stays (places j)) →
        (∀ j ≤ k,
          (places j).Fits inst (front ++ request.data) (listMessageLength places recordLength j)) →
        cpf.replyOverhead + listMessageLength places recordLength (k + 1) ≤ ethernetBufferSize := by
  have hoverhead : cpf.replyOverhead ≤ 90 := cpf.replyOverhead_le
  have hadditional : reply.response.additionalStatus = [] := by
    by_cases hcount : attributeCount request = 0
    · cases (if_neg (not_not.mpr hcount)).symm.trans h
      rfl
    · obtain ⟨s, exit, -, -, -, hnone⟩ := attributeList_leaves hcount h
      exact hnone
  rw [CommonPacketFormatData.replyFits_iff hdelivered hadditional]
  have hlimit : 2 ≤ ethernetBufferSize - cpf.replyOverhead := by
    have : ethernetBufferSize = 512 := rfl
    omega
  have hfits := attributeList_fits_iff hreads hlimit h
  have hsplit (n : Nat) : cpf.replyOverhead + n ≤ ethernetBufferSize ↔
      n ≤ ethernetBufferSize - cpf.replyOverhead := by
    omega
  simp only [hsplit]
  exact hfits

end Sizes

/-- The complete reply and the response message stay within their buffers exactly when the
listed attributes up to each one that passes the space check, with all those before it, have
records that are not too long together. -/
theorem attributeLists_fit_iff (cipClass : CipClass σ) (inst : CipInstance σ)
    (front : List UInt8) (request : MessageRouterRequest) (state : σ) (receiveBuffer : Message)
    {cpf : CommonPacketFormatData} (hdelivered : cpf.Delivered) :
    (∀ reply, getAttributeList cipClass inst front request state = .ok reply →
      (ReplyFits receiveBuffer cpf reply.response ↔
        ∀ k < (attributeCount request).toNat,
          (∀ j ≤ k, (getPlace front state j).Fits inst (front ++ request.data)
            (getMessageLength cipClass inst front request state j)) →
          cpf.replyOverhead + getMessageLength cipClass inst front request state (k + 1) ≤
            ethernetBufferSize)) ∧
    ∀ reply, setAttributeList cipClass inst front request state = .ok reply →
      (ReplyFits receiveBuffer cpf reply.response ↔
        ∀ k < (attributeCount request).toNat,
          (∀ j < k, (setPlace cipClass inst front request state j).Skippable inst
            (front ++ request.data) cipClass) →
          (∀ j ≤ k, (setPlace cipClass inst front request state j).Fits inst
            (front ++ request.data) (2 + 4 * j)) →
          cpf.replyOverhead + (2 + 4 * (k + 1)) ≤ ethernetBufferSize) := by
  constructor
  · intro reply h
    refine (attributeList_replyFits_iff getListed_reads hdelivered receiveBuffer h).trans ?_
    exact forall₂_congr fun k _ => forall_prop_of_true fun _ _ => trivial
  · intro reply h
    refine (attributeList_replyFits_iff setListed_reads hdelivered receiveBuffer h).trans ?_
    simp only [setMessageLength]

/-- A packet with an unconnected message. -/
def unconnectedPacket : CommonPacketFormatData :=
  { itemCount := 2
    addressItem := { typeId := ItemId.nullAddress }
    dataItem := { typeId := ItemId.unconnectedDataItem } }

theorem unconnectedPacket_delivered : unconnectedPacket.Delivered := .inl ⟨rfl, rfl⟩

theorem attributeLists_fit_label :
    ∃ reply, getAttributeList labelClass labelInstance [] labelTwice (label 3) = .ok reply ∧
      ReplyFits [] unconnectedPacket reply.response := by
  obtain ⟨reply, h⟩ : ∃ reply, getAttributeList labelClass labelInstance [] labelTwice
      (label 3) = .ok reply := ⟨_, rfl⟩
  refine ⟨reply, h, ?_⟩
  refine ((attributeLists_fit_iff labelClass labelInstance [] labelTwice (label 3) []
    unconnectedPacket_delivered).1 reply h).mpr ?_
  decide

set_option maxRecDepth 4000 in
/-- A string of 255 characters, listed twice, is checked as if it were empty. -/
theorem attributeList_overflows :
    ∃ reply, getAttributeList labelClass labelInstance []
        ⟨0x03, 6, [2, 0, 1, 0, 1, 0]⟩ (label 255) = .ok reply ∧
      reply.response.message.length = 522 ∧
      ¬ReplyFits [] unconnectedPacket reply.response := by
  refine ⟨_, rfl, rfl, fun h => ?_⟩
  exact absurd (show 522 ≤ 512 from h.2) (by decide)

end Opener

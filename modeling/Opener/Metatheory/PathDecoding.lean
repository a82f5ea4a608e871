import Opener.Core.PaddedEPath
import Opener.Metatheory.PacketGrammar

/-!
The words that `DecodePaddedEPath` counts against the bytes that its cursor moves. Both
agree with the announced size exactly when the path is a sequence of whole segments
without a 16-bit member.
-/

namespace Opener

theorem decodePathElements_drop (message : Message) (pathSize fuel : Nat) (epath : Epath)
    (decoded cursor : Nat) :
    decodePathElements pathSize fuel epath decoded (message.drop cursor) =
      (decodeElementsAt message pathSize fuel epath decoded cursor).map fun result =>
        (result.1, result.2.1, message.drop result.2.2) := by
  induction fuel generalizing epath decoded cursor with
  | zero => rfl
  | succ fuel ih =>
      simp only [decodePathElements, decodeElementsAt, Message.byteAt_drop, List.drop_drop, ih,
        Nat.add_zero, apply_ite (Option.map _), Option.map_some, Option.map_none]

/-- The request of the message router starts at the cursor, and its size is what the
reported bytes leave of the data. -/
theorem createMessageRouterRequestStructure_decoded (data : Message) (dataLength : UInt16) :
    createMessageRouterRequestStructure data dataLength =
      match decodePaddedEPath (data.drop 1) with
      | none => .error GeneralStatus.pathSegmentError
      | some (epath, cursor, bytesConsumed) =>
          if UInt64.ofNat bytesConsumed > signExtend (dataLength - 1) then
            .error GeneralStatus.pathSizeInvalid
          else
            .ok (epath,
              { service := data.byteAt 0
                requestDataSize := signExtend (dataLength - 1) - UInt64.ofNat bytesConsumed
                data := (data.drop 1).drop cursor }) := by
  have hdrop : data.drop 2 = (data.drop 1).drop 1 := by
    rw [List.drop_drop]
  simp only [createMessageRouterRequestStructure, hdrop, decodePathElements_drop,
    decodePaddedEPath, Message.byteAt_drop, Nat.add_zero]
  cases decodeElementsAt (data.drop 1) (data.byteAt 1).toNat (data.byteAt 1).toNat {} 0 1 <;> rfl

/-- What one segment adds to the counted words and to the cursor. -/
def segmentAdvance (segment : UInt8) : Option (Nat × Nat) :=
  if segment = 0x20 ∨ segment = 0x24 ∨ segment = 0x30 ∨ segment = 0x28 then some (1, 2)
  else if segment = 0x21 ∨ segment = 0x25 ∨ segment = 0x31 then some (2, 4)
  else if segment = 0x29 then some (2, 2)
  else none

/-- So many words from the position on are whole segments, none of them a 16-bit
member. -/
def wholeSegments (message : Message) : Nat → Nat → Bool
  | 0, _ => true
  | words + 1, position =>
      if message.byteAt position = 0x29 then false
      else if message.byteAt position = 0x21 ∨ message.byteAt position = 0x25 ∨
          message.byteAt position = 0x31 then
        match words with
        | 0 => false
        | words + 1 => wholeSegments message words (position + 4)
      else wholeSegments message words (position + 2)

variable {message : Message} {pathSize : Nat}

theorem wholeSegments_member {words position : Nat}
    (h : message.byteAt position = 0x29) :
    wholeSegments message (words + 1) position = false := by
  cases words <;> simp [wholeSegments, h]

theorem wholeSegments_long {words position : Nat} (hmember : message.byteAt position ≠ 0x29)
    (h : message.byteAt position = 0x21 ∨ message.byteAt position = 0x25 ∨
      message.byteAt position = 0x31) :
    wholeSegments message (words + 1) position =
      (0 < words && wholeSegments message (words - 1) (position + 4)) := by
  cases words <;> simp [wholeSegments, hmember, h]

theorem wholeSegments_short {words position : Nat} (hmember : message.byteAt position ≠ 0x29)
    (h : ¬(message.byteAt position = 0x21 ∨ message.byteAt position = 0x25 ∨
      message.byteAt position = 0x31)) :
    wholeSegments message (words + 1) position =
      wholeSegments message words (position + 2) := by
  cases words <;> simp [wholeSegments, hmember, h]

theorem decodeElementsAt_succ {fuel decoded cursor : Nat} {epath : Epath}
    {result : Epath × Nat × Nat}
    (h : decodeElementsAt message pathSize (fuel + 1) epath decoded cursor = some result) :
    (pathSize ≤ decoded ∧ result = (epath, decoded, cursor)) ∨
      (decoded < pathSize ∧ ∃ words bytes epath',
        segmentAdvance (message.byteAt cursor) = some (words, bytes) ∧
        decodeElementsAt message pathSize fuel epath' (decoded + words) (cursor + bytes) =
          some result) := by
  rw [decodeElementsAt] at h
  by_cases hend : decoded < pathSize
  · right
    refine ⟨hend, ?_⟩
    simp only [hend, not_true_eq_false, if_false] at h
    split at h
    · cases h
    · iterate 8
        split at h
        · rename_i hsegment
          rw [hsegment]
          exact ⟨_, _, _, by decide, h⟩
      cases h
  · left
    simp only [hend, not_false_eq_true, if_true, Option.some.injEq] at h
    exact ⟨by omega, h.symm⟩

theorem segmentAdvance_cases {segment : UInt8} {words bytes : Nat}
    (h : segmentAdvance segment = some (words, bytes)) :
    (segment = 0x29 ∧ words = 2 ∧ bytes = 2) ∨
      (segment ≠ 0x29 ∧ (segment = 0x21 ∨ segment = 0x25 ∨ segment = 0x31) ∧
        words = 2 ∧ bytes = 4) ∨
      (segment ≠ 0x29 ∧ ¬(segment = 0x21 ∨ segment = 0x25 ∨ segment = 0x31) ∧
        words = 1 ∧ bytes = 2) := by
  rw [segmentAdvance] at h
  split at h
  · rename_i hshort
    cases h
    obtain rfl | rfl | rfl | rfl := hshort <;> decide
  · split at h
    · rename_i hlong
      cases h
      obtain rfl | rfl | rfl := hlong <;> decide
    · split at h
      · rename_i hmember
        cases h
        exact .inl ⟨hmember, rfl, rfl⟩
      · cases h

/-- The cursor falls behind by two bytes at each 16-bit member, and the count passes
the end of the path by at most one word. -/
theorem decodeElementsAt_spec {fuel decoded cursor decoded' cursor' : Nat}
    {epath epath' : Epath} (hdecoded : decoded ≤ pathSize + 1)
    (hfuel : pathSize ≤ decoded + fuel)
    (h : decodeElementsAt message pathSize fuel epath decoded cursor =
      some (epath', decoded', cursor')) :
    ∃ behind, cursor' + 2 * decoded + 2 * behind = cursor + 2 * decoded' ∧
      pathSize ≤ decoded' ∧ decoded ≤ decoded' ∧
      (decoded ≤ pathSize → (behind = 0 ∧ decoded' = pathSize ↔
        wholeSegments message (pathSize - decoded) cursor = true)) := by
  induction fuel generalizing decoded cursor epath with
  | zero =>
      simp only [decodeElementsAt, Option.some.injEq, Prod.mk.injEq] at h
      obtain ⟨-, rfl, rfl⟩ := h
      refine ⟨0, by omega, by omega, le_rfl, fun hle => ?_⟩
      rw [Nat.sub_eq_zero_of_le (by omega)]
      simp only [wholeSegments, true_and, iff_true]
      omega
  | succ fuel ih =>
      obtain ⟨hend, hresult⟩ | ⟨hmore, words, bytes, epath₁, hadvance, hrest⟩ :=
        decodeElementsAt_succ h
      · cases hresult
        refine ⟨0, by omega, hend, le_rfl, fun hle => ?_⟩
        rw [Nat.sub_eq_zero_of_le hend]
        simp only [wholeSegments, true_and, iff_true]
        omega
      · obtain ⟨left, hleft⟩ : ∃ left, pathSize - decoded = left + 1 :=
          ⟨pathSize - decoded - 1, by omega⟩
        obtain ⟨hsegment, rfl, rfl⟩ | ⟨hsegment, hlong, rfl, rfl⟩ | ⟨hsegment, hshort, rfl, rfl⟩ :=
          segmentAdvance_cases hadvance
        · obtain ⟨behind, hcursor, hpast, hgrows, -⟩ := ih (by omega) (by omega) hrest
          refine ⟨behind + 1, by omega, hpast, by omega, fun _ => ?_⟩
          rw [hleft, wholeSegments_member hsegment]
          simp
        · obtain ⟨behind, hcursor, hpast, hgrows, hwhole⟩ := ih (by omega) (by omega) hrest
          refine ⟨behind, by omega, hpast, by omega, fun _ => ?_⟩
          rw [hleft, wholeSegments_long hsegment hlong]
          cases left with
          | zero =>
              simp only [Nat.lt_irrefl, decide_false, Bool.false_and, Bool.false_eq_true,
                iff_false, not_and]
              omega
          | succ left =>
              rw [hwhole (by omega), show pathSize - (decoded + 2) = left by omega]
              simp
        · obtain ⟨behind, hcursor, hpast, hgrows, hwhole⟩ := ih (by omega) (by omega) hrest
          refine ⟨behind, by omega, hpast, by omega, fun _ => ?_⟩
          rw [hleft, wholeSegments_short hsegment hshort, hwhole (by omega),
            show pathSize - (decoded + 1) = left by omega]

/-- Where decoding succeeds, the cursor has moved by the reported bytes and these are
the announced path exactly when the path consists of whole segments. -/
theorem decodePaddedEPath_exact {epath : Epath} {cursor bytesConsumed : Nat}
    (h : decodePaddedEPath message = some (epath, cursor, bytesConsumed)) :
    (cursor = bytesConsumed ∧ bytesConsumed = 1 + 2 * (message.byteAt 0).toNat) ↔
      wholeSegments message (message.byteAt 0).toNat 1 = true := by
  simp only [decodePaddedEPath] at h
  split at h
  · cases h
  · rename_i decoded cursor' hloop
    cases h
    obtain ⟨behind, hcursor, -, -, hwhole⟩ :=
      decodeElementsAt_spec (by omega) (by omega) hloop
    rw [← Nat.sub_zero (message.byteAt 0).toNat, ← hwhole (by omega)]
    omega

/-- A class, a 16-bit instance and an attribute. -/
theorem decodePaddedEPath_exact_attribute :
    decodePaddedEPath [0x04, 0x20, 0x01, 0x25, 0x00, 0x01, 0x00, 0x30, 0x07] =
        some ({ classId := 1, instanceNumber := 1, attributeNumber := 7 }, 9, 9) ∧
      (((9 : Nat) = 9 ∧ 9 = 1 + 2 * 4) ↔ wholeSegments
        [0x04, 0x20, 0x01, 0x25, 0x00, 0x01, 0x00, 0x30, 0x07] 4 1 = true) :=
  ⟨by decide, decodePaddedEPath_exact 
    (show decodePaddedEPath [0x04, 0x20, 0x01, 0x25, 0x00, 0x01, 0x00, 0x30, 0x07] =
      some ({ classId := 1, instanceNumber := 1, attributeNumber := 7 }, 9, 9) by decide)⟩

/-- The cursor stays at the value of a 16-bit member, which is then read as a
segment of the request. -/
theorem decodePaddedEPath_member :
    ¬∀ (message : Message) (epath : Epath) (cursor bytesConsumed : Nat),
      decodePaddedEPath message = some (epath, cursor, bytesConsumed) →
        cursor = bytesConsumed ∧ bytesConsumed = 1 + 2 * (message.byteAt 0).toNat := by
  intro hall
  have hmember := hall [0x02, 0x29, 0x00, 0x05, 0x00] {} 3 5 (by decide)
  omega

end Opener

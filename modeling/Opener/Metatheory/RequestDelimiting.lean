import Mathlib.Logic.Relation
import Opener.Metatheory.PathDecoding

/-!
How `CreateMessageRouterRequestStructure` delimits a request. It reads the service and the
path without a look at the length, which is signed in between.
-/

namespace Opener

open Relation (ReflTransGen)

/-- The words that are counted and the position of the next segment. -/
structure PathPlace where
  words : Nat
  position : Nat

section Segments

variable (message : Message) (pathSize : Nat)

/-- From a segment of a path to the place behind it. -/
def NextSegment (here there : PathPlace) : Prop :=
  here.words < pathSize ∧ ∃ words bytes,
    segmentAdvance (message.byteAt here.position) = some (words, bytes) ∧
      there = ⟨here.words + words, here.position + bytes⟩

/-- What every segment from a place on is, up to the first that is unknown. -/
def EverySegment (P : UInt8 → Nat → Prop) (start : PathPlace) : Prop :=
  ∀ there, ReflTransGen (NextSegment message pathSize) start there → there.words < pathSize →
    P (message.byteAt there.position) there.position

/-- The bytes of a segment that are looked at. Of a member these are not its number. -/
def segmentExtent (segment : UInt8) : Nat :=
  if segment = 0x20 ∨ segment = 0x24 ∨ segment = 0x30 then 2
  else if segment = 0x21 ∨ segment = 0x25 ∨ segment = 0x31 then 4
  else 1

/-- What the loop of `DecodePaddedEPath` reads. -/
def elementReads : Nat → Nat → Nat → List Nat
  | 0, _, _ => []
  | fuel + 1, decoded, cursor =>
      let segment := message.byteAt cursor
      if ¬decoded < pathSize then []
      else if segment &&& 7 = 7 then [cursor]
      else if segment = 0x20 ∨ segment = 0x24 ∨ segment = 0x30 then
        cursor :: (cursor + 1) :: elementReads fuel (decoded + 1) (cursor + 2)
      else if segment = 0x21 ∨ segment = 0x25 ∨ segment = 0x31 then
        cursor :: (cursor + 2) :: (cursor + 3) :: elementReads fuel (decoded + 2) (cursor + 4)
      else if segment = 0x28 then cursor :: elementReads fuel (decoded + 1) (cursor + 2)
      else if segment = 0x29 then cursor :: elementReads fuel (decoded + 2) (cursor + 2)
      else [cursor]

/-- What `CreateMessageRouterRequestStructure` reads of the data: the service, the path size
and the path. -/
def requestReads (data : Message) : List Nat :=
  let message : Message := data.drop 1
  let pathSize := (message.byteAt 0).toNat
  0 :: 1 :: (elementReads message pathSize pathSize 0 1).map (· + 1)

variable {message pathSize} {P : UInt8 → Nat → Prop} {words position : Nat}

theorem everySegment_end (h : pathSize ≤ words) :
    EverySegment message pathSize P ⟨words, position⟩ := by
  intro there hreach hthere
  obtain rfl | ⟨next, ⟨hlt, -⟩, -⟩ := hreach.cases_head
  · exact absurd hthere (Nat.not_lt.mpr h)
  · exact absurd hlt (Nat.not_lt.mpr h)

theorem everySegment_iff (h : words < pathSize) :
    EverySegment message pathSize P ⟨words, position⟩ ↔
      P (message.byteAt position) position ∧
        ∀ counted bytes, segmentAdvance (message.byteAt position) = some (counted, bytes) →
          EverySegment message pathSize P ⟨words + counted, position + bytes⟩ := by
  constructor
  · intro hevery
    refine ⟨hevery _ .refl h, fun counted bytes hadvance there hreach => hevery there ?_⟩
    exact .head ⟨h, counted, bytes, hadvance, rfl⟩ hreach
  · rintro ⟨hfirst, hrest⟩ there hreach hthere
    obtain rfl | ⟨next, ⟨-, counted, bytes, hadvance, rfl⟩, hnext⟩ := hreach.cases_head
    · exact hfirst
    · exact hrest counted bytes hadvance there hnext hthere

theorem segmentAdvance_reserved {segment : UInt8} (h : segment &&& 7 = 7) :
    segmentAdvance segment = none := by
  have hne : ∀ code, code &&& 7 ≠ (7 : UInt8) → segment ≠ code := by
    rintro code hcode rfl
    exact hcode h
  simp only [segmentAdvance, hne 0x20 (by decide), hne 0x24 (by decide), hne 0x30 (by decide),
    hne 0x28 (by decide), hne 0x21 (by decide), hne 0x25 (by decide), hne 0x31 (by decide),
    hne 0x29 (by decide), or_self, if_false]

/-- A turn of the loop with its segment: it is unknown and refused, or the loop goes on
behind it. -/
theorem decodeElementsAt_step {fuel decoded cursor : Nat} {epath : Epath}
    (h : decoded < pathSize) :
    (segmentAdvance (message.byteAt cursor) = none ∧
        decodeElementsAt message pathSize (fuel + 1) epath decoded cursor = none) ∨
      ∃ counted bytes epath', segmentAdvance (message.byteAt cursor) = some (counted, bytes) ∧
        decodeElementsAt message pathSize (fuel + 1) epath decoded cursor =
          decodeElementsAt message pathSize fuel epath' (decoded + counted) (cursor + bytes) := by
  let Turn (result : Option (Epath × Nat × Nat)) : Prop :=
    (segmentAdvance (message.byteAt cursor) = none ∧ result = none) ∨
      ∃ counted bytes epath', segmentAdvance (message.byteAt cursor) = some (counted, bytes) ∧
        result =
          decodeElementsAt message pathSize fuel epath' (decoded + counted) (cursor + bytes)
  have hknown : ∀ {code : UInt8} {counted bytes : Nat} {epath' : Epath},
      segmentAdvance code = some (counted, bytes) → message.byteAt cursor = code →
        Turn (decodeElementsAt message pathSize fuel epath' (decoded + counted)
          (cursor + bytes)) := by
    intro code counted bytes epath' hcode hsegment
    exact .inr ⟨counted, bytes, epath', (congrArg segmentAdvance hsegment).trans hcode, rfl⟩
  change Turn _
  rw [decodeElementsAt]
  simp only [h, not_true_eq_false, if_false]
  -- The alternatives stand in the order of the loop's chain.
  refine iteInduction (motive := Turn)
    (fun hreserved => .inl ⟨segmentAdvance_reserved hreserved, rfl⟩) fun hreserved => ?_
  refine iteInduction (motive := Turn) (hknown rfl) fun h20 => ?_
  refine iteInduction (motive := Turn) (hknown rfl) fun h21 => ?_
  refine iteInduction (motive := Turn) (hknown rfl) fun h24 => ?_
  refine iteInduction (motive := Turn) (hknown rfl) fun h25 => ?_
  refine iteInduction (motive := Turn) (hknown rfl) fun h30 => ?_
  refine iteInduction (motive := Turn) (hknown rfl) fun h31 => ?_
  refine iteInduction (motive := Turn) (hknown rfl) fun h28 => ?_
  refine iteInduction (motive := Turn) (hknown rfl) fun h29 => .inl ⟨?_, rfl⟩
  simp only [segmentAdvance, h20, h21, h24, h25, h30, h31, h28, h29, or_false, if_false]

theorem decodeElementsAt_isSome_iff {fuel decoded cursor : Nat} (epath : Epath)
    (hfuel : pathSize ≤ decoded + fuel) :
    (decodeElementsAt message pathSize fuel epath decoded cursor).isSome = true ↔
      EverySegment message pathSize (fun segment _ => (segmentAdvance segment).isSome = true)
        ⟨decoded, cursor⟩ := by
  induction fuel generalizing decoded cursor epath with
  | zero => exact iff_of_true rfl (everySegment_end hfuel)
  | succ fuel ih =>
      by_cases hend : decoded < pathSize
      · rw [everySegment_iff hend]
        obtain ⟨hadvance, hnone⟩ | ⟨counted, bytes, epath', hadvance, hrest⟩ :=
          decodeElementsAt_step hend
        · rw [hnone, hadvance]
          exact iff_of_false nofun fun hknown => nomatch hknown.1
        · have hcounted : 1 ≤ counted := by
            obtain ⟨-, rfl, -⟩ | ⟨-, -, rfl, -⟩ | ⟨-, -, rfl, -⟩ :=
              segmentAdvance_cases hadvance <;> omega
          rw [hrest, hadvance, ih epath' (by omega)]
          refine ⟨fun hevery => ⟨rfl, ?_⟩, fun hevery => hevery.2 counted bytes rfl⟩
          rintro _ _ ⟨⟩
          exact hevery
      · rw [decodeElementsAt]
        simp only [hend, not_false_eq_true, if_true]
        exact iff_of_true rfl (everySegment_end (Nat.not_lt.mp hend))

theorem segmentAdvance_pos {segment : UInt8} {counted bytes : Nat}
    (h : segmentAdvance segment = some (counted, bytes)) : 1 ≤ counted := by
  obtain ⟨-, rfl, -⟩ | ⟨-, -, rfl, -⟩ | ⟨-, -, rfl, -⟩ := segmentAdvance_cases h <;> omega

theorem forall_segmentAdvance {segment : UInt8} {counted bytes : Nat} {Q : Nat → Nat → Prop}
    (h : segmentAdvance segment = some (counted, bytes)) :
    (∀ c b, segmentAdvance segment = some (c, b) → Q c b) ↔ Q counted bytes := by
  refine ⟨fun hall => hall counted bytes h, ?_⟩
  rintro hq c b hcb
  cases h.symm.trans hcb
  exact hq

theorem segmentExtent_unknown {segment : UInt8} (h : segmentAdvance segment = none) :
    segmentExtent segment = 1 := by
  have hne : ∀ code, segmentAdvance code ≠ none → segment ≠ code := by
    rintro code hcode rfl
    exact hcode h
  simp only [segmentExtent, hne 0x20 (by decide), hne 0x24 (by decide), hne 0x30 (by decide),
    hne 0x21 (by decide), hne 0x25 (by decide), hne 0x31 (by decide), or_self, if_false]

theorem elementReads_step {fuel decoded cursor limit : Nat} (h : decoded < pathSize) :
    (∀ p ∈ elementReads message pathSize (fuel + 1) decoded cursor, p < limit) ↔
      cursor + segmentExtent (message.byteAt cursor) ≤ limit ∧
        ∀ counted bytes, segmentAdvance (message.byteAt cursor) = some (counted, bytes) →
          ∀ p ∈ elementReads message pathSize fuel (decoded + counted) (cursor + bytes),
            p < limit := by
  have hunknown : segmentAdvance (message.byteAt cursor) = none →
      ((∀ p ∈ [cursor], p < limit) ↔ cursor + segmentExtent (message.byteAt cursor) ≤ limit ∧
        ∀ counted bytes, segmentAdvance (message.byteAt cursor) = some (counted, bytes) →
          ∀ p ∈ elementReads message pathSize fuel (decoded + counted) (cursor + bytes),
            p < limit) := by
    intro hnone
    rw [segmentExtent_unknown hnone, hnone, List.forall_mem_singleton]
    exact ⟨fun hlt => ⟨hlt, nofun⟩, fun hlt => hlt.1⟩
  rw [elementReads]
  simp only [h, not_true_eq_false, if_false]
  by_cases hreserved : message.byteAt cursor &&& 7 = 7
  · rw [if_pos hreserved]
    exact hunknown (segmentAdvance_reserved hreserved)
  rw [if_neg hreserved]
  generalize message.byteAt cursor = segment at hunknown
  by_cases hshort : segment = 0x20 ∨ segment = 0x24 ∨ segment = 0x30
  · have hadvance : segmentAdvance segment = some (1, 2) := by
      obtain rfl | rfl | rfl := hshort <;> rfl
    rw [if_pos hshort, forall_segmentAdvance hadvance, segmentExtent, if_pos hshort,
      List.forall_mem_cons, List.forall_mem_cons, ← and_assoc]
    refine and_congr_left fun _ => ?_
    omega
  rw [if_neg hshort]
  by_cases hlong : segment = 0x21 ∨ segment = 0x25 ∨ segment = 0x31
  · have hadvance : segmentAdvance segment = some (2, 4) := by
      obtain rfl | rfl | rfl := hlong <;> rfl
    rw [if_pos hlong, forall_segmentAdvance hadvance, segmentExtent, if_neg hshort,
      if_pos hlong, List.forall_mem_cons, List.forall_mem_cons, List.forall_mem_cons, ← and_assoc,
      ← and_assoc]
    refine and_congr_left fun _ => ?_
    omega
  rw [if_neg hlong]
  have hextent : segmentExtent segment = 1 := by
    rw [segmentExtent, if_neg hshort, if_neg hlong]
  by_cases hmember : segment = 0x28
  · have hadvance : segmentAdvance segment = some (1, 2) := by
      rw [hmember]
      rfl
    rw [if_pos hmember, forall_segmentAdvance hadvance, hextent, List.forall_mem_cons]
    rfl
  rw [if_neg hmember]
  by_cases hmember16 : segment = 0x29
  · have hadvance : segmentAdvance segment = some (2, 2) := by
      rw [hmember16]
      rfl
    rw [if_pos hmember16, forall_segmentAdvance hadvance, hextent, List.forall_mem_cons]
    rfl
  rw [if_neg hmember16]
  refine hunknown ?_
  simp only [not_or] at hshort hlong
  simp only [segmentAdvance, hshort, hlong, hmember, hmember16, or_self, if_false]

/-- What the loop reads lies inside exactly when every segment it comes to does. -/
theorem elementReads_inside_iff {fuel decoded cursor limit : Nat}
    (hfuel : pathSize ≤ decoded + fuel) :
    (∀ p ∈ elementReads message pathSize fuel decoded cursor, p < limit) ↔
      EverySegment message pathSize (fun segment position =>
        position + segmentExtent segment ≤ limit) ⟨decoded, cursor⟩ := by
  induction fuel generalizing decoded cursor with
  | zero => exact iff_of_true (List.forall_mem_nil _) (everySegment_end hfuel)
  | succ fuel ih =>
      by_cases hend : decoded < pathSize
      · rw [everySegment_iff hend, elementReads_step hend]
        refine and_congr_right fun _ => forall₃_congr fun counted bytes hadvance => ?_
        have hcounted := segmentAdvance_pos hadvance
        exact ih (by omega)
      · rw [elementReads]
        simp only [hend, not_false_eq_true, if_true]
        exact iff_of_true (List.forall_mem_nil _) (everySegment_end (Nat.not_lt.mp hend))

/-- The cursor has moved by the counted words exactly when no segment is a 16-bit member. -/
theorem decodeElementsAt_moves_iff {fuel decoded cursor decoded' cursor' : Nat}
    {epath epath' : Epath} (hfuel : pathSize ≤ decoded + fuel)
    (h : decodeElementsAt message pathSize fuel epath decoded cursor =
      some (epath', decoded', cursor')) :
    cursor' + 2 * decoded ≤ cursor + 2 * decoded' ∧
      (cursor' + 2 * decoded = cursor + 2 * decoded' ↔
        EverySegment message pathSize (fun segment _ => segment ≠ 0x29) ⟨decoded, cursor⟩) := by
  induction fuel generalizing decoded cursor epath with
  | zero =>
      cases h
      exact ⟨Nat.le_refl _, iff_of_true rfl (everySegment_end hfuel)⟩
  | succ fuel ih =>
      obtain ⟨hend, hresult⟩ | ⟨hmore, counted, bytes, epath₁, hadvance, hrest⟩ :=
        decodeElementsAt_succ h
      · cases hresult
        exact ⟨Nat.le_refl _, iff_of_true rfl (everySegment_end hend)⟩
      · have hcounted := segmentAdvance_pos hadvance
        obtain ⟨hle, hiff⟩ := ih (by omega) hrest
        rw [everySegment_iff hmore]
        rw [forall_segmentAdvance hadvance, ← hiff]
        obtain ⟨hsegment, rfl, rfl⟩ | ⟨hsegment, -, rfl, rfl⟩ | ⟨hsegment, -, rfl, rfl⟩ :=
          segmentAdvance_cases hadvance
        · exact ⟨by omega, iff_of_false (by omega) fun hand => hand.1 hsegment⟩
        · rw [and_iff_right hsegment]
          omega
        · rw [and_iff_right hsegment]
          omega

theorem decodeElementsAt_congr {message' : Message} {fuel decoded cursor : Nat} {epath : Epath}
    (h : ∀ p ∈ elementReads message pathSize fuel decoded cursor,
      message'.byteAt p = message.byteAt p) :
    decodeElementsAt message' pathSize fuel epath decoded cursor =
      decodeElementsAt message pathSize fuel epath decoded cursor := by
  induction fuel generalizing decoded cursor epath with
  | zero => rfl
  | succ fuel ih =>
      rw [elementReads] at h
      by_cases hend : decoded < pathSize
      · have hsegment : message'.byteAt cursor = message.byteAt cursor := by
          refine h cursor ?_
          simp only [hend, not_true_eq_false, if_false]
          repeat' split
          all_goals exact List.mem_cons_self
        simp only [hend, not_true_eq_false, if_false] at h
        simp only [decodeElementsAt, hsegment, hend, not_true_eq_false, if_false]
        generalize message.byteAt cursor = segment at h
        by_cases hreserved : segment &&& 7 = 7
        · simp only [hreserved, if_true]
        simp only [if_neg hreserved] at h ⊢
        by_cases hshort : segment = 0x20 ∨ segment = 0x24 ∨ segment = 0x30
        · simp only [if_pos hshort, List.forall_mem_cons] at h
          simp only [h.2.1, ih h.2.2]
          obtain rfl | rfl | rfl := hshort <;> rfl
        simp only [if_neg hshort] at h
        by_cases hlong : segment = 0x21 ∨ segment = 0x25 ∨ segment = 0x31
        · simp only [if_pos hlong, List.forall_mem_cons] at h
          have hvalue : (Message.getUint (message'.drop (cursor + 2))).1 =
              (Message.getUint (message.drop (cursor + 2))).1 := by
            simp only [Message.getUint, Message.byteAt_drop]
            rw [h.2.1, h.2.2.1]
          simp only [hvalue, ih h.2.2.2]
          obtain rfl | rfl | rfl := hlong <;> rfl
        simp only [if_neg hlong] at h
        simp only [not_or] at hshort hlong
        simp only [hshort, hlong, if_false]
        by_cases hmember : segment = 0x28
        · simp only [if_pos hmember, List.forall_mem_cons] at h ⊢
          exact ih h.2
        simp only [if_neg hmember] at h ⊢
        by_cases hmember16 : segment = 0x29
        · simp only [if_pos hmember16, List.forall_mem_cons] at h ⊢
          exact ih h.2
        · simp only [if_neg hmember16]
      · simp only [decodeElementsAt, hend, not_false_eq_true, if_true]

theorem decodeElementsAt_le {fuel decoded cursor decoded' cursor' : Nat} {epath epath' : Epath}
    (hdecoded : decoded ≤ pathSize + 1)
    (h : decodeElementsAt message pathSize fuel epath decoded cursor =
      some (epath', decoded', cursor')) : decoded' ≤ pathSize + 1 := by
  induction fuel generalizing decoded cursor epath with
  | zero =>
      cases h
      exact hdecoded
  | succ fuel ih =>
      obtain ⟨-, hresult⟩ | ⟨hmore, counted, bytes, epath₁, hadvance, hrest⟩ :=
        decodeElementsAt_succ h
      · cases hresult
        exact hdecoded
      · refine ih ?_ hrest
        obtain ⟨-, rfl, -⟩ | ⟨-, -, rfl, -⟩ | ⟨-, -, rfl, -⟩ :=
          segmentAdvance_cases hadvance <;> omega

theorem decodeElementsAt_ends {fuel decoded cursor decoded' cursor' : Nat}
    {epath epath' : Epath} (hfuel : pathSize ≤ decoded + fuel)
    (h : decodeElementsAt message pathSize fuel epath decoded cursor =
      some (epath', decoded', cursor')) (there : PathPlace) :
    ReflTransGen (NextSegment message pathSize) ⟨decoded, cursor⟩ there ∧
        pathSize ≤ there.words ↔ there = ⟨decoded', cursor'⟩ := by
  have hend : ∀ {words position : Nat}, pathSize ≤ words →
      (ReflTransGen (NextSegment message pathSize) ⟨words, position⟩ there ∧
        pathSize ≤ there.words ↔ there = ⟨words, position⟩) := by
    intro words position hle
    constructor
    · rintro ⟨hreach, -⟩
      obtain rfl | ⟨next, ⟨hlt, -⟩, -⟩ := hreach.cases_head
      · rfl
      · exact absurd hlt (Nat.not_lt.mpr hle)
    · rintro rfl
      exact ⟨.refl, hle⟩
  induction fuel generalizing decoded cursor epath with
  | zero =>
      cases h
      exact hend hfuel
  | succ fuel ih =>
      obtain ⟨hle, hresult⟩ | ⟨hmore, counted, bytes, epath₁, hadvance, hrest⟩ :=
        decodeElementsAt_succ h
      · cases hresult
        exact hend hle
      · have hcounted := segmentAdvance_pos hadvance
        refine Iff.trans (and_congr_left fun hwords => ?_) (ih (by omega) hrest)
        constructor
        · intro hreach
          obtain rfl | ⟨next, ⟨-, c, b, hcb, rfl⟩, hnext⟩ := hreach.cases_head
          · exact absurd hmore (Nat.not_lt.mpr hwords)
          · cases hadvance.symm.trans hcb
            exact hnext
        · exact .head ⟨hmore, counted, bytes, hadvance, rfl⟩

end Segments

section Requests

/-- The length of a message in a data item, without the sequence number of a connected
one. -/
def messageLength (connected : Bool) (itemLength : UInt16) : Int :=
  itemLength.toNat - if connected then 2 else 0

/-- The length that the common packet format passes on, as 16 bits. -/
def passedLength (connected : Bool) (itemLength : UInt16) : UInt16 :=
  if connected then itemLength - 2 else itemLength

variable (data : Message)

/-- The segments of a request, up to the first that is unknown. -/
def EveryPathSegment (P : UInt8 → Nat → Prop) : Prop :=
  EverySegment (data.drop 1) (Message.byteAt (data.drop 1) 0).toNat P ⟨0, 1⟩

/-- What is looked at of the path's segments lies inside. -/
def PathInside (limit : Int) : Prop :=
  EveryPathSegment data fun segment position =>
    ((1 + position + segmentExtent segment : Nat) : Int) ≤ limit

/-- Every segment of the path is known. -/
def PathKnown : Prop :=
  EveryPathSegment data fun segment _ => (segmentAdvance segment).isSome = true

/-- No segment of the path is a 16-bit member. -/
def MemberFree : Prop := EveryPathSegment data fun segment _ => segment ≠ 0x29

/-- The service, the path size and the words of the path take more bytes than there are. -/
def PathTooLong (limit : Int) : Prop :=
  ∀ there, ReflTransGen (NextSegment (data.drop 1) (Message.byteAt (data.drop 1) 0).toNat)
      ⟨0, 1⟩ there →
    (Message.byteAt (data.drop 1) 0).toNat ≤ there.words →
    limit < ((2 + 2 * there.words : Nat) : Int)

/-- The bytes of the path, as they are reported and as the cursor moves over them. -/
def reportedPathBytes : Option Nat := (decodePaddedEPath (data.drop 1)).map fun path => path.2.2

def movedPathBytes : Option Nat := (decodePaddedEPath (data.drop 1)).map fun path => path.2.1

/-- Only bytes of the message are read, and an accepted request is the message. -/
structure Delimits (pathBytes : Option Nat) (connected : Bool) (itemLength : UInt16) :
    Prop where
  inside : ∀ p ∈ requestReads data, (p : Int) < messageLength connected itemLength
  exact : ∀ epath request,
    createMessageRouterRequestStructure data (passedLength connected itemLength) =
        .ok (epath, request) →
    ∃ bytes, pathBytes = some bytes ∧
      1 + (bytes : Int) + request.requestDataSize.toNat = messageLength connected itemLength ∧
      (request.requestDataSize.toNat : Int) ≤ messageLength connected itemLength

variable {data}

theorem decodePaddedEPath_congr {data' : Message}
    (h : ∀ p ∈ requestReads data, Message.byteAt data' p = Message.byteAt data p) :
    decodePaddedEPath (data'.drop 1) = decodePaddedEPath (data.drop 1) := by
  simp only [requestReads, List.forall_mem_cons, List.forall_mem_map] at h
  obtain ⟨-, hsize, helements⟩ := h
  have hpathSize : Message.byteAt (data'.drop 1) 0 = Message.byteAt (data.drop 1) 0 := by
    rw [Message.byteAt_drop, Message.byteAt_drop]
    exact hsize
  simp only [decodePaddedEPath, hpathSize]
  rw [decodeElementsAt_congr]
  intro p hp
  rw [Message.byteAt_drop, Message.byteAt_drop, Nat.add_comm 1 p]
  exact helements p hp

/-- What is made of a request, apart from where its own bytes are, depends on what is read. -/
theorem createMessageRouterRequestStructure_congr {data' : Message}
    (h : ∀ p ∈ requestReads data, Message.byteAt data' p = Message.byteAt data p)
    (length : UInt16) :
    (createMessageRouterRequestStructure data' length).map
        (fun result => (result.1, result.2.service, result.2.requestDataSize)) =
      (createMessageRouterRequestStructure data length).map
        (fun result => (result.1, result.2.service, result.2.requestDataSize)) := by
  rw [createMessageRouterRequestStructure_decoded, createMessageRouterRequestStructure_decoded,
    decodePaddedEPath_congr h, h 0 List.mem_cons_self]
  cases decodePaddedEPath (data.drop 1) with
  | none => rfl
  | some path =>
      dsimp only
      split <;> rfl

theorem requestReads_inside_iff (limit : Int) :
    (∀ p ∈ requestReads data, (p : Int) < limit) ↔ 2 ≤ limit ∧ PathInside data limit := by
  have helements : (∀ p ∈ requestReads data, (p : Int) < limit) ↔
      2 ≤ limit ∧ ∀ p ∈ elementReads (data.drop 1) (Message.byteAt (data.drop 1) 0).toNat
        (Message.byteAt (data.drop 1) 0).toNat 0 1, p < (limit - 1).toNat := by
    simp only [requestReads, List.forall_mem_cons, List.forall_mem_map]
    constructor
    · rintro ⟨-, hone, hrest⟩
      refine ⟨by omega, fun p hp => ?_⟩
      have hlt := hrest p hp
      omega
    · rintro ⟨htwo, hrest⟩
      refine ⟨by omega, by omega, fun p hp => ?_⟩
      have hlt := hrest p hp
      omega
  rw [helements]
  refine and_congr_right fun htwo => ?_
  rw [elementReads_inside_iff (Nat.le_add_left _ _)]
  refine forall₃_congr fun there _ _ => ?_
  omega

theorem toNat_signExtend_pred {length : UInt16} (h : 1 ≤ length.toNat) :
    (signExtend (length - 1)).toNat =
      if length.toNat ≤ 32768 then length.toNat - 1 else 2 ^ 64 - 65536 + (length.toNat - 1) := by
  have hlength := length.toNat_lt
  have hpred : (length - 1).toNat = length.toNat - 1 := by
    rw [UInt16.toNat_sub_of_le]
    · rfl
    · exact UInt16.le_iff_toNat_le.mpr h
  have hle : length - 1 ≥ 0x8000 ↔ 0x8000 ≤ (length - 1).toNat := UInt16.le_iff_toNat_le
  simp only [signExtend, hle, hpred]
  split
  · rw [if_neg (by omega), UInt64.toNat_sub, UInt16.toNat_toUInt64, hpred]
    simp only [UInt64.toNat_ofNat]
    omega
  · rw [if_pos (by omega), UInt16.toNat_toUInt64, hpred]

theorem passedLength_toNat {connected : Bool} {itemLength : UInt16}
    (h : 2 ≤ messageLength connected itemLength) :
    ((passedLength connected itemLength).toNat : Int) = messageLength connected itemLength := by
  cases connected with
  | false => exact (Int.sub_zero _).symm
  | true =>
      change 2 ≤ (itemLength.toNat : Int) - 2 at h
      change ((itemLength - 2).toNat : Int) = itemLength.toNat - 2
      rw [UInt16.toNat_sub_of_le _ _ (UInt16.le_iff_toNat_le.mpr (by
        change 2 ≤ itemLength.toNat
        omega))]
      change ((itemLength.toNat - 2 : Nat) : Int) = _
      omega

/-- What is reported for a path is at most the service, 256 words and the path size. -/
theorem decodePaddedEPath_reported {message : Message} {epath : Epath}
    {cursor bytesConsumed : Nat}
    (h : decodePaddedEPath message = some (epath, cursor, bytesConsumed)) :
    ∃ words, bytesConsumed = 1 + 2 * words ∧ words ≤ 256 ∧
      cursor ≤ bytesConsumed ∧
      (cursor = bytesConsumed ↔ EverySegment message (message.byteAt 0).toNat
        (fun segment _ => segment ≠ 0x29) ⟨0, 1⟩) ∧
      ∀ there, ReflTransGen (NextSegment message (message.byteAt 0).toNat) ⟨0, 1⟩ there ∧
        (message.byteAt 0).toNat ≤ there.words ↔ there = ⟨words, cursor⟩ := by
  simp only [decodePaddedEPath] at h
  split at h
  · cases h
  · rename_i decoded cursor' hloop
    cases h
    have hsize := (message.byteAt 0).toNat_lt
    have hwords := decodeElementsAt_le (Nat.zero_le _) hloop
    obtain ⟨hle, hiff⟩ := decodeElementsAt_moves_iff (Nat.le_add_left _ _) hloop
    refine ⟨decoded, by omega, by omega, by omega, ?_,
      decodeElementsAt_ends (Nat.le_add_left _ _) hloop⟩
    rw [← hiff]
    omega

section Delimiting

variable {epath : Epath} {cursor bytesConsumed : Nat} {connected : Bool} {itemLength : UInt16}
  {pathBytes : Option Nat}

theorem createMessageRouterRequestStructure_accepts
    (hdecode : decodePaddedEPath (data.drop 1) = some (epath, cursor, bytesConsumed))
    (hlong : 2 ≤ messageLength connected itemLength) :
    ∃ left : Nat, (left : Int) = (if messageLength connected itemLength ≤ 32768 then 0
          else 2 ^ 64 - 65536) + (messageLength connected itemLength - 1) ∧
      (left < bytesConsumed → ∀ epath request,
        createMessageRouterRequestStructure data (passedLength connected itemLength) ≠
          .ok (epath, request)) ∧
      (bytesConsumed ≤ left → ∃ request,
        createMessageRouterRequestStructure data (passedLength connected itemLength) =
            .ok (epath, request) ∧
          request.requestDataSize.toNat = left - bytesConsumed) := by
  obtain ⟨words, hbytes, hwords, -⟩ := decodePaddedEPath_reported hdecode
  have hpassed := passedLength_toNat hlong
  have hpos : 1 ≤ (passedLength connected itemLength).toNat := by omega
  have hleft := toNat_signExtend_pred hpos
  have hsize : UInt64.size = 2 ^ 64 := rfl
  have hreported : (UInt64.ofNat bytesConsumed).toNat = bytesConsumed :=
    UInt64.toNat_ofNat_of_lt' (by omega)
  refine ⟨(signExtend (passedLength connected itemLength - 1)).toNat, ?_, ?_, ?_⟩
  · rw [hleft, ← hpassed]
    split <;> split <;> omega
  · intro hlt epath' request
    rw [createMessageRouterRequestStructure_decoded, hdecode]
    simp only
    rw [if_pos]
    · nofun
    · refine UInt64.lt_iff_toNat_lt.mpr ?_
      rwa [hreported]
  · intro hle
    rw [createMessageRouterRequestStructure_decoded, hdecode]
    simp only
    rw [if_neg]
    · refine ⟨_, rfl, ?_⟩
      dsimp only
      rw [UInt64.toNat_sub_of_le, hreported]
      refine UInt64.le_iff_toNat_le.mpr ?_
      rwa [hreported]
    · refine fun hgt => absurd (UInt64.lt_iff_toNat_lt.mp hgt) ?_
      rw [hreported]
      exact Nat.not_lt.mpr hle

/-- The bytes of the path and the request's own bytes are the message, when the request is
accepted. -/
theorem delimits_exact_iff
    (hdecode : decodePaddedEPath (data.drop 1) = some (epath, cursor, bytesConsumed))
    {bytes : Nat} (hbytes : pathBytes = some bytes) (hle : bytes ≤ bytesConsumed)
    (hlong : 2 ≤ messageLength connected itemLength) :
    (∀ epath request,
      createMessageRouterRequestStructure data (passedLength connected itemLength) =
          .ok (epath, request) →
      ∃ bytes, pathBytes = some bytes ∧
        1 + (bytes : Int) + request.requestDataSize.toNat = messageLength connected itemLength ∧
        (request.requestDataSize.toNat : Int) ≤ messageLength connected itemLength) ↔
      messageLength connected itemLength ≤ bytesConsumed ∨
        messageLength connected itemLength ≤ 32768 ∧ bytes = bytesConsumed := by
  obtain ⟨words, hconsumed, hwords, -⟩ := decodePaddedEPath_reported hdecode
  obtain ⟨left, hleft, hrefused, haccepted⟩ :=
    createMessageRouterRequestStructure_accepts hdecode hlong
  by_cases hfits : bytesConsumed ≤ left
  · obtain ⟨request, hok, hsize⟩ := haccepted hfits
    rw [hok]
    have hrequest : (∀ epath' request', Except.ok (epath, request) =
          (Except.ok (epath', request') : Except UInt8 (Epath × MessageRouterRequest)) →
        ∃ bytes, pathBytes = some bytes ∧
          1 + (bytes : Int) + request'.requestDataSize.toNat =
            messageLength connected itemLength ∧
          (request'.requestDataSize.toNat : Int) ≤ messageLength connected itemLength) ↔
        1 + (bytes : Int) + (left - bytesConsumed : Nat) = messageLength connected itemLength := by
      constructor
      · intro hall
        obtain ⟨bytes', hbytes', hequal, -⟩ := hall epath request rfl
        cases hbytes.symm.trans hbytes'
        rwa [hsize] at hequal
      · rintro hequal _ _ ⟨⟩
        rw [hsize]
        exact ⟨bytes, hbytes, hequal, by omega⟩
    rw [hrequest]
    split at hleft <;> omega
  · have hnone := hrefused (Nat.not_le.mp hfits)
    refine iff_of_true (fun epath' request hok => absurd hok (hnone epath' request)) ?_
    split at hleft <;> omega

theorem pathKnown_iff : PathKnown data ↔ (decodePaddedEPath (data.drop 1)).isSome = true := by
  refine (decodeElementsAt_isSome_iff {} (Nat.le_add_left _ _)).symm.trans ?_
  simp only [decodePaddedEPath]
  split
  · rename_i hnone
    rw [hnone]
  · rename_i hsome
    rw [hsome]
    exact iff_of_true rfl rfl

theorem delimits_iff : Delimits data pathBytes connected itemLength ↔
    2 ≤ messageLength connected itemLength ∧
      PathInside data (messageLength connected itemLength) ∧
      ∀ epath request,
        createMessageRouterRequestStructure data (passedLength connected itemLength) =
            .ok (epath, request) →
        ∃ bytes, pathBytes = some bytes ∧
          1 + (bytes : Int) + request.requestDataSize.toNat =
            messageLength connected itemLength ∧
          (request.requestDataSize.toNat : Int) ≤ messageLength connected itemLength := by
  rw [← and_assoc, ← requestReads_inside_iff]
  exact ⟨fun h => ⟨h.inside, h.exact⟩, fun h => ⟨h.1, h.2⟩⟩

end Delimiting

/-- A request is delimited by the path as it is reported exactly when the item holds the
service, the path size and what is looked at of the path, and is not taken for one of
negative length, unless a segment is unknown. By the path as the cursor moves over it, there
may be no 16-bit member either, unless the path is too long for the item. What is made of the
request depends on what is read only. -/
theorem createMessageRouterRequestStructure_delimits_iff (data : Message) (connected : Bool)
    (itemLength : UInt16) :
    (Delimits data (reportedPathBytes data) connected itemLength ↔
      2 ≤ messageLength connected itemLength ∧
        PathInside data (messageLength connected itemLength) ∧
        (¬PathKnown data ∨ messageLength connected itemLength ≤ 32768)) ∧
    (Delimits data (movedPathBytes data) connected itemLength ↔
      2 ≤ messageLength connected itemLength ∧
        PathInside data (messageLength connected itemLength) ∧
        (¬PathKnown data ∨ messageLength connected itemLength ≤ 32768 ∧
          (MemberFree data ∨ PathTooLong data (messageLength connected itemLength)))) ∧
    ∀ data' : Message, (∀ p ∈ requestReads data, data'.byteAt p = data.byteAt p) →
      (createMessageRouterRequestStructure data' (passedLength connected itemLength)).map
          (fun result => (result.1, result.2.service, result.2.requestDataSize)) =
        (createMessageRouterRequestStructure data (passedLength connected itemLength)).map
          (fun result => (result.1, result.2.service, result.2.requestDataSize)) := by
  refine and_assoc.mp ⟨?_, fun data' hsame =>
    createMessageRouterRequestStructure_congr hsame (passedLength connected itemLength)⟩
  rw [delimits_iff, delimits_iff]
  cases hdecode : decodePaddedEPath (data.drop 1) with
  | none =>
      have hunknown : ¬PathKnown data := by
        rw [pathKnown_iff, hdecode]
        nofun
      have hrefused : ∀ epath request,
          createMessageRouterRequestStructure data (passedLength connected itemLength) ≠
            .ok (epath, request) := by
        intro epath request
        rw [createMessageRouterRequestStructure_decoded, hdecode]
        nofun
      refine ⟨and_congr_right fun _ => and_congr_right fun _ => ?_,
        and_congr_right fun _ => and_congr_right fun _ => ?_⟩ <;>
        exact iff_of_true (fun epath request hok => absurd hok (hrefused epath request))
          (.inl hunknown)
  | some path =>
      obtain ⟨epath, cursor, bytesConsumed⟩ := path
      obtain ⟨words, hconsumed, hwords, hcursor, hmember, hends⟩ :=
        decodePaddedEPath_reported hdecode
      have hknown : PathKnown data := by
        rw [pathKnown_iff, hdecode]
        rfl
      have hlongPath : PathTooLong data (messageLength connected itemLength) ↔
          messageLength connected itemLength ≤ bytesConsumed := by
        constructor
        · intro hlong
          obtain ⟨hreach, hend⟩ := (hends _).mpr rfl
          have hlt := hlong _ hreach hend
          dsimp only at hlt
          omega
        · rintro hle there hreach hend
          cases (hends there).mp ⟨hreach, hend⟩
          dsimp only
          omega
      have hreported : reportedPathBytes data = some bytesConsumed := by
        rw [reportedPathBytes, hdecode]
        rfl
      have hmoved : movedPathBytes data = some cursor := by
        rw [movedPathBytes, hdecode]
        rfl
      have hnot : ¬¬PathKnown data := not_not.mpr hknown
      refine ⟨and_congr_right fun hlong => and_congr_right fun _ => ?_,
        and_congr_right fun hlong => and_congr_right fun _ => ?_⟩
      · rw [delimits_exact_iff hdecode hreported (Nat.le_refl _) hlong]
        rw [or_iff_right hnot]
        omega
      · rw [delimits_exact_iff hdecode hmoved hcursor hlong, hlongPath,
          MemberFree, EveryPathSegment, ← hmember]
        rw [or_iff_right hnot]
        omega

/-- An empty item: the service and the path size are taken from behind it, and the request
has almost 2^64 bytes. -/
theorem createMessageRouterRequestStructure_empty :
    (∃ request, createMessageRouterRequestStructure [0x0E, 0x00] (passedLength false 0) =
        .ok ({}, request) ∧ request.requestDataSize.toNat = 2 ^ 64 - 2) ∧
      ¬Delimits [0x0E, 0x00] (reportedPathBytes [0x0E, 0x00]) false 0 ∧
      ¬Delimits [0x0E, 0x00] (movedPathBytes [0x0E, 0x00]) false 0 := by
  refine ⟨⟨_, rfl, rfl⟩, fun h => ?_, fun h => ?_⟩ <;>
    exact absurd (h.inside 0 List.mem_cons_self) (by decide)

end Requests

end Opener

import Opener.Core.ConnectionData
import Opener.Core.SampleApplication
import Opener.Metatheory.ForwardCloses
import Opener.Metatheory.PacketGrammar
import Opener.Metatheory.PathReads
import Opener.Metatheory.Replies

/-!
What the services of the connection manager read of a request, against the size that is
given with it. Only the connection path of a Forward Open is compared with the size.
-/

namespace Opener

open CursorAccounts

/-- Both have the same bytes where these slices are. -/
def AgreeOn (slices : List (Nat × Nat)) (m m' : Message) : Prop :=
  ∀ slice ∈ slices, ∀ i < slice.2, m'.byteAt (slice.1 + i) = m.byteAt (slice.1 + i)

/-- The answer depends on these slices of the data only. -/
def DependsOn {α : Type} (slices : List (Nat × Nat)) (answer : Message → α) (data : Message) :
    Prop :=
  ∀ data', AgreeOn slices data data' → answer data' = answer data

section Agree

variable {slices : List (Nat × Nat)} {m m' : Message} {offset : Nat}

theorem AgreeOn.usint (h : AgreeOn slices m m') (hslice : (offset, 1) ∈ slices) :
    Message.byteAt (m'.drop offset) 0 = Message.byteAt (m.drop offset) 0 := by
  rw [Message.byteAt_drop, Message.byteAt_drop]
  exact h _ hslice 0 Nat.one_pos

theorem AgreeOn.uint (h : AgreeOn slices m m') (hslice : (offset, 2) ∈ slices) :
    (Message.getUint (m'.drop offset)).1 = (Message.getUint (m.drop offset)).1 := by
  have hbyte : ∀ i < 2, Message.byteAt (m'.drop offset) i = Message.byteAt (m.drop offset) i := by
    intro i hi
    rw [Message.byteAt_drop, Message.byteAt_drop]
    exact h _ hslice i hi
  rw [Message.getUint, Message.getUint, hbyte 0 (by decide), hbyte 1 (by decide)]

theorem AgreeOn.udint (h : AgreeOn slices m m') (hslice : (offset, 4) ∈ slices) :
    (Message.getUdint (m'.drop offset)).1 = (Message.getUdint (m.drop offset)).1 := by
  refine Message.getUdint_congr fun i hi => ?_
  rw [Message.byteAt_drop, Message.byteAt_drop]
  exact h _ hslice i hi

end Agree

/-- A request is refused without a change to the connections or a report on one. Only the
connection manager's own globals are written. -/
structure StackState.Refuses (st : StackState) (response : MessageRouterResponse)
    (st' : StackState) : Prop where
  status : response.generalStatus ≠ GeneralStatus.success
  unchanged : st' = { st with dummy := st'.dummy, cpf := st'.cpf, configData := st'.configData }
  unreported : ∀ c, response.message ≠ assembleConnectionDataResponseMessage c

/-- A service that reads these slices of a request with so many bytes checks their length:
they lie inside, and a request that is shorter than the fixed part is refused. -/
structure ChecksLength (reads : List (Nat × Nat)) (size fixedPart : Nat)
    (answer : Except Fault (MessageRouterResponse × StackState)) (st : StackState) : Prop where
  inside : Inside size reads
  refuses : size < fixedPart → ∃ response st', answer = .ok (response, st') ∧
    st.Refuses response st'

/-- Where the slices that lie inside leave no short request unrefused. -/
theorem checksLength_iff {reads : List (Nat × Nat)} {size fixedPart : Nat}
    {answer : Except Fault (MessageRouterResponse × StackState)} {st : StackState}
    (h : Inside size reads → size < fixedPart → ∃ response st', answer = .ok (response, st') ∧
      st.Refuses response st') :
    ChecksLength reads size fixedPart answer st ↔ Inside size reads :=
  ⟨fun hchecks => hchecks.inside, fun hinside => ⟨hinside, h hinside⟩⟩

theorem assembleConnectionDataResponseMessage_length (c : CipConnectionObject) :
    (assembleConnectionDataResponseMessage c).length = 56 := by
  unfold assembleConnectionDataResponseMessage
  simp only [List.length_append, List.length_replicate, intBytes, dintBytes, sintBytes,
    List.length_cons, List.length_nil]

/-- A report on a connection is longer than the triad with a path size. -/
theorem refusalMessage_unreported {triad : List UInt8} {remainingPathSize : UInt8}
    (htriad : triad.length = 8) (c : CipConnectionObject) :
    triad ++ sintBytes remainingPathSize ++ sintBytes 0 ≠
      assembleConnectionDataResponseMessage c := by
  intro hsame
  have hlength := congrArg List.length hsame
  simp only [assembleConnectionDataResponseMessage_length, List.length_append, htriad, sintBytes,
    List.length_cons, List.length_nil] at hlength
  omega

namespace StackState

section ConnectionData

def getConnectionDataReads : List (Nat × Nat) := [(0, 2)]

def searchConnectionDataReads : List (Nat × Nat) := [(0, 2), (2, 2), (4, 4)]

variable {cfg : Config} {st : StackState} {request : MessageRouterRequest}

theorem getConnectionData_dependsOn : DependsOn getConnectionDataReads
    (fun data => st.getConnectionData cfg { request with data }) request.data := by
  intro data h
  have hnumber := h.uint (show (0, 2) ∈ getConnectionDataReads by decide)
  simp only [List.drop_zero] at hnumber
  simp only [getConnectionData, hnumber]

theorem searchConnectionData_dependsOn : DependsOn searchConnectionDataReads
    (fun data => st.searchConnectionData cfg { request with data }) request.data := by
  intro data h
  have hserial := h.uint (show (0, 2) ∈ searchConnectionDataReads by decide)
  have hvendor := h.uint (show (2, 2) ∈ searchConnectionDataReads by decide)
  have horiginator := h.udint (show (4, 4) ∈ searchConnectionDataReads by decide)
  simp only [List.drop_zero] at hserial
  have hnext (m : Message) : (Message.getUint m).2 = m.drop 2 := rfl
  simp only [searchConnectionData, hnext, List.drop_drop, Nat.reduceAdd, hserial, hvendor,
    horiginator]

end ConnectionData

section ForwardOpen

/-- The fixed part of a Forward Open, with the path size as its last byte. -/
def headerLength (isLarge : Bool) : Nat := if isLarge then 40 else 36

/-- What `ConnectionObjectInitializeFromMessage` reads. The three bytes behind the timeout
multiplier are reserved. -/
def initializeReads (isLarge : Bool) : List (Nat × Nat) :=
  let parameters := if isLarge then 4 else 2
  [(0, 1), (1, 1), (2, 4), (6, 4), (10, 2), (12, 2), (14, 4), (18, 1), (22, 4),
    (26, parameters), (26 + parameters, 4), (30 + parameters, parameters),
    (30 + 2 * parameters, 1)]

variable (cfg : Config) (env : Environment)

/-- `HandleConfigData` compares or stores the configuration data, which have the size of the
configuration assembly. -/
def usesConfigData (r : ConnRef) (data : List UInt8) (st : StackState) : Bool :=
  match cfg.getAssemblyInstance (st.conn r).configurationPath.instanceId with
  | .ok (some instanceNumber) =>
      data.length ≠ 0 && instanceNumber ≠ 0 &&
        st.assemblyLength cfg instanceNumber = data.length
  | _ => false

/-- The open function comes to the configuration data of the request and uses them. -/
def opensWithConfigData (st : StackState) : Bool :=
  match cfg.connectionManagementList.find? fun entry =>
      entry.1 = st.dummy.configurationPath.classId with
  | some (_, some .establishIoConnection) =>
      match st.resolveIoConnection cfg with
      | .ok (.ok r, st) =>
          match (st.deepCopyDummy cfg r).configureIoConnection cfg r with
          | .ok (extended, st) =>
              extended = ExtendedStatus.success &&
                st.configData.any fun data => st.usesConfigData cfg r data
          | .error _ => false
      | _ => false
  | _ => false

/-- A request that is refused on its fixed part. -/
def refusedByHeader (st : StackState) : Prop :=
  (st.forwardOpenRefusal cfg).isSome = true ∨ st.dummy.productionTrigger = .invalid

instance (st : StackState) : Decidable (st.refusedByHeader cfg) :=
  inferInstanceAs (Decidable (_ ∨ _))

/-- The configuration data that the open function uses. -/
def configDataReads (isLarge : Bool) (requestDataSize : UInt64) (message : Message)
    (st : StackState) : List (Nat × Nat) :=
  match parseConnectionPath cfg message requestDataSize st.dummy st.configData with
  | .ok s =>
      if (st.storeParsedPath s).opensWithConfigData cfg then
        (kept (headerLength isLarge)
          (traceConnectionPath cfg message st.dummy st.configData requestDataSize)).toList
      else []
  | .error _ => []

/-- What a Forward Open reads of the request, from the state in which the fixed part is
received and the cursor that this leaves at the path size. -/
def forwardOpenReads (isLarge : Bool) (requestDataSize : UInt64) (message : Message)
    (st : StackState) : List (Nat × Nat) :=
  initializeReads isLarge ++
    if st.refusedByHeader cfg then []
    else (headerLength isLarge - 1, 1) ::
      (readsFrom (headerLength isLarge)
        (traceConnectionPath cfg message st.dummy st.configData requestDataSize) ++
          st.configDataReads cfg isLarge requestDataSize message)

/-- What a Forward Open reads lies inside the request: the fixed part up to the path size,
unless it is refused by then the path size, every segment that is looked at of a path that
fills the request, and configuration data that the open function uses. -/
structure ForwardOpenInside (isLarge : Bool) (requestDataSize : UInt64) (message : Message)
    (st : StackState) : Prop where
  header : headerLength isLarge - 1 ≤ requestDataSize.toNat
  pathSize : ¬st.refusedByHeader cfg → headerLength isLarge ≤ requestDataSize.toNat
  path : ¬st.refusedByHeader cfg → message.byteAt 0 ≠ 0 →
    requestDataSize.toNat = headerLength isLarge + 2 * (message.byteAt 0).toNat →
    ConnectionPathInside requestDataSize.toNat cfg st.dummy (headerLength isLarge)
      (message.byteAt 0).toUInt64 (message.drop 1)
  configData : ¬st.refusedByHeader cfg → ∀ s,
    parseConnectionPath cfg message requestDataSize st.dummy st.configData = .ok s →
    (st.storeParsedPath s).opensWithConfigData cfg = true →
    ∀ offset length, kept (headerLength isLarge)
      (traceConnectionPath cfg message st.dummy st.configData requestDataSize) =
        some (offset, length) → offset + length ≤ requestDataSize.toNat

variable {cfg env} {st : StackState}

theorem inside_initializeReads {isLarge : Bool} {size : Nat} :
    Inside size (initializeReads isLarge) ↔ headerLength isLarge - 1 ≤ size := by
  cases isLarge with
  | false =>
      simp only [initializeReads, headerLength, inside_cons, Bool.false_eq_true, if_false]
      refine ⟨fun h => ?_, fun h => ?_⟩
      · omega
      · refine ⟨?_, ?_, ?_, ?_, ?_, ?_, ?_, ?_, ?_, ?_, ?_, ?_, ?_, inside_nil⟩ <;> omega
  | true =>
      simp only [initializeReads, headerLength, inside_cons, if_true]
      refine ⟨fun h => ?_, fun h => ?_⟩
      · omega
      · refine ⟨?_, ?_, ?_, ?_, ?_, ?_, ?_, ?_, ?_, ?_, ?_, ?_, ?_, inside_nil⟩ <;> omega

theorem headerLength_ne_iff {isLarge : Bool} {requestDataSize : UInt64} {pathSize : UInt8} :
    ((if isLarge then (40 : UInt64) else 36) + pathSize.toUInt64 * 2 = requestDataSize) ↔
      requestDataSize.toNat = headerLength isLarge + 2 * pathSize.toNat := by
  have hsize := pathSize.toNat_lt
  have hheader : ((if isLarge then (40 : UInt64) else 36) + pathSize.toUInt64 * 2).toNat =
      headerLength isLarge + 2 * pathSize.toNat := by
    cases isLarge with
    | false =>
        simp only [headerLength, Bool.false_eq_true, if_false, UInt64.toNat_add, UInt64.toNat_mul,
          UInt8.toNat_toUInt64, UInt64.toNat_ofNat]
        omega
    | true =>
        simp only [headerLength, if_true, UInt64.toNat_add, UInt64.toNat_mul,
          UInt8.toNat_toUInt64, UInt64.toNat_ofNat]
        omega
  rw [← hheader, ← UInt64.toNat_inj, eq_comm]

theorem inside_traceConnectionPath {limit : Nat} {isLarge : Bool} {requestDataSize : UInt64}
    {message : Message} (hlarge : st.dummy.isLargeForwardOpen = isLarge) :
    Inside limit (readsFrom (headerLength isLarge)
        (traceConnectionPath cfg message st.dummy st.configData requestDataSize)) ↔
      (message.byteAt 0 ≠ 0 →
        requestDataSize.toNat = headerLength isLarge + 2 * (message.byteAt 0).toNat →
        ConnectionPathInside limit cfg st.dummy (headerLength isLarge)
          (message.byteAt 0).toUInt64 (message.drop 1)) := by
  have hzero : (message.byteAt 0).toUInt64 = 0 ↔ message.byteAt 0 = 0 := by
    rw [← UInt64.toNat_inj, UInt8.toNat_toUInt64, ← UInt8.toNat_inj]
    rfl
  have hfollows : PathState.Follows st.dummy st.configData
      (pathStart message st.dummy st.configData) := ⟨rfl, rfl, rfl, rfl⟩
  rw [traceConnectionPath, hlarge]
  simp only [hzero, ne_eq, headerLength_ne_iff]
  split
  · rename_i hunread
    refine iff_of_true inside_nil fun hne hsize => ?_
    exact absurd hunread (not_or.mpr ⟨hne, not_not.mpr hsize⟩)
  · rename_i hread
    rw [not_or, not_not] at hread
    rw [PathState.inside_segments hfollows]
    exact ⟨fun h _ _ => h, fun h => h hread.1 hread.2⟩

theorem inside_configDataReads {limit : Nat} {isLarge : Bool} {requestDataSize : UInt64}
    {message : Message} :
    Inside limit (st.configDataReads cfg isLarge requestDataSize message) ↔
      ∀ s, parseConnectionPath cfg message requestDataSize st.dummy st.configData = .ok s →
        (st.storeParsedPath s).opensWithConfigData cfg = true →
        ∀ offset length, kept (headerLength isLarge)
          (traceConnectionPath cfg message st.dummy st.configData requestDataSize) =
            some (offset, length) → offset + length ≤ limit := by
  rw [configDataReads]
  cases parseConnectionPath cfg message requestDataSize st.dummy st.configData with
  | error failure => exact iff_of_true inside_nil fun s hs => by cases hs
  | ok s =>
      simp only [Except.ok.injEq, forall_eq']
      split
      · rename_i hopens
        simp only [Inside, Option.mem_toList, Prod.forall, hopens, forall_const]
      · rename_i hother
        exact iff_of_true inside_nil fun hopens => absurd hopens hother

theorem inside_forwardOpenReads {isLarge : Bool} {requestDataSize : UInt64}
    {message : Message} (hlarge : st.dummy.isLargeForwardOpen = isLarge) :
    Inside requestDataSize.toNat (st.forwardOpenReads cfg isLarge requestDataSize message) ↔
      st.ForwardOpenInside cfg isLarge requestDataSize message := by
  have hpositive : 1 ≤ headerLength isLarge := by
    cases isLarge <;> decide
  rw [forwardOpenReads, inside_append, inside_initializeReads]
  by_cases hrefused : st.refusedByHeader cfg
  · rw [if_pos hrefused]
    exact ⟨fun h => ⟨h.1, fun hne => absurd hrefused hne, fun hne => absurd hrefused hne,
      fun hne => absurd hrefused hne⟩, fun h => ⟨h.header, inside_nil⟩⟩
  · rw [if_neg hrefused, inside_cons, inside_append, inside_traceConnectionPath hlarge,
      inside_configDataReads]
    constructor
    · rintro ⟨hheader, hsize, hpath, hconfig⟩
      dsimp only at hsize
      exact ⟨hheader, fun _ => by omega, fun _ => hpath, fun _ => hconfig⟩
    · intro h
      refine ⟨h.header, ?_, h.path hrefused, h.configData hrefused⟩
      have hsize := h.pathSize hrefused
      dsimp only
      omega

/-- The cursor ends at the path size, and what is received depends on what is read. -/
theorem initializeFromMessage_reads {message data : Message} {connectionNumber : UInt16}
    {c : CipConnectionObject} (h : AgreeOn (initializeReads c.isLargeForwardOpen) message data) :
    CipConnectionObject.initializeFromMessage cfg data connectionNumber c =
      ((CipConnectionObject.initializeFromMessage cfg message connectionNumber c).1,
        data.drop (headerLength c.isLargeForwardOpen - 1)) := by
  have hlarge (c : CipConnectionObject) :
      c.setInitialInactivityWatchdogTimerValue.isLargeForwardOpen = c.isLargeForwardOpen := rfl
  have huint (m : Message) : (Message.getUint m).2 = m.drop 2 := rfl
  have hudint (m : Message) : (Message.getUdint m).2 = m.drop 4 := rfl
  have husint (m : Message) : Message.getUsint m = (m.byteAt 0, m.drop 1) := rfl
  have hfixed : ∀ slice ∈ [(2, 4), (6, 4), (10, 2), (12, 2), (14, 4), (18, 1), (22, 4)],
      slice ∈ initializeReads c.isLargeForwardOpen := by
    cases c.isLargeForwardOpen <;> decide
  have hconsumed := h.udint (hfixed (2, 4) (by decide))
  have hproduced := h.udint (hfixed (6, 4) (by decide))
  have hserial := h.uint (hfixed (10, 2) (by decide))
  have hvendor := h.uint (hfixed (12, 2) (by decide))
  have horiginator := h.udint (hfixed (14, 4) (by decide))
  have hmultiplier := h.usint (hfixed (18, 1) (by decide))
  have hoToT := h.udint (hfixed (22, 4) (by decide))
  cases hisLarge : c.isLargeForwardOpen with
  | false =>
      rw [hisLarge] at h
      have hoToTParameters := h.uint (show (26, 2) ∈ initializeReads false by decide)
      have htToO := h.udint (show (28, 4) ∈ initializeReads false by decide)
      have htToOParameters := h.uint (show (32, 2) ∈ initializeReads false by decide)
      have htrigger := h.usint (show (34, 1) ∈ initializeReads false by decide)
      simp only [CipConnectionObject.initializeFromMessage, hlarge, hisLarge, husint, huint,
        hudint, List.drop_drop, Nat.reduceAdd, Bool.false_eq_true, if_false, hconsumed, hproduced,
        hserial, hvendor, horiginator, hmultiplier, hoToT, hoToTParameters, htToO,
        htToOParameters, htrigger]
      rfl
  | true =>
      rw [hisLarge] at h
      have hoToTParameters := h.udint (show (26, 4) ∈ initializeReads true by decide)
      have htToO := h.udint (show (30, 4) ∈ initializeReads true by decide)
      have htToOParameters := h.udint (show (34, 4) ∈ initializeReads true by decide)
      have htrigger := h.usint (show (38, 1) ∈ initializeReads true by decide)
      simp only [CipConnectionObject.initializeFromMessage, hlarge, hisLarge, husint, huint,
        hudint, List.drop_drop, Nat.reduceAdd, if_true, hconsumed, hproduced,
        hserial, hvendor, horiginator, hmultiplier, hoToT, hoToTParameters, htToO,
        htToOParameters, htrigger]
      rfl

theorem initializeFromMessage_isLarge (cfg : Config) (message : Message)
    (connectionNumber : UInt16) (c : CipConnectionObject) :
    (CipConnectionObject.initializeFromMessage cfg message connectionNumber
      c).1.isLargeForwardOpen = c.isLargeForwardOpen := by
  have hrate : ∀ c' : CipConnectionObject,
      (c'.setExpectedPacketRate cfg).isLargeForwardOpen = c'.isLargeForwardOpen := by
    intro c'
    simp only [CipConnectionObject.setExpectedPacketRate]
    split
    · rfl
    · rfl
  simp only [CipConnectionObject.initializeFromMessage, hrate]
  rfl

section Receive

variable {isLarge : Bool} {message rest : Message} {originatorAddress : SockaddrIn}
variable {encapsulationSession : UInt32} {received : StackState}

theorem receiveForwardOpen_isLarge
    (h : st.receiveForwardOpen cfg env isLarge message originatorAddress encapsulationSession =
      .ok (rest, received)) : received.dummy.isLargeForwardOpen = isLarge := by
  simp only [receiveForwardOpen] at h
  split at h
  · cases h
  · rename_i connectionNumber drawn hdraw
    cases h
    exact initializeFromMessage_isLarge cfg message connectionNumber _

theorem receiveForwardOpen_dependsOn : DependsOn (initializeReads isLarge)
    (fun data => (st.receiveForwardOpen cfg env isLarge data originatorAddress
      encapsulationSession).map Prod.snd) message := by
  intro data hagree
  simp only [receiveForwardOpen]
  split
  · rfl
  · rw [initializeFromMessage_reads hagree]
    rfl

end Receive

theorem parseConnectionPath_short {message : Message} {requestDataSize : UInt64}
    {object : CipConnectionObject} {configData : Option (List UInt8)} {s : PathState}
    (h : parseConnectionPath cfg message requestDataSize object configData = .ok s) :
    headerLength object.isLargeForwardOpen ≤ requestDataSize.toNat := by
  simp only [parseConnectionPath] at h
  generalize hheader : (if object.isLargeForwardOpen = true then (40 : UInt64) else 36) = header
    at h
  split at h
  · cases h
  · split at h
    · cases h
    · rename_i hnotMuch
      split at h
      · cases h
      · rename_i hnotLess
        have heq := UInt64.le_antisymm (UInt64.not_lt.mp hnotLess) (UInt64.not_lt.mp hnotMuch)
        rw [← hheader] at heq
        have hfills := headerLength_ne_iff.mp heq
        omega

/-- The response of a refused Forward Open has the connection triad and two more bytes. -/
theorem refuse_refuses {st₁ : StackState} {status : OpenStatus}
    (hstatus : status.general ≠ GeneralStatus.success) (h : Receives st st₁) :
    st.Refuses (st₁.refuse status).1 (st₁.refuse status).2 := by
  rw [refuse, assembleForwardOpenResponse, if_neg hstatus]
  refine ⟨hstatus, ?_, refusalMessage_unreported rfl⟩
  rw [h.eq]

theorem forwardOpenRoutine_short {isLarge : Bool} {request : MessageRouterRequest}
    {originatorAddress : SockaddrIn} {encapsulationSession : UInt32} {message : Message}
    {received : StackState}
    (hreceived : st.receiveForwardOpen cfg env isLarge request.data originatorAddress
      encapsulationSession = .ok (message, received))
    (hshort : request.requestDataSize.toNat < headerLength isLarge) :
    ∃ response st', st.forwardOpenRoutine cfg env isLarge request originatorAddress
        encapsulationSession = .ok (response, st') ∧ st.Refuses response st' := by
  have hlarge := receiveForwardOpen_isLarge hreceived
  have hrefused : ∃ status st₁, st.forwardOpenRequest cfg env isLarge request originatorAddress
      encapsulationSession = .ok (some status, st₁) := by
    simp only [forwardOpenRequest, hreceived]
    cases received.forwardOpenRefusal cfg with
    | some status => exact ⟨status, received, rfl⟩
    | none =>
        by_cases htrigger : received.dummy.productionTrigger = .invalid
        · simp only [if_pos htrigger]
          exact ⟨_, _, rfl⟩
        · simp only [if_neg htrigger]
          cases hparse : parseConnectionPath cfg message request.requestDataSize received.dummy
              received.configData with
          | error failure => exact ⟨_, _, rfl⟩
          | ok s =>
              have hsize := parseConnectionPath_short hparse
              rw [hlarge] at hsize
              exact absurd hshort (Nat.not_lt.mpr hsize)
  obtain ⟨status, st₁, hrequest⟩ := hrefused
  rw [forwardOpenRoutine_eq, hrequest]
  exact ⟨_, _, rfl, refuse_refuses ((forwardOpenRequest_demanded hrequest).2 status rfl)
    (forwardOpenRequest_receives hrequest).1⟩

end ForwardOpen

section ForwardClose

variable (cfg : Config) (request : MessageRouterRequest) (originatorAddress : SockaddrIn)

/-- The connection whose triad is where that of the request should be. -/
def closedConnection (st : StackState) : Option ConnRef :=
  st.findConnection cfg fun _ c =>
    (c.state = .established || c.state = .timedOut) &&
      c.connectionSerialNumber = request.closingTriad.1 &&
      c.originatorVendorId = request.closingTriad.2.1 &&
      c.originatorSerialNumber = request.closingTriad.2.2

/-- The connection is one of this originator. -/
def closes (st : StackState) : Bool :=
  (st.closedConnection cfg request).any fun r =>
    originatorAddress.sinAddr = (st.conn r).originatorAddress.sinAddr

/-- What `ForwardClose` reads of the request. The path size is for the answer to a request
that closes nothing. -/
def forwardCloseReads (st : StackState) : List (Nat × Nat) :=
  [(2, 2), (4, 2), (6, 4)] ++
    if st.closes cfg request originatorAddress = true then [] else [(10, 1)]

variable {cfg request originatorAddress} {st : StackState}

theorem forwardClose_dependsOn :
    DependsOn (st.forwardCloseReads cfg request originatorAddress)
      (fun data => st.forwardClose cfg { request with data } originatorAddress)
      request.data := by
  intro data h
  have hfixed : ∀ slice ∈ [(2, 2), (4, 2), (6, 4)],
      slice ∈ st.forwardCloseReads cfg request originatorAddress :=
    fun slice hslice => List.mem_append_left _ hslice
  have hserial := h.uint (hfixed (2, 2) (by decide))
  have hvendor := h.uint (hfixed (4, 2) (by decide))
  have horiginator := h.udint (hfixed (6, 4) (by decide))
  have huint (m : Message) : (Message.getUint m).2 = m.drop 2 := rfl
  have hudint (m : Message) : (Message.getUdint m).2 = m.drop 4 := rfl
  simp only [forwardClose, huint, hudint, List.drop_drop, Nat.reduceAdd, hserial, hvendor,
    horiginator]
  generalize CommonPacketFormatData.clearAddressInfoItem 1
    (CommonPacketFormatData.clearAddressInfoItem 0 st.cpf) = cpf
  generalize hfind : findConnection cfg { st with cpf := cpf } _ = found
  have hclosed : st.closedConnection cfg request = found := by
    rw [← hfind]
    simp only [closedConnection, MessageRouterRequest.closingTriad, huint, List.drop_drop,
      Nat.reduceAdd]
    rfl
  have hsize (hcloses : st.closes cfg request originatorAddress = false) :
      Message.byteAt (data.drop 10) 0 = Message.byteAt (request.data.drop 10) 0 := by
    refine h.usint ?_
    rw [forwardCloseReads, if_neg (Bool.eq_false_iff.mp hcloses)]
    exact List.mem_append_right _ List.mem_cons_self
  rw [closes, hclosed] at hsize
  cases found with
  | none => rw [hsize rfl]
  | some r =>
      by_cases hown : originatorAddress.sinAddr =
          (conn { st with cpf := cpf } r).originatorAddress.sinAddr
      · simp only [if_pos hown]
        rfl
      · simp only [if_neg hown]
        rw [hsize (decide_eq_false hown)]

theorem inside_forwardCloseReads {size : Nat} :
    Inside size (st.forwardCloseReads cfg request originatorAddress) ↔
      10 ≤ size ∧ (st.closes cfg request originatorAddress = false → 11 ≤ size) := by
  rw [forwardCloseReads]
  cases st.closes cfg request originatorAddress with
  | true =>
      simp only [if_true, List.append_nil, inside_cons, reduceCtorEq, false_implies, and_true]
      exact ⟨fun h => h.2.2.1, fun h => ⟨by omega, by omega, h, inside_nil⟩⟩
  | false =>
      simp only [Bool.false_eq_true, if_false, inside_append, inside_cons, forall_const]
      exact ⟨fun h => ⟨h.1.2.2.1, h.2.1⟩,
        fun h => ⟨⟨by omega, by omega, h.1, inside_nil⟩, h.2, inside_nil⟩⟩

/-- The response of a Forward Close has the connection triad and two more bytes. -/
theorem assembleForwardCloseResponse_refuses {serialNumber vendorId : UInt16}
    {originatorSerialNumber : UInt32} {service remainingPathSize : UInt8} {extended : UInt16}
    {cpf : CommonPacketFormatData} (hextended : extended ≠ ExtendedStatus.success) :
    let answer := assembleForwardCloseResponse serialNumber vendorId originatorSerialNumber
      service remainingPathSize extended { st with cpf }
    st.Refuses answer.1 answer.2 := by
  rw [assembleForwardCloseResponse]
  simp only [if_neg hextended]
  have htriad : (intBytes serialNumber ++ intBytes vendorId ++
      dintBytes originatorSerialNumber).length = 8 := rfl
  split
  · refine ⟨?_, rfl, refusalMessage_unreported htriad⟩
    show GeneralStatus.privilegeViolation ≠ GeneralStatus.success
    decide
  · refine ⟨?_, rfl, refusalMessage_unreported htriad⟩
    show GeneralStatus.connectionFailure ≠ GeneralStatus.success
    decide

theorem forwardClose_refuses (h : st.closes cfg request originatorAddress = false) :
    ∃ response st', st.forwardClose cfg request originatorAddress = .ok (response, st') ∧
      st.Refuses response st' := by
  simp only [forwardClose]
  generalize CommonPacketFormatData.clearAddressInfoItem 1
    (CommonPacketFormatData.clearAddressInfoItem 0 st.cpf) = cpf
  generalize hfind : findConnection cfg { st with cpf := cpf } _ = found
  have hclosed : st.closedConnection cfg request = found := hfind
  rw [closes, hclosed] at h
  cases found with
  | none =>
      exact ⟨_, _, rfl, assembleForwardCloseResponse_refuses
        (show ExtendedStatus.connectionTargetConnectionNotFound ≠ ExtendedStatus.success
          by decide)⟩
  | some r =>
      have hother : ¬originatorAddress.sinAddr =
          (conn { st with cpf := cpf } r).originatorAddress.sinAddr := of_decide_eq_false h
      simp only [if_neg hother]
      exact ⟨_, _, rfl, assembleForwardCloseResponse_refuses
        (show ExtendedStatus.wrongCloser ≠ ExtendedStatus.success by decide)⟩

theorem forwardClose_success (h : st.closes cfg request originatorAddress = true)
    {response : MessageRouterResponse} {st' : StackState}
    (hok : st.forwardClose cfg request originatorAddress = .ok (response, st')) :
    response.generalStatus = GeneralStatus.success := by
  simp only [forwardClose] at hok
  generalize CommonPacketFormatData.clearAddressInfoItem 1
    (CommonPacketFormatData.clearAddressInfoItem 0 st.cpf) = cpf at hok
  generalize hfind : findConnection cfg { st with cpf := cpf } _ = found at hok
  have hclosed : st.closedConnection cfg request = found := hfind
  rw [closes, hclosed] at h
  cases found with
  | none => cases h
  | some r =>
      have hown : originatorAddress.sinAddr =
          (conn { st with cpf := cpf } r).originatorAddress.sinAddr := of_decide_eq_true h
      simp only [if_pos hown] at hok
      split at hok
      · cases hok
      · cases hok
        rfl

end ForwardClose

section Lengths

variable {cfg : Config} {env : Environment} {st : StackState}

theorem getConnectionData_checks {request : MessageRouterRequest} {size : Nat} :
    ChecksLength getConnectionDataReads size 2 (.ok (st.getConnectionData cfg request, st)) st ↔
      2 ≤ size := by
  have hinside : Inside size getConnectionDataReads ↔ 2 ≤ size := by
    simp only [getConnectionDataReads, inside_cons, Nat.zero_add]
    exact ⟨fun h => h.1, fun h => ⟨h, inside_nil⟩⟩
  rw [checksLength_iff fun h hshort => absurd (hinside.mp h) (Nat.not_le.mpr hshort), hinside]

theorem searchConnectionData_checks {request : MessageRouterRequest} {size : Nat} :
    ChecksLength searchConnectionDataReads size 8
      (.ok (st.searchConnectionData cfg request, st)) st ↔ 8 ≤ size := by
  have hinside : Inside size searchConnectionDataReads ↔ 8 ≤ size := by
    simp only [searchConnectionDataReads, inside_cons]
    exact ⟨fun h => h.2.2.1, fun h => ⟨by omega, by omega, h, inside_nil⟩⟩
  rw [checksLength_iff fun h hshort => absurd (hinside.mp h) (Nat.not_le.mpr hshort), hinside]

theorem forwardClose_checks {request : MessageRouterRequest} {originatorAddress : SockaddrIn}
    {size : Nat} :
    ChecksLength (st.forwardCloseReads cfg request originatorAddress) size 12
        (st.forwardClose cfg request originatorAddress) st ↔
      12 ≤ size ∨ size = 11 ∧ st.closes cfg request originatorAddress = false := by
  constructor
  · intro h
    have hinside := inside_forwardCloseReads.mp h.inside
    cases hcloses : st.closes cfg request originatorAddress with
    | true =>
        refine .inl (Nat.not_lt.mp fun hshort => ?_)
        obtain ⟨response, st', hok, hrefuses⟩ := h.refuses hshort
        exact hrefuses.status (forwardClose_success hcloses hok)
    | false =>
        have hsize := Nat.lt_or_eq_of_le (hinside.2 hcloses)
        exact hsize.imp id fun heq => ⟨heq.symm, rfl⟩
  · intro h
    refine ⟨inside_forwardCloseReads.mpr ⟨?_, fun _ => ?_⟩, fun hshort => ?_⟩
    · omega
    · omega
    · obtain hlong | ⟨-, hcloses⟩ := h
      · omega
      · exact forwardClose_refuses hcloses

theorem forwardOpen_checks {isLarge : Bool} {request : MessageRouterRequest}
    {originatorAddress : SockaddrIn} {encapsulationSession : UInt32} {message : Message}
    {received : StackState}
    (hreceived : st.receiveForwardOpen cfg env isLarge request.data originatorAddress
      encapsulationSession = .ok (message, received)) :
    ChecksLength (received.forwardOpenReads cfg isLarge request.requestDataSize message)
        request.requestDataSize.toNat (headerLength isLarge)
        (st.forwardOpenRoutine cfg env isLarge request originatorAddress encapsulationSession)
        st ↔
      received.ForwardOpenInside cfg isLarge request.requestDataSize message := by
  rw [checksLength_iff fun _ hshort => forwardOpenRoutine_short hreceived hshort]
  exact inside_forwardOpenReads (receiveForwardOpen_isLarge hreceived)

/-- The services against the length of a request. None but the parser of the connection path
looks at it, so that they check it when what they read is there. A Forward Close with nothing
to close may lack the reserved byte. The answers depend on what is read only, and so does what
is received of a Forward Open before its path. -/
theorem connectionServices_check_iff (cfg : Config) (env : Environment) (st : StackState)
    (request : MessageRouterRequest) (originatorAddress : SockaddrIn)
    (encapsulationSession : UInt32) :
    (∀ isLarge message received, st.receiveForwardOpen cfg env isLarge request.data
        originatorAddress encapsulationSession = .ok (message, received) →
      (ChecksLength (received.forwardOpenReads cfg isLarge request.requestDataSize message)
          request.requestDataSize.toNat (headerLength isLarge)
          (st.forwardOpenRoutine cfg env isLarge request originatorAddress encapsulationSession)
          st ↔
        received.ForwardOpenInside cfg isLarge request.requestDataSize message)) ∧
    (ChecksLength (st.forwardCloseReads cfg request originatorAddress)
        request.requestDataSize.toNat 12 (st.forwardClose cfg request originatorAddress) st ↔
      12 ≤ request.requestDataSize.toNat ∨ request.requestDataSize.toNat = 11 ∧
        st.closes cfg request originatorAddress = false) ∧
    (ChecksLength getConnectionDataReads request.requestDataSize.toNat 2
        (.ok (st.getConnectionData cfg request, st)) st ↔
      2 ≤ request.requestDataSize.toNat) ∧
    (ChecksLength searchConnectionDataReads request.requestDataSize.toNat 8
        (.ok (st.searchConnectionData cfg request, st)) st ↔
      8 ≤ request.requestDataSize.toNat) ∧
    ((∀ isLarge, DependsOn (initializeReads isLarge)
        (fun data => (st.receiveForwardOpen cfg env isLarge data originatorAddress
          encapsulationSession).map Prod.snd) request.data) ∧
      DependsOn (st.forwardCloseReads cfg request originatorAddress)
        (fun data => st.forwardClose cfg { request with data } originatorAddress) request.data ∧
      DependsOn getConnectionDataReads
        (fun data => st.getConnectionData cfg { request with data }) request.data ∧
      DependsOn searchConnectionDataReads
        (fun data => st.searchConnectionData cfg { request with data }) request.data) :=
  ⟨fun _ _ _ hreceived => forwardOpen_checks hreceived, forwardClose_checks,
    getConnectionData_checks, searchConnectionData_checks,
    fun _ => receiveForwardOpen_dependsOn, forwardClose_dependsOn, getConnectionData_dependsOn,
    searchConnectionData_dependsOn⟩

open SampleApplication in
theorem connectionServices_check_sample :
    ∃ st, Reachable config st ∧ ∃ message received,
      st.receiveForwardOpen config (environment 1001 21) false (openRequest (class3 1 1)).data
        originator 1 = .ok (message, received) ∧
      received.ForwardOpenInside config false (openRequest (class3 1 1)).requestDataSize
        message := by
  obtain ⟨st, hreachable, hst⟩ := reachable_of_ends config []
    (fun st => returns (st.receiveForwardOpen config (environment 1001 21) false
        (openRequest (class3 1 1)).data originator 1)
      fun answer => decide (∀ slice ∈ answer.2.forwardOpenReads config false
        (openRequest (class3 1 1)).requestDataSize answer.1, slice.1 + slice.2 ≤ 40))
    (by decide +kernel)
  obtain ⟨⟨message, received⟩, hreceived, hslices⟩ := returns_iff.mp hst
  have hinside := of_decide_eq_true hslices
  have hchecks := (connectionServices_check_iff config (environment 1001 21) st
    (openRequest (class3 1 1)) originator 1).1 false message received hreceived
  refine ⟨st, hreachable, message, received, hreceived,
    hchecks.mp ⟨hinside, fun hshort => ?_⟩⟩
  exact absurd hshort (by decide)

open SampleApplication in
/-- An empty Forward Close names the triad of zeros, and the connection with it is closed. -/
theorem connectionServices_check_refuted :
    let request : MessageRouterRequest := { service := 0x4E, requestDataSize := 0, data := [] }
    ∃ st, Reachable config st ∧ st.connectionList config = [.explicit 0] ∧
      (∃ response st', st.forwardClose config request originator = .ok (response, st') ∧
        response.generalStatus = GeneralStatus.success ∧ st'.connectionList config = []) ∧
      ¬ChecksLength (st.forwardCloseReads config request originator) 0 12
        (st.forwardClose config request originator) st := by
  intro request
  obtain ⟨st, hreachable, hst⟩ := reachable_of_ends config
    [send 1 ((SampleApplication.forwardOpen (class3 0 0)).set 18 0)]
    (fun st => st.connectionList config = [.explicit 0] &&
      returns (st.forwardClose config request originator) fun answer =>
        answer.1.generalStatus = GeneralStatus.success &&
          answer.2.connectionList config = []) (by decide +kernel)
  rw [Bool.and_eq_true, decide_eq_true_eq, returns_iff] at hst
  obtain ⟨hlist, ⟨response, st'⟩, hcall, hclosed⟩ := hst
  rw [Bool.and_eq_true, decide_eq_true_eq, decide_eq_true_eq] at hclosed
  refine ⟨st, hreachable, hlist, ⟨response, st', hcall, hclosed⟩, fun hchecks => ?_⟩
  obtain ⟨response', st₁, hsame, hrefuses⟩ := hchecks.refuses (by decide)
  rw [hcall] at hsame
  cases hsame
  exact hrefuses.status hclosed.1

end Lengths

end StackState

end Opener

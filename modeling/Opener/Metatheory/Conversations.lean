import Mathlib.Data.List.Chain
import Opener.Core.SampleApplication
import Opener.Metatheory.ExplicitMessages
import Opener.Metatheory.Lifetimes

/-!
The explicit messages of a class 3 connection from its opening on. A message is
compared with the sequence number that the connection remembers, which is zero at
first, and a repetition is answered with the reply that was stored last. Requests are
executed once for each new number exactly when the first number is not zero and no
message is repeated that the message router did not answer.
-/

namespace Opener

open Message (word)
open CommonPacketFormatData

namespace CipConnectionObject

/-- What the connection remembers of its last message. -/
def record (c : CipConnectionObject) : UInt16 × List UInt8 :=
  (c.sequenceCountConsuming, c.lastReplySent)

end CipConnectionObject

/-- The explicit connections that stay keep their records. -/
def RecordsKept (V V' : View) : Prop :=
  ∀ r ∈ V.members, r ∈ V'.members → r.isIo = false →
    (V'.object r).record = (V.object r).record

namespace RecordsKept

variable {cfg : Config} {env : Environment} {V V' : View} {st : StackState}

theorem without (V : View) (dropped : ConnRef → Bool) : RecordsKept V (V.without dropped) := by
  intro r _ hr _
  rw [View.without_object, (V.mem_without.mp hr).2]
  rfl

theorem modify (V : View) (s : ConnRef) {f : CipConnectionObject → CipConnectionObject}
    (hf : ∀ c, (f c).record = c.record) (r : ConnRef) :
    ((V.modify s f).object r).record = (V.object r).record := by
  by_cases hs : r = s
  · rw [hs, View.modify_object_self, hf]
  · rw [V.modify_object_of_ne hs]

theorem vacate (V : View) (s : ConnRef) : RecordsKept V (V.vacate s) := by
  have hvacates := vacates_vacate V s
  generalize V.vacate s = V' at hvacates
  cases hvacates with
  | quiet silent => exact fun r _ _ _ => rfl
  | @passed heir master member differs takes =>
      intro r _ _ _
      have hheir : ∀ c, (View.inherit (V.object s) c).record = c.record := fun _ => rfl
      have hretired : ∀ c, (View.retire c).record = c.record := fun _ => rfl
      exact (modify _ s hretired r).trans (modify V heir hheir r)
  | silenced master nobody => exact without V _

theorem closed (V : View) (s : ConnRef) : RecordsKept V (V.closed s) := by
  intro r hr hr' hio
  have hvacated : r ∈ (V.vacate s).members := ((V.vacate s).mem_without.mp hr').1
  exact (without _ _ r hvacated hr' hio).trans (vacate V s r hr hvacated hio)

theorem vacated {s : ConnRef} {lookup : Lookup} (h : Vacated V s lookup V') :
    RecordsKept V V' := by
  cases h with
  | free unlisted => exact fun r _ _ _ => rfl
  | closed member => exact closed V s
  | cleared unlisted => exact without V _

theorem established {status : StackState.OpenStatus}
    (h : StackState.Established cfg env st status V) : RecordsKept (st.view cfg) V := by
  cases h with
  | nothing failed lookup => exact fun r _ _ _ => rfl
  | refused failed chosen finds instanceType vacated idle =>
      intro r hr hr' hio
      rw [View.scratch_object_of_ne _ (ConnRef.ne_of_isIo hio chosen.io)]
      exact RecordsKept.vacated vacated r hr hr' hio
  | @opened s V₁ _ chosen finds instanceType vacated opens granted points =>
      intro r hr hr' hio
      have hne := ConnRef.ne_of_isIo hio chosen.io
      have hkept : r ∈ V₁.members ∧ (V.object r).record = (V₁.object r).record := by
        cases opens with
        | plain admitted =>
            rw [View.insert_object_of_ne _ hne]
            exact ⟨(List.mem_cons.mp hr').resolve_left hne, rfl⟩
        | first admitted =>
            rw [View.insert_object_of_ne _ hne]
            exact ⟨(List.mem_cons.mp hr').resolve_left hne, rfl⟩
        | @join c producer admitted =>
            rw [View.insert_object_of_ne _ hne]
            refine ⟨(List.mem_cons.mp hr').resolve_left hne, modify _ _ ?_ r⟩
            intro d
            rw [StackState.leftBehind]
            split
            · rfl
            · rfl
      rw [hkept.2]
      exact RecordsKept.vacated vacated r hr hkept.1 hio

theorem answered {status : StackState.OpenStatus} (h : StackState.Answered cfg env st status V) :
    RecordsKept (st.view cfg) V := by
  cases h with
  | unchanged failed => exact fun r _ _ _ => rfl
  | io assembly established => exact RecordsKept.established established
  | @class3 s c unlisted explicit kind established granted router =>
      intro r hr _ _
      rw [View.insert_object_of_ne _ (ne_of_mem_of_not_mem hr unlisted)]

end RecordsKept

namespace StackState

variable {cfg : Config} {env : Environment} {st st' : StackState}

theorem forwardClose_records (hsound : st.Sound cfg) {request : MessageRouterRequest}
    {originatorAddress : SockaddrIn} {response : MessageRouterResponse}
    (hcall : st.forwardClose cfg request originatorAddress = .ok (response, st')) :
    RecordsKept (st.view cfg) (st'.view cfg) := by
  obtain ⟨ns, hlisted⟩ := hsound.wellFormed
  simp only [forwardClose] at hcall
  generalize CommonPacketFormatData.clearAddressInfoItem 1
    (CommonPacketFormatData.clearAddressInfoItem 0 st.cpf) = cpf at hcall
  split at hcall
  · cases hcall
    exact fun r _ _ _ => rfl
  · rename_i s hfind
    have hs : s ∈ st.connectionList cfg := List.mem_of_find?_eq_some hfind
    split at hcall
    · have hlisted₁ : Listed cfg { st with cpf := cpf } ns := hlisted
      obtain ⟨st₁, ns₁, hclose, hshrunk⟩ :=
        connectionCloseFunction_ok hlisted₁ hsound.regular.closable hs
      rw [hclose] at hcall
      cases hcall
      have hview : st₁.view cfg = (st.view cfg).closed s := hshrunk.view_eq
      have hclosed := RecordsKept.closed (st.view cfg) s
      rw [← hview] at hclosed
      exact hclosed
    · cases hcall
      exact fun r _ _ _ => rfl

/-- A request that is executed leaves the records of other explicit connections, and of
its own one as long as it stays. -/
theorem notifyMessageRouter_records (hsound : st.Sound cfg) {data : Message}
    {dataLength : UInt16} {originatorAddress : SockaddrIn} {session : UInt32}
    {response : Option MessageRouterResponse}
    (hcall : st.notifyMessageRouter cfg env data dataLength originatorAddress session =
      .ok (response, st')) : RecordsKept (st.view cfg) (st'.view cfg) := by
  have hopen : ∀ {isLarge request answer}, st.forwardOpenRoutine cfg env isLarge request
      originatorAddress session = .ok (answer, st') →
      RecordsKept (st.view cfg) (st'.view cfg) := by
    intro isLarge request answer hroutine
    obtain ⟨-, hview | ⟨st₁, status, V, -, hview, hanswered, hV⟩⟩ :=
      forwardOpenRoutine_spec hsound hroutine
    · rw [hview]
      exact fun r _ _ _ => rfl
    · rw [hV, ← hview]
      exact RecordsKept.answered hanswered
  simp only [notifyMessageRouter] at hcall
  cases hparse : createMessageRouterRequestStructure data dataLength with
  | error generalStatus =>
      simp only [hparse] at hcall
      cases hcall
      exact fun r _ _ _ => rfl
  | ok parsed =>
      obtain ⟨epath, request⟩ := parsed
      simp only [hparse] at hcall
      split at hcall
      · split at hcall
        · cases hroutine : st.forwardOpenRoutine cfg env false request originatorAddress
              session with
          | error fault => simp [hroutine] at hcall
          | ok result =>
              simp only [hroutine] at hcall
              cases hcall
              exact hopen hroutine
        · split at hcall
          · cases hroutine : st.forwardOpenRoutine cfg env true request originatorAddress
                session with
            | error fault => simp [hroutine] at hcall
            | ok result =>
                simp only [hroutine] at hcall
                cases hcall
                exact hopen hroutine
          · split at hcall
            · cases hroutine : st.forwardClose cfg request originatorAddress with
              | error fault => simp [hroutine] at hcall
              | ok result =>
                  simp only [hroutine] at hcall
                  cases hcall
                  exact forwardClose_records hsound hroutine
            · cases hcall
              exact fun r _ _ _ => rfl
      · cases hcall
        exact fun r _ _ _ => rfl

/-- The bytes are an accepted packet with a connected address item and a connected data
item that starts with the sequence number. -/
structure ConnectedMessage (data : Message) (connectionId : UInt32) (sequence : UInt16) :
    Prop where
  items : 2 ≤ data.word 0
  addressType : data.word 2 = ItemId.connectionAddress
  addressLength : data.word 4 = 4
  connectionIdentifier : (Message.getUdint (data.drop 6)).1 = connectionId
  dataType : data.word 10 = ItemId.connectedDataItem
  sequence : data.word 14 = sequence
  fits : if data.word 0 = 2 then data.length = dataItemEnd data
    else dataItemEnd data ≤ data.length

/-- The connection is found, its watchdog reset, and the number remembered. -/
def notes (sequence : UInt16) (c : CipConnectionObject) : CipConnectionObject :=
  { c.resetInactivityWatchdogTimerValue with sequenceCountConsuming := sequence }

/-- Such a message is handed on when its number is not the remembered one, and answered
from the store otherwise. -/
theorem connectedRequest_message {data : Message} {connectionId : UInt32} {sequence : UInt16}
    (hmessage : ConnectedMessage data connectionId sequence) {r : ConnRef}
    (hfound : st.getConnectedObject cfg connectionId = some r) :
    ∃ cpf, st.connectedRequest cfg data =
      (if (st.conn r).sequenceCountConsuming = sequence then none
        else some (r, data.drop 16, data.word 12 - 2),
        if (st.conn r).sequenceCountConsuming = sequence then some (st.conn r).lastReplySent
        else none,
        { st.modifyConn r (notes sequence) with cpf := cpf }) := by
  obtain ⟨hstatus, hfields⟩ :=
    createCommonPacketFormatStructure_many data.length st.cpf hmessage.items
  have hend : dataItemEnd data ≤ data.length := by
    have hfits := hmessage.fits
    split at hfits
    · exact Nat.le_of_eq hfits.symm
    · exact hfits
  obtain ⟨haddress, hdata⟩ := hfields hend
  have hok := hstatus.mpr hmessage.fits
  have haddressEnd : addressItemEnd (data.word 4) = 10 := by
    rw [hmessage.addressLength]
    rfl
  rw [haddressEnd] at hdata
  simp only [connectedRequest]
  generalize createCommonPacketFormatStructure data data.length st.cpf = parsed
    at hok haddress hdata
  obtain ⟨status, cpf⟩ := parsed
  dsimp only at hok haddress hdata ⊢
  have hread : ¬(status = .error ∨ cpf.addressItem.typeId ≠ ItemId.connectionAddress) := by
    rw [hok, not_or, not_not]
    exact ⟨by decide, haddress.typeId.trans hmessage.addressType⟩
  have htype : ¬cpf.dataItem.typeId ≠ ItemId.connectedDataItem := by
    rw [hdata, not_not]
    exact hmessage.dataType
  have hid : cpf.addressItem.connectionIdentifier = connectionId := by
    rw [haddress.connectionIdentifier (by rw [hmessage.addressLength]; decide)]
    exact hmessage.connectionIdentifier
  have hfound' : getConnectedObject cfg { st with cpf := cpf } connectionId = some r := hfound
  have hbuffer : Message.getUint cpf.dataItem.data = (sequence, data.drop 16) := by
    rw [hdata]
    dsimp only
    rw [Message.getUint_drop, hmessage.sequence]
  have hlength : cpf.dataItem.length = data.word 12 := by
    rw [hdata]
  have hconn : conn { st with cpf := cpf } r = st.conn r := rfl
  rw [if_neg hread, hid, hfound']
  dsimp only
  rw [if_neg htype, hbuffer, hlength, hconn]
  dsimp only
  refine ⟨{ cpf with addressItem :=
    { cpf.addressItem with sequenceNumber := sequence.toUInt32 } }, ?_⟩
  by_cases hrepeated : (st.conn r).sequenceCountConsuming = sequence
  · have hkept : notes sequence (st.conn r) =
        (st.conn r).resetInactivityWatchdogTimerValue := by
      rw [notes, ← hrepeated]
      rfl
    rw [if_pos hrepeated, if_pos hrepeated, if_pos hrepeated, modifyConn, hkept]
    rfl
  · have htwice : (st.modifyConn r fun c => c.resetInactivityWatchdogTimerValue).modifyConn r
        (fun c => { c with sequenceCountConsuming := sequence }) =
        st.modifyConn r (notes sequence) := modifyConn_twice st r _ _
    rw [if_neg hrepeated, if_neg hrepeated, if_neg hrepeated, ← htwice]
    rfl

/-- One message of a connection: its number, whether it was handed to the message router,
and the reply to it. -/
structure Exchange where
  sequence : UInt16
  handed : Bool
  reply : Option (List UInt8)
deriving DecidableEq

/-- The reply of a call that comes back. -/
def replyOf (result : Except Fault (Option (List UInt8) × StackState)) :
    Option (List UInt8) :=
  match result with
  | .error _ => none
  | .ok (reply, _) => reply

/-- The messages on a connection, each in a state in which the connection is found by its
id; anything else may happen between them that leaves its record alone. -/
inductive Converses (cfg : Config) (connectionId : UInt32) (r : ConnRef) (start : StackState) :
    List Exchange → Except Fault StackState → Prop
  | start : Converses cfg connectionId r start [] (.ok start)
  | elsewhere {log : List Exchange} {st st' : StackState}
      (before : Converses cfg connectionId r start log (.ok st)) (sound : st'.Sound cfg)
      (found : st'.getConnectedObject cfg connectionId = st.getConnectedObject cfg connectionId)
      (record : (st'.conn r).record = (st.conn r).record) :
      Converses cfg connectionId r start log (.ok st')
  | message {log : List Exchange} {st : StackState} {data : Message} {sequence : UInt16}
      (before : Converses cfg connectionId r start log (.ok st))
      (found : st.getConnectedObject cfg connectionId = some r)
      (carries : ConnectedMessage data connectionId sequence) (env : Environment)
      (originatorAddress : SockaddrIn) (session : UInt32) :
      Converses cfg connectionId r start
        (log ++ [{ sequence
                   handed := (st.connectedRequest cfg data).1.isSome
                   reply := replyOf (st.notifyConnectedCommonPacketFormat cfg env data
                     originatorAddress session) }])
        ((st.notifyConnectedCommonPacketFormat cfg env data originatorAddress session).map
          Prod.snd)

/-- The first message is handed on; a repetition is not, and gets the reply of the
message before it; a message with another number is handed on. -/
def ServedOnce (log : List Exchange) : Prop :=
  (∀ first ∈ log.head?, first.handed = true) ∧
    log.IsChain fun a b =>
      if b.sequence = a.sequence then b.handed = false ∧ b.reply = a.reply
      else b.handed = true

/-- The first number is not zero, and what is repeated was answered. -/
def Answerable (log : List Exchange) : Prop :=
  (∀ first ∈ log.head?, first.sequence ≠ 0) ∧
    log.IsChain fun a b => b.sequence = a.sequence → a.reply.isSome = true

/-- What a connection remembers after the log, as long as it is found. -/
structure Remembers (cfg : Config) (connectionId : UInt32) (r : ConnRef) (log : List Exchange)
    (st : StackState) : Prop where
  sound : st.Sound cfg
  sequence : st.getConnectedObject cfg connectionId = some r →
    (st.conn r).sequenceCountConsuming = (log.getLast?.map (·.sequence)).getD 0
  reply : st.getConnectedObject cfg connectionId = some r →
    ∀ last ∈ log.getLast?, last.reply.isSome = true → last.reply = some (st.conn r).lastReplySent

theorem answerConnected_touched (r : ConnRef) (response : Option MessageRouterResponse)
    (st : StackState) : Touched st (st.answerConnected r response).2 := by
  cases response with
  | none => exact Touched.refl st
  | some response =>
      exact (touched_cpf st _).trans (touched_modifyConn _ r
        (f := fun c => { c with lastReplySent := _ }) rfl)

theorem answerConnected_record (r : ConnRef) (response : Option MessageRouterResponse)
    (st : StackState) :
    ((st.answerConnected r response).2.conn r).sequenceCountConsuming =
        (st.conn r).sequenceCountConsuming ∧
      ∀ reply ∈ (st.answerConnected r response).1,
        ((st.answerConnected r response).2.conn r).lastReplySent = reply := by
  cases response with
  | none => exact ⟨rfl, nofun⟩
  | some response =>
      simp only [answerConnected, conn_modifyConn_self]
      refine ⟨rfl, fun reply hreply => ?_⟩
      cases hreply
      rfl

/-- Every message is handed on unless it repeats the remembered number, it is answered
from the store if it does, and then it is what is remembered. -/
theorem Remembers.message {connectionId : UInt32} {r : ConnRef} {log : List Exchange}
    (h : Remembers cfg connectionId r log st) (hio : r.isIo = false)
    (hfound : st.getConnectedObject cfg connectionId = some r) {data : Message}
    {sequence : UInt16} (hmessage : ConnectedMessage data connectionId sequence)
    (env : Environment) (originatorAddress : SockaddrIn) (session : UInt32)
    {exchange : Exchange} (hexchange : exchange =
      { sequence
        handed := (st.connectedRequest cfg data).1.isSome
        reply := replyOf (st.notifyConnectedCommonPacketFormat cfg env data originatorAddress
          session) }) :
    (exchange.handed = true ↔ (st.conn r).sequenceCountConsuming ≠ sequence) ∧
      ((st.conn r).sequenceCountConsuming = sequence →
        exchange.reply = some (st.conn r).lastReplySent) ∧
      ∀ reply st', st.notifyConnectedCommonPacketFormat cfg env data originatorAddress session =
        .ok (reply, st') → Remembers cfg connectionId r (log ++ [exchange]) st' := by
  obtain ⟨cpf, hrequest⟩ := connectedRequest_message hmessage hfound
  have hcall := notifyConnectedCommonPacketFormat_eq cfg env data originatorAddress session st
  have htouched : Touched st { st.modifyConn r (notes sequence) with cpf := cpf } :=
    (touched_modifyConn st r rfl).trans (touched_cpf _ cpf)
  have hrecord : (conn { st.modifyConn r (notes sequence) with cpf := cpf } r).record =
      (sequence, (st.conn r).lastReplySent) := by
    have hconn : conn { st.modifyConn r (notes sequence) with cpf := cpf } r =
      notes sequence (st.conn r) := conn_modifyConn_self _ r _
    rw [hconn]
    rfl
  have hsound₁ := (htouched.sound h.sound).1
  generalize { st.modifyConn r (notes sequence) with cpf := cpf } = st₁
    at hrequest htouched hrecord hsound₁
  have hfound₁ := (htouched.getConnectedObject cfg connectionId).trans hfound
  by_cases hrepeated : (st.conn r).sequenceCountConsuming = sequence
  · rw [if_pos hrepeated, if_pos hrepeated] at hrequest
    rw [hrequest] at hcall hexchange
    dsimp only at hcall hexchange
    rw [hcall] at hexchange ⊢
    refine ⟨?_, ?_, ?_⟩
    · rw [hexchange]
      exact iff_of_false Bool.false_ne_true fun hne => hne hrepeated
    · intro _
      rw [hexchange]
      rfl
    · intro reply st' hresult
      cases hresult
      refine ⟨hsound₁, fun _ => ?_, fun _ last hlast _ => ?_⟩
      · rw [List.getLast?_concat, hexchange]
        exact congrArg Prod.fst hrecord
      · rw [List.getLast?_concat, hexchange] at hlast
        cases hlast
        exact congrArg some (congrArg Prod.snd hrecord).symm
  · rw [if_neg hrepeated, if_neg hrepeated] at hrequest
    rw [hrequest] at hcall hexchange
    dsimp only at hcall hexchange
    refine ⟨?_, fun heq => absurd heq hrepeated, ?_⟩
    · rw [hexchange]
      exact iff_of_true rfl hrepeated
    · intro reply st' hresult
      rw [hresult] at hcall hexchange
      cases hrouted : st₁.notifyMessageRouter cfg env (data.drop 16) (data.word 12 - 2)
          originatorAddress session with
      | error fault =>
          rw [hrouted] at hcall
          cases hcall
      | ok answer =>
          obtain ⟨response, st₂⟩ := answer
          rw [hrouted] at hcall
          dsimp only at hcall
          have hanswer := Except.ok.inj hcall
          have hsound₂ := (notifyMessageRouter_spec hsound₁ hrouted).1
          have hrecords := notifyMessageRouter_records hsound₁ hrouted
          have htouched₂ := answerConnected_touched r response st₂
          rw [← hanswer] at htouched₂
          have hkept : st'.getConnectedObject cfg connectionId = some r →
              (st₂.conn r).record = (sequence, (st.conn r).lastReplySent) := by
            intro hfound'
            rw [htouched₂.getConnectedObject cfg connectionId] at hfound'
            have hmember₁ : r ∈ st₁.connectionList cfg := List.mem_of_find?_eq_some hfound₁
            have hmember₂ : r ∈ st₂.connectionList cfg := List.mem_of_find?_eq_some hfound'
            exact (hrecords r hmember₁ hmember₂ hio).trans hrecord
          refine ⟨(htouched₂.sound hsound₂).1, fun hfound' => ?_,
            fun hfound' last hlast hanswered => ?_⟩
          · rw [List.getLast?_concat, hexchange]
            have hsequence := (answerConnected_record r response st₂).1
            rw [← hanswer] at hsequence
            exact hsequence.trans (congrArg Prod.fst (hkept hfound'))
          · have hstored := (answerConnected_record r response st₂).2
            rw [← hanswer] at hstored
            rw [List.getLast?_concat, hexchange] at hlast
            cases hlast
            obtain ⟨sent, hsent⟩ := Option.isSome_iff_exists.mp hanswered
            have hreply : reply = some sent := hsent
            exact hsent.trans (congrArg some (hstored sent hreply).symm)

theorem NewlyOpened.remembers {r : ConnRef}
    (h : NewlyOpened cfg messageRouterClassCode r st) :
    r.isIo = false ∧ Remembers cfg (st.conn r).cipConsumedConnectionId r [] st := by
  obtain ⟨hsound, hhead, st₁, env, hclassId, hanswered⟩ := h.answered
  refine ⟨?_, ⟨hsound, fun _ => (h.found (by decide)).2.2, nofun⟩⟩
  generalize hview : st.view cfg = V at hanswered
  cases hanswered with
  | unchanged failed =>
      have hzero := failed rfl
      rw [hclassId] at hzero
      exact absurd hzero (by decide)
  | io assembly established =>
      rw [hclassId] at assembly
      exact absurd assembly (by decide)
  | @class3 s c unlisted explicit kind established granted router =>
      have hmembers : st.connectionList cfg = s :: st₁.connectionList cfg := by
        rw [← view_members, hview]
        rfl
      rw [hmembers] at hhead
      cases hhead
      exact explicit

/-- One more message is served as it should be when the connection remembers the message
before it, and none with number zero when there was none. -/
theorem Remembers.serves {connectionId : UInt32} {r : ConnRef} {log : List Exchange}
    (h : Remembers cfg connectionId r log st)
    (hfound : st.getConnectedObject cfg connectionId = some r) {exchange : Exchange}
    (hhanded : exchange.handed = true ↔
      (st.conn r).sequenceCountConsuming ≠ exchange.sequence)
    (hrepeated : (st.conn r).sequenceCountConsuming = exchange.sequence →
      exchange.reply = some (st.conn r).lastReplySent)
    (hbefore : ServedOnce log ↔ Answerable log) :
    ServedOnce (log ++ [exchange]) ↔ Answerable (log ++ [exchange]) := by
  have hsequence := h.sequence hfound
  have hreply := h.reply hfound
  cases hlast : log.getLast? with
  | none =>
      rw [List.getLast?_eq_none_iff.mp hlast]
      rw [hlast] at hsequence
      have hzero : (st.conn r).sequenceCountConsuming = 0 := hsequence
      rw [hzero] at hhanded
      simp only [ServedOnce, Answerable, List.nil_append, List.head?_cons, Option.mem_def,
        Option.some.injEq, forall_eq', List.isChain_singleton, and_true, hhanded, ne_comm]
  | some last =>
      rw [hlast] at hsequence hreply
      have hstored : (st.conn r).sequenceCountConsuming = last.sequence := hsequence
      rw [hstored] at hhanded hrepeated
      have hstep : (if exchange.sequence = last.sequence then
            exchange.handed = false ∧ exchange.reply = last.reply else exchange.handed = true) ↔
          (exchange.sequence = last.sequence → last.reply.isSome = true) := by
        by_cases hsame : exchange.sequence = last.sequence
        · have hsent := hrepeated hsame.symm
          have hkept : exchange.handed = false := by
            rw [← Bool.not_eq_true, hhanded, not_not]
            exact hsame.symm
          rw [if_pos hsame, hsent]
          refine ⟨fun hserved _ => ?_, fun hanswered => ⟨hkept, ?_⟩⟩
          · rw [← hserved.2]
            rfl
          · exact (hreply last rfl (hanswered hsame)).symm
        · rw [if_neg hsame]
          exact iff_of_true (hhanded.mpr (Ne.symm hsame)) fun heq => absurd heq hsame
      obtain ⟨before, rfl⟩ := List.getLast?_eq_some_iff.mp hlast
      have hlog : before ++ [last] ++ [exchange] = before ++ last :: exchange :: [] := by
        rw [List.append_assoc]
        rfl
      have hhead : (before ++ last :: exchange :: []).head? = (before ++ [last]).head? := by
        rw [← hlog, List.head?_append_of_ne_nil _ (by simp)]
      rw [hlog]
      simp only [ServedOnce, Answerable, hhead, List.isChain_append_cons_cons,
        List.isChain_singleton, and_true] at hbefore ⊢
      rw [hstep, ← and_assoc, ← and_assoc, hbefore]

/-- Every message of a conversation is served as it should be exactly when the log is
answerable. -/
theorem Converses.served {connectionId : UInt32} {r : ConnRef} {start : StackState}
    {log : List Exchange} {result : Except Fault StackState}
    (hrun : Converses cfg connectionId r start log result) (hio : r.isIo = false)
    (hstart : Remembers cfg connectionId r [] start) :
    (ServedOnce log ↔ Answerable log) ∧
      ∀ st, result = .ok st → Remembers cfg connectionId r log st := by
  induction hrun with
  | start =>
      refine ⟨iff_of_true ⟨nofun, .nil⟩ ⟨nofun, .nil⟩, fun st hst => ?_⟩
      cases hst
      exact hstart
  | elsewhere before sound found record ih =>
      obtain ⟨hserved, hremembers⟩ := ih
      refine ⟨hserved, fun st hst => ?_⟩
      cases hst
      obtain ⟨-, hsequence, hreply⟩ := hremembers _ rfl
      refine ⟨sound, fun hfound => ?_, fun hfound last hlast hanswered => ?_⟩
      · exact (congrArg Prod.fst record).trans (hsequence (found ▸ hfound))
      · rw [hreply (found ▸ hfound) last hlast hanswered]
        exact congrArg some (congrArg Prod.snd record).symm
  | @message log st data sequence before found carries env originatorAddress session ih =>
      obtain ⟨hserved, hremembers⟩ := ih
      have hst := hremembers _ rfl
      obtain ⟨hhanded, hrepeated, hafter⟩ :=
        hst.message hio found carries env originatorAddress session rfl
      refine ⟨hst.serves found hhanded hrepeated hserved, fun st' hst' => ?_⟩
      cases hcall : st.notifyConnectedCommonPacketFormat cfg env data originatorAddress
          session with
      | error fault =>
          rw [hcall] at hst'
          cases hst'
      | ok answer =>
          have hremembers' := hafter answer.1 answer.2 hcall
          rw [hcall] at hst' hremembers'
          cases hst'
          exact hremembers'

/-- Requests are executed once per number exactly when the first number is not zero,
which the connection remembers at first, and no message is repeated that the message
router did not answer. -/
theorem requests_served_once_iff {r : ConnRef} {start : StackState} {log : List Exchange}
    {result : Except Fault StackState} (hopened : NewlyOpened cfg messageRouterClassCode r start)
    (hrun : Converses cfg (start.conn r).cipConsumedConnectionId r start log result) :
    ServedOnce log ↔ Answerable log := by
  obtain ⟨hio, hremembers⟩ := hopened.remembers
  exact (hrun.served hio hremembers).1

open SampleApplication (connectedPacket) in
theorem connectedPacket_carries (connectionId : UInt32) (sequence : UInt16)
    {request : List UInt8} (h : request.length < 65534) :
    ConnectedMessage (connectedPacket connectionId (intBytes sequence ++ request)) connectionId
      sequence := by
  have hsize : (intBytes sequence ++ request).length = 2 + request.length := by
    simp [intBytes]
    omega
  have hlength : (connectedPacket connectionId (intBytes sequence ++ request)).length =
      16 + request.length := by
    simp [connectedPacket, intBytes, dintBytes]
    omega
  have hcount : (connectedPacket connectionId (intBytes sequence ++ request)).word 0 = 2 :=
    congrArg Prod.fst (Message.getUint_intBytes 2 _)
  have haddress : (connectedPacket connectionId (intBytes sequence ++ request)).word 2 =
      ItemId.connectionAddress := congrArg Prod.fst (Message.getUint_intBytes _ _)
  have haddressLength : (connectedPacket connectionId (intBytes sequence ++ request)).word 4 =
      4 := congrArg Prod.fst (Message.getUint_intBytes 4 _)
  have hdata : (connectedPacket connectionId (intBytes sequence ++ request)).word 10 =
      ItemId.connectedDataItem := congrArg Prod.fst (Message.getUint_intBytes _ _)
  have hsequence : (connectedPacket connectionId (intBytes sequence ++ request)).word 14 =
      sequence := congrArg Prod.fst (Message.getUint_intBytes sequence request)
  refine ⟨by rw [hcount]; decide, haddress, haddressLength, ?_, hdata, hsequence, ?_⟩
  · exact congrArg Prod.fst (Message.getUdint_dintBytes connectionId _)
  · have hend : (connectedPacket connectionId (intBytes sequence ++ request)).word 12 =
        UInt16.ofNat (intBytes sequence ++ request).length :=
      congrArg Prod.fst (Message.getUint_intBytes _ (intBytes sequence ++ request))
    have hten : addressItemEnd 4 = 10 := rfl
    rw [if_pos hcount, hlength, dataItemEnd, haddressLength, hten, hend, UInt16.toNat_ofNat',
      hsize, Nat.mod_eq_of_lt (by omega)]
    omega

section Sample

open SampleApplication

/-- Get Attribute Single of the Identity object with a sequence number. -/
def identityRequest (connectionId : UInt32) (sequence : UInt16) : Message :=
  connectedPacket connectionId (intBytes sequence ++ [0x0E, 3, 0x20, 1, 0x24, 1, 0x30, 1])

/-- The Identity object answers with the vendor. -/
def identityAnswers (env : Environment) : Environment :=
  { env with objectResponse := fun _ _ => some { replyService := 0x8E, message := [1, 0] } }

/-- The log of requests with the numbers on a connection, as far as it is found and they
come back. -/
def identityLog (env : Environment) (connectionId : UInt32) (r : ConnRef) :
    List UInt16 → StackState → List Exchange
  | [], _ => []
  | sequence :: sequences, st =>
      if st.getConnectedObject config connectionId = some r then
        let data := identityRequest connectionId sequence
        { sequence
          handed := (st.connectedRequest config data).1.isSome
          reply := replyOf (st.notifyConnectedCommonPacketFormat config env data originator 1) } ::
          match st.notifyConnectedCommonPacketFormat config env data originator 1 with
          | .error _ => []
          | .ok (_, st) => identityLog env connectionId r sequences st
      else []

theorem converses_identityLog (env : Environment) (connectionId : UInt32) (r : ConnRef)
    {start : StackState} (sequences : List UInt16) :
    ∀ log st, Converses config connectionId r start log (.ok st) →
      ∃ result, Converses config connectionId r start
        (log ++ identityLog env connectionId r sequences st) result := by
  induction sequences with
  | nil =>
      intro log st hrun
      rw [identityLog, List.append_nil]
      exact ⟨_, hrun⟩
  | cons sequence sequences ih =>
      intro log st hrun
      simp only [identityLog]
      split
      · rename_i hfound
        have hmessage : ConnectedMessage (identityRequest connectionId sequence) connectionId
          sequence := connectedPacket_carries connectionId sequence (by decide)
        have hnext := hrun.message hfound hmessage env originator 1
        rw [List.append_cons]
        cases hcall : st.notifyConnectedCommonPacketFormat config env
            (identityRequest connectionId sequence) originator 1 with
        | error fault =>
            rw [hcall] at hnext
            rw [List.append_nil]
            exact ⟨_, hnext⟩
        | ok answer =>
            obtain ⟨reply, st'⟩ := answer
            rw [hcall] at hnext
            exact ih _ st' hnext
      · rw [List.append_nil]
        exact ⟨_, hrun⟩

/-- A class 3 connection is opened and the requests with the numbers are logged. -/
def opensWith (sequences : List UInt16) (label : Environment × Action) (log : List Exchange)
    (st : StackState) : Bool :=
  match openEntry config label st with
  | none => false
  | some st₁ =>
      st₁.dummy.configurationPath.classId = messageRouterClassCode &&
      match st₁.openConnection config label.1 with
      | .error _ => false
      | .ok (status, start) =>
          status = {} && (start.connectionList config).head? = some (.explicit 0) &&
          identityLog (identityAnswers label.1)
            (start.conn (.explicit 0)).cipConsumedConnectionId (.explicit 0) sequences start =
            log

theorem converses_of_opensWith {sequences : List UInt16} {label : Environment × Action}
    {log : List Exchange} (hreachable : Reachable config st)
    (h : opensWith sequences label log st = true) :
    ∃ start result, NewlyOpened config messageRouterClassCode (.explicit 0) start ∧
      Converses config (start.conn (.explicit 0)).cipConsumedConnectionId (.explicit 0) start
        log result := by
  simp only [opensWith] at h
  split at h
  · cases h
  · rename_i st₁ hentry
    rw [Bool.and_eq_true, decide_eq_true_eq] at h
    obtain ⟨hrouter, h⟩ := h
    split at h
    · cases h
    · rename_i status start hopen
      simp only [Bool.and_eq_true, decide_eq_true_eq] at h
      obtain ⟨⟨rfl, hhead⟩, rfl⟩ := h
      obtain ⟨result, hrun⟩ := converses_identityLog (identityAnswers label.1)
        (start.conn (.explicit 0)).cipConsumedConnectionId (.explicit 0) sequences [] start
        .start
      exact ⟨start, result, ⟨st, label, st₁, hreachable, hentry, hrouter, hopen, hhead⟩, hrun⟩

/-- The packet of the answer to request number 1. -/
def identityReply : List UInt8 :=
  [0, 0, 0, 0, 0, 0, 2, 0, 0xA1, 0, 4, 0, 0, 0, 0, 0, 0xB1, 0, 8, 0, 1, 0, 0x8E, 0, 0, 0, 1, 0]

/-- Request number 1 is executed, and its repetition answered with the same packet. -/
theorem requests_served_once_sample :
    ∃ start result, NewlyOpened config messageRouterClassCode (.explicit 0) start ∧
      Converses config (start.conn (.explicit 0)).cipConsumedConnectionId (.explicit 0) start
        [⟨1, true, some identityReply⟩, ⟨1, false, some identityReply⟩] result ∧
      ServedOnce [⟨1, true, some identityReply⟩, ⟨1, false, some identityReply⟩] := by
  obtain ⟨st, hreachable, hopens⟩ := reachable_of_ends config []
    (opensWith [1, 1] (request (class3 1 1))
      [⟨1, true, some identityReply⟩, ⟨1, false, some identityReply⟩]) (by decide +kernel)
  obtain ⟨start, result, hopened, hrun⟩ := converses_of_opensWith hreachable hopens
  refine ⟨start, result, hopened, hrun, (requests_served_once_iff hopened hrun).mpr ?_⟩
  refine ⟨?_, .cons_cons ?_ (.singleton _)⟩
  · intro first hfirst
    cases hfirst
    decide
  · intro _
    rfl

/-- The first request of a connection has number 0: it is not executed, and answered with
the empty reply that was stored when the connection was opened. -/
theorem first_request_dropped :
    ∃ start result, NewlyOpened config messageRouterClassCode (.explicit 0) start ∧
      Converses config (start.conn (.explicit 0)).cipConsumedConnectionId (.explicit 0) start
        [⟨0, false, some []⟩] result ∧ ¬ServedOnce [⟨0, false, some []⟩] := by
  obtain ⟨st, hreachable, hopens⟩ := reachable_of_ends config []
    (opensWith [0] (request (class3 1 1)) [⟨0, false, some []⟩]) (by decide +kernel)
  obtain ⟨start, result, hopened, hrun⟩ := converses_of_opensWith hreachable hopens
  refine ⟨start, result, hopened, hrun, fun hserved => ?_⟩
  have hhanded := hserved.1 _ rfl
  cases hhanded

end Sample

end StackState

end Opener

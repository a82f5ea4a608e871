import Opener.Core.SampleApplication
import Opener.Metatheory.Consuming
import Opener.Metatheory.StoredReplies

/-!
What `NotifyConnectedCommonPacketFormat` does to the connections by itself, that is,
up to the call of the message router and after it. The lookup finds an Established
connection of any transport class under the connection id, so an explicit message for
the id of an I/O connection resets its watchdog and is executed.
-/

namespace Opener

open Message (word)
open CommonPacketFormatData

namespace StackState

/-- `NotifyConnectedCommonPacketFormat` up to the call of the message router: the request
that is handed on with its connection, else the reply, and the state. -/
def connectedRequest (cfg : Config) (data : Message) (st : StackState) :
    Option (ConnRef × Message × UInt16) × Option (List UInt8) × StackState :=
  let (status, cpf) := createCommonPacketFormatStructure data data.length st.cpf
  let st := { st with cpf := cpf }
  if status = .error ∨ cpf.addressItem.typeId ≠ ItemId.connectionAddress then (none, none, st)
  else
    match st.getConnectedObject cfg cpf.addressItem.connectionIdentifier with
    | none => (none, none, st)
    | some r =>
        if cpf.dataItem.typeId ≠ ItemId.connectedDataItem then
          (none, none, st.modifyConn r fun c => c.resetInactivityWatchdogTimerValue)
        else
          let (sequence, buffer) := Message.getUint cpf.dataItem.data
          if (st.conn r).sequenceCountConsuming = sequence then
            (none, some (st.conn r).lastReplySent, st.receiveConnectedRequest r sequence)
          else
            (some (r, buffer, cpf.dataItem.length - 2), none,
              (st.receiveConnectedRequest r sequence).modifyConn r fun c =>
                { c with sequenceCountConsuming := sequence })

/-- The function is done, or goes on with the message router and the answer. -/
theorem notifyConnectedCommonPacketFormat_eq (cfg : Config) (env : Environment)
    (data : Message) (originatorAddress : SockaddrIn) (session : UInt32) (st : StackState) :
    st.notifyConnectedCommonPacketFormat cfg env data originatorAddress session =
      match st.connectedRequest cfg data with
      | (none, reply, st₁) => .ok (reply, st₁)
      | (some (r, buffer, length), _, st₁) =>
          match st₁.notifyMessageRouter cfg env buffer length originatorAddress session with
          | .error fault => .error fault
          | .ok (response, st₂) => .ok (st₂.answerConnected r response) := by
  simp only [notifyConnectedCommonPacketFormat, connectedRequest]
  generalize createCommonPacketFormatStructure data data.length st.cpf = parsed
  obtain ⟨status, cpf⟩ := parsed
  dsimp only
  split
  · rfl
  · cases getConnectedObject cfg { st with cpf := cpf }
        cpf.addressItem.connectionIdentifier with
    | none => rfl
    | some r =>
        dsimp only
        split
        · rfl
        · have hconn : ((receiveConnectedRequest r (Message.getUint cpf.dataItem.data).1
              { st with cpf := cpf }).conn r) =
              (st.conn r).resetInactivityWatchdogTimerValue := conn_modifyConn_self _ r _
          have hcount : ((receiveConnectedRequest r (Message.getUint cpf.dataItem.data).1
              { st with cpf := cpf }).conn r).sequenceCountConsuming =
              (conn { st with cpf := cpf } r).sequenceCountConsuming := by
            rw [hconn]
            rfl
          have hreply : ((receiveConnectedRequest r (Message.getUint cpf.dataItem.data).1
              { st with cpf := cpf }).conn r).lastReplySent =
              (conn { st with cpf := cpf } r).lastReplySent := by
            rw [hconn]
            rfl
          rw [notifyConnectedRequest, hcount, hreply]
          split
          · rfl
          · dsimp only
            generalize notifyMessageRouter cfg env _ _ originatorAddress session _ = result
            cases result with
            | error fault => rfl
            | ok answer =>
                obtain ⟨response, st₂⟩ := answer
                cases response with
                | none => rfl
                | some response => rfl

/-- The connection id that a message brings. -/
def messageConnection (data : Message) : Option UInt32 :=
  if 1 ≤ data.word 0 ∧ 4 ≤ data.word 4 then some (Message.getUdint (data.drop 6)).1 else none

/-- A class 3 connection with the id of the message. -/
def explicitFor (data : Message) (st : StackState) (r : ConnRef) : Bool :=
  (st.conn r).transportClass = .class3 &&
    messageConnection data = some (st.conn r).cipConsumedConnectionId

/-- The message touches explicit connections only: another connection's object is
written neither before the call of the message router nor after it, and a request is
handed on for a class 3 connection with the id of the message only. -/
structure TouchesExplicit (cfg : Config) (data : Message) (st : StackState) : Prop where
  before : ∀ s, explicitFor data st s = false →
    (st.connectedRequest cfg data).2.2.conn s = st.conn s
  routed : ∀ r buffer length, (st.connectedRequest cfg data).1 = some (r, buffer, length) →
    explicitFor data st r = true
  after : ∀ r buffer length, (st.connectedRequest cfg data).1 = some (r, buffer, length) →
    ∀ st₂ response s, explicitFor data st s = false →
      (answerConnected r response st₂).2.conn s = st₂.conn s

/-- No connection is found for the message, or a class 3 connection with its id, or one
whose watchdog is at its start value by a message that is not a new request. -/
def findsExplicit (cfg : Config) (data : Message) (st : StackState) : Bool :=
  let (status, cpf) := createCommonPacketFormatStructure data data.length st.cpf
  status = .error || cpf.addressItem.typeId ≠ ItemId.connectionAddress ||
    match st.getConnectedObject cfg cpf.addressItem.connectionIdentifier with
    | none => true
    | some r =>
        explicitFor data st r ||
          ((st.conn r).inactivityWatchdogTimer = (st.conn r).regularInactivityWatchdogTimerValue &&
            (cpf.dataItem.typeId ≠ ItemId.connectedDataItem ||
              (st.conn r).sequenceCountConsuming = (Message.getUint cpf.dataItem.data).1))

theorem resetInactivityWatchdog_eq_iff (c : CipConnectionObject) :
    c.resetInactivityWatchdogTimerValue = c ↔
      c.inactivityWatchdogTimer = c.regularInactivityWatchdogTimerValue := by
  constructor
  · intro hsame
    exact (congrArg (·.inactivityWatchdogTimer) hsame).symm
  · intro htimer
    change { c with inactivityWatchdogTimer := c.regularInactivityWatchdogTimerValue } = c
    rw [← htimer]

/-- Writing to one object keeps the others, and this one if it is not changed. -/
theorem conn_modifyConn_iff (st : StackState) (r : ConnRef)
    (f : CipConnectionObject → CipConnectionObject) {p : ConnRef → Bool} (hr : p r = false) :
    (∀ s, p s = false → (st.modifyConn r f).conn s = st.conn s) ↔ f (st.conn r) = st.conn r := by
  constructor
  · intro hkept
    have hsame := hkept r hr
    rwa [conn_modifyConn_self] at hsame
  · intro hsame s _
    by_cases hs : s = r
    · rw [hs, conn_modifyConn_self, hsame]
    · rw [conn_modifyConn_of_ne _ hs]

theorem answerConnected_conn {r s : ConnRef} (hs : s ≠ r)
    (response : Option MessageRouterResponse) (st : StackState) :
    (st.answerConnected r response).2.conn s = st.conn s := by
  cases response with
  | none => rfl
  | some response => exact conn_modifyConn_of_ne _ hs _

/-- What a message does: nothing; or it resets the watchdog of the connection that is
found; or it hands on a request for it. -/
inductive Found (cfg : Config) (data : Message) (st : StackState) : Prop
  | nothing {cpf : CommonPacketFormatData}
      (request : st.connectedRequest cfg data = (none, none, { st with cpf := cpf }))
      (finds : findsExplicit cfg data st = true)
  | quiet {r : ConnRef} {reply : Option (List UInt8)} {st₁ : StackState}
      (request : st.connectedRequest cfg data = (none, reply, st₁))
      (object : ∀ s, st₁.conn s =
        (st.modifyConn r fun c => c.resetInactivityWatchdogTimerValue).conn s)
      (finds : findsExplicit cfg data st = (explicitFor data st r ||
        (st.conn r).inactivityWatchdogTimer = (st.conn r).regularInactivityWatchdogTimerValue))
  | request {r : ConnRef} {buffer : Message} {length : UInt16} {st₁ : StackState}
      (request : st.connectedRequest cfg data = (some (r, buffer, length), none, st₁))
      (others : ∀ s, s ≠ r → st₁.conn s = st.conn s)
      (finds : findsExplicit cfg data st = explicitFor data st r)

theorem connectedRequest_found (cfg : Config) (data : Message) (st : StackState) :
    Found cfg data st := by
  have hfinds := Eq.refl (findsExplicit cfg data st)
  have hrequest := Eq.refl (st.connectedRequest cfg data)
  conv_rhs at hfinds => simp only [findsExplicit]
  conv_rhs at hrequest => simp only [connectedRequest]
  generalize createCommonPacketFormatStructure data data.length st.cpf = parsed
    at hfinds hrequest
  obtain ⟨status, cpf⟩ := parsed
  dsimp only at hfinds hrequest
  have hfind : getConnectedObject cfg { st with cpf := cpf }
      cpf.addressItem.connectionIdentifier =
      st.getConnectedObject cfg cpf.addressItem.connectionIdentifier := rfl
  rw [hfind] at hrequest
  by_cases hread : status = .error ∨ cpf.addressItem.typeId ≠ ItemId.connectionAddress
  · refine .nothing (hrequest.trans (if_pos hread)) ?_
    have hrefused : (decide (status = .error) ||
        decide (cpf.addressItem.typeId ≠ ItemId.connectionAddress)) = true := by
      rw [Bool.or_eq_true, decide_eq_true_eq, decide_eq_true_eq]
      exact hread
    rw [hfinds, hrefused, Bool.true_or]
  · have haccepted : (decide (status = .error) ||
        decide (cpf.addressItem.typeId ≠ ItemId.connectionAddress)) = false := by
      rw [Bool.or_eq_false_iff, decide_eq_false_iff_not, decide_eq_false_iff_not]
      exact not_or.mp hread
    rw [if_neg hread] at hrequest
    rw [haccepted, Bool.false_or] at hfinds
    cases hfound : st.getConnectedObject cfg cpf.addressItem.connectionIdentifier with
    | none =>
        rw [hfound] at hfinds hrequest
        exact .nothing hrequest hfinds
    | some r =>
        rw [hfound] at hfinds hrequest
        dsimp only at hfinds hrequest
        by_cases htype : cpf.dataItem.typeId ≠ ItemId.connectedDataItem
        · rw [if_pos htype] at hrequest
          rw [decide_eq_true htype, Bool.true_or, Bool.and_true] at hfinds
          exact .quiet hrequest (fun _ => rfl) hfinds
        · rw [if_neg htype] at hrequest
          rw [decide_eq_false htype, Bool.false_or] at hfinds
          by_cases hrepeated : (st.conn r).sequenceCountConsuming =
              (Message.getUint cpf.dataItem.data).1
          · have hrepeated' : (conn { st with cpf := cpf } r).sequenceCountConsuming =
              (Message.getUint cpf.dataItem.data).1 := hrepeated
            rw [if_pos hrepeated'] at hrequest
            rw [decide_eq_true hrepeated, Bool.and_true] at hfinds
            exact .quiet hrequest (fun _ => rfl) hfinds
          · have hnew : ¬(conn { st with cpf := cpf } r).sequenceCountConsuming =
              (Message.getUint cpf.dataItem.data).1 := hrepeated
            rw [if_neg hnew] at hrequest
            rw [decide_eq_false hrepeated, Bool.and_false, Bool.or_false] at hfinds
            refine .request hrequest (fun s hs => ?_) hfinds
            rw [conn_modifyConn_of_ne _ hs]
            exact conn_modifyConn_of_ne _ hs _

/-- The message touches explicit connections only, exactly when it finds one, or none,
or nothing is left to write. -/
theorem touchesExplicit_iff (cfg : Config) (data : Message) (st : StackState) :
    TouchesExplicit cfg data st ↔ findsExplicit cfg data st = true := by
  cases connectedRequest_found cfg data st with
  | nothing request finds =>
      refine iff_of_true ⟨fun s _ => ?_, ?_, ?_⟩ finds
      · rw [request]
        rfl
      · rw [request]
        nofun
      · rw [request]
        nofun
  | @quiet r reply st₁ request object finds =>
      rw [finds, Bool.or_eq_true, decide_eq_true_eq]
      cases hexplicit : explicitFor data st r with
      | true =>
          refine iff_of_true ⟨fun s hs => ?_, ?_, ?_⟩ (.inl rfl)
          · have hne : s ≠ r := by
              intro hcontra
              rw [hcontra, hexplicit] at hs
              cases hs
            rw [request, object s, conn_modifyConn_of_ne _ hne]
          · rw [request]
            nofun
          · rw [request]
            nofun
      | false =>
          have hiff := conn_modifyConn_iff st r
            (fun c => c.resetInactivityWatchdogTimerValue) hexplicit
          rw [resetInactivityWatchdog_eq_iff] at hiff
          rw [or_iff_right Bool.false_ne_true, ← hiff]
          constructor
          · intro htouches s hs
            rw [← object s, ← htouches.before s hs, request]
          · intro hkept
            refine ⟨fun s hs => ?_, ?_, ?_⟩
            · rw [request, object s, hkept s hs]
            · rw [request]
              nofun
            · rw [request]
              nofun
  | @request r buffer length st₁ request others finds =>
      rw [finds]
      constructor
      · intro htouches
        exact htouches.routed r buffer length (congrArg Prod.fst request)
      · intro hexplicit
        have hne : ∀ s, explicitFor data st s = false → s ≠ r := by
          intro s hs hcontra
          rw [hcontra, hexplicit] at hs
          cases hs
        refine ⟨fun s hs => ?_, ?_, ?_⟩
        · rw [request, others s (hne s hs)]
        · intro q buffer' length' hcall
          rw [request] at hcall
          cases hcall
          exact hexplicit
        · intro q buffer' length' hcall st₂ response s hs
          rw [request] at hcall
          cases hcall
          exact answerConnected_conn (hne s hs) response st₂

section Sample

open SampleApplication

/-- Get Attribute Single of the Identity object with a sequence number, for the id of the
exclusive owner. -/
def strayRequest : Message :=
  connectedPacket 305397779 (intBytes 7 ++ [0x0E, 3, 0x20, 1, 0x24, 1, 0x30, 1])

/-- The message is handed on for the exclusive owner, whose watchdog it resets. -/
def servesOwner (data : Message) (st : StackState) : Bool :=
  (st.conn (.exclusiveOwner 0)).transportClass = .class1 &&
    ((st.connectedRequest config data).2.2.conn (.exclusiveOwner 0)).inactivityWatchdogTimer ≠
      (st.conn (.exclusiveOwner 0)).inactivityWatchdogTimer &&
    (st.connectedRequest config data).1.map (·.1) = some (.exclusiveOwner 0)

theorem owner_serves_request :
    ∃ st, Reachable config st ∧ (st.conn (.exclusiveOwner 0)).transportClass = .class1 ∧
      ((st.connectedRequest config strayRequest).2.2.conn
          (.exclusiveOwner 0)).inactivityWatchdogTimer ≠
        (st.conn (.exclusiveOwner 0)).inactivityWatchdogTimer ∧
      (st.connectedRequest config strayRequest).1.map (·.1) = some (.exclusiveOwner 0) ∧
      ¬TouchesExplicit config strayRequest st := by
  obtain ⟨st, hreachable, hserves⟩ := reachable_of_ends config
    [request (exclusiveOwner 1 1 multicast), tick 10] (servesOwner strayRequest)
    (by decide +kernel)
  simp only [servesOwner, Bool.and_eq_true, decide_eq_true_eq] at hserves
  obtain ⟨⟨hclass, hwatchdog⟩, hrouted⟩ := hserves
  refine ⟨st, hreachable, hclass, hwatchdog, hrouted, fun htouches => ?_⟩
  have hexplicit : explicitFor strayRequest st (.exclusiveOwner 0) = false := by
    rw [explicitFor, hclass]
    rfl
  exact hwatchdog (congrArg (·.inactivityWatchdogTimer) (htouches.before _ hexplicit))

end Sample

end StackState

end Opener

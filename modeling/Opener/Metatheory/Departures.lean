import Opener.Metatheory.Discarding
import Opener.Metatheory.ForwardCloses

/-!
How a step of the stack treats the I/O connections, one call at a time. Between two
calls of a close function or of the time-out function, and apart from an open, a
step leaves the listed I/O connections as they are but for traffic and production,
and reports neither an Opened nor a Closed event. `departures` lists these calls, each
with the state in which it is made.
-/

namespace Opener

open LinkedCells

/-- The output and the input assembly that an Opened or Closed event is reported for. -/
def Event.report : Event → Option ((UInt16 × UInt16) × IoConnectionEvent)
  | .ioConnection outputAssembly inputAssembly .opened =>
      some ((outputAssembly, inputAssembly), .opened)
  | .ioConnection outputAssembly inputAssembly .closed =>
      some ((outputAssembly, inputAssembly), .closed)
  | _ => none

/-- The assemblies that an I/O connection is reported with. -/
def CipConnectionObject.assemblies (c : CipConnectionObject) : UInt16 × UInt16 :=
  (c.consumedPath.instanceId, c.producedPath.instanceId)

namespace StackState

variable {cfg : Config} {env : Environment} {label : Environment × Action}
variable {st st₁ st' : StackState}

/-- The Opened and Closed events so far. -/
def reports (st : StackState) : List ((UInt16 × UInt16) × IoConnectionEvent) :=
  st.events.filterMap Event.report

/-- The listed I/O connections. -/
def ioConnections (cfg : Config) (st : StackState) : List ConnRef :=
  (st.connectionList cfg).filter ConnRef.isIo

theorem mem_ioConnections {r : ConnRef} :
    r ∈ st.ioConnections cfg ↔ r ∈ st.connectionList cfg ∧ r.isIo = true :=
  List.mem_filter

/-- No I/O connection was opened, closed or timed out. -/
structure Silent (cfg : Config) (st st' : StackState) : Prop where
  members : st'.ioConnections cfg = st.ioConnections cfg
  profile : ∀ r ∈ st.ioConnections cfg, (st'.conn r).profile = (st.conn r).profile
  socket : ∀ r ∈ st.ioConnections cfg,
    (st'.conn r).producingSocket = (st.conn r).producingSocket
  reports : st'.reports = st.reports

namespace Silent

theorem refl (st : StackState) : Silent cfg st st := ⟨rfl, fun _ _ => rfl, fun _ _ => rfl, rfl⟩

theorem trans (h : Silent cfg st st₁) (h' : Silent cfg st₁ st') : Silent cfg st st' := by
  refine ⟨h'.members.trans h.members, fun r hr => ?_, fun r hr => ?_,
    h'.reports.trans h.reports⟩
  · rw [h'.profile r (h.members ▸ hr), h.profile r hr]
  · rw [h'.socket r (h.members ▸ hr), h.socket r hr]

theorem of_objects (hmembers : st'.ioConnections cfg = st.ioConnections cfg)
    (hobjects : ∀ r ∈ st.ioConnections cfg, st'.conn r = st.conn r)
    (hreports : st'.reports = st.reports) : Silent cfg st st' :=
  ⟨hmembers, fun r hr => by rw [hobjects r hr], fun r hr => by rw [hobjects r hr], hreports⟩

theorem of_store (hstore : st'.store = st.store) (hevents : st'.reports = st.reports) :
    Silent cfg st st' := by
  refine .of_objects ?_ (fun r _ => ?_) hevents
  · rw [ioConnections, ioConnections, connectionList, connectionList, hstore]
  · rw [conn, conn, hstore]

theorem of_touched (h : Touched st st') : Silent cfg st st' := by
  refine ⟨?_, fun r _ => ?_, fun r _ => ?_, ?_⟩
  · rw [ioConnections, ioConnections, connectionList, connectionList, h.list]
  · rw [CipConnectionObject.profile, h.object r, CipConnectionObject.profile]
  · exact CipConnectionObject.core_field (h.object r) (·.producingSocket) fun _ => rfl
  · rw [StackState.reports, StackState.reports, h.events]

end Silent

theorem reports_closeSocket (st : StackState) (socket : Int) :
    (st.closeSocket socket).reports = st.reports := by
  rw [closeSocket]
  split
  · rfl
  · rfl

theorem reports_remove (cfg : Config) (r : ConnRef) (st : StackState) :
    ((st.removeFromActiveConnections cfg r).setConn r .initializeEmpty).reports =
      st.reports := by
  obtain ⟨list, heq⟩ := removeFromActiveConnections_eq cfg st r
  rw [heq]
  rfl

theorem reports_closeConnection (cfg : Config) (r : ConnRef) (st : StackState) :
    (st.closeConnection cfg r).reports = st.reports := by
  simp only [closeConnection]
  rw [reports_remove]
  split
  · exact (reports_closeSocket _ _).trans (reports_closeSocket _ _)
  · rfl

theorem closeConnection_silent (hsound : st.Sound cfg) {r : ConnRef} (hio : r.isIo = false) :
    (st.closeConnection cfg r).Sound cfg ∧ Silent cfg st (st.closeConnection cfg r) := by
  obtain ⟨ns, hlisted⟩ := hsound.wellFormed
  obtain ⟨ns', hshrunk⟩ := shrunk_closeConnection hlisted r
  have hmembers : (st.closeConnection cfg r).connectionList cfg =
      (st.connectionList cfg).filter fun s => !decide (s = r) :=
    congrArg View.members hshrunk.view_eq
  refine ⟨hshrunk.sound (hsound.regular.without _) hsound, .of_objects ?_ (fun s hs => ?_)
    (reports_closeConnection cfg r st)⟩
  · rw [ioConnections, hmembers, List.filter_filter, ioConnections]
    refine List.filter_congr fun s _ => ?_
    cases hs : s.isIo with
    | false => rfl
    | true =>
        have hne : s ≠ r := fun heq => by simp [heq, hio] at hs
        simp [hne]
  · have hne : s ≠ r := by
      rintro rfl
      rw [(mem_ioConnections.mp hs).2] at hio
      cases hio
    have hobject := congrArg (fun V => V.object s) hshrunk.view_eq
    simp only [view_object, View.without_object, hne, decide_false, Bool.false_eq_true,
      if_false] at hobject
    exact hobject

theorem endures_silent (cfg : Config) (st : StackState) :
    Endures cfg fun s => s.Sound cfg ∧ Silent cfg st s := by
  refine ⟨fun s hs => hs.1, fun s sessions timers sockets hs => ?_, fun s r hs hr hio => ?_⟩
  · exact ⟨⟨hs.1.wellFormed, hs.1.regular, hs.1.close, hs.1.instances⟩,
      hs.2.trans (.of_store rfl rfl)⟩
  · obtain ⟨hsound, hsilent⟩ := closeConnection_silent hs.1 hio
    exact ⟨hsound, hs.2.trans hsilent⟩

/-- A message for the message router, with the state in which it is passed on. -/
structure RoutedMessage where
  data : Message
  dataLength : UInt16
  originatorAddress : SockaddrIn
  encapsulationSession : UInt32
  state : StackState

/-- The message that a step passes to the message router, if it does. -/
def routedMessage (cfg : Config) (label : Environment × Action) (st : StackState) :
    Option RoutedMessage :=
  match label with
  | (_, .sendRRData session originatorAddress data) =>
      let (status, cpf) :=
        CommonPacketFormatData.createCommonPacketFormatStructure data data.length st.cpf
      if st.checkRegisteredSessions session ∧ status ≠ .error ∧
          cpf.addressItem.typeId = ItemId.nullAddress ∧
          cpf.dataItem.typeId = ItemId.unconnectedDataItem then
        some { data := cpf.dataItem.data, dataLength := cpf.dataItem.length, originatorAddress,
               encapsulationSession := session, state := { st with cpf := cpf } }
      else none
  | (_, .sendUnitData session originatorAddress data) =>
      let (status, cpf) :=
        CommonPacketFormatData.createCommonPacketFormatStructure data data.length st.cpf
      if st.checkRegisteredSessions session ∧ ¬(status = .error ∨
          cpf.addressItem.typeId ≠ ItemId.connectionAddress) ∧
          cpf.dataItem.typeId = ItemId.connectedDataItem then
        match st.getConnectedObject cfg cpf.addressItem.connectionIdentifier with
        | none => none
        | some r =>
            let (sequence, buffer) := Message.getUint cpf.dataItem.data
            let st := receiveConnectedRequest r sequence { st with cpf := cpf }
            if (st.conn r).sequenceCountConsuming = sequence then none
            else
              some { data := buffer, dataLength := cpf.dataItem.length - 2, originatorAddress,
                     encapsulationSession := session,
                     state := st.modifyConn r fun c =>
                      { c with sequenceCountConsuming := sequence } }
      else none
  | _ => none

theorem openEntry_eq (cfg : Config) (label : Environment × Action) (st : StackState) :
    openEntry cfg label st = (routedMessage cfg label st).bind fun m =>
      messageEntry cfg label.1 m.data m.dataLength m.originatorAddress
        m.encapsulationSession m.state := by
  obtain ⟨env, action⟩ := label
  cases action with
  | sendRRData session originatorAddress data =>
      simp only [openEntry, routedMessage]
      split
      · rfl
      · rfl
  | sendUnitData session originatorAddress data =>
      simp only [openEntry, routedMessage]
      generalize CommonPacketFormatData.createCommonPacketFormatStructure data data.length
        st.cpf = parsed
      split
      · cases st.getConnectedObject cfg parsed.2.addressItem.connectionIdentifier with
        | none => rfl
        | some r =>
            simp only
            split
            · rfl
            · rfl
      · rfl
  | _ => rfl

/-- A step that ends after the message router, or never calls it. -/
def Routes (cfg : Config) (label : Environment × Action) (st st' : StackState) : Prop :=
  (routedMessage cfg label st = none ∧ Touched st st') ∨
    ∃ m response st₁, routedMessage cfg label st = some m ∧ Touched st m.state ∧
      m.state.notifyMessageRouter cfg label.1 m.data m.dataLength m.originatorAddress
        m.encapsulationSession = .ok (response, st₁) ∧ Touched st₁ st'

/-- As `Routes`, with what is written around the call. -/
def RoutesServiced (cfg : Config) (label : Environment × Action) (st st' : StackState) : Prop :=
  (routedMessage cfg label st = none ∧ Serviced st st') ∨
    ∃ m response st₁, routedMessage cfg label st = some m ∧ Serviced st m.state ∧
      m.state.notifyMessageRouter cfg label.1 m.data m.dataLength m.originatorAddress
        m.encapsulationSession = .ok (response, st₁) ∧ Serviced st₁ st'

theorem RoutesServiced.routes (h : RoutesServiced cfg label st st') : Routes cfg label st st' := by
  obtain ⟨hrouted, hserviced⟩ | ⟨m, response, st₁, hrouted, hbefore, hnotify, hafter⟩ := h
  · exact .inl ⟨hrouted, hserviced.touched⟩
  · exact .inr ⟨m, response, st₁, hrouted, hbefore.touched, hnotify, hafter.touched⟩

theorem serviced_cpf (st : StackState) (cpf : CommonPacketFormatData) :
    Serviced st { st with cpf := cpf } :=
  ⟨rfl, fun _ => .refl, rfl, rfl, rfl, rfl⟩

theorem sendRRData_serviced {session : UInt32} {originatorAddress : SockaddrIn} {data : Message}
    (hcall : st.step cfg (env, .sendRRData session originatorAddress data) = .ok st') :
    RoutesServiced cfg (env, .sendRRData session originatorAddress data) st st' := by
  simp only [step] at hcall
  simp only [RoutesServiced, routedMessage]
  split at hcall
  · rename_i hregistered
    simp only [notifyCommonPacketFormat] at hcall
    generalize CommonPacketFormatData.createCommonPacketFormatStructure data data.length
      st.cpf = parsed at hcall ⊢
    obtain ⟨status, cpf⟩ := parsed
    simp only at hcall ⊢
    by_cases herror : status = .error
    · simp only [herror, if_true] at hcall
      cases hcall
      refine .inl ⟨if_neg fun hall => hall.2.1 herror, serviced_cpf st cpf⟩
    · simp only [herror, if_false] at hcall
      by_cases haddressed : cpf.addressItem.typeId = ItemId.nullAddress ∧
          cpf.dataItem.typeId = ItemId.unconnectedDataItem
      · rw [if_pos haddressed] at hcall
        cases hnotify : notifyMessageRouter cfg env cpf.dataItem.data cpf.dataItem.length
            originatorAddress session { st with cpf := cpf } with
        | error fault => simp [hnotify] at hcall
        | ok result =>
            simp only [hnotify] at hcall
            cases hcall
            exact .inr ⟨_, result.1, result.2, if_pos ⟨hregistered, herror, haddressed⟩,
              serviced_cpf st cpf, hnotify, Serviced.refl _⟩
      · rw [if_neg haddressed] at hcall
        cases hcall
        refine .inl ⟨if_neg fun hall => haddressed hall.2.2, serviced_cpf st cpf⟩
  · rename_i hregistered
    cases hcall
    exact .inl ⟨if_neg fun hall => hregistered hall.1, Serviced.refl st⟩

theorem notifyConnectedRequest_serviced {r : ConnRef} {sequence : UInt16} {buffer : Message}
    {length : UInt16} {originatorAddress : SockaddrIn} {encapsulationSession : UInt32}
    {reply : Option (List UInt8)}
    (hcall : st.notifyConnectedRequest cfg env r sequence buffer length originatorAddress
      encapsulationSession = .ok (reply, st')) :
    ((st.conn r).sequenceCountConsuming = sequence ∧ st' = st) ∨
      ((st.conn r).sequenceCountConsuming ≠ sequence ∧ ∃ response st₁,
        (st.modifyConn r fun c => { c with sequenceCountConsuming := sequence
          }).notifyMessageRouter cfg env buffer length originatorAddress
          encapsulationSession = .ok (response, st₁) ∧ Serviced st₁ st') := by
  simp only [notifyConnectedRequest] at hcall
  split at hcall
  · rename_i hsequence
    cases hcall
    exact .inl ⟨hsequence, rfl⟩
  · rename_i hsequence
    refine .inr ⟨hsequence, ?_⟩
    split at hcall
    · cases hcall
    · rename_i st₁ hnotify
      cases hcall
      exact ⟨none, st', hnotify, Serviced.refl st'⟩
    · rename_i response st₁ hnotify
      cases hcall
      have hreply := serviced_cpf st₁ { st₁.cpf with addressItem :=
        { st₁.cpf.addressItem with
          connectionIdentifier := (st₁.conn r).cipProducedConnectionId } }
      refine ⟨some response, st₁, hnotify, hreply.trans (serviced_modifyConn _ r ?_)⟩
      exact .replied _

theorem sendUnitData_serviced {session : UInt32} {originatorAddress : SockaddrIn}
    {data : Message}
    (hcall : st.step cfg (env, .sendUnitData session originatorAddress data) = .ok st') :
    RoutesServiced cfg (env, .sendUnitData session originatorAddress data) st st' := by
  simp only [step] at hcall
  simp only [RoutesServiced, routedMessage]
  split at hcall
  · rename_i hregistered
    simp only [notifyConnectedCommonPacketFormat] at hcall
    generalize CommonPacketFormatData.createCommonPacketFormatStructure data data.length
      st.cpf = parsed at hcall ⊢
    obtain ⟨status, cpf⟩ := parsed
    simp only at hcall ⊢
    by_cases herror : status = .error ∨ cpf.addressItem.typeId ≠ ItemId.connectionAddress
    · rw [if_pos herror] at hcall
      cases hcall
      exact .inl ⟨if_neg fun hall => hall.2.1 herror, serviced_cpf st cpf⟩
    · rw [if_neg herror] at hcall
      have hfind : getConnectedObject cfg { st with cpf := cpf }
          cpf.addressItem.connectionIdentifier =
            st.getConnectedObject cfg cpf.addressItem.connectionIdentifier := rfl
      rw [hfind] at hcall
      cases hconnected : st.getConnectedObject cfg cpf.addressItem.connectionIdentifier with
      | none =>
          simp only [hconnected] at hcall
          cases hcall
          exact .inl ⟨ite_self none, serviced_cpf st cpf⟩
      | some r =>
          simp only [hconnected] at hcall
          by_cases htype : cpf.dataItem.typeId = ItemId.connectedDataItem
          · rw [if_neg (not_not.mpr htype)] at hcall
            rw [if_pos ⟨hregistered, herror, htype⟩]
            simp only
            have hserviced : Serviced st (receiveConnectedRequest r
                (Message.getUint cpf.dataItem.data).1 { st with cpf := cpf }) :=
              ((serviced_cpf st cpf).trans (serviced_modifyConn _ r
                (f := fun c => c.resetInactivityWatchdogTimerValue) .renewed)).trans
                (serviced_cpf _ _)
            generalize receiveConnectedRequest r (Message.getUint cpf.dataItem.data).1
              { st with cpf := cpf } = st₂ at hcall hserviced ⊢
            split at hcall
            · cases hcall
            · rename_i reply st₃ hrequest
              cases hcall
              obtain ⟨hsequence, rfl⟩ | ⟨hsequence, response, st₁, hnotify, hafter⟩ :=
                notifyConnectedRequest_serviced hrequest
              · exact .inl ⟨if_pos hsequence, hserviced⟩
              · refine .inr ⟨_, response, st₁, if_neg hsequence, hserviced.trans ?_, hnotify,
                  hafter⟩
                exact serviced_modifyConn st₂ r (f := fun c =>
                  { c with
                    sequenceCountConsuming := (Message.getUint cpf.dataItem.data).1 })
                  (.counted _)
          · rw [if_pos htype] at hcall
            cases hcall
            exact .inl ⟨if_neg fun hall => htype hall.2.2,
              (serviced_cpf st cpf).trans (serviced_modifyConn _ r
                (f := fun c => c.resetInactivityWatchdogTimerValue) .renewed)⟩
  · rename_i hregistered
    cases hcall
    exact .inl ⟨if_neg fun hall => hregistered hall.1, Serviced.refl st⟩

theorem sendRRData_routes {session : UInt32} {originatorAddress : SockaddrIn} {data : Message}
    (hcall : st.step cfg (env, .sendRRData session originatorAddress data) = .ok st') :
    Routes cfg (env, .sendRRData session originatorAddress data) st st' :=
  (sendRRData_serviced hcall).routes

theorem sendUnitData_routes {session : UInt32} {originatorAddress : SockaddrIn}
    {data : Message}
    (hcall : st.step cfg (env, .sendUnitData session originatorAddress data) = .ok st') :
    Routes cfg (env, .sendUnitData session originatorAddress data) st st' :=
  (sendUnitData_serviced hcall).routes

/-- A connection is closed or times out, in a state. -/
inductive Departure where
  | closed (r : ConnRef) (st : StackState)
  | expired (r : ConnRef) (st : StackState)

/-- Forward Close starts by unsetting the socket address items. -/
def clearAddressInfoItems (st : StackState) : StackState :=
  let cleared := CommonPacketFormatData.clearAddressInfoItem 0 st.cpf
  { st with cpf := CommonPacketFormatData.clearAddressInfoItem 1 cleared }

/-- The connection that a Forward Close closes. -/
def closeTarget (cfg : Config) (m : RoutedMessage) : Option ConnRef :=
  match createMessageRouterRequestStructure m.data m.dataLength with
  | .error _ => none
  | .ok (epath, request) =>
      if (epath.classId.toUInt32 = connectionManagerClassCode ∧ epath.instanceNumber = 1) ∧
          request.service = 0x4E then
        (m.state.firstWithTriad cfg request.closingTriad).filter fun r =>
          m.originatorAddress.sinAddr = (m.state.conn r).originatorAddress.sinAddr
      else none

/-- The slot whose connection an open function closes before it uses it. -/
def replaced (cfg : Config) (st : StackState) : Option ConnRef :=
  if st.dummy.configurationPath.classId = assemblyClassCode then
    match (st.ioConnectionLookup cfg).1 with
    | .replace r => some r
    | _ => none
  else none

/-- The received result closes the connection. -/
def closesOnReceive (env : Environment) (r : ConnRef) (s : StackState × List Received) : Bool :=
  (s.1.conn r).consumingSocket ≠ eipInvalidSocket &&
    s.1.checkSocketSet env (s.1.conn r).consumingSocket &&
    match s.2 with
    | .closedByClient :: _ | .failed :: _ => true
    | _ => false

/-- The turns of `closeFirstConnections`. -/
def firstTurns (cfg : Config) : Nat → StackState → List (ConnRef × StackState)
  | fuel, st =>
    match st.store.connectionList.first with
    | none => []
    | some n =>
      match fuel with
      | 0 => []
      | fuel + 1 =>
        match (st.nodes n).data with
        | none => []
        | some r => (r, st) ::
          match st.connectionCloseFunction cfg r with
          | .error _ => []
          | .ok st => firstTurns cfg fuel st

/-- The turns of the loop of `ManageConnections`. -/
def manageTurns (cfg : Config) (env : Environment) (elapsedTime : UInt64) (st : StackState) :
    List (ConnRef × StackState) :=
  liveTurns nodes (fun r s => s.manageConnection cfg env elapsedTime r) cfg.nodesAmount
    st.store.connectionList.first
    { st with assemblyData := env.handleApplication st.assemblyData }

/-- The turns of the loop of `CheckAndHandleConsumingUdpSocket`. -/
def consumeTurns (cfg : Config) (env : Environment) (st : StackState) :
    List (ConnRef × StackState × List Received) :=
  savedTurns (fun s => s.1.nodes) (handleConsumingUdpSocket cfg env) cfg.nodesAmount
    st.store.connectionList.first (st, env.received)

/-- The closes and time-outs that a step carries out, apart from those of explicit
connections with their session and from those that one of them causes. -/
def departures (cfg : Config) (label : Environment × Action) (st : StackState) :
    List Departure :=
  match label with
  | (env, .manageConnections elapsedTime) =>
      ((st.manageTurns cfg env elapsedTime).filter fun turn =>
        (turn.2.conn turn.1).expires elapsedTime).map fun turn => .expired turn.1 turn.2
  | (env, .checkAndHandleConsumingUdpSocket) =>
      ((st.consumeTurns cfg env).filter fun turn =>
        closesOnReceive env turn.1 turn.2).map fun turn => .closed turn.1 turn.2.1
  | (_, .closeAllConnections) =>
      (st.firstTurns cfg cfg.nodesAmount).map fun turn => .closed turn.1 turn.2
  | _ =>
      (match routedMessage cfg label st with
        | none => []
        | some m => (closeTarget cfg m).toList.map (.closed · m.state.clearAddressInfoItems)) ++
      match openEntry cfg label st with
      | none => []
      | some st => (st.replaced cfg).toList.map (.closed · st)

/-- One call in a step. -/
inductive Episode (cfg : Config) (label : Environment × Action) (st : StackState) :
    StackState → StackState → Prop
  | silent {s s' : StackState} (sound : s'.Sound cfg) (silent : Silent cfg s s') :
      Episode cfg label st s s'
  | closes {s s' : StackState} {r : ConnRef} (sound : s'.Sound cfg)
      (departs : .closed r s ∈ departures cfg label st) (io : r.isIo = true)
      (call : s.connectionCloseFunction cfg r = .ok s') : Episode cfg label st s s'
  | expires {s s' : StackState} {r : ConnRef} (sound : s'.Sound cfg)
      (departs : .expired r s ∈ departures cfg label st) (io : r.isIo = true)
      (member : r ∈ s.connectionList cfg) (established : (s.conn r).state = .established)
      (call : s.handleIoConnectionTimeOut cfg label.1 r = .ok s') : Episode cfg label st s s'

abbrev Course (cfg : Config) (label : Environment × Action) (st : StackState) :
    StackState → StackState → Prop :=
  Relation.ReflTransGen (Episode cfg label st)

/-- An I/O connection is opened. -/
structure Opening (cfg : Config) (label : Environment × Action) (st s s' : StackState)
    (st₁ : StackState) (r : ConnRef) : Prop where
  entry : openEntry cfg label st = some st₁
  assembly : st₁.dummy.configurationPath.classId = assemblyClassCode
  chosen : Chosen cfg st₁.dummy r
  instanceType : (st₁.ioConnectionLookup cfg).2 = r.instanceType
  vacated : Vacated (st₁.view cfg) r (st₁.ioConnectionLookup cfg).1 (s.view cfg)
  opens : Opens cfg st₁.dummy label.1.udpSocket (s.view cfg) r (s'.view cfg)
  reports : s'.reports = s.reports ++ [((s'.conn r).assemblies, .opened)]

/-- A step is such calls, and at most one open after them. -/
inductive Proceeds (cfg : Config) (label : Environment × Action) (st : StackState) :
    StackState → Prop
  | departing {st' : StackState} (course : Course cfg label st st st') :
      Proceeds cfg label st st'
  | opening {s s' st₁ st' : StackState} {r : ConnRef} (course : Course cfg label st st s)
      (sound : s.Sound cfg) (opening : Opening cfg label st s s' st₁ r)
      (after : Silent cfg s' st') : Proceeds cfg label st st'

theorem Course.silent (hsound : st'.Sound cfg) (h : Silent cfg st₁ st') :
    Course cfg label st st₁ st' := .single (.silent hsound h)

theorem Proceeds.after (h : Proceeds cfg label st st₁) (hsound : st'.Sound cfg)
    (hafter : Silent cfg st₁ st') : Proceeds cfg label st st' := by
  cases h with
  | departing course => exact .departing (course.tail (.silent hsound hafter))
  | opening course sound opening after => exact .opening course sound opening (after.trans hafter)

end StackState

end Opener

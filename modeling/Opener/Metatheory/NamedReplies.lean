import Opener.Metatheory.CommonPacketFormat
import Opener.Metatheory.Registrations
import Opener.Metatheory.ReplyServices

/-!
Replies name the requested service, in the packets that a device sends. A repeated connected
request is answered with what was sent before, whatever it asks for.
-/

namespace Opener

open Message (getUint_intBytes)

/-- Where an originator finds the service of a reply: behind the header of the data item and,
on a connection, behind the sequence number. -/
def dataItemService (dataItem : Message) : Option UInt8 :=
  let typeId := dataItem.getUint.1
  if typeId = ItemId.unconnectedDataItem then dataItem[4]?
  else if typeId = ItemId.connectedDataItem then dataItem[6]?
  else none

/-- The same in a packet, behind the address item. -/
def replyServiceByte (sent : List UInt8) : Option UInt8 :=
  dataItemService (sent.drop (12 + (Message.getUint (sent.drop 10)).1.toNat))

theorem replyServiceByte_items (start : List UInt8) {length : UInt16}
    {address : List UInt8} (hstart : start.length = 10)
    (haddress : address.length = length.toNat) (rest : List UInt8) :
    replyServiceByte (start ++ (intBytes length ++ (address ++ rest))) = dataItemService rest := by
  have hlength : Message.getUint ((start ++ (intBytes length ++ (address ++ rest))).drop 10) =
      (length, address ++ rest) := by
    rw [List.drop_left' hstart, getUint_intBytes]
  have hitem : (start ++ (intBytes length ++ (address ++ rest))).drop (12 + length.toNat) =
      rest := by
    rw [← List.append_assoc, ← List.append_assoc]
    refine List.drop_left' ?_
    simp only [List.length_append, hstart, haddress, intBytes, List.length_cons, List.length_nil]
  rw [replyServiceByte, hlength, hitem]

namespace StackState.Addressed

variable {cpf : CommonPacketFormatData}

theorem dataItemService (h : Addressed cpf) (response : MessageRouterResponse)
    (rest : List UInt8) :
    dataItemService (CommonPacketFormatData.dataItemBytes response cpf ++ rest) =
      some response.replyService := by
  have htypes : ItemId.unconnectedDataItem ≠ ItemId.connectedDataItem := by decide
  rcases h.data with hdata | hdata
  · simp only [Opener.dataItemService, CommonPacketFormatData.dataItemBytes, hdata, htypes,
      if_true, if_false, List.append_assoc, getUint_intBytes]
    rfl
  · simp only [Opener.dataItemService, CommonPacketFormatData.dataItemBytes, hdata, htypes.symm,
      if_true, if_false, List.append_assoc, getUint_intBytes]
    rfl

theorem replyServiceByte (h : Addressed cpf) (response : MessageRouterResponse) :
    replyServiceByte (cpf.assembleLinearMessage response) = some response.replyService := by
  have hitems : ∀ (type length : UInt16) (address : List UInt8),
      cpf.addressItemBytes = some (intBytes type ++ intBytes length ++ address) →
        address.length = length.toNat →
          Opener.replyServiceByte (cpf.assembleLinearMessage response) =
            some response.replyService := by
    intro type length address haddress hlength
    simp only [CommonPacketFormatData.assembleLinearMessage, haddress, List.append_assoc]
    have hfound := replyServiceByte_items
      (dintBytes 0 ++ (intBytes 0 ++ (intBytes cpf.itemCount ++ intBytes type))) rfl hlength
      (CommonPacketFormatData.dataItemBytes response cpf ++
        (cpf.socketAddressInfoOfType ItemId.socketAddressInfoOriginatorToTarget ++
          cpf.socketAddressInfoOfType ItemId.socketAddressInfoTargetToOriginator))
    rw [h.dataItemService] at hfound
    simp only [List.append_assoc] at hfound
    exact hfound
  rcases h.address with haddress | haddress
  · refine hitems ItemId.nullAddress 0 [] ?_ rfl
    rw [CommonPacketFormatData.addressItemBytes, if_pos haddress, List.append_nil]
  · refine hitems ItemId.connectionAddress 4
      (dintBytes cpf.addressItem.connectionIdentifier) ?_ rfl
    rw [CommonPacketFormatData.addressItemBytes, haddress]
    rfl

end StackState.Addressed

open StackState

/-- The reply names the service. -/
def Names (service : UInt8) (sent : List UInt8) : Prop :=
  replyServiceByte sent = some (0x80 ||| service)

/-- The structure after a packet. -/
def received (data : Message) (cpf : CommonPacketFormatData) : CommonPacketFormatData :=
  (CommonPacketFormatData.createCommonPacketFormatStructure data data.length cpf).2

namespace Device

variable {σ : Type} {cfg : Config} {env : Environment} {front : List UInt8} {data : Message}
  {originatorAddress : SockaddrIn} {encapsulationSession : UInt32} {d d' start : Device σ}
  {reply : Option (List UInt8)}

@[simp]
theorem stack_setStack (d : Device σ) (st : StackState) : (d.setStack st).stack = st := rfl

theorem Sound.setStack (hd : d.Sound cfg) {st : StackState} (hsound : st.Sound cfg) :
    (d.setStack st).Sound cfg :=
  ⟨hd.conforms, hsound⟩

/-- A reply to an unconnected request of the packet. -/
def NamesUnconnected (data : Message) (sent : List UInt8) (d : Device σ) : Prop :=
  let item := (received data d.stack.cpf).dataItem
  ¬d.calls .getConnectionOwner item.data item.length → Names (Message.byteAt item.data 0) sent

theorem Sound.notifyCommonPacketFormat (hd : d.Sound cfg)
    (hcall : d.notifyCommonPacketFormat cfg env front data originatorAddress
      encapsulationSession = .ok (reply, d')) :
    d'.Sound cfg ∧ ∀ sent, reply = some sent → d.NamesUnconnected data sent := by
  simp only [Device.notifyCommonPacketFormat] at hcall
  simp only [NamesUnconnected, received]
  generalize CommonPacketFormatData.createCommonPacketFormatStructure data data.length
    d.stack.cpf = parsed at hcall ⊢
  obtain ⟨parse, cpf⟩ := parsed
  have hreceived := hd.setStack ((touched_cpf d.stack cpf).sound hd.stack).1
  dsimp only at hcall ⊢
  split at hcall
  · cases hcall
    exact ⟨hreceived, fun _ h => by cases h⟩
  · split at hcall
    · rename_i htypes
      split at hcall
      · cases hcall
      · rename_i status response d₁ hnotify
        have hrouted := hreceived.notifyMessageRouter hnotify
        split at hcall
        · cases hcall
          exact ⟨hrouted.sound, fun _ h => by cases h⟩
        · cases hcall
          refine ⟨hrouted.sound, fun sent hsent hother => ?_⟩
          cases hsent
          rw [Names, (hrouted.addressed ⟨.inl htypes.1, .inl htypes.2⟩).replyServiceByte,
            hrouted.named hother]
    · cases hcall
      exact ⟨hreceived, fun _ h => by cases h⟩

/-- A reply to a connected request of the packet: the stored one of the connection, if the
request repeats a sequence number. -/
structure NamesConnected (cfg : Config) (data : Message) (sent : List UInt8) (d : Device σ) :
    Prop where
  stored : ∀ r, d.stack.repeatedConnection (d.config cfg) data = some r →
    sent = (d.stack.conn r).lastReplySent
  named : d.stack.repeatedConnection (d.config cfg) data = none →
    let item := (received data d.stack.cpf).dataItem
    let request := (Message.getUint item.data).2
    ¬d.calls .getConnectionOwner request (item.length - 2) →
      Names (Message.byteAt request 0) sent

theorem NamesConnected.of_connection {r : ConnRef} {sent : List UInt8}
    (hrepeated : d.stack.repeatedConnection (d.config cfg) data =
      if (d.stack.conn r).sequenceCountConsuming =
        (Message.getUint (received data d.stack.cpf).dataItem.data).1 then some r else none)
    (hreply : if (d.stack.conn r).sequenceCountConsuming =
        (Message.getUint (received data d.stack.cpf).dataItem.data).1 then
        sent = (d.stack.conn r).lastReplySent
      else
        ¬d.calls .getConnectionOwner (Message.getUint (received data d.stack.cpf).dataItem.data).2
            ((received data d.stack.cpf).dataItem.length - 2) →
          Names (Message.byteAt (Message.getUint
            (received data d.stack.cpf).dataItem.data).2 0) sent) :
    d.NamesConnected cfg data sent := by
  split at hreply
  · rename_i hcount
    rw [if_pos hcount] at hrepeated
    refine ⟨fun q hq => ?_, fun hnone => ?_⟩
    · rw [hrepeated] at hq
      cases hq
      exact hreply
    · rw [hrepeated] at hnone
      cases hnone
  · rename_i hcount
    rw [if_neg hcount] at hrepeated
    refine ⟨fun q hq => ?_, fun _ => hreply⟩
    rw [hrepeated] at hq
    cases hq

/-- The reply to a request that is not a repetition is stored, which the connection table does
not notice. -/
theorem Sound.notifyConnectedRequest (hd : d.Sound cfg) (haddressed : Addressed d.stack.cpf)
    {r : ConnRef} {sequence : UInt16} {buffer : Message} {length : UInt16}
    (hcall : d.notifyConnectedRequest cfg env r sequence front buffer length originatorAddress
      encapsulationSession = .ok (reply, d')) :
    d'.Sound cfg ∧ ∀ sent, reply = some sent →
      if (d.stack.conn r).sequenceCountConsuming = sequence then
        sent = (d.stack.conn r).lastReplySent
      else ¬d.calls .getConnectionOwner buffer length → Names (buffer.byteAt 0) sent := by
  simp only [Device.notifyConnectedRequest] at hcall
  split at hcall
  · rename_i hrepeated
    cases hcall
    refine ⟨hd, fun sent hsent => ?_⟩
    rw [if_pos hrepeated]
    exact (Option.some.inj hsent).symm
  · rename_i hnew
    simp only [if_neg hnew]
    have htouched : Touched d.stack (d.stack.modifyConn r fun c =>
        { c with sequenceCountConsuming := sequence }) := touched_modifyConn d.stack r rfl
    have hcounted := hd.setStack (htouched.sound hd.stack).1
    split at hcall
    · cases hcall
    · rename_i status response d₁ hnotify
      have hrouted := hcounted.notifyMessageRouter hnotify
      have hsound := hrouted.sound
      split at hcall
      · cases hcall
        exact ⟨hsound, fun _ h => by cases h⟩
      · cases hcall
        have htouched₁ := (touched_cpf d₁.stack { d₁.stack.cpf with addressItem :=
          { d₁.stack.cpf.addressItem with
            connectionIdentifier := (d₁.stack.conn r).cipProducedConnectionId } }).sound
              hsound.stack
        refine ⟨hsound.setStack ?_, fun sent hsent hother => ?_⟩
        · exact (Touched.sound (touched_modifyConn _ r rfl) htouched₁.1).1
        · have haddressed₁ := hrouted.addressed haddressed
          cases hsent
          rw [Names, ← hrouted.named hother]
          refine Addressed.replyServiceByte ?_ response
          exact ⟨haddressed₁.address, haddressed₁.data⟩

theorem Sound.notifyConnectedCommonPacketFormat (hd : d.Sound cfg)
    (hcall : d.notifyConnectedCommonPacketFormat cfg env front data originatorAddress
      encapsulationSession = .ok (reply, d')) :
    d'.Sound cfg ∧ ∀ sent, reply = some sent → d.NamesConnected cfg data sent := by
  rw [Device.notifyConnectedCommonPacketFormat] at hcall
  obtain ⟨parse, cpf, hparsed⟩ : ∃ parse cpf,
      CommonPacketFormatData.createCommonPacketFormatStructure data data.length d.stack.cpf =
        (parse, cpf) := ⟨_, _, rfl⟩
  have hpacket : received data d.stack.cpf = cpf := by rw [received, hparsed]
  simp only [hparsed] at hcall
  have hreceived := hd.setStack ((touched_cpf d.stack cpf).sound hd.stack).1
  split at hcall
  · cases hcall
    exact ⟨hreceived, fun _ h => by cases h⟩
  · rename_i hread
    split at hcall
    · cases hcall
      exact ⟨hreceived, fun _ h => by cases h⟩
    · rename_i r hobject
      have hfound : d.stack.getConnectedObject (d.config cfg)
        cpf.addressItem.connectionIdentifier = some r := hobject
      split at hcall
      · cases hcall
        have htouched : Touched (d.setStack { d.stack with cpf := cpf }).stack
            ((d.setStack { d.stack with cpf := cpf }).stack.modifyConn r fun c =>
              c.resetInactivityWatchdogTimerValue) := touched_modifyConn _ r rfl
        exact ⟨hreceived.setStack (htouched.sound hreceived.stack).1, fun _ h => by cases h⟩
      · rename_i htype
        have hreset := receiveConnectedRequest_touched r (Message.getUint cpf.dataItem.data).1
          { d.stack with cpf := cpf }
        obtain ⟨hsound, hreply⟩ := (hreceived.setStack
          (hreset.sound hreceived.stack).1).notifyConnectedRequest
            ⟨.inr (not_not.mp (not_or.mp hread).2), .inr (not_not.mp htype)⟩ hcall
        refine ⟨hsound, fun sent hsent => .of_connection (r := r) ?_ ?_⟩
        · simp only [repeatedConnection, hparsed, ← or_assoc]
          rw [if_neg (not_or.mpr ⟨hread, htype⟩), hfound, hpacket]
        · have hconn : (({ d.stack with cpf := cpf } : StackState).receiveConnectedRequest r
              (Message.getUint cpf.dataItem.data).1).conn r =
              (d.stack.conn r).resetInactivityWatchdogTimerValue := conn_modifyConn_self _ r _
          have hreply := hreply sent hsent
          simp only [stack_setStack, hconn] at hreply
          rw [hpacket]
          exact hreply

theorem Sound.of_answer {result : Except Fault (Option (List UInt8) × Device σ)}
    (hresult : ∀ reply d', result = .ok (reply, d') → d'.Sound cfg)
    (h : result.map Prod.snd = .ok d') : d'.Sound cfg := by
  cases result with
  | error fault => cases h
  | ok answer =>
      obtain ⟨reply, d₁⟩ := answer
      cases h
      exact hresult reply d₁ rfl

theorem Sound.step (hd : d.Sound cfg) {label : Environment × DeviceAction σ}
    (hstep : Device.step cfg label d = .ok d') : d'.Sound cfg := by
  obtain ⟨env, action⟩ := label
  cases action with
  | application application =>
      cases hstep
      exact ⟨hd.conforms, hd.stack⟩
  | stack front action =>
      have hother : (d.stack.step (d.config cfg) (env, action)).map d.setStack = .ok d' →
          d'.Sound cfg := by
        intro hstep
        cases hstack : d.stack.step (d.config cfg) (env, action) with
        | error fault =>
            rw [hstack] at hstep
            cases hstep
        | ok st' =>
            have hsound := (step_spec (sound_config.mpr hd.stack) hstack).1
            rw [hstack] at hstep
            cases hstep
            exact hd.setStack (sound_config.mp hsound)
      cases action with
      | sendRRData session originatorAddress data =>
          simp only [Device.step] at hstep
          split at hstep
          · exact .of_answer (fun reply d' hcall => (hd.notifyCommonPacketFormat hcall).1) hstep
          · cases hstep
            exact hd
      | sendUnitData session originatorAddress data =>
          simp only [Device.step] at hstep
          split at hstep
          · exact .of_answer (fun reply d' hcall =>
              (hd.notifyConnectedCommonPacketFormat hcall).1) hstep
          · cases hstep
            exact hd
      | _ => exact hother hstep

theorem Reachable.sound (hstart : start.Conforms cfg) (h : Device.Reachable cfg start d) :
    d.Sound cfg := by
  obtain ⟨⟨assemblyData, hinitial⟩, hreaches⟩ := h
  have hsound : start.Sound cfg := by
    refine ⟨hstart, ?_⟩
    rw [hinitial]
    exact sound_initialState cfg assemblyData
  exact hreaches.invariant (Device.Sound cfg) hsound fun _ _ _ hs _ hstep => hs.step hstep

/-- Every reply to an explicit request that is sent now. -/
structure NamesServices (cfg : Config) (d : Device σ) : Prop where
  unconnected : ∀ env front data originatorAddress session sent d',
    d.notifyCommonPacketFormat cfg env front data originatorAddress session =
        .ok (some sent, d') →
      d.NamesUnconnected data sent
  connected : ∀ env front data originatorAddress session sent d',
    d.notifyConnectedCommonPacketFormat cfg env front data originatorAddress session =
        .ok (some sent, d') →
      d.NamesConnected cfg data sent

/-- A device as it starts: with the classes of the stack and those that an application adds. -/
structure Starts (cfg : Config) (classes : StackClasses σ) (added : List (RegisteredClass σ))
    (start : Device σ) : Prop where
  driven : classes.Driven cfg
  application : ∀ registered ∈ added, registered.Conforms cfg
  classes : ∃ registered, cipStackInit classes = .ok registered ∧
    start.classes = registered ++ added

theorem Starts.conforms {classes : StackClasses σ} {added : List (RegisteredClass σ)}
    (h : start.Starts cfg classes added) : start.Conforms cfg := by
  obtain ⟨registered, hinit, hclasses⟩ := h.classes
  rw [Device.Conforms, hclasses, List.forall_mem_append]
  exact ⟨cipStackInit_conforms h.driven hinit, h.application⟩

/-- In every state of every run. -/
theorem reply_names_service {classes : StackClasses σ} {added : List (RegisteredClass σ)}
    (hstart : start.Starts cfg classes added) (h : Device.Reachable cfg start d) :
    d.NamesServices cfg := by
  have hsound := h.sound hstart.conforms
  refine ⟨fun env front data originatorAddress session sent d' hcall => ?_,
    fun env front data originatorAddress session sent d' hcall => ?_⟩
  · exact (hsound.notifyCommonPacketFormat hcall).2 sent rfl
  · exact (hsound.notifyConnectedCommonPacketFormat hcall).2 sent rfl

end Device

section Sample

open SampleApplication

theorem resetDevice_driven {globals globals' : Globals Unit} {status : EipStatus}
    (h : resetDevice globals = .ok (status, globals')) :
    Globals.Driven config globals globals' := by
  rw [resetDevice] at h
  cases hclose : globals.stack.closeAllConnections config with
  | error fault =>
      rw [hclose] at h
      cases h
  | ok st =>
      rw [hclose] at h
      cases h
      have hrun : Runs.runLabels (step config) [(environment 0 20, .closeAllConnections)]
          globals.stack = .ok st := by
        simp only [Runs.runLabels, step, hclose]
      have hcall : ∀ label ∈ [(environment 0 20, Action.closeAllConnections)],
          label.2.isApplicationCall = true := List.forall_mem_singleton.mpr rfl
      exact Runs.reaches_of_runLabels_forall hcall hrun

theorem stackClasses_driven : stackClasses.Driven config :=
  ⟨fun _ _ _ => resetDevice_driven, fun _ _ _ => resetDevice_driven, fun _ => ⟨.nil, .nil⟩⟩

theorem device_starts {added : List (RegisteredClass Unit)}
    (hadded : ∀ registered ∈ added, registered.Conforms config) :
    (device added).Starts config stackClasses added := by
  refine ⟨stackClasses_driven, hadded, ?_⟩
  cases hinit : cipStackInit stackClasses with
  | error fault =>
      have hok : (cipStackInit stackClasses).toOption.isSome := rfl
      rw [hinit] at hok
      cases hok
  | ok registered =>
      refine ⟨registered, rfl, ?_⟩
      rw [device, hinit]
      rfl

/-- A step of the stack on a device, with an empty receive buffer. -/
def onStack (label : Environment × Action) : Environment × DeviceAction Unit :=
  (label.1, .stack [] label.2)

/-- The device in which these steps end passes a check. -/
def deviceEnds (added : List (RegisteredClass Unit)) (labels : List (Environment × Action))
    (check : Device Unit → Bool) : Bool :=
  match Runs.runLabels (Device.step config) (labels.map onStack) (device added) with
  | .error _ => false
  | .ok d => check d

theorem reachable_of_deviceEnds (added : List (RegisteredClass Unit))
    (labels : List (Environment × Action)) (check : Device Unit → Bool)
    (h : deviceEnds added labels check = true) :
    ∃ d, Device.Reachable config (device added) d ∧ check d = true := by
  rw [deviceEnds] at h
  split at h
  · cases h
  · rename_i d hrun
    exact ⟨d, ⟨⟨assemblyData, rfl⟩, Runs.reaches_of_runLabels hrun⟩, h⟩

/-- The service that the reply to a packet names. -/
def namedService (result : Except Fault (Option (List UInt8) × Device Unit)) : Option UInt8 :=
  match result with
  | .ok (some sent, _) => replyServiceByte sent
  | _ => none

/-- Get Attribute Single and Get Attributes All of the Identity object. -/
def getVendor : Message := [0x0E, 3, 0x20, 1, 0x24, 1, 0x30, 1]
def getIdentity : Message := [0x01, 2, 0x20, 1, 0x24, 1]

def getOwner : Message := [0x5A, 2, 0x20, 6, 0x24, 1]

/-- A request with the sequence number 1 on the first connection. -/
def firstRequest (request : Message) : Message :=
  connectedPacket 0x12340013 (intBytes 1 ++ request)

/-- What the reply to an unconnected or a connected request names. -/
def unconnectedReply (request : Message) (d : Device Unit) : Option UInt8 :=
  namedService (d.notifyCommonPacketFormat config (environment 1002 22) [] (unconnected request)
    originator 1)

def connectedReply (request : Message) (d : Device Unit) : Option UInt8 :=
  namedService (d.notifyConnectedCommonPacketFormat config (environment 1002 22) []
    (firstRequest request) originator 1)

/-- Both kinds of requests to the Identity object are answered as they should be. -/
theorem reply_names_service_sample :
    ∃ d, (device []).Starts config stackClasses [] ∧ Device.Reachable config (device []) d ∧
      d.NamesServices config ∧ unconnectedReply getVendor d = some (0x80 ||| 0x0E) ∧
      connectedReply getIdentity d = some (0x80 ||| 0x01) := by
  obtain ⟨d, hreachable, hreplies⟩ := reachable_of_deviceEnds [] [register, request (class3 1 1)]
    (fun d => unconnectedReply getVendor d = some (0x80 ||| 0x0E) &&
      connectedReply getIdentity d = some (0x80 ||| 0x01)) (by decide +kernel)
  rw [Bool.and_eq_true, decide_eq_true_eq, decide_eq_true_eq] at hreplies
  have hstarts := device_starts (List.forall_mem_nil (fun registered : RegisteredClass Unit =>
    registered.Conforms config))
  exact ⟨d, hstarts, hreachable, Device.reply_names_service hstarts hreachable, hreplies⟩

/-- A class of an application with the number that the unused entries of the management list
have. -/
def zeroClass : RegisteredClass Unit :=
  { classCode := 0
    cipClass := { createCipClass 0 0 [1] with numberOfAttributes := 0, services := [] }
    metaClass := { createCipClass 7 7 [0] with numberOfAttributes := 7, services := [] } }

/-- A Large Forward Open of the class 3 connection. -/
def largeForwardOpen (p : OpenParameters) : Message :=
  [0x5B, 2, 0x20, 6, 0x24, 1, 1, 2] ++ dintBytes 0 ++ dintBytes p.tToOConnectionId ++
    intBytes p.serialNumber ++ intBytes 77 ++ dintBytes p.originatorSerialNumber ++
    [p.connectionTimeoutMultiplier, 0, 0, 0] ++ dintBytes p.oToTRequestedPacketInterval ++
    dintBytes 0x40000010 ++ dintBytes p.tToORequestedPacketInterval ++ dintBytes 0x40000010 ++
    [p.transportClassTrigger, UInt8.ofNat (p.connectionPath.length / 2)] ++ p.connectionPath

/-- A Forward Open to the class without a number. -/
def openZeroClass : Message :=
  forwardOpen { exclusiveOwner 2 2 pointToPoint with
    connectionPath := [0x20, 0, 0x24, 1, 0x2C, 1, 0x2C, 1] }

/-- A repeated sequence number gets the reply of the other service, Get Connection Owner is
answered without a service, and a Forward Open to the class 0 with the code of the connection
that was opened before. -/
theorem reply_misnames_service_sample :
    (∃ d, Device.Reachable config (device []) d ∧
      connectedReply getIdentity d = some (0x80 ||| 0x0E) ∧
      unconnectedReply getOwner d = some 0x00) ∧
    ∃ d, Device.Reachable config (device [zeroClass]) d ∧
      unconnectedReply openZeroClass d = some (0x80 ||| 0x5B) := by
  obtain ⟨d, hreachable, hreplies⟩ := reachable_of_deviceEnds []
    [register, request (class3 1 1),
      (environment 0 20, .sendUnitData 1 originator (firstRequest getVendor))]
    (fun d => connectedReply getIdentity d = some (0x80 ||| 0x0E) &&
      unconnectedReply getOwner d = some 0x00) (by decide +kernel)
  rw [Bool.and_eq_true, decide_eq_true_eq, decide_eq_true_eq] at hreplies
  obtain ⟨dz, hreachable', hreply⟩ := reachable_of_deviceEnds [zeroClass]
    [register, send 1 (largeForwardOpen (class3 1 1))]
    (fun d => unconnectedReply openZeroClass d = some (0x80 ||| 0x5B)) (by decide +kernel)
  exact ⟨⟨d, hreachable, hreplies⟩, dz, hreachable', of_decide_eq_true hreply⟩

end Sample

end Opener

import Opener.Core.Encapsulation

/-!
The answers to List Identity requests that arrive by broadcast: the slots in which
`encap.c` keeps them, how a request takes a slot, and the count-down in
`ManageEncapsulationMessages`. Nothing else in the stack touches the slots.
-/

namespace Opener

def listIdentityDefaultDelayTime : UInt16 := 2000

def listIdentityMinimumDelayTime : UInt16 := 500

/-- `ENCAP_NUMBER_OF_SUPPORTED_DELAYED_ENCAP_MESSAGES`. -/
def numberOfSupportedDelayedEncapMessages : Nat := 2

abbrev DelayedSlot := Fin numberOfSupportedDelayedEncapMessages

/-- `time_out` is a signed 32-bit number; a slot with an invalid socket is free. -/
structure DelayedEncapsulationMessage where
  timeOut : Int := 0
  socket : Int := eipInvalidSocket
  receiver : SockaddrIn := {}
  outgoingMessage : ENIPMessage := {}
deriving DecidableEq, Repr

/-- `g_delayed_encapsulation_messages`. -/
abbrev DelayedEncapsulationMessages := DelayedSlot → DelayedEncapsulationMessage

/-- What is handed to `sendto`. -/
structure Datagram where
  socket : Int
  receiver : SockaddrIn
  bytes : List UInt8
deriving DecidableEq, Repr

/-- `udp_unicast_listener`, from which also the answers to broadcasts go out; the network
handler does not start without it. -/
structure UdpListener where
  socket : Int
  isOpen : socket ≠ eipInvalidSocket

/-- The longest delay, from the first two bytes of the sender context. -/
def maximumDelayTime (requested : UInt16) : UInt16 :=
  if 0 = requested then listIdentityDefaultDelayTime
  else if listIdentityMinimumDelayTime > requested then listIdentityMinimumDelayTime
  else requested

/-- The delay that a request asks for. -/
def requestedDelayTime (bufferStart : Message) : UInt16 :=
  (Message.getUint (bufferStart.drop 12)).1

/-- `DetermineDelayTime` with the result of `rand`. -/
def determineDelayTime (bufferStart : Message) (rand : Nat) : Int :=
  ((rand % (maximumDelayTime (requestedDelayTime bufferStart)).toNat : Nat) : Int)

/-- The loop in front of `HandleReceivedListIdentityCommandUdp`. -/
def findDelayedMessageBuffer (messages : DelayedEncapsulationMessages) : Option DelayedSlot :=
  (List.finRange _).find? fun i => (messages i).socket = eipInvalidSocket

/-- Without a free slot the request is dropped. -/
def handleReceivedListIdentityCommandUdp (cfg : Config) (attributes : IdentityAttributes)
    (listener : UdpListener) (fromAddress : SockaddrIn) (buffer : Message)
    (receiveData : EncapsulationData) (rand : Nat)
    (messages : DelayedEncapsulationMessages) : DelayedEncapsulationMessages :=
  match findDelayedMessageBuffer messages with
  | none => messages
  | some i =>
      Function.update messages i
        { timeOut := determineDelayTime buffer rand
          socket := listener.socket
          receiver := fromAddress
          outgoingMessage := encapsulateListIdentityResponseMessage cfg attributes receiveData }

/-- The datagram gets as far as the List Identity case of `HandleReceivedExplictUdpData`. -/
def isListIdentityRequest (buffer : Message) : Bool :=
  let (remainingBytes, encapsulationData) := createEncapsulationStructure buffer
  remainingBytes ≥ 0 && encapsulationData.options = encapsulationHeaderOptionsFlag &&
    encapsulationData.commandCode = EncapsulationCommand.listIdentity

/-- What `HandleReceivedExplictUdpData` does to the slots for a broadcast datagram. -/
def receiveBroadcast (cfg : Config) (attributes : IdentityAttributes) (listener : UdpListener)
    (fromAddress : SockaddrIn) (buffer : Message) (rand : Nat)
    (messages : DelayedEncapsulationMessages) : DelayedEncapsulationMessages :=
  if isListIdentityRequest buffer then
    handleReceivedListIdentityCommandUdp cfg attributes listener fromAddress buffer
      (createEncapsulationStructure buffer).2 rand messages
  else messages

namespace DelayedEncapsulationMessage

variable (m : DelayedEncapsulationMessage)

/-- An unsigned long is subtracted from the signed 32-bit number. -/
def countDown (elapsedTime : UInt64) : DelayedEncapsulationMessage :=
  { m with timeOut := (m.timeOut - elapsedTime.toNat).bmod (2 ^ 32) }

def datagram : Datagram :=
  { socket := m.socket, receiver := m.receiver, bytes := m.outgoingMessage.bytes }

/-- The loop body of `ManageEncapsulationMessages`: what it sends and the slot afterwards. -/
def manage (elapsedTime : UInt64) : Option Datagram × DelayedEncapsulationMessage :=
  if m.socket ≠ eipInvalidSocket then
    let m := m.countDown elapsedTime
    if 0 ≥ m.timeOut then (some m.datagram, { m with socket := eipInvalidSocket })
    else (none, m)
  else (none, m)

end DelayedEncapsulationMessage

/-- `ManageEncapsulationMessages`: what each slot sends, in this order, and the slots
afterwards. -/
def manageEncapsulationMessages (elapsedTime : UInt64)
    (messages : DelayedEncapsulationMessages) :
    List (DelayedSlot × Datagram) × DelayedEncapsulationMessages :=
  ((List.finRange _).filterMap fun i => ((messages i).manage elapsedTime).1.map (Prod.mk i),
    fun i => ((messages i).manage elapsedTime).2)

/-- What happens to the slots: a datagram on the broadcast socket with the identity at that
time, or a tick. -/
inductive DelayedAction where
  | broadcast (attributes : IdentityAttributes) (fromAddress : SockaddrIn) (buffer : Message)
      (rand : Nat)
  | manageEncapsulationMessages (elapsedTime : UInt64)

def delayedStep (cfg : Config) (listener : UdpListener) (action : DelayedAction)
    (messages : DelayedEncapsulationMessages) :
    List (DelayedSlot × Datagram) × DelayedEncapsulationMessages :=
  match action with
  | .broadcast attributes fromAddress buffer rand =>
      ([], receiveBroadcast cfg attributes listener fromAddress buffer rand messages)
  | .manageEncapsulationMessages elapsedTime =>
      manageEncapsulationMessages elapsedTime messages

/-- The slots after a run from `EncapsulationInit`. -/
def delayedMessages (cfg : Config) (listener : UdpListener) (actions : List DelayedAction) :
    DelayedEncapsulationMessages :=
  actions.foldl (fun messages action => (delayedStep cfg listener action messages).2) fun _ => {}

end Opener

import Opener.Core.ConnectionManager

/-!
The diagnostic services of the connection manager. Of the request only the connection
number or the connection triad is read.
-/

namespace Opener

/-- The enumeration value. -/
def ConnectionObjectState.number : ConnectionObjectState → UInt16
  | .nonExistent => 0
  | .configuring => 1
  | .waitingForConnectionId => 2
  | .established => 3
  | .timedOut => 4
  | .deferredDelete => 5
  | .closing => 6
  | .invalid => 7

/-- `AssembleConnectionDataResponseMessage`. The actual packet intervals are the
transmission trigger timer, both identifiers of a direction are the same. -/
def assembleConnectionDataResponseMessage (c : CipConnectionObject) : List UInt8 :=
  intBytes c.connectionNumber ++ intBytes c.state.number ++
    intBytes c.originatorAddress.sinPort ++ intBytes c.remoteAddress.sinPort ++
    intBytes c.connectionSerialNumber ++ intBytes c.originatorVendorId ++
    dintBytes c.originatorSerialNumber ++ dintBytes c.cipConsumedConnectionId ++
    dintBytes c.cipConsumedConnectionId ++ sintBytes c.connectionTimeoutMultiplier ++
    List.replicate 3 0 ++ dintBytes c.oToTRequestedPacketInterval ++
    dintBytes c.transmissionTriggerTimer.toUInt32 ++ dintBytes c.cipProducedConnectionId ++
    dintBytes c.cipProducedConnectionId ++ sintBytes c.connectionTimeoutMultiplier ++
    List.replicate 3 0 ++ dintBytes c.tToORequestedPacketInterval ++
    dintBytes c.transmissionTriggerTimer.toUInt32

namespace StackState

variable (cfg : Config)

def getConnectionData (request : MessageRouterRequest) (st : StackState) :
    MessageRouterResponse :=
  let connectionNumber := (Message.getUint request.data).1
  match st.findConnection cfg fun _ c => c.connectionNumber = connectionNumber with
  | some r =>
      { replyService := 0x80 ||| 0x56
        generalStatus := GeneralStatus.success
        message := assembleConnectionDataResponseMessage (st.conn r) }
  | none =>
      { replyService := 0x80 ||| 0x56
        generalStatus := GeneralStatus.pathDestinationUnknown }

def searchConnectionData (request : MessageRouterRequest) (st : StackState) :
    MessageRouterResponse :=
  let (connectionSerialNumber, message) := Message.getUint request.data
  let (originatorVendorId, message) := message.getUint
  let originatorSerialNumber := message.getUdint.1
  match st.findConnection cfg fun _ c =>
      c.connectionSerialNumber = connectionSerialNumber &&
        c.originatorVendorId = originatorVendorId &&
        c.originatorSerialNumber = originatorSerialNumber with
  | some r =>
      { replyService := 0x80 ||| 0x57
        generalStatus := GeneralStatus.success
        message := assembleConnectionDataResponseMessage (st.conn r) }
  | none =>
      { replyService := 0x80 ||| 0x57
        generalStatus := GeneralStatus.pathDestinationUnknown }

end StackState

end Opener

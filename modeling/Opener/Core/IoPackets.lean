import Opener.Core.Production

/-!
The bytes of I/O data: the datagram that belongs to a packet.
-/

namespace Opener

namespace IoPacket

def addressItemBytes (packet : IoPacket) : List UInt8 :=
  match packet.sequenceNumber with
  | none => intBytes ItemId.connectionAddress ++ intBytes 4 ++
      dintBytes packet.connectionIdentifier
  | some sequenceNumber => intBytes ItemId.sequencedAddressItem ++ intBytes 8 ++
      dintBytes packet.connectionIdentifier ++ dintBytes sequenceNumber

/-- The headers of the transport class and of run/idle, and the data. -/
def payload (packet : IoPacket) : List UInt8 :=
  packet.sequenceCount.elim [] intBytes ++ packet.runIdle.elim [] dintBytes ++ packet.data

/-- The datagram. -/
def bytes (packet : IoPacket) : List UInt8 :=
  intBytes 2 ++ packet.addressItemBytes ++ intBytes ItemId.connectedDataItem ++
    intBytes (UInt16.ofNat packet.payload.length) ++ packet.payload

end IoPacket

end Opener

import Opener.Core.Attributes

/-!
The interface control of `cipethernetlink.c`, attribute 6 of each port, for a device whose
interface control is enabled. The state is the interface control of the ports in order.
-/

namespace Opener

structure CipEthernetLinkInterfaceControl where
  controlBits : UInt16
  forcedInterfaceSpeed : UInt16
deriving DecidableEq, Repr, Inhabited

namespace CipEthernetLink

def ifCntrlAutonegotiate : UInt16 := 0x01
def ifCntrlForceDuplexFD : UInt16 := 0x02
def ifCntrlMaxValid : UInt16 := ifCntrlAutonegotiate + ifCntrlForceDuplexFD

def speedDpx100FD : UInt16 := 0x08

/-- The speed and the duplex mode of each bit. -/
def speedDuplexTable : List (UInt16 × UInt8) :=
  [(10, 0), (10, 1), (100, 0), (100, 1), (1000, 0), (1000, 1)]

end CipEthernetLink

open CipEthernetLink

def isIfaceControlAllowed (speedDuplexSelector : UInt16)
    (ifaceCntrl : CipEthernetLinkInterfaceControl) : Bool :=
  let duplexMode := if ifaceCntrl.controlBits &&& ifCntrlForceDuplexFD ≠ 0 then 1 else 0
  speedDuplexTable.zipIdx.any fun ((interfaceSpeed, interfaceDuplexMode), i) =>
    speedDuplexSelector &&& (1 <<< UInt16.ofNat i) != 0 && duplexMode == interfaceDuplexMode &&
      ifaceCntrl.forcedInterfaceSpeed == interfaceSpeed

def encodeCipEthernetLinkInterfaceControl (idx : Nat) :
    CipAttributeEncodeInMessage (List CipEthernetLinkInterfaceControl) := fun ports _ =>
  let interfaceControl := ports.getD idx default
  intBytes interfaceControl.controlBits ++ intBytes interfaceControl.forcedInterfaceSpeed

/-- Every port supports 100 Mbit/s full duplex only. -/
def decodeCipEthernetLinkInterfaceControl (idx : Nat) :
    CipAttributeDecodeFromMessage (List CipEthernetLinkInterfaceControl) := fun ports request =>
  let (controlBits, message) := request.data.getUint
  let (forcedInterfaceSpeed, _) := message.getUint
  let ifCntrl : CipEthernetLinkInterfaceControl := { controlBits, forcedInterfaceSpeed }
  let refused (generalStatus : UInt8) : Decoded (List CipEthernetLinkInterfaceControl) :=
    { data := ports, moved := 4, generalStatus, numberOfDecodedBytes := -1 }
  if ifCntrl.controlBits > ifCntrlMaxValid then refused GeneralStatus.invalidAttributeValue
  else if ifCntrl.controlBits &&& ifCntrlAutonegotiate ≠ 0 ∧
      (ifCntrl.controlBits &&& ifCntrlForceDuplexFD ≠ 0 ∨
        ifCntrl.forcedInterfaceSpeed ≠ 0) then
    refused GeneralStatus.objectStateConflict
  else if ifCntrl.controlBits &&& ifCntrlAutonegotiate = 0 ∧
      ¬isIfaceControlAllowed speedDpx100FD ifCntrl then
    refused GeneralStatus.invalidAttributeValue
  else
    { data := ports.set idx ifCntrl
      moved := 4
      generalStatus := GeneralStatus.success
      numberOfDecodedBytes := 4 }

/-- Attribute 6 of a port. Interface control of the internal switch port is never
settable. -/
def interfaceControlAttribute (idx : Nat) :
    CipAttributeStruct (List CipEthernetLinkInterfaceControl) :=
  let ifaceCtrlAccessMode := CIPAttributeFlag.setAndGetAble ||| CIPAttributeFlag.nvDataFunc
  { attributeNumber := 6
    type := .any
    encode := some (encodeCipEthernetLinkInterfaceControl idx)
    decode := some (decodeCipEthernetLinkInterfaceControl idx)
    attributeFlags :=
      if idx = 2 then ifaceCtrlAccessMode &&& ~~~CIPAttributeFlag.setable
      else ifaceCtrlAccessMode
    data := some fun ports => encodeCipEthernetLinkInterfaceControl idx ports 0 }

/-- The insertion of attribute 6 for the ports in order. -/
def insertInterfaceControl (ports : Nat) :
    List (ClassSetup (List CipEthernetLinkInterfaceControl)) :=
  (List.range ports).map fun idx =>
    .insertAttribute (UInt16.ofNat (idx + 1)) (interfaceControlAttribute idx)

end Opener

import Opener.Core.TcpIpInterface

/-!
The checks of names of `ciptcpipinterface.c` on the memory they run in, which is what lies
from a pointer on. Reading behind its end is a fault, and `IsValidDomain` ends each label with
a zero in place of its dot while it checks it.
-/

namespace Opener

namespace InMemory

/-- `*pointer`. -/
def read : List UInt8 → Except Fault UInt8
  | [] => .error .outOfBounds
  | byte :: _ => .ok byte

/-- How far away the first such character of a string is. -/
def strchr (character : UInt8) : List UInt8 → Except Fault (Option Nat)
  | [] => .error .outOfBounds
  | byte :: memory =>
      if byte = character then .ok (some 0)
      else if byte = 0 then .ok none
      else (strchr character memory).map (Option.map (· + 1))

/-- The loop of `IsValidNameLabel` with `label[-1]`, and the check behind it. -/
def isValidLabelRest (before : UInt8) : List UInt8 → Except Fault Bool
  | [] => .error .outOfBounds
  | byte :: label =>
      if byte ≠ 0 ∧ (isalnumC byte ∨ byte = 0x2D) then isValidLabelRest byte label
      else .ok (byte = 0 && before ≠ 0x2D)

def isValidNameLabel : List UInt8 → Except Fault Bool
  | [] => .error .outOfBounds
  | byte :: label => if !isalnumC byte then .ok false else isValidLabelRest byte label

/-- The result, and the memory as it is left. -/
def isValidDomain (domain : List UInt8) : Except Fault (Bool × List UInt8) :=
  match domain with
  | [] => .error .outOfBounds
  | 0x2E :: memory => .ok (false, 0x2E :: memory)
  | first :: memory => do
      match ← strchr 0x2E (first :: memory) with
      | none =>
          let status ← isValidNameLabel (first :: memory)
          return (status, first :: memory)
      | some dot =>
          let cut := (first :: memory).set dot 0
          let rc ← isValidNameLabel cut
          let next ← read (cut.drop (dot + 1))
          if next ≠ 0 then
            let (status, rest) ← isValidDomain (cut.drop (dot + 1))
            return (rc && status, (cut.take (dot + 1) ++ rest).set dot 0x2E)
          else return (false, cut.set dot 0x2E)
termination_by domain.length

open CipTcpIpObject

/-- Whether the name of a configuration may be stored, which is not asked without one. -/
def isValidDomainName (domainName : CipString) : Except Fault Bool :=
  if domainName.length > 0 then (isValidDomain domainName.string).map Prod.fst else .ok true

/-- What `DecodeCipTcpIpInterfaceConfiguration` leaves when it stores the configuration. -/
def storedInterfaceConfiguration (tcpip : CipTcpIpObject) (data : Message) :
    Decoded CipTcpIpObject :=
  { data := { tcpip with
      interfaceConfiguration := receivedInterfaceConfiguration data
      status := tcpip.status ||| statusIfaceCfgPend }
    moved := 22
    generalStatus := GeneralStatus.success
    numberOfDecodedBytes := 20 + ((domainNameLength data + 1) &&& ~~~1).toNat }

/-- `DecodeCipTcpIpInterfaceConfiguration`, where the string has only its own bytes. -/
def decodeInterfaceConfiguration (cfg : Config) (st : StackState) (tcpip : CipTcpIpObject)
    (request : MessageRouterRequest) : Except Fault (Decoded CipTcpIpObject) :=
  let ifCfg := receivedInterfaceConfiguration request.data
  if st.isIOConnectionActive cfg then
    .ok (refusedTcpIp tcpip 0 GeneralStatus.deviceStateConflict)
  else if cfgCtrlStaticIp ≠ tcpip.configControl &&& cfgCtrlMethodMask then
    .ok (refusedTcpIp tcpip 0 GeneralStatus.objectStateConflict)
  else if domainNameLength request.data > 48 then
    .ok (refusedTcpIp tcpip 22 GeneralStatus.tooMuchData)
  else if !isValidNetworkConfig ifCfg then
    .ok (refusedTcpIp tcpip 22 GeneralStatus.invalidAttributeValue)
  else
    (isValidDomainName ifCfg.domainName).map fun valid =>
      if !valid then refusedTcpIp tcpip 22 GeneralStatus.invalidAttributeValue
      else storedInterfaceConfiguration tcpip request.data

/-- What `DecodeCipTcpIpInterfaceHostName` leaves when it stores the name. -/
def storedHostName (tcpip : CipTcpIpObject) (hostname : CipString) : Decoded CipTcpIpObject :=
  { data := { tcpip with hostname, status := tcpip.status ||| statusIfaceCfgPend }
    moved := 2
    generalStatus := GeneralStatus.success
    numberOfDecodedBytes := -1 }

/-- `DecodeCipTcpIpInterfaceHostName`, where the string has only its own bytes. -/
def decodeHostName (tcpip : CipTcpIpObject) (request : MessageRouterRequest) :
    Except Fault (Decoded CipTcpIpObject) :=
  let (hostNameLength, message) := request.data.getUint
  if hostNameLength > 64 then .ok (refusedTcpIp tcpip 2 GeneralStatus.tooMuchData)
  else if hostNameLength = 0 then .error .nullDereference
  else
    let tmpHostName := CipString.setByData hostNameLength message
    (isValidNameLabel tmpHostName.string).map fun valid =>
      if !valid then refusedTcpIp tcpip 2 GeneralStatus.invalidAttributeValue
      else storedHostName tcpip tmpHostName

end InMemory

/-- The attributes as the device starts with them. -/
def gTcpip : CipTcpIpObject :=
  { status := 0x01
    configControl := 0x02
    interfaceConfiguration := ⟨0, 0, 0, 0, 0, ⟨0, [], rfl⟩⟩
    hostname := ⟨0, [], rfl⟩
    encapsulationInactivityTimeout := 120 }

end Opener

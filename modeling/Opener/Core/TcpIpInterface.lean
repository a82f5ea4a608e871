import Opener.Core.ActiveConnections
import Opener.Core.Attributes
import Opener.Core.StringI

/-!
The settable attributes of the TCP/IP interface object of `ciptcpipinterface.c`, for a
device whose interface configuration is settable. Addresses are kept in network byte order.
-/

namespace Opener

structure CipTcpIpInterfaceConfiguration where
  ipAddress : UInt32
  networkMask : UInt32
  gateway : UInt32
  nameServer : UInt32
  nameServer2 : UInt32
  domainName : CipString
deriving DecidableEq, Repr

/-- The settable attributes, and the status that setting them changes. -/
structure CipTcpIpObject where
  status : UInt32
  configControl : UInt32
  interfaceConfiguration : CipTcpIpInterfaceConfiguration
  hostname : CipString
  encapsulationInactivityTimeout : UInt16
deriving DecidableEq, Repr

namespace CipTcpIpObject

def statusIfaceCfgPend : UInt32 := 0x20

def cfgCtrlStaticIp : UInt32 := 0x00
def cfgCtrlMethodMask : UInt32 := 0x0F
def cfgCtrlDnsEnable : UInt32 := 0x10

end CipTcpIpObject

def GeneralStatus.deviceStateConflict : UInt8 := 0x10

/-- The host is little-endian. -/
def htonl (value : UInt32) : UInt32 :=
  (value.toUInt8.toUInt32 <<< 24) ||| ((value >>> 8).toUInt8.toUInt32 <<< 16) |||
    ((value >>> 16).toUInt8.toUInt32 <<< 8) ||| (value >>> 24)

def ntohl (value : UInt32) : UInt32 := htonl value

namespace InAddr

def any : UInt32 := 0x00000000
def broadcast : UInt32 := 0xFFFFFFFF
def loopback : UInt32 := 0x7F000001
def classANet : UInt32 := 0xFF000000

end InAddr

/-- The characters of a string in memory, up to the first zero. -/
def cString (memory : List UInt8) : List UInt8 := memory.takeWhile (· ≠ 0)

def isalnumC (byte : UInt8) : Bool :=
  0x61 ≤ byte && byte ≤ 0x7A || 0x41 ≤ byte && byte ≤ 0x5A || 0x30 ≤ byte && byte ≤ 0x39

/-- The loop of `IsValidNameLabel` after the character before. -/
def isLabelRest (before : UInt8) : List UInt8 → Bool
  | [] => before ≠ 0x2D
  | byte :: label => (isalnumC byte || byte = 0x2D) && isLabelRest byte label

def isValidNameLabel : List UInt8 → Bool
  | [] => false
  | byte :: label => isalnumC byte && isLabelRest byte label

/-- A dot at the front or at the end leaves an empty label there. -/
def isValidDomain (domain : List UInt8) : Bool := (domain.splitOn 0x2E).all isValidNameLabel

def isValidNetmask (netmask : UInt32) : Bool :=
  let v := ~~~(ntohl netmask) + 1
  v ≠ 0 && v &&& (v - 1) = 0 && InAddr.broadcast ≠ netmask

def isInClassAbc (ipAddr : UInt32) : Bool :=
  let ip := ntohl ipAddr
  ip &&& 0x80000000 = 0 || ip &&& 0xC0000000 = 0x80000000 || ip &&& 0xE0000000 = 0xC0000000

def isOnLoopbackNetwork (ipAddr : UInt32) : Bool :=
  ntohl ipAddr &&& InAddr.classANet = InAddr.loopback &&& InAddr.classANet

def isNetworkOrBroadcastIp (ipAddr netMask : UInt32) : Bool :=
  ipAddr &&& netMask = ipAddr || ipAddr ||| ~~~netMask = ipAddr

def isValidNetworkConfig (ifCfg : CipTcpIpInterfaceConfiguration) : Bool :=
  if InAddr.any = ntohl ifCfg.ipAddress then false
  else if InAddr.any ≠ ntohl ifCfg.networkMask && !isValidNetmask ifCfg.networkMask then false
  else if !isInClassAbc ifCfg.ipAddress || !isInClassAbc ifCfg.gateway ||
      !isInClassAbc ifCfg.nameServer || !isInClassAbc ifCfg.nameServer2 then
    false
  else if isOnLoopbackNetwork ifCfg.ipAddress || isOnLoopbackNetwork ifCfg.gateway then false
  else if isNetworkOrBroadcastIp ifCfg.ipAddress ifCfg.networkMask ||
      InAddr.any ≠ ntohl ifCfg.gateway &&
        isNetworkOrBroadcastIp ifCfg.gateway ifCfg.networkMask then
    false
  else if InAddr.any ≠ ntohl ifCfg.gateway && InAddr.any ≠ ntohl ifCfg.networkMask then
    ifCfg.networkMask &&& ifCfg.ipAddress = ifCfg.networkMask &&& ifCfg.gateway
  else true

namespace StackState

/-- An I/O connection that timed out is not active. -/
def isIOConnectionActive (cfg : Config) (st : StackState) : Bool :=
  (st.findConnection cfg fun _ c => c.isTypeIOConnection && c.state ≠ .timedOut).isSome

end StackState

open CipTcpIpObject

/-- What a decode function of the object leaves that refuses a value. -/
def refusedTcpIp (tcpip : CipTcpIpObject) (moved : Nat) (generalStatus : UInt8) :
    Decoded CipTcpIpObject :=
  { data := tcpip, moved, generalStatus, numberOfDecodedBytes := -1 }

/-- Attribute 3. -/
def decodeTcpIpInterfaceConfigurationControl : CipAttributeDecodeFromMessage CipTcpIpObject :=
  fun tcpip request =>
    let configurationControlReceived := request.data.getUdint.1
    if configurationControlReceived &&& cfgCtrlMethodMask ≥ 0x03 ∨
        configurationControlReceived &&& ~~~cfgCtrlMethodMask ≠ 0 then
      refusedTcpIp tcpip 4 GeneralStatus.invalidAttributeValue
    else
      { data := { tcpip with
          configControl :=
            configurationControlReceived &&& (cfgCtrlMethodMask ||| cfgCtrlDnsEnable) }
        moved := 4
        generalStatus := GeneralStatus.success
        numberOfDecodedBytes := 4 }

/-- The length of the domain name in a request for attribute 5. -/
def domainNameLength (message : Message) : UInt16 := (Message.getUint (message.drop 20)).1

/-- The configuration in a request for attribute 5. -/
def receivedInterfaceConfiguration (message : Message) : CipTcpIpInterfaceConfiguration :=
  { ipAddress := htonl message.getUdint.1
    networkMask := htonl (Message.getUdint (message.drop 4)).1
    gateway := htonl (Message.getUdint (message.drop 8)).1
    nameServer := htonl (Message.getUdint (message.drop 12)).1
    nameServer2 := htonl (Message.getUdint (message.drop 16)).1
    domainName := CipString.setByData (domainNameLength message) (message.drop 22) }

/-- A domain name that is not empty is checked up to the first zero, which may stand in the
memory behind the string. -/
def isValidInterfaceConfiguration (ifCfg : CipTcpIpInterfaceConfiguration)
    (beyond : List UInt8) : Bool :=
  isValidNetworkConfig ifCfg &&
    (ifCfg.domainName.length = 0 || isValidDomain (cString (ifCfg.domainName.string ++ beyond)))

/-- Attribute 5, in a state of the stack. The number of decoded bytes leaves out the length
of the domain name, and the cursor stays in front of the name. -/
def decodeCipTcpIpInterfaceConfiguration (cfg : Config) (st : StackState)
    (beyond : List UInt8) : CipAttributeDecodeFromMessage CipTcpIpObject := fun tcpip request =>
  let ifCfg := receivedInterfaceConfiguration request.data
  if st.isIOConnectionActive cfg then
    refusedTcpIp tcpip 0 GeneralStatus.deviceStateConflict
  else if cfgCtrlStaticIp ≠ tcpip.configControl &&& cfgCtrlMethodMask then
    refusedTcpIp tcpip 0 GeneralStatus.objectStateConflict
  else if domainNameLength request.data > 48 then
    refusedTcpIp tcpip 22 GeneralStatus.tooMuchData
  else if !isValidInterfaceConfiguration ifCfg beyond then
    refusedTcpIp tcpip 22 GeneralStatus.invalidAttributeValue
  else
    { data := { tcpip with
        interfaceConfiguration := ifCfg
        status := tcpip.status ||| statusIfaceCfgPend }
      moved := 22
      generalStatus := GeneralStatus.success
      numberOfDecodedBytes := 20 + ((domainNameLength request.data + 1) &&& ~~~1).toNat }

/-- Attribute 6. An empty name is `NULL` when its first character is checked. -/
def decodeHostName (beyond : List UInt8) (tcpip : CipTcpIpObject)
    (request : MessageRouterRequest) : Except Fault (Decoded CipTcpIpObject) :=
  let (hostNameLength, message) := request.data.getUint
  if hostNameLength > 64 then .ok (refusedTcpIp tcpip 2 GeneralStatus.tooMuchData)
  else if hostNameLength = 0 then .error .nullDereference
  else
    let tmpHostName := CipString.setByData hostNameLength message
    if !isValidNameLabel (cString (tmpHostName.string ++ beyond)) then
      .ok (refusedTcpIp tcpip 2 GeneralStatus.invalidAttributeValue)
    else
      .ok {
        data := { tcpip with
          hostname := tmpHostName
          status := tcpip.status ||| statusIfaceCfgPend }
        moved := 2
        generalStatus := GeneralStatus.success
        numberOfDecodedBytes := -1 }

/-- Attribute 6 of a device that may have failed; after that no status is written. -/
def decodeCipTcpIpInterfaceHostName (beyond : List UInt8) :
    CipAttributeDecodeFromMessage (Except Fault CipTcpIpObject) := fun device request =>
  match device.bind fun tcpip => decodeHostName beyond tcpip request with
  | .error fault =>
      { data := .error fault
        moved := 0
        generalStatus := GeneralStatus.attributeNotSupported
        numberOfDecodedBytes := -1 }
  | .ok decoded => { decoded with data := .ok decoded.data }

/-- Attribute 13. -/
def decodeCipTcpIpInterfaceEncapsulationInactivityTimeout :
    CipAttributeDecodeFromMessage CipTcpIpObject := fun tcpip request =>
  let inactivityTimeoutReceived := request.data.getUint.1
  if inactivityTimeoutReceived > 3600 then
    refusedTcpIp tcpip 2 GeneralStatus.invalidAttributeValue
  else
    { data := { tcpip with encapsulationInactivityTimeout := inactivityTimeoutReceived }
      moved := 2
      generalStatus := GeneralStatus.success
      numberOfDecodedBytes := 2 }

end Opener

import Opener.Core.ConnectionObject

/-!
Reading little-endian values, the EPath segments of `cipepath.c`, electronic
keys, and `ParseConnectionPath`. A cursor is the list of bytes from it to the
end of the zero-initialised receive buffer, so reading past the list gives zero.
-/

namespace Opener

abbrev Message := List UInt8

namespace Message

variable (message : Message)

def byteAt (i : Nat) : UInt8 := message.getD i 0

def getUsint : UInt8 × Message := (message.byteAt 0, message.drop 1)

def getUint : UInt16 × Message :=
  ((message.byteAt 0).toUInt16 ||| ((message.byteAt 1).toUInt16 <<< 8), message.drop 2)

def getUdint : UInt32 × Message :=
  ((message.byteAt 0).toUInt32 ||| ((message.byteAt 1).toUInt32 <<< 8) |||
    ((message.byteAt 2).toUInt32 <<< 16) ||| ((message.byteAt 3).toUInt32 <<< 24),
    message.drop 4)

/-- The first bytes of a buffer of the given length. -/
def takeBytes (length : Nat) : List UInt8 :=
  (List.range length).map message.byteAt

end Message

inductive SegmentType where
  | portSegment
  | logicalSegment
  | networkSegment
  | symbolicSegment
  | dataSegment
  | dataTypeConstructed
  | dataTypeElementary
  | reserved
deriving DecidableEq, Repr

inductive LogicalType where
  | classId
  | instanceId
  | memberId
  | connectionPoint
  | attributeId
  | special
  | serviceId
  | extendedLogical
deriving DecidableEq, Repr

def getPathSegmentType (message : Message) : SegmentType :=
  let bits := message.byteAt 0 &&& 0xE0
  if bits = 0x00 then .portSegment
  else if bits = 0x20 then .logicalSegment
  else if bits = 0x40 then .networkSegment
  else if bits = 0x60 then .symbolicSegment
  else if bits = 0x80 then .dataSegment
  else if bits = 0xA0 then .dataTypeConstructed
  else if bits = 0xC0 then .dataTypeElementary
  else .reserved

def getPathLogicalSegmentLogicalType (message : Message) : LogicalType :=
  let bits := message.byteAt 0 &&& 0x1C
  if bits = 0x00 then .classId
  else if bits = 0x04 then .instanceId
  else if bits = 0x08 then .memberId
  else if bits = 0x0C then .connectionPoint
  else if bits = 0x10 then .attributeId
  else if bits = 0x14 then .special
  else if bits = 0x18 then .serviceId
  else .extendedLogical

/-- The segment is logical and of the given type. -/
def isLogicalSegment (message : Message) (logicalType : LogicalType) : Bool :=
  getPathSegmentType message = .logicalSegment &&
    getPathLogicalSegmentLogicalType message = logicalType

/-- An invalid format yields the number of `kLogicalSegmentLogicalFormatInvalid`
and skips only the segment byte. -/
def cipEpathGetLogicalValue (message : Message) : UInt32 × Message :=
  let format := message.byteAt 0 &&& 0x03
  let value := message.drop 1
  if format = 0 then
    let (data, rest) := Message.getUsint value
    (data.toUInt32, rest)
  else if format = 1 then
    let (data, rest) := Message.getUint (value.drop 1)
    (data.toUInt32, rest)
  else if format = 2 then Message.getUdint (value.drop 1)
  else (3, value)

/-- The subtype of network segments for a production inhibit time in
milliseconds; no other subtype is accepted in a connection path. -/
def isProductionInhibitTimeSegment (message : Message) : Bool :=
  getPathSegmentType message = .networkSegment && message.byteAt 0 &&& 0x1F = 0x03

structure ElectronicKeyFormat4 where
  vendorId : UInt16
  deviceType : UInt16
  productCode : UInt16
  majorRevisionCompatibility : UInt8
  minorRevision : UInt8
deriving DecidableEq, Repr

def getElectronicKeyFormat4FromMessage (message : Message) :
    ElectronicKeyFormat4 × Message :=
  let (vendorId, message) := Message.getUint (message.drop 2)
  let (deviceType, message) := message.getUint
  let (productCode, message) := message.getUint
  let (majorRevisionCompatibility, message) := message.getUsint
  let (minorRevision, message) := message.getUsint
  ({ vendorId, deviceType, productCode, majorRevisionCompatibility, minorRevision },
    message)

/-- `CheckElectronicKeyData` for key format 4; an error is the extended status. -/
def checkElectronicKeyData (identity : Identity) (key : ElectronicKeyFormat4) :
    Except UInt16 Unit :=
  let compatibilityMode := key.majorRevisionCompatibility &&& 0x80 = 0x80
  let majorRevision := key.majorRevisionCompatibility &&& 0x7F
  if (key.vendorId ≠ identity.vendorId ∧ key.vendorId ≠ 0) ∨
      (key.productCode ≠ identity.productCode ∧ key.productCode ≠ 0) then
    .error ExtendedStatus.vendorIdOrProductcodeError
  else if key.deviceType ≠ identity.deviceType ∧ key.deviceType ≠ 0 then
    .error ExtendedStatus.deviceTypeError
  else if ¬compatibilityMode then
    if majorRevision = 0 then .ok ()
    else if majorRevision ≠ identity.majorRevision ∨
        (key.minorRevision ≠ identity.minorRevision ∧ key.minorRevision ≠ 0) then
      .error ExtendedStatus.revisionMismatch
    else .ok ()
  else if majorRevision = identity.majorRevision ∧ key.minorRevision > 0 ∧
      key.minorRevision ≤ identity.minorRevision then .ok ()
  else .error ExtendedStatus.revisionMismatch

/-- The locals and globals that `ParseConnectionPath` works on. `remaining_path`
is unsigned and wraps. -/
structure PathState where
  message : Message
  remainingPath : UInt64
  object : CipConnectionObject
  configData : Option (List UInt8)

/-- A failed parse keeps what it already wrote into the connection object. -/
structure PathFailure where
  generalStatus : UInt8
  extendedStatus : UInt16
  object : CipConnectionObject
  configData : Option (List UInt8)

namespace PathState

variable (s : PathState)

def fail {α : Type} (generalStatus : UInt8) (extendedStatus : UInt16) :
    Except PathFailure α :=
  .error { generalStatus, extendedStatus, object := s.object, configData := s.configData }

def parseElectronicKey (cfg : Config) : Except PathFailure PathState :=
  if isLogicalSegment s.message .special ∧ s.message.byteAt 0 &&& 0x03 = 0 ∧
      s.message.byteAt 1 = 0x04 then
    if s.remainingPath < 5 then s.fail GeneralStatus.notEnoughData 0
    else
      let (key, message) := getElectronicKeyFormat4FromMessage s.message
      let s := { s with
        message := message
        remainingPath := s.remainingPath - 5
        object := { s.object with electronicKeyFormat := 4 } }
      match checkElectronicKeyData cfg.identity key with
      | .ok () => .ok s
      | .error extendedStatus => s.fail GeneralStatus.connectionFailure extendedStatus
  else .ok s

/-- Only non-cyclic connections look for the segment in front of the class. -/
def parseProductionInhibitTime : PathState :=
  if s.object.productionTrigger ≠ .cyclic ∧ isProductionInhibitTimeSegment s.message then
    { s with
      message := s.message.drop 2
      remainingPath := s.remainingPath - 1
      object := { s.object with productionInhibitTime := (s.message.byteAt 1).toUInt16 } }
  else s

def parseClass (cfg : Config) :
    Except PathFailure (UInt32 × List UInt16 × PathState) :=
  if isLogicalSegment s.message .classId then
    let (classId, message) := cipEpathGetLogicalValue s.message
    match cfg.getCipClass classId with
    | none =>
        if classId ≥ 0xC8 then
          s.fail GeneralStatus.connectionFailure ExtendedStatus.invalidSegmentTypeInPath
        else
          s.fail GeneralStatus.connectionFailure
            ExtendedStatus.inconsistentApplicationPathCombo
    | some instances =>
        .ok (classId, instances,
          { s with message := message, remainingPath := s.remainingPath - 1 })
  else s.fail GeneralStatus.connectionFailure ExtendedStatus.invalidSegmentTypeInPath

/-- Words that an instance or connection point segment takes from the path. -/
def instanceWords (instanceId : UInt16) : UInt64 := if instanceId > 0xFF then 2 else 1

/-- The configuration instance; without the segment it stays zero. -/
def parseConfigurationInstance (instances : List UInt16) :
    Except PathFailure (UInt16 × PathState) :=
  if isLogicalSegment s.message .instanceId then
    let (value, message) := cipEpathGetLogicalValue s.message
    if value > 0xFFFF ∨ Config.getCipInstance instances value.toUInt16 = none then
      s.fail GeneralStatus.connectionFailure ExtendedStatus.invalidSegmentTypeInPath
    else
      .ok (value.toUInt16,
        { s with
          message := message
          remainingPath := s.remainingPath - instanceWords value.toUInt16 })
  else .ok (0, s)

/-- The end point of a class 3 connection is instance 1 of the message router. -/
def parseClass3EndPoint (classId : UInt32) (instanceId : UInt16) :
    Except PathFailure PathState :=
  if s.remainingPath > 0 then
    s.fail GeneralStatus.connectionFailure ExtendedStatus.invalidSegmentTypeInPath
  else if classId ≠ messageRouterClassCode ∨ instanceId ≠ 1 then
    s.fail GeneralStatus.connectionFailure ExtendedStatus.inconsistentApplicationPathCombo
  else
    let epath : ConnectionPathEpath := { classId, instanceId }
    .ok { s with object :=
      { s.object with configurationPath := epath, producedPath := epath } }

/-- Which path a connection point segment is written to. -/
inductive EncodedPath where
  | consumed
  | produced
deriving DecidableEq, Repr

def encodedPaths (c : CipConnectionObject) : List EncodedPath :=
  match c.oToTConnectionType, c.tToOConnectionType with
  | .null, .null => []
  | .null, _ => [.produced]
  | _, .null => [.consumed]
  | _, _ => [.consumed, .produced]

def setPath (path : EncodedPath) (epath : ConnectionPathEpath) : PathState :=
  match path with
  | .consumed => { s with object := { s.object with consumedPath := epath } }
  | .produced => { s with object := { s.object with producedPath := epath } }

def parseConnectionPoint (classId : UInt32) (instances : List UInt16)
    (path : EncodedPath) : Except PathFailure PathState :=
  if isLogicalSegment s.message .instanceId ∨ isLogicalSegment s.message .connectionPoint then
    let (value, message) := cipEpathGetLogicalValue s.message
    if value > 0xFFFF then
      s.fail GeneralStatus.connectionFailure ExtendedStatus.invalidSegmentTypeInPath
    else
      let s := s.setPath path { classId, instanceId := value.toUInt16 }
      if Config.getCipInstance instances value.toUInt16 = none then
        s.fail GeneralStatus.connectionFailure
          ExtendedStatus.inconsistentApplicationPathCombo
      else
        .ok { s with
          message := message
          remainingPath := s.remainingPath - instanceWords value.toUInt16 }
  else s.fail GeneralStatus.connectionFailure ExtendedStatus.invalidSegmentTypeInPath

def parseConnectionPoints (classId : UInt32) (instances : List UInt16) :
    List EncodedPath → PathState → Except PathFailure PathState
  | [], s => .ok s
  | path :: paths, s =>
      match s.parseConnectionPoint classId instances path with
      | .error e => .error e
      | .ok s => parseConnectionPoints classId instances paths s

/-- The loop over the rest of the path. Each turn that continues consumes two
bytes and zero bytes are a port segment, so as much fuel as the message has
bytes is never used up. -/
def parseConfigurationData (connectionPathSize : UInt64) :
    Nat → PathState → Except PathFailure PathState
  | fuel, s =>
    if s.remainingPath = 0 then .ok s
    else
      let offset := (connectionPathSize - s.remainingPath).toUInt16
      match fuel with
      | 0 => s.fail GeneralStatus.pathSegmentError offset
      | fuel + 1 =>
        match getPathSegmentType s.message with
        | .dataSegment =>
            if s.message.byteAt 0 &&& 0x1F = 0x00 then
              let words := (s.message.byteAt 1).toNat
              parseConfigurationData connectionPathSize fuel
                { s with
                  configData := some (Message.takeBytes (s.message.drop 2) (words * 2))
                  remainingPath := s.remainingPath - UInt64.ofNat (words + 1)
                  message := s.message.drop (words * 2 + 2) }
            else s.fail GeneralStatus.pathSegmentError 0
        | .networkSegment =>
            if s.message.byteAt 0 &&& 0x1F = 0x03 then
              if s.object.productionTrigger ≠ .cyclic then
                parseConfigurationData connectionPathSize fuel
                  { s with
                    object := { s.object with
                      productionInhibitTime := (s.message.byteAt 1).toUInt16 }
                    message := s.message.drop 2
                    remainingPath := s.remainingPath - 2 }
              else s.fail GeneralStatus.pathSegmentError offset
            else s.fail GeneralStatus.pathSegmentError 0
        | _ => s.fail GeneralStatus.pathSegmentError offset

/-- The I/O branch: configuration path, connection points, configuration data. -/
def parseIoEndPoints (connectionPathSize : UInt64) (classId : UInt32)
    (instanceId : UInt16) (instances : List UInt16) : Except PathFailure PathState :=
  let s := { s with object :=
    { s.object with
      configurationPath := { classId, instanceId }
      consumedConnectionPathLength := 0 } }
  match parseConnectionPoints classId instances (encodedPaths s.object) s with
  | .error e => .error e
  | .ok s =>
      parseConfigurationData connectionPathSize (s.message.length + 1)
        { s with configData := none }

/-- Everything after the length checks. -/
def parseSegments (cfg : Config) (connectionPathSize : UInt64) :
    Except PathFailure PathState :=
  match s.parseElectronicKey cfg with
  | .error e => .error e
  | .ok s =>
    match s.parseProductionInhibitTime.parseClass cfg with
    | .error e => .error e
    | .ok (classId, instances, s) =>
      match s.parseConfigurationInstance instances with
      | .error e => .error e
      | .ok (instanceId, s) =>
        if s.object.transportClass = .class3 then s.parseClass3EndPoint classId instanceId
        else s.parseIoEndPoints connectionPathSize classId instanceId instances

end PathState

def parseConnectionPath (cfg : Config) (message : Message) (requestDataSize : UInt64)
    (object : CipConnectionObject) (configData : Option (List UInt8)) :
    Except PathFailure PathState :=
  let (size, message) := message.getUsint
  let connectionPathSize := size.toUInt64
  let s : PathState := { message, remainingPath := connectionPathSize, object, configData }
  if connectionPathSize = 0 then s.fail GeneralStatus.statusError 0
  else
    let s := { s with object := { s.object with productionInhibitTime := 256 } }
    let headerLength : UInt64 := if object.isLargeForwardOpen then 40 else 36
    if headerLength + connectionPathSize * 2 < requestDataSize then
      s.fail GeneralStatus.tooMuchData 0
    else if headerLength + connectionPathSize * 2 > requestDataSize then
      s.fail GeneralStatus.notEnoughData 0
    else s.parseSegments cfg connectionPathSize

end Opener

import Opener.Library.BitTable
import Opener.Core.Encapsulation
import Opener.Core.AttributeValues

/-!
Attributes of the instances of a class, and the services of `cipcommon.c` that get and set
them. What the attributes point to is a state of any type, which the encode and decode
functions are given; an encode function that fails an assertion does not answer.
-/

namespace Opener

namespace CIPAttributeFlag

def notSetOrGetable : UInt8 := 0x00
def getableAll : UInt8 := 0x01
def getableSingle : UInt8 := 0x02
def setable : UInt8 := 0x04
def setAndGetAble : UInt8 := 0x07
def getableSingleAndAll : UInt8 := 0x03
def getableAllDummy : UInt8 := 0x08
def preGetFunc : UInt8 := 0x10
def postGetFunc : UInt8 := 0x20
def preSetFunc : UInt8 := 0x40
def postSetFunc : UInt8 := 0x80
def nvDataFunc : UInt8 := 0x80

end CIPAttributeFlag

/-- An attribute, with the object at its `data` pointer as the bytes from there; a slot of
the array that is not used is all zero. -/
structure CipAttributeStruct (σ : Type) where
  attributeNumber : UInt16 := 0
  type : CipDataType := .any
  encode : Option (CipAttributeEncodeInMessage σ) := none
  decode : Option (CipAttributeDecodeFromMessage σ) := none
  attributeFlags : UInt8 := 0
  data : Option (σ → Message) := none

def CipAttributeStruct.unused {σ : Type} : CipAttributeStruct σ := {}

def CipAttributeStruct.has {σ : Type} (attr : CipAttributeStruct σ) (flags : UInt8) :
    Bool :=
  attr.attributeFlags &&& flags != 0

structure CipInstance (σ : Type) where
  instanceNumber : UInt16
  attributes : List (CipAttributeStruct σ)

/-- A callback of a class, on the numbers of the instance and the attribute and the
service. -/
abbrev CipGetSetCallback (σ : Type) := UInt16 → UInt16 → UInt8 → σ → σ

structure CipClass (σ : Type) where
  highestAttributeNumber : UInt32
  getSingleBitMask : List UInt8
  setBitMask : List UInt8
  getAllBitMask : List UInt8
  instances : List (CipInstance σ)
  preGetCallback : Option (CipGetSetCallback σ) := none
  postGetCallback : Option (CipGetSetCallback σ) := none
  preSetCallback : Option (CipGetSetCallback σ) := none
  postSetCallback : Option (CipGetSetCallback σ) := none

def calculateIndex (attributeNumber : UInt16) : Nat := attributeNumber.toNat / 8

section Insert

variable {σ : Type}

/-- The instances of a new class, with the masks of `AllocateAttributeMasks`. -/
def createCipClass (numberOfAttributes : Nat) (highestAttributeNumber : UInt32)
    (instanceNumbers : List UInt16) : CipClass σ :=
  let size := 1 + calculateIndex highestAttributeNumber.toUInt16
  { highestAttributeNumber
    getSingleBitMask := List.replicate size 0
    setBitMask := List.replicate size 0
    getAllBitMask := List.replicate size 0
    instances := instanceNumbers.map fun instanceNumber =>
      { instanceNumber, attributes := List.replicate numberOfAttributes .unused } }

def CipClass.getCipInstance (cipClass : CipClass σ) (instanceNumber : UInt16) :
    Option (CipInstance σ) :=
  cipClass.instances.find? fun inst => inst.instanceNumber = instanceNumber

/-- The first slot without data is filled. -/
def fillSlot (attr : CipAttributeStruct σ) :
    List (CipAttributeStruct σ) → Option (List (CipAttributeStruct σ))
  | [] => none
  | slot :: slots =>
      if slot.data.isNone then some (attr :: slots)
      else (fillSlot attr slots).map (slot :: ·)

/-- The slots of one instance replaced. -/
def CipClass.setAttributes (cipClass : CipClass σ) (instanceNumber : UInt16)
    (attributes : List (CipAttributeStruct σ)) : CipClass σ :=
  { cipClass with
    instances := cipClass.instances.map fun inst =>
      if inst.instanceNumber = instanceNumber then { inst with attributes }
      else inst }

/-- `InsertAttribute` on an instance of the class. The permissions go to the masks of the
class. -/
def insertAttribute (cipClass : CipClass σ) (instanceNumber : UInt16)
    (attr : CipAttributeStruct σ) : Except Fault (CipClass σ) :=
  match cipClass.getCipInstance instanceNumber with
  | none => .error .nullDereference
  | some inst =>
      if attr.data.isNone then .error .assertionFailed
      else
        match fillSlot attr inst.attributes with
        | none => .error .assertionFailed
        | some attributes =>
            let number := attr.attributeNumber
            if ¬number.toUInt32 ≤ cipClass.highestAttributeNumber then
              .error .assertionFailed
            else if ¬calculateIndex number < cipClass.getSingleBitMask.length then
              .error .outOfBounds
            else
              .ok { cipClass.setAttributes instanceNumber attributes with
                getSingleBitMask := BitTable.mark cipClass.getSingleBitMask number.toNat
                  (attr.has CIPAttributeFlag.getableSingle)
                getAllBitMask := BitTable.mark cipClass.getAllBitMask number.toNat
                  (attr.has
                    (CIPAttributeFlag.getableAll ||| CIPAttributeFlag.getableAllDummy))
                setBitMask := BitTable.mark cipClass.setBitMask number.toNat
                  (attr.has CIPAttributeFlag.setable) }

def insertGetSetCallback (cipClass : CipClass σ) (callback : CipGetSetCallback σ)
    (callbacksToInstall : UInt8) : CipClass σ :=
  let install (flags : UInt8) (installed : Option (CipGetSetCallback σ)) :=
    if callbacksToInstall &&& flags ≠ 0 then some callback else installed
  { cipClass with
    preGetCallback := install CIPAttributeFlag.preGetFunc cipClass.preGetCallback
    postGetCallback := install CIPAttributeFlag.postGetFunc cipClass.postGetCallback
    preSetCallback := install CIPAttributeFlag.preSetFunc cipClass.preSetCallback
    postSetCallback :=
      install (CIPAttributeFlag.postSetFunc ||| CIPAttributeFlag.nvDataFunc)
        cipClass.postSetCallback }

/-- The calls that set up a class. -/
inductive ClassSetup (σ : Type) where
  | insertAttribute (instanceNumber : UInt16) (attr : CipAttributeStruct σ)
  | insertGetSetCallback (callback : CipGetSetCallback σ) (callbacksToInstall : UInt8)

def setUpClass (cipClass : CipClass σ) :
    List (ClassSetup σ) → Except Fault (CipClass σ)
  | [] => .ok cipClass
  | .insertAttribute instanceNumber attr :: calls => do
      let cipClass ← insertAttribute cipClass instanceNumber attr
      setUpClass cipClass calls
  | .insertGetSetCallback callback callbacksToInstall :: calls =>
      setUpClass (insertGetSetCallback cipClass callback callbacksToInstall) calls

end Insert

section Single

variable {σ : Type}

def getCipAttribute (inst : CipInstance σ) (attributeNumber : UInt16) :
    Option (CipAttributeStruct σ) :=
  inst.attributes.find? fun attr => attr.attributeNumber = attributeNumber

/-- A callback of the class, when the attribute asks for it. -/
def callBack (callback : Option (CipGetSetCallback σ)) (flags : UInt8)
    (inst : CipInstance σ) (attr : CipAttributeStruct σ) (service : UInt8)
    (state : σ) : σ :=
  match callback with
  | some callback =>
      if attr.has flags then
        callback inst.instanceNumber attr.attributeNumber service state
      else state
  | none => state

/-- `GenerateGetAttributeSingleHeader` and `GenerateSetAttributeSingleHeader`. -/
def attributeSingleHeader (request : MessageRouterRequest) : MessageRouterResponse :=
  { replyService := 0x80 ||| request.service
    generalStatus := GeneralStatus.attributeNotSupported }

def getAttributeSingle (cipClass : CipClass σ) (inst : CipInstance σ)
    (attributeNumber : UInt16) (request : MessageRouterRequest) (state : σ) :
    Except Fault (MessageRouterResponse × σ) :=
  let header := attributeSingleHeader request
  match getCipAttribute inst attributeNumber with
  | none => .ok (header, state)
  | some attr =>
      if attr.data.isNone then .ok (header, state)
      else if BitTable.test cipClass.getSingleBitMask attributeNumber.toNat then
        match attr.encode with
        | none => .error .nullFunctionCall
        | some encode =>
            let state := callBack cipClass.preGetCallback CIPAttributeFlag.preGetFunc inst
              attr request.service state
            .ok ({ header with
                generalStatus := GeneralStatus.success
                message := encode state 0 },
              callBack cipClass.postGetCallback CIPAttributeFlag.postGetFunc inst attr
                request.service state)
      else .ok (header, state)

/-- The decode function of an attribute between the callbacks of the class. -/
def decodeAttribute (cipClass : CipClass σ) (inst : CipInstance σ)
    (attr : CipAttributeStruct σ) (decode : CipAttributeDecodeFromMessage σ)
    (request : MessageRouterRequest) (state : σ) : UInt8 × σ :=
  let state := callBack cipClass.preSetCallback CIPAttributeFlag.preSetFunc inst attr
    request.service state
  let decoded := decode state request
  (decoded.generalStatus, callBack cipClass.postSetCallback
    (CIPAttributeFlag.postSetFunc ||| CIPAttributeFlag.nvDataFunc) inst attr
    request.service decoded.data)

/-- Some attributes are refused by their flags, the others by the mask of the class. -/
def setAttributeSingle (cipClass : CipClass σ) (inst : CipInstance σ)
    (attributeNumber : UInt16) (request : MessageRouterRequest) (state : σ) :
    Except Fault (MessageRouterResponse × σ) :=
  let header := attributeSingleHeader request
  match getCipAttribute inst attributeNumber with
  | none => .ok (header, state)
  | some attr =>
      if attr.data.isNone then .ok (header, state)
      else if attr.attributeFlags = CIPAttributeFlag.getableAllDummy ∨
          attr.attributeFlags = CIPAttributeFlag.notSetOrGetable ∨
          attr.attributeFlags = CIPAttributeFlag.getableAll then
        .ok (header, state)
      else if BitTable.test cipClass.setBitMask attributeNumber.toNat then
        match attr.decode with
        | none => .error .nullFunctionCall
        | some decode =>
            let (generalStatus, state) :=
              decodeAttribute cipClass inst attr decode request state
            .ok ({ header with generalStatus }, state)
      else .ok ({ header with generalStatus := GeneralStatus.attributeNotSetable }, state)

/-- The loop of `GetAttributeAll`, behind what is in the message already. -/
def encodeAttributes (cipClass : CipClass σ) (state : σ) :
    List (CipAttributeStruct σ) → List UInt8 → Except Fault (List UInt8)
  | [], message => .ok message
  | attr :: attributes, message =>
      if BitTable.test cipClass.getAllBitMask attr.attributeNumber.toNat then
        match attr.encode with
        | none => .error .nullFunctionCall
        | some encode =>
            encodeAttributes cipClass state attributes (message ++ encode state message.length)
      else encodeAttributes cipClass state attributes message

/-- The attribute numbers that the loop writes to the request path are not read again. -/
def getAttributeAll (cipClass : CipClass σ) (numberOfAttributes : Nat) (inst : CipInstance σ)
    (request : MessageRouterRequest) (state : σ) :
    Except Fault (MessageRouterResponse × σ) :=
  if numberOfAttributes = 0 then
    .ok ({ replyService := 0x80 ||| request.service
           generalStatus := GeneralStatus.serviceNotSupported }, state)
  else if inst.attributes.length < numberOfAttributes then .error .outOfBounds
  else
    match encodeAttributes cipClass state (inst.attributes.take numberOfAttributes) [] with
    | .error fault => .error fault
    | .ok message =>
        .ok ({ attributeSingleHeader request with
          generalStatus := GeneralStatus.success
          message }, state)

end Single

section Lists

variable {σ : Type}

/-- An attribute in the reply of a list service. -/
structure AttributeRecord where
  attributeNumber : UInt16
  attributeStatus : UInt8
  attributeData : List UInt8 := []
deriving DecidableEq, Repr

def AttributeRecord.bytes (record : AttributeRecord) : List UInt8 :=
  intBytes record.attributeNumber ++ sintBytes record.attributeStatus ++ sintBytes 0 ++
    record.attributeData

/-- What the loop of a list service goes on with. The cursor is a position in the buffer
that holds the request. -/
structure ListState (σ : Type) where
  cursor : UInt64
  state : σ
  usedMessageLength : Nat
  generalStatus : UInt8

inductive ListExit where
  | complete
  | partialTransfer
  | earlyReturn
deriving DecidableEq, Repr

/-- The length of the attribute's data, for an unknown attribute two bytes, as a signed
number. -/
def neededMessageSpace (attr : Option (CipAttributeStruct σ)) (state : σ) : Int :=
  match attr with
  | some attr =>
      (getCipDataTypeLength attr.type
        (attr.data.map fun data => data state)).toInt64.toInt
  | none => 2

/-- 33 bytes are kept for the rest of the message. -/
def remainingMessageSpace (usedMessageLength : Nat) : Int :=
  (ethernetBufferSize : Int) - usedMessageLength - 33

/-- What a list service does with an attribute that it found: the record, and whether it
returns at once. -/
abbrev ListService (σ : Type) :=
  CipAttributeStruct σ → UInt16 → ListState σ →
    Except Fault (AttributeRecord × ListState σ × Bool)

/-- The record for a number, which may be that of no attribute. -/
def serveAttribute (serve : ListService σ) (inst : CipInstance σ) (attributeNumber : UInt16)
    (s : ListState σ) : Except Fault (AttributeRecord × ListState σ × Bool) :=
  match getCipAttribute inst attributeNumber with
  | some attr => serve attr attributeNumber s
  | none =>
      .ok ({ attributeNumber, attributeStatus := GeneralStatus.attributeNotSupported },
        { s with generalStatus := GeneralStatus.attributeListError }, false)

/-- The loop of a list service over the numbers that are left. -/
def attributeListLoop (serve : ListService σ) (inst : CipInstance σ)
    (buffer : Message) :
    Nat → ListState σ → Except Fault (List AttributeRecord × ListState σ × ListExit)
  | 0, s => .ok ([], s, .complete)
  | count + 1, s =>
      let attributeNumber := (Message.getUint (buffer.drop s.cursor.toNat)).1
      let s := { s with cursor := s.cursor + 2 }
      if neededMessageSpace (getCipAttribute inst attributeNumber) s.state >
          remainingMessageSpace s.usedMessageLength then
        let generalStatus :=
          if s.generalStatus ≠ GeneralStatus.attributeListError then
            GeneralStatus.partialTransfer
          else s.generalStatus
        .ok ([], { s with generalStatus }, .partialTransfer)
      else do
        let (record, s, returns) ← serveAttribute serve inst attributeNumber s
        let s := { s with usedMessageLength := s.usedMessageLength + record.bytes.length }
        if returns then
          return ([record], s, .earlyReturn)
        else
          let (records, s, exit) ← attributeListLoop serve inst buffer count s
          return (record :: records, s, exit)

/-- The reply of a list service, with the records in its message. -/
structure ListReply (σ : Type) where
  response : MessageRouterResponse
  records : List AttributeRecord
  state : σ

/-- A list service. The bytes in front of the request data in the receive buffer can be
reached when the cursor is moved back. The count is the one of the request; it is not
written when the service returns early. -/
def attributeList (serve : ListService σ) (inst : CipInstance σ) (front : List UInt8)
    (request : MessageRouterRequest) (state : σ) : Except Fault (ListReply σ) :=
  let header : MessageRouterResponse := { replyService := 0x80 ||| request.service }
  let attributeCountRequest := request.data.getUint.1
  if attributeCountRequest ≠ 0 then do
    let (records, s, exit) ← attributeListLoop serve inst (front ++ request.data)
      attributeCountRequest.toNat
      { cursor := UInt64.ofNat (front.length + 2)
        state
        usedMessageLength := 2
        generalStatus := GeneralStatus.success }
    let attributeCount := if exit = .earlyReturn then 0 else attributeCountRequest
    return {
      response := { header with
        generalStatus := s.generalStatus
        message := intBytes attributeCount ++ records.flatMap AttributeRecord.bytes }
      records
      state := s.state }
  else
    .ok {
      response := { header with generalStatus := GeneralStatus.attributeListError }
      records := []
      state }

/-- The part of `GetAttributeList` for an attribute that it found. -/
def getListedAttribute (cipClass : CipClass σ) : ListService σ :=
  fun attr attributeNumber s =>
    if BitTable.test cipClass.getSingleBitMask attributeNumber.toNat then
      match attr.encode with
      | none => .error .nullFunctionCall
      | some encode =>
          .ok ({ attributeNumber
                 attributeStatus := GeneralStatus.success
                 attributeData := encode s.state (s.usedMessageLength + 4) }, s, false)
    else
      .ok ({ attributeNumber, attributeStatus := GeneralStatus.attributeNotGettable },
        { s with generalStatus := GeneralStatus.attributeListError }, false)

def getAttributeList (cipClass : CipClass σ) (inst : CipInstance σ)
    (front : List UInt8) (request : MessageRouterRequest) (state : σ) :
    Except Fault (ListReply σ) :=
  attributeList (getListedAttribute cipClass) inst front request state

/-- The part of `SetAttributeList` for an attribute that it found. The status of the record
is written before the value is decoded, and the value of an attribute that is not settable
is skipped. -/
def setListedAttribute (cipClass : CipClass σ) (buffer : Message)
    (request : MessageRouterRequest) : ListService σ :=
  fun attr attributeNumber s =>
    let data := buffer.drop s.cursor.toNat
    if BitTable.test cipClass.setBitMask attributeNumber.toNat then
      match attr.decode with
      | none => .error .nullFunctionCall
      | some decode =>
          let decoded := decode s.state { request with data }
          .ok ({ attributeNumber, attributeStatus := GeneralStatus.success },
            { s with
              cursor := s.cursor + UInt64.ofNat decoded.moved
              state := decoded.data
              generalStatus := decoded.generalStatus }, false)
    else
      let record : AttributeRecord :=
        { attributeNumber, attributeStatus := GeneralStatus.attributeNotSetable }
      let attributeDataLength := getCipDataTypeLength attr.type (some data)
      if attributeDataLength ≠ 0 then
        .ok (record,
          { s with
            cursor := s.cursor + attributeDataLength
            generalStatus := GeneralStatus.attributeListError }, false)
      else
        .ok (record, { s with generalStatus := GeneralStatus.partialTransfer }, true)

def setAttributeList (cipClass : CipClass σ) (inst : CipInstance σ)
    (front : List UInt8) (request : MessageRouterRequest) (state : σ) :
    Except Fault (ListReply σ) :=
  attributeList (setListedAttribute cipClass (front ++ request.data) request) inst front
    request state

end Lists

end Opener

import Opener.Core.Attributes

/-!
The quality of service object of `cipqos.c`: the DSCP values and the attributes that set
them.
-/

namespace Opener

structure CipQosDscpValues where
  event : UInt8
  general : UInt8
  urgent : UInt8
  scheduled : UInt8
  high : UInt8
  low : UInt8
  explicitMsg : UInt8
deriving DecidableEq, Repr

/-- The values of `CipQosResetAttributesToDefaultValues`. -/
def CipQosDscpValues.defaults : CipQosDscpValues :=
  { event := 59
    general := 47
    urgent := 55
    scheduled := 47
    high := 43
    low := 31
    explicitMsg := 27 }

/-- The values that are settable, attributes 4 to 8. -/
inductive QosAttribute where
  | urgent
  | scheduled
  | high
  | low
  | explicitMsg
deriving DecidableEq, Repr

namespace QosAttribute

def attributeNumber : QosAttribute → UInt16
  | .urgent => 4
  | .scheduled => 5
  | .high => 6
  | .low => 7
  | .explicitMsg => 8

def get (dscp : CipQosDscpValues) : QosAttribute → UInt8
  | .urgent => dscp.urgent
  | .scheduled => dscp.scheduled
  | .high => dscp.high
  | .low => dscp.low
  | .explicitMsg => dscp.explicitMsg

def set (value : UInt8) (dscp : CipQosDscpValues) : QosAttribute → CipQosDscpValues
  | .urgent => { dscp with urgent := value }
  | .scheduled => { dscp with scheduled := value }
  | .high => { dscp with high := value }
  | .low => { dscp with low := value }
  | .explicitMsg => { dscp with explicitMsg := value }

end QosAttribute

/-- The branch for too little data asks for the address of the cursor, which is never
`NULL`. -/
def decodeCipQoSAttribute (attr : QosAttribute) :
    CipAttributeDecodeFromMessage CipQosDscpValues := fun dscp request =>
  let attributeValueReceived := request.data.getUsint.1
  if attributeValueReceived < 64 then
    { data := attr.set attributeValueReceived dscp
      moved := 1
      generalStatus := GeneralStatus.success
      numberOfDecodedBytes := 1 }
  else
    { data := dscp
      moved := 1
      generalStatus := GeneralStatus.invalidAttributeValue
      numberOfDecodedBytes := -1 }

def qosAttribute (attr : QosAttribute) : CipAttributeStruct CipQosDscpValues :=
  { attributeNumber := attr.attributeNumber
    type := .usint
    encode := some fun dscp _ => sintBytes (attr.get dscp)
    decode := some (decodeCipQoSAttribute attr)
    attributeFlags := CIPAttributeFlag.getableSingle ||| CIPAttributeFlag.setable |||
      CIPAttributeFlag.nvDataFunc
    data := some fun dscp => sintBytes (attr.get dscp) }

/-- The insertion of the settable attributes in `CipQoSInit`. -/
def insertQosAttributes : List (ClassSetup CipQosDscpValues) :=
  [.urgent, .scheduled, .high, .low, .explicitMsg].map fun attr =>
    .insertAttribute 1 (qosAttribute attr)

/-- The PostSetCallback of the sample application. The values are written to a file and
stay as they are. -/
def nvQosSetCallback : CipGetSetCallback CipQosDscpValues := fun _ _ _ dscp => dscp

end Opener

import Opener.Core.Attributes
import Opener.Core.State

/-!
The assembly class of `cipassembly.c`: its data as an attribute, and the callbacks that
tell the application.
-/

namespace Opener

/-- The buffers of the assembly objects, and the instances for which the application was
told of new data, the last one at the end. -/
structure CipAssembly where
  data : UInt16 → List UInt8
  received : List UInt16

namespace CipAssembly

variable (env : Environment) (instanceNumber : UInt16)

/-- `AfterAssemblyDataReceived`, which the application implements. -/
def afterAssemblyDataReceived (assembly : CipAssembly) : EipStatus × CipAssembly :=
  let (status, data) := env.afterAssemblyDataReceived instanceNumber assembly.data
  (status, { data, received := assembly.received ++ [instanceNumber] })

/-- `BeforeAssemblyDataSend`, which the application implements. -/
def beforeAssemblyDataSend (assembly : CipAssembly) : Bool × CipAssembly :=
  let (changed, data) := env.beforeAssemblyDataSend instanceNumber assembly.data
  (changed, { assembly with data })

end CipAssembly

variable (env : Environment)

/-- The data is taken as a whole, and has been written when the application refuses it. -/
def decodeCipAssemblyAttribute3 (instanceNumber : UInt16) :
    CipAttributeDecodeFromMessage CipAssembly := fun assembly request =>
  let length := (assembly.data instanceNumber).length
  if request.requestDataSize.toNat < length then
    { data := assembly
      moved := 0
      generalStatus := GeneralStatus.notEnoughData
      numberOfDecodedBytes := -1 }
  else if request.requestDataSize.toNat > length then
    { data := assembly
      moved := 0
      generalStatus := GeneralStatus.tooMuchData
      numberOfDecodedBytes := -1 }
  else
    let written := { assembly with
      data := Function.update assembly.data instanceNumber (request.data.takeBytes length) }
    let (status, told) := written.afterAssemblyDataReceived env instanceNumber
    { data := told
      moved := 0
      generalStatus :=
        if status ≠ .ok then GeneralStatus.invalidAttributeValue else GeneralStatus.success
      numberOfDecodedBytes := length }

def assemblyPreGetCallback : CipGetSetCallback CipAssembly :=
  fun instanceNumber _ _ assembly => (assembly.beforeAssemblyDataSend env instanceNumber).2

def assemblyPostSetCallback : CipGetSetCallback CipAssembly :=
  fun instanceNumber _ _ assembly => (assembly.afterAssemblyDataReceived env instanceNumber).2

def assemblyAttribute3 (instanceNumber : UInt16) : CipAttributeStruct CipAssembly :=
  { attributeNumber := 3
    type := .byteArray
    encode := some fun assembly _ => assembly.data instanceNumber
    decode := some (decodeCipAssemblyAttribute3 env instanceNumber)
    attributeFlags := CIPAttributeFlag.setAndGetAble ||| CIPAttributeFlag.preGetFunc |||
      CIPAttributeFlag.postSetFunc
    data := some fun assembly =>
      intBytes (UInt16.ofNat (assembly.data instanceNumber).length) }

/-- The number of bytes in attribute 3. -/
def assemblyAttribute4 (instanceNumber : UInt16) : CipAttributeStruct CipAssembly :=
  { attributeNumber := 4
    type := .uint
    encode := some fun assembly _ =>
      intBytes (UInt16.ofNat (assembly.data instanceNumber).length)
    attributeFlags := CIPAttributeFlag.getableSingle
    data := some fun assembly =>
      intBytes (UInt16.ofNat (assembly.data instanceNumber).length) }

/-- The calls of `CreateAssemblyClass` and of `CreateAssemblyObject` for the instances. -/
def setUpAssemblies (instanceNumbers : List UInt16) : List (ClassSetup CipAssembly) :=
  [.insertGetSetCallback (assemblyPreGetCallback env) CIPAttributeFlag.preGetFunc,
    .insertGetSetCallback (assemblyPostSetCallback env) CIPAttributeFlag.postSetFunc] ++
  instanceNumbers.flatMap fun instanceNumber =>
    [.insertAttribute instanceNumber (assemblyAttribute3 env instanceNumber),
      .insertAttribute instanceNumber (assemblyAttribute4 instanceNumber)]

/-- The assembly class with these instances. -/
def createAssemblies (instanceNumbers : List UInt16) : Except Fault (CipClass CipAssembly) :=
  setUpClass (createCipClass 2 4 instanceNumbers) (setUpAssemblies env instanceNumbers)

end Opener

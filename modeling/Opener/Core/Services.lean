import Opener.Core.Types

/-!
The services of a class of `cipcommon.c` and the search for the one that a request asks for.
A service function is a value of any type: what is called counts here, not what it does.
-/

namespace Opener

/-- An entry of the service array; `none` is `NULL`. -/
structure CipServiceStruct (φ : Type) where
  serviceNumber : UInt8
  serviceFunction : Option φ
deriving DecidableEq, Repr

variable {φ : Type}

/-- The array as `CreateCipClass` allocates it. -/
def allocateServices (numberOfServices : Nat) : List (CipServiceStruct φ) :=
  List.replicate numberOfServices { serviceNumber := 0, serviceFunction := none }

/-- The first slot with the number or without a function is filled. -/
def insertService (serviceNumber : UInt8) (serviceFunction : φ) :
    List (CipServiceStruct φ) → Except Fault (List (CipServiceStruct φ))
  | [] => .error .assertionFailed
  | service :: services =>
      if service.serviceNumber = serviceNumber ∨ service.serviceFunction.isNone then
        .ok ({ serviceNumber, serviceFunction := some serviceFunction } :: services)
      else (insertService serviceNumber serviceFunction services).map (service :: ·)

/-- A sequence of calls of `InsertService`. -/
def insertServices (inserted : List (UInt8 × φ)) (services : List (CipServiceStruct φ)) :
    Except Fault (List (CipServiceStruct φ)) :=
  inserted.foldlM (fun services service => insertService service.1 service.2 services) services

/-- What becomes of a request: a function is called, or it is answered with a status. -/
inductive Notified (φ : Type) where
  | called (serviceFunction : φ)
  | refused (generalStatus : UInt8)
deriving DecidableEq, Repr

/-- The loop of `NotifyClass` over the services. -/
def searchServices (service : UInt8) : List (CipServiceStruct φ) → Except Fault (Notified φ)
  | [] => .ok (.refused GeneralStatus.serviceNotSupported)
  | slot :: services =>
      if service = slot.serviceNumber then
        match slot.serviceFunction with
        | none => .error .assertionFailed
        | some serviceFunction => .ok (.called serviceFunction)
      else searchServices service services

/-- What `NotifyClass` reads of a class: the numbers of its instances, their services, and
those of the class itself, which are the ones of the metaclass. -/
structure ServicedClass (φ : Type) where
  instanceNumbers : List UInt16
  services : List (CipServiceStruct φ)
  metaServices : List (CipServiceStruct φ)
deriving DecidableEq, Repr

namespace ServicedClass

/-- The services of what `GetCipInstance` finds, where 0 is the class. -/
def servicesOf (cipClass : ServicedClass φ) (instanceNumber : UInt16) :
    Option (List (CipServiceStruct φ)) :=
  if instanceNumber = 0 then some cipClass.metaServices
  else if instanceNumber ∈ cipClass.instanceNumbers then some cipClass.services
  else none

def notifyClass (cipClass : ServicedClass φ) (instanceNumber : UInt16) (service : UInt8) :
    Except Fault (Notified φ) :=
  match cipClass.servicesOf instanceNumber with
  | none => .ok (.refused GeneralStatus.pathDestinationUnknown)
  | some services => searchServices service services

end ServicedClass

end Opener

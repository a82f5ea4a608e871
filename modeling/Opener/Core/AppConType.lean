import Opener.Core.Closing

/-!
The application connection types of `appcontype.c`: which pool object a Forward
Open gets. Each search is split into the choice it makes, which only reads, and
the close of a timed-out connection that the choice may ask for.
-/

namespace Opener

/-- What a pool search returns: no object with an extended status, an object
that can be used at once, or one whose timed-out connection is closed first. -/
inductive Lookup where
  | notFound (extendedError : UInt16)
  | free (r : ConnRef)
  | replace (r : ConnRef)
deriving DecidableEq, Repr

namespace StackState

variable (cfg : Config) (st : StackState)

def exclusiveOwnerPointMatches (c : CipConnectionObject) (i : Nat) : Bool :=
  (cfg.exclusiveOwnerPoint i).outputAssembly = c.consumedPath.instanceId.toUInt32 &&
    (cfg.exclusiveOwnerPoint i).inputAssembly = c.producedPath.instanceId.toUInt32 &&
    (cfg.exclusiveOwnerPoint i).configAssembly = c.configurationPath.instanceId.toUInt32

/-- When the owner has timed out it is the object of the matching point that is
closed and reused, which need not be the owner that was found. -/
def getExclusiveOwnerConnection : Lookup :=
  match (List.range cfg.numExclusiveOwnerConns).find?
      (exclusiveOwnerPointMatches cfg st.dummy) with
  | none => .notFound ExtendedStatus.success
  | some i =>
      match st.getConnectedOutputAssembly cfg st.dummy.producedPath.instanceId with
      | none => .free (.exclusiveOwner i)
      | some owner =>
          if (st.conn owner).state = .established then
            .notFound ExtendedStatus.ownershipConflict
          else if (st.conn owner).state = .timedOut ∧
              st.dummy.equalOriginator (st.conn owner) then
            .replace (.exclusiveOwner i)
          else .notFound ExtendedStatus.ownershipConflict

/-- The loop over the connection points that input-only and listen-only
searches share. A point with the right output only leaves an error behind. -/
def searchConnectionPoints (point : Nat → ConnectionPoint) (c : CipConnectionObject)
    (select : Nat → Lookup) : List Nat → UInt16 → Lookup
  | [], err => .notFound err
  | i :: rest, err =>
      if (point i).outputAssembly ≠ c.consumedPath.instanceId.toUInt32 then
        searchConnectionPoints point c select rest err
      else if (point i).inputAssembly ≠ c.producedPath.instanceId.toUInt32 then
        searchConnectionPoints point c select rest
          ExtendedStatus.invalidProducingApplicationPath
      else if (point i).configAssembly ≠ c.configurationPath.instanceId.toUInt32 then
        searchConnectionPoints point c select rest
          ExtendedStatus.inconsistentApplicationPathCombo
      else select i

/-- The two loops over the objects of one connection point. -/
def selectConnection (slot : Nat → ConnRef) (count : Nat) : Lookup :=
  match (List.range count).find? fun j =>
      (st.conn (slot j)).state = .timedOut &&
        st.dummy.equalOriginator (st.conn (slot j)) with
  | some j => .replace (slot j)
  | none =>
      match (List.range count).find? fun j => (st.conn (slot j)).state = .nonExistent with
      | some j => .free (slot j)
      | none => .notFound ExtendedStatus.targetObjectOutOfConnections

def getInputOnlyConnection : Lookup :=
  searchConnectionPoints cfg.inputOnlyPoint st.dummy
    (fun i => st.selectConnection (.inputOnly i) cfg.numInputOnlyConnsPerConPath)
    (List.range cfg.numInputOnlyConns) 0

/-- A listen-only connection needs an existing producer of its input, be it
multicast or point to point. -/
def getListenOnlyConnection : Lookup :=
  searchConnectionPoints cfg.listenOnlyPoint st.dummy
    (fun i =>
      if (st.getExistingProducerIoConnection cfg false
          st.dummy.producedPath.instanceId).isNone then
        .notFound ExtendedStatus.nonListenOnlyConnectionNotOpened
      else st.selectConnection (.listenOnly i) cfg.numListenOnlyConnsPerConPath)
    (List.range cfg.numListenOnlyConns) 0

/-- The three searches in turn, with the instance type that
`GetIoConnectionForConnectionData` gives the request. A listen-only search that
fails with an error still sets the type. -/
def ioConnectionLookup : Lookup × ConnectionObjectInstanceType :=
  match st.getExclusiveOwnerConnection cfg with
  | .notFound exclusiveOwnerError =>
      if exclusiveOwnerError ≠ ExtendedStatus.success then
        (.notFound exclusiveOwnerError, st.dummy.instanceType)
      else
        match st.getInputOnlyConnection cfg with
        | .notFound inputOnlyError =>
            if inputOnlyError ≠ ExtendedStatus.success then
              (.notFound inputOnlyError, st.dummy.instanceType)
            else
              match st.getListenOnlyConnection cfg with
              | .notFound listenOnlyError =>
                  if listenOnlyError = ExtendedStatus.success then
                    (.notFound ExtendedStatus.inconsistentApplicationPathCombo,
                      st.dummy.instanceType)
                  else (.notFound listenOnlyError, .ioListenOnly)
              | found => (found, .ioListenOnly)
        | found => (found, .ioInputOnly)
  | found => (found, .ioExclusiveOwner)

/-- `GetIoConnectionForConnectionData` up to the copy: the object found, after
its timed-out connection was closed, or the extended status. -/
def resolveIoConnection : Except Fault (Except UInt16 ConnRef × StackState) :=
  let (lookup, instanceType) := st.ioConnectionLookup cfg
  let typed (s : StackState) : StackState :=
    { s with dummy := { s.dummy with instanceType := instanceType } }
  match lookup with
  | .notFound extendedError => .ok (.error extendedError, typed st)
  | .free r => .ok (.ok r, typed st)
  | .replace r =>
      match st.connectionCloseFunction cfg r with
      | .error fault => .error fault
      | .ok st => .ok (.ok r, typed st)

/-- `ConnectionObjectDeepCopy` from the request. -/
def deepCopyDummy (r : ConnRef) : StackState :=
  setConn { st with events := st.events ++
    [.copied r ((st.connectionList cfg).contains r)] } r st.dummy

def getFreeExplicitConnection : Option ConnRef :=
  ((List.range cfg.numExplicitConns).find? fun i =>
    (st.conn (.explicit i)).state = .nonExistent).map ConnRef.explicit

end StackState

end Opener

import Mathlib.Data.List.Find
import Opener.Metatheory.Opening

/-!
Establishing a connection, from the choice of a pool object to its place at the
head of the list. `Opens` says how the table changes when an I/O connection is
established.
-/

namespace Opener

open CipConnectionObject (settled_field)

theorem idle_of_settled {c d : CipConnectionObject} (h : d.settled = c.settled)
    (hc : Idle c) : Idle d := by
  have hstate : d.state = c.state := settled_field h (·.state) fun _ => rfl
  have hclose : d.connectionCloseFunction = c.connectionCloseFunction :=
    settled_field h (·.connectionCloseFunction) fun _ => rfl
  have hsocket : d.producingSocket = c.producingSocket :=
    settled_field h (·.producingSocket) fun _ => rfl
  exact ⟨hstate ▸ hc.state, hclose ▸ hsocket ▸ hc.close⟩

theorem idle_prepared {cfg : Config} {c : CipConnectionObject} (hc : c.state = .nonExistent)
    (inhibitTime connectionId : UInt16) :
    Idle (c.prepared cfg inhibitTime connectionId) :=
  ⟨hc, .inr rfl⟩

namespace CipConnectionObject

/-- The object without what opening the producing channel and listing it set. -/
def bare (c : CipConnectionObject) : CipConnectionObject :=
  { c with
    state := .nonExistent
    cipProducedConnectionId := 0
    producingSocket := 0
    remoteAddress := {} }

theorem bare_field {β : Type} {c d : CipConnectionObject} (h : d.bare = c.bare)
    (f : CipConnectionObject → β) (hf : ∀ c, f c.bare = f c) : f d = f c := by
  rw [← hf d, h, hf c]

def triad (c : CipConnectionObject) : UInt16 × UInt16 × UInt32 :=
  (c.connectionSerialNumber, c.originatorVendorId, c.originatorSerialNumber)

/-- What a request fixes, that is, the object without what opening it sets. -/
def terms (c : CipConnectionObject) : CipConnectionObject :=
  { c.settled with
    state := .nonExistent
    instanceType := .explicitMessaging
    cipConsumedConnectionId := 0
    cipProducedConnectionId := 0
    producingSocket := 0
    remoteAddress := {}
    productionInhibitTime := 0
    productionInhibitTimer := 0
    transmissionTriggerTimer := 0
    sequenceCountProducing := 0
    sequenceCountConsuming := 0
    eipLevelSequenceCountProducing := 0
    eipLevelSequenceCountConsuming := 0
    eipFirstLevelSequenceCountReceived := false
    connectionCloseFunction := none
    connectionTimeoutFunction := none
    connectionSendDataFunction := none
    connectionReceiveDataFunction := none }

theorem terms_field {β : Type} {c d : CipConnectionObject} (h : d.terms = c.terms)
    (f : CipConnectionObject → β) (hf : ∀ c, f c.terms = f c) : f d = f c := by
  rw [← hf d, h, hf c]

end CipConnectionObject

/-- What a connection has of its request: its terms, the O->T id and the
originator. It has not consumed anything. -/
structure Granted (cfg : Config) (env : Environment) (d : CipConnectionObject)
    (connectionId : UInt16) (c : CipConnectionObject) : Prop where
  terms : c.terms = d.terms
  consumedId : c.cipConsumedConnectionId = d.consumedId cfg connectionId
  channel : CipConnectionObject.Channel env d c
  unheard : c.eipFirstLevelSequenceCountReceived = false ∧ c.sequenceCountConsuming = 0

namespace View

variable (V : View)

/-- The slot of a request that was copied and not listed. -/
def scratch (r : ConnRef) (c : CipConnectionObject) (connectionId : UInt16) : View :=
  { V with
    object := Function.update V.object r c
    trace := V.trace ++ [.copied r false]
    connectionId := connectionId }

/-- The slot of a request that was copied and listed. -/
def insert (r : ConnRef) (c : CipConnectionObject) (connectionId : UInt16) : View :=
  { V.scratch r c connectionId with members := r :: V.members }

@[simp] theorem scratch_object_self (r : ConnRef) (c : CipConnectionObject)
    (connectionId : UInt16) : (V.scratch r c connectionId).object r = c := by
  simp [scratch]

theorem scratch_object_of_ne {r s : ConnRef} (h : s ≠ r) (c : CipConnectionObject)
    (connectionId : UInt16) : (V.scratch r c connectionId).object s = V.object s := by
  simp [scratch, Function.update_of_ne h]

@[simp] theorem insert_members (r : ConnRef) (c : CipConnectionObject)
    (connectionId : UInt16) : (V.insert r c connectionId).members = r :: V.members := rfl

@[simp] theorem insert_object_self (r : ConnRef) (c : CipConnectionObject)
    (connectionId : UInt16) : (V.insert r c connectionId).object r = c := by
  simp [insert]

theorem insert_object_of_ne {r s : ConnRef} (h : s ≠ r) (c : CipConnectionObject)
    (connectionId : UInt16) : (V.insert r c connectionId).object s = V.object s := by
  simp [insert, scratch_object_of_ne V h]

/-- A connection that holds the producing socket of a multicast input. -/
def producesMulticast (inputPoint : UInt16) (c : CipConnectionObject) : Bool :=
  c.isTypeIOConnection && c.producedPath.instanceId = inputPoint &&
    c.producingSocket ≠ eipInvalidSocket && c.tToOConnectionType = .multicast

def producer (inputPoint : UInt16) : Option ConnRef :=
  V.members.find? fun r => producesMulticast inputPoint (V.object r)

end View

/-- An object that was opened for a request. -/
structure Admitted (cfg : Config) (d : CipConnectionObject) (r : ConnRef)
    (c : CipConnectionObject) : Prop where
  kind : Kind cfg r c
  established : c.state = .established
  input : c.producedPath.instanceId = d.producedPath.instanceId
  transport : c.transportClass = d.transportClass
  tToO : c.tToOConnectionType = d.tToOConnectionType
  unsent : c.eipLevelSequenceCountProducing = 0
  receives : c.connectionReceiveDataFunction = some .handleReceivedIoConnectionData
  sends : c.connectionSendDataFunction = some .sendConnectedData

/-- An I/O connection enters the table: alone, as the producer of a multicast
input, or joined to the producer that there is. -/
inductive Opens (cfg : Config) (d : CipConnectionObject) (udpSocket : Int) (V : View)
    (r : ConnRef) : View → Prop
  | plain {c : CipConnectionObject} (admitted : Admitted cfg d r c)
      (single : d.tToOConnectionType ≠ .multicast)
      (identifier : c.cipProducedConnectionId = d.cipProducedConnectionId)
      (socket : c.producingSocket = eipInvalidSocket ∨ c.producingSocket = udpSocket) :
      Opens cfg d udpSocket V r (V.insert r c (d.connectionIdAfter V.connectionId))
  | first {c : CipConnectionObject} (admitted : Admitted cfg d r c)
      (multicast : d.tToOConnectionType = .multicast)
      (agrees : ∀ s ∈ V.members, producerMismatch c (V.object s) = none)
      (lonely : V.producer d.producedPath.instanceId = none)
      (identifier : c.cipProducedConnectionId = d.producedId cfg V.connectionId)
      (socket : c.producingSocket = udpSocket) :
      Opens cfg d udpSocket V r (V.insert r c (d.connectionIdAfter V.connectionId))
  | join {c : CipConnectionObject} {producer : ConnRef} (admitted : Admitted cfg d r c)
      (multicast : d.tToOConnectionType = .multicast)
      (agrees : ∀ s ∈ V.members, producerMismatch c (V.object s) = none)
      (existing : V.producer d.producedPath.instanceId = some producer)
      (identifier : c.cipProducedConnectionId =
        (V.object producer).cipProducedConnectionId)
      (socket : c.producingSocket = if r.instanceType = .ioExclusiveOwner then
        (V.object producer).producingSocket else eipInvalidSocket) :
      Opens cfg d udpSocket V r
        ((V.modify producer (StackState.leftBehind c)).insert r c
          (d.connectionIdAfter V.connectionId))

/-- How the table looks once the slot of a request is free: as before, or with a
timed-out connection closed, or with an unlisted slot cleared. -/
inductive Vacated (V : View) (r : ConnRef) : Lookup → View → Prop
  | free (unlisted : r ∉ V.members) : Vacated V r (.free r) V
  | closed (member : r ∈ V.members) : Vacated V r (.replace r) (V.closed r)
  | cleared (unlisted : r ∉ V.members) : Vacated V r (.replace r) (V.without (· = r))

theorem Vacated.not_mem {V V' : View} {r : ConnRef} {lookup : Lookup}
    (h : Vacated V r lookup V') : r ∉ V'.members := by
  cases h with
  | free unlisted => exact unlisted
  | closed member | cleared unlisted => simp [View.closed, View.without]

theorem Vacated.replaces {V V' : View} {r : ConnRef} {lookup : Lookup}
    (h : Vacated V r lookup V') (hr : r ∈ V.members) : lookup = .replace r := by
  cases h with
  | free unlisted => exact absurd hr unlisted
  | closed member => rfl
  | cleared unlisted => rfl

theorem Vacated.replace_eq {V V' : View} {r s : ConnRef}
    (h : Vacated V r (.replace s) V') : s = r := by
  cases h with
  | closed member => rfl
  | cleared unlisted => rfl

theorem Vacated.unlisted {V V' : View} {r : ConnRef} {lookup : Lookup}
    (h : Vacated V r lookup V') (hr : r ∉ V.members) :
    V'.members = V.members ∧ ∀ s ∈ V.members, V'.object s = V.object s := by
  cases h with
  | free unlisted => exact ⟨rfl, fun _ _ => rfl⟩
  | closed member => exact absurd member hr
  | cleared unlisted =>
      refine ⟨List.filter_eq_self.mpr fun s hs => ?_, fun s hs => ?_⟩
      · simp [ne_of_mem_of_not_mem hs hr]
      · simp [ne_of_mem_of_not_mem hs hr]

theorem Vacated.regular {cfg : Config} {V V' : View} {r : ConnRef} {lookup : Lookup}
    (h : Vacated V r lookup V') (hregular : Regular cfg V) : Regular cfg V' := by
  cases h with
  | free unlisted => exact hregular
  | closed member => exact (hregular.vacate member).1.without _
  | cleared unlisted => exact hregular.without _

namespace StackState

variable {cfg : Config} {env : Environment} {st : StackState}

/-- The slot just before its producing channel is opened. -/
structure Ready (cfg : Config) (env : Environment) (r : ConnRef) (st st' : StackState) :
    Prop where
  writes : Writes r st st'
  settled : ∃ inhibitTime, (st'.conn r).settled =
    ((st.conn r).prepared cfg inhibitTime st.connectionId).settled
  consumes : (st'.conn r).ConsumesPath
  connectionId : st'.connectionId = (st.conn r).connectionIdAfter st.connectionId
  agrees : (st.conn r).tToOConnectionType = .multicast →
    ∀ s ∈ st.connectionList cfg, producerMismatch (st'.conn r) (st.conn s) = none
  socket : st'.udpIoMessaging = env.udpSocket
  points : CipConnectionObject.Points cfg (st.assemblyLength cfg) (st.conn r) (st'.conn r)
  channel : CipConnectionObject.Channel env (st.conn r) (st'.conn r)

theorem connectionFailure_ne_success (extended : UInt16) :
    (connectionFailure extended).general ≠ GeneralStatus.success := by
  change GeneralStatus.connectionFailure ≠ GeneralStatus.success
  decide

theorem applyConfigData_store {r : ConnRef} {extended : UInt16} {st' : StackState}
    (hcall : st.applyConfigData cfg env r = .ok (extended, st')) :
    ∃ assemblyData, st' = { st with assemblyData := assemblyData } := by
  unfold applyConfigData at hcall
  split at hcall
  · cases hcall
    exact ⟨st.assemblyData, rfl⟩
  · exact handleConfigData_store hcall

/-- Both channels: the consuming one settles, then the producing one opens or
not. -/
theorem openCommunicationChannels_spec {r : ConnRef} {status : UInt8} {st' : StackState}
    (hr : r ∉ st.connectionList cfg)
    (hcall : st.openCommunicationChannels cfg env r = (status, st')) :
    ∃ st₁, Settles r st st₁ ∧ st₁.udpIoMessaging = env.udpSocket ∧
      CipConnectionObject.Channelled env env.udpSocket (st.conn r) (st₁.conn r) ∧
      ((status ≠ GeneralStatus.success ∧ st' = st₁) ∨
        (Keeps st₁ st' ∧ ProducingChannel cfg r st₁ st' status)) := by
  unfold openCommunicationChannels at hcall
  obtain ⟨masterSocket, hcreate⟩ := createUdpSocket_eq env st
  have h₁ : Settles r st (st.createUdpSocket env) := by
    rw [hcreate]
    exact settles_of_store_eq rfl rfl rfl rfl
  have hsocket₁ : (st.createUdpSocket env).udpIoMessaging = env.udpSocket := by
    rw [hcreate]
  have hconn₁ : (st.createUdpSocket env).conn r = st.conn r := by
    rw [hcreate]
    rfl
  generalize st.createUdpSocket env = st₀ at hcall h₁ hsocket₁ hconn₁
  generalize hconsume : st₀.openConsumingChannel cfg env r = result at hcall
  obtain ⟨status₁, st₁⟩ := result
  obtain ⟨h₂, hsocket₂, hchannel⟩ := openConsumingChannel_settles hconsume
  rw [hconn₁, hsocket₁] at hchannel
  refine ⟨st₁, h₁.trans h₂, hsocket₂.trans hsocket₁, hchannel, ?_⟩
  simp only at hcall
  split at hcall
  · rename_i hfailed
    cases hcall
    exact .inl ⟨hfailed, rfl⟩
  · have hr₁ : r ∉ st₁.connectionList cfg := by
      rw [(h₁.trans h₂).writes.connectionList_eq]
      exact hr
    exact .inr (openProducingChannel_spec hr₁ hcall)

/-- `EstablishIoConnection` between the copy and the list: refused with an idle
slot, or ready up to the producing channel, which opened. -/
theorem prepareIoConnection_spec {r : ConnRef} {status : OpenStatus} {st' : StackState}
    (hr : r ∉ st.connectionList cfg) (hstate : (st.conn r).state = .nonExistent)
    (hclear : (st.conn r).connectionCloseFunction = none)
    (hcall : st.prepareIoConnection cfg env r = .ok (status, st')) :
    (status.general ≠ GeneralStatus.success ∧ Writes r st st' ∧ Idle (st'.conn r)) ∨
      (status.general = GeneralStatus.success ∧ ∃ st₁, Ready cfg env r st st₁ ∧
        Keeps st₁ st' ∧ ProducingChannel cfg r st₁ st' GeneralStatus.success) := by
  unfold prepareIoConnection at hcall
  cases hconfigure : st.configureIoConnection cfg r with
  | error fault => simp [hconfigure] at hcall
  | ok result =>
      obtain ⟨extended, st₁⟩ := result
      simp only [hconfigure] at hcall
      obtain ⟨hw₁, hrefused | ⟨⟨inhibitTime, hsettled⟩, hconsumes, hid, hagrees,
        hsocket₁, haddress₁, hpoints₁⟩⟩ :=
        configureIoConnection_spec hr hconfigure
      · obtain ⟨hextended, inhibitTime, hconn⟩ := hrefused
        rw [if_pos hextended] at hcall
        cases hcall
        refine .inl ⟨connectionFailure_ne_success extended, hw₁, ?_⟩
        rw [hconn]
        exact ⟨hstate, .inl hclear⟩
      · have hidle : Idle (st₁.conn r) :=
          idle_of_settled hsettled (idle_prepared hstate _ _)
        split at hcall
        · cases hcall
          exact .inl ⟨connectionFailure_ne_success extended, hw₁, hidle⟩
        · rename_i hextended
          cases happly : st₁.applyConfigData cfg env r with
          | error fault => simp [happly] at hcall
          | ok result =>
              obtain ⟨extended₂, st₂⟩ := result
              simp only [happly] at hcall
              obtain ⟨assemblyData, rfl⟩ := applyConfigData_store happly
              have h₂ : Settles r st₁ { st₁ with assemblyData := assemblyData } :=
                settles_of_store_eq rfl rfl rfl rfl
              split at hcall
              · cases hcall
                exact .inl ⟨connectionFailure_ne_success _, hw₁.trans h₂.writes, hidle⟩
              · have hr₂ : r ∉ (connectionList { st₁ with assemblyData := assemblyData }
                    cfg) := by
                  rw [(hw₁.trans h₂.writes).connectionList_eq]
                  exact hr
                generalize hopen : openCommunicationChannels cfg env r
                  { st₁ with assemblyData := assemblyData } = result at hcall
                obtain ⟨general, st₃⟩ := result
                cases hcall
                obtain ⟨st₄, h₄, hsocket, hchannelled, hchannel⟩ :=
                  openCommunicationChannels_spec hr₂ hopen
                have hconsuming := hchannelled.consumingInstance
                have hproducing := hchannelled.producingInstance
                have hpoints := hpoints₁ (not_not.mp hextended)
                have hw₄ := (hw₁.trans h₂.writes).trans h₄.writes
                have hidle₄ : Idle (st₄.conn r) :=
                  idle_of_settled (h₂.trans h₄).settled hidle
                have hready : Ready cfg env r st st₄ := by
                  refine ⟨hw₄, ⟨inhibitTime, ?_⟩, ?_, ?_, ?_, hsocket,
                    ⟨?_, ?_, hpoints.consumedSize, hpoints.producedSize⟩, ⟨?_, ?_⟩⟩
                  · exact ((h₂.trans h₄).settled).trans hsettled
                  · exact (h₂.trans h₄).consumes hconsumes
                  · exact ((h₂.trans h₄).connectionId).trans hid
                  · intro hmulticast s hs
                    rw [(h₂.trans h₄).producerMismatch_eq]
                    exact hagrees (not_not.mp hextended) hmulticast s hs
                  · rw [hconsuming]
                    exact hpoints.consuming
                  · rw [hproducing]
                    exact hpoints.producing
                  · rw [← hsocket₁]
                    exact hchannelled.consumingSocket
                  · rw [← haddress₁]
                    exact hchannelled.originator
                rcases hchannel with ⟨hfailed, rfl⟩ | ⟨hkeeps, hchannel⟩
                · exact .inl ⟨hfailed, hw₄, hidle₄⟩
                · cases hchannel with
                  | refused failed others slot =>
                      obtain ⟨address, hslot⟩ := slot
                      refine .inl ⟨failed, hw₄.trans ⟨hkeeps.list, others, hkeeps.events,
                        by rw [hkeeps.dummy]⟩, ?_⟩
                      rw [hslot]
                      exact ⟨hidle₄.state, hidle₄.close⟩
                  | plain single others slot =>
                      exact .inr ⟨rfl, st₄, hready, hkeeps, .plain single others slot⟩
                  | first multicast lonely others slot =>
                      exact .inr ⟨rfl, st₄, hready, hkeeps, .first multicast lonely others slot⟩
                  | join multicast producer others left slot =>
                      exact .inr ⟨rfl, st₄, hready, hkeeps,
                        .join multicast producer others left slot⟩

/-- The object that a request gets: a slot of a connection point that matches the
request's paths. -/
structure Chosen (cfg : Config) (d : CipConnectionObject) (r : ConnRef) : Prop where
  valid : r.Valid cfg
  io : r.isIo = true
  input : d.producedPath.instanceId.toUInt32 = (r.point cfg).inputAssembly
  output : d.consumedPath.instanceId.toUInt32 = (r.point cfg).outputAssembly
  config : d.configurationPath.instanceId.toUInt32 = (r.point cfg).configAssembly

/-- An input-only or listen-only search that finds something found a matching
point and selected there. -/
theorem searchConnectionPoints_found {point : Nat → ConnectionPoint}
    {c : CipConnectionObject} {select : Nat → Lookup} {indices : List Nat} {err : UInt16}
    {lookup : Lookup} (hfound : ∀ extendedError, lookup ≠ .notFound extendedError)
    (h : searchConnectionPoints point c select indices err = lookup) :
    ∃ i ∈ indices, (point i).outputAssembly = c.consumedPath.instanceId.toUInt32 ∧
      (point i).inputAssembly = c.producedPath.instanceId.toUInt32 ∧
      (point i).configAssembly = c.configurationPath.instanceId.toUInt32 ∧
      select i = lookup := by
  induction indices generalizing err with
  | nil => exact absurd h.symm (hfound err)
  | cons i rest ih =>
      have hrest : ∀ err', searchConnectionPoints point c select rest err' = lookup →
          ∃ k ∈ i :: rest, (point k).outputAssembly = c.consumedPath.instanceId.toUInt32 ∧
            (point k).inputAssembly = c.producedPath.instanceId.toUInt32 ∧
            (point k).configAssembly = c.configurationPath.instanceId.toUInt32 ∧
            select k = lookup := by
        intro err' h'
        obtain ⟨k, hk, hmatch⟩ := ih h'
        exact ⟨k, List.mem_cons_of_mem i hk, hmatch⟩
      simp only [searchConnectionPoints] at h
      split at h
      · exact hrest _ h
      · rename_i houtput
        split at h
        · exact hrest _ h
        · rename_i hinput
          split at h
          · exact hrest _ h
          · rename_i hconfig
            exact ⟨i, List.mem_cons_self, not_not.mp houtput, not_not.mp hinput,
              not_not.mp hconfig, h⟩

theorem selectConnection_found {slot : Nat → ConnRef} {count : Nat} {lookup : Lookup}
    (hfound : ∀ extendedError, lookup ≠ .notFound extendedError)
    (h : st.selectConnection slot count = lookup) :
    ∃ j < count, (lookup = .replace (slot j) ∧ (st.conn (slot j)).state = .timedOut) ∨
      (lookup = .free (slot j) ∧ (st.conn (slot j)).state = .nonExistent) := by
  unfold selectConnection at h
  split at h
  · rename_i j hj
    have hlt := List.mem_range.mp (List.mem_of_find?_eq_some hj)
    have hstate := List.find?_some hj
    simp only [Bool.and_eq_true, decide_eq_true_eq] at hstate
    exact ⟨j, hlt, .inl ⟨h.symm, hstate.1⟩⟩
  · split at h
    · rename_i j hj
      have hlt := List.mem_range.mp (List.mem_of_find?_eq_some hj)
      have hstate := List.find?_some hj
      exact ⟨j, hlt, .inr ⟨h.symm, of_decide_eq_true hstate⟩⟩
    · exact absurd h.symm (hfound _)

/-- What any of the three searches finds. A free slot is idle, or, in the search
for exclusive owners, no owner of the input is listed. -/
inductive Finds (cfg : Config) (st : StackState) (r : ConnRef) : Lookup → Prop
  | idle (shared : r.instanceType ≠ .ioExclusiveOwner)
      (state : (st.conn r).state = .nonExistent) : Finds cfg st r (.free r)
  | unowned (owner : r.instanceType = .ioExclusiveOwner)
      (none : st.getConnectedOutputAssembly cfg st.dummy.producedPath.instanceId = none) :
      Finds cfg st r (.free r)
  | timedOut (shared : r.instanceType ≠ .ioExclusiveOwner)
      (state : (st.conn r).state = .timedOut) : Finds cfg st r (.replace r)
  | abandoned {owner : ConnRef} (exclusive : r.instanceType = .ioExclusiveOwner)
      (some : st.getConnectedOutputAssembly cfg st.dummy.producedPath.instanceId =
        some owner) (state : (st.conn owner).state = .timedOut) :
      Finds cfg st r (.replace r)

theorem getExclusiveOwnerConnection_found {lookup : Lookup}
    (hfound : ∀ extendedError, lookup ≠ .notFound extendedError)
    (h : st.getExclusiveOwnerConnection cfg = lookup) :
    ∃ r, Chosen cfg st.dummy r ∧ r.instanceType = .ioExclusiveOwner ∧
      Finds cfg st r lookup := by
  unfold getExclusiveOwnerConnection at h
  split at h
  · exact absurd h.symm (hfound _)
  · rename_i i hi
    have hlt := List.mem_range.mp (List.mem_of_find?_eq_some hi)
    have hmatch := List.find?_some hi
    simp only [exclusiveOwnerPointMatches, Bool.and_eq_true, decide_eq_true_eq] at hmatch
    refine ⟨.exclusiveOwner i, ⟨hlt, rfl, hmatch.1.2.symm, hmatch.1.1.symm, hmatch.2.symm⟩,
      rfl, ?_⟩
    split at h
    · rename_i hnone
      exact h ▸ .unowned rfl hnone
    · rename_i owner howner
      split at h
      · exact absurd h.symm (hfound _)
      · split at h
        · rename_i htimedOut
          exact h ▸ .abandoned rfl howner htimedOut.1
        · exact absurd h.symm (hfound _)

theorem getInputOnlyConnection_found {lookup : Lookup}
    (hfound : ∀ extendedError, lookup ≠ .notFound extendedError)
    (h : st.getInputOnlyConnection cfg = lookup) :
    ∃ r, Chosen cfg st.dummy r ∧ r.instanceType = .ioInputOnly ∧ Finds cfg st r lookup := by
  obtain ⟨i, hi, houtput, hinput, hconfig, hselect⟩ := searchConnectionPoints_found hfound h
  obtain ⟨j, hj, hslot⟩ := selectConnection_found hfound hselect
  refine ⟨.inputOnly i j, ⟨⟨List.mem_range.mp hi, hj⟩, rfl, hinput.symm, houtput.symm,
    hconfig.symm⟩, rfl, ?_⟩
  rcases hslot with ⟨rfl, hstate⟩ | ⟨rfl, hstate⟩
  · exact .timedOut (by simp [ConnRef.instanceType]) hstate
  · exact .idle (by simp [ConnRef.instanceType]) hstate

theorem getListenOnlyConnection_found {lookup : Lookup}
    (hfound : ∀ extendedError, lookup ≠ .notFound extendedError)
    (h : st.getListenOnlyConnection cfg = lookup) :
    ∃ r, Chosen cfg st.dummy r ∧ r.instanceType = .ioListenOnly ∧ Finds cfg st r lookup := by
  obtain ⟨i, hi, houtput, hinput, hconfig, hselect⟩ := searchConnectionPoints_found hfound h
  split at hselect
  · exact absurd hselect.symm (hfound _)
  · obtain ⟨j, hj, hslot⟩ := selectConnection_found hfound hselect
    refine ⟨.listenOnly i j, ⟨⟨List.mem_range.mp hi, hj⟩, rfl, hinput.symm, houtput.symm,
      hconfig.symm⟩, rfl, ?_⟩
    rcases hslot with ⟨rfl, hstate⟩ | ⟨rfl, hstate⟩
    · exact .timedOut (by simp [ConnRef.instanceType]) hstate
    · exact .idle (by simp [ConnRef.instanceType]) hstate

/-- The pool that a found object belongs to is the type that the request gets. -/
theorem ioConnectionLookup_found {lookup : Lookup}
    {instanceType : ConnectionObjectInstanceType}
    (hfound : ∀ extendedError, lookup ≠ .notFound extendedError)
    (h : st.ioConnectionLookup cfg = (lookup, instanceType)) :
    ∃ r, Chosen cfg st.dummy r ∧ instanceType = r.instanceType ∧ Finds cfg st r lookup := by
  unfold ioConnectionLookup at h
  split at h
  · split at h
    · cases h
      exact absurd rfl (hfound _)
    · split at h
      · split at h
        · cases h
          exact absurd rfl (hfound _)
        · split at h
          · split at h
            · cases h
              exact absurd rfl (hfound _)
            · cases h
              exact absurd rfl (hfound _)
          · cases h
            obtain ⟨r, hchosen, htype, hfinds⟩ := getListenOnlyConnection_found hfound rfl
            exact ⟨r, hchosen, htype.symm, hfinds⟩
      · cases h
        obtain ⟨r, hchosen, htype, hfinds⟩ := getInputOnlyConnection_found hfound rfl
        exact ⟨r, hchosen, htype.symm, hfinds⟩
  · cases h
    obtain ⟨r, hchosen, htype, hfinds⟩ := getExclusiveOwnerConnection_found hfound rfl
    exact ⟨r, hchosen, htype.symm, hfinds⟩

theorem not_mem_of_free (hregular : Regular cfg (st.view cfg)) {r : ConnRef}
    (hchosen : Chosen cfg st.dummy r) (hfinds : Finds cfg st r (.free r)) :
    r ∉ st.connectionList cfg := by
  intro hr
  have hkind : Kind cfg r (st.conn r) := hregular.kind r hr
  cases hfinds with
  | idle shared state =>
      rcases hkind.state with hs | ⟨hs, -⟩ <;> rw [state] at hs <;> cases hs
  | unowned owner none =>
      have hinput : (st.conn r).producedPath.instanceId = st.dummy.producedPath.instanceId :=
        UInt16.toUInt32_inj.mp ((hkind.input hchosen.io).trans hchosen.input.symm)
      have hstate : (st.conn r).state = .established ∨ (st.conn r).state = .timedOut :=
        hkind.state.imp_right And.left
      refine List.find?_eq_none.mp none r hr ?_
      simp [hkind.instanceType, owner, hinput, hstate]

/-- The variables that choosing a slot leaves alone. -/
structure RequestFrame (instanceType : ConnectionObjectInstanceType) (st st' : StackState) :
    Prop where
  dummy : st'.dummy = { st.dummy with instanceType := instanceType }
  cpf : st'.cpf = st.cpf
  configData : st'.configData = st.configData
  assemblyData : st'.assemblyData = st.assemblyData

/-- `GetIoConnectionForConnectionData` up to the copy. -/
theorem resolveIoConnection_spec {ns : List Nat} (h : st.Listed cfg ns)
    (hregular : Regular cfg (st.view cfg)) {outcome : Except UInt16 ConnRef}
    {st' : StackState} (hcall : st.resolveIoConnection cfg = .ok (outcome, st')) :
    RequestFrame (st.ioConnectionLookup cfg).2 st st' ∧
      ((∃ extended, outcome = .error extended ∧
          (st.ioConnectionLookup cfg).1 = .notFound extended ∧
          st' = { st with dummy :=
            { st.dummy with instanceType := (st.ioConnectionLookup cfg).2 } }) ∨
        (∃ r ns', outcome = .ok r ∧ Chosen cfg st.dummy r ∧
          (st.ioConnectionLookup cfg).2 = r.instanceType ∧ st'.Listed cfg ns' ∧
          Finds cfg st r (st.ioConnectionLookup cfg).1 ∧
          Vacated (st.view cfg) r (st.ioConnectionLookup cfg).1 (st'.view cfg))) := by
  unfold resolveIoConnection at hcall
  generalize hlookup : st.ioConnectionLookup cfg = result at hcall
  obtain ⟨lookup, instanceType⟩ := result
  simp only at hcall
  cases lookup with
  | notFound extended =>
      cases hcall
      exact ⟨⟨rfl, rfl, rfl, rfl⟩, .inl ⟨extended, rfl, rfl, rfl⟩⟩
  | free r =>
      obtain ⟨r', hchosen, htype, hfinds⟩ := ioConnectionLookup_found (by simp) hlookup
      have hr : r' = r := by cases hfinds <;> rfl
      subst hr
      cases hcall
      refine ⟨⟨rfl, rfl, rfl, rfl⟩, .inr ⟨r', ns, rfl, hchosen, htype, h, hfinds, ?_⟩⟩
      exact .free (not_mem_of_free hregular hchosen hfinds)
  | replace r =>
      obtain ⟨r', hchosen, htype, hfinds⟩ := ioConnectionLookup_found (by simp) hlookup
      have hr : r' = r := by cases hfinds <;> rfl
      subst hr
      cases hclose : st.connectionCloseFunction cfg r' with
      | error fault => simp [hclose] at hcall
      | ok st₁ =>
          simp only [hclose] at hcall
          cases hcall
          by_cases hmem : r' ∈ st.connectionList cfg
          · obtain ⟨st₂, ns₂, hok, hshrunk⟩ :=
              connectionCloseFunction_ok h hregular.closable hmem
            rw [hclose, Except.ok.injEq] at hok
            subst hok
            refine ⟨⟨?_, hshrunk.frame.cpf, hshrunk.frame.configData,
              hshrunk.frame.assemblyData⟩, .inr ⟨r', ns₂, rfl, hchosen, htype,
              hshrunk.listed, hfinds, ?_⟩⟩
            · rw [hshrunk.frame.dummy]
            · change Vacated _ _ _ (st₁.view cfg)
              rw [hshrunk.view_eq]
              exact .closed hmem
          · have hm : isMulticastMaster (st.conn r') = false := by
              refine (hregular.idle r' hmem).not_master ?_
              intro hnone
              rw [view_object] at hnone
              simp [connectionCloseFunction, closeFunctionAt, hnone] at hclose
            obtain ⟨ns₂, hshrunk⟩ := connectionCloseFunction_of_not_master h hm hclose
            refine ⟨⟨?_, hshrunk.frame.cpf, hshrunk.frame.configData,
              hshrunk.frame.assemblyData⟩, .inr ⟨r', ns₂, rfl, hchosen, htype,
              hshrunk.listed, hfinds, ?_⟩⟩
            · rw [hshrunk.frame.dummy]
            · change Vacated _ _ _ (st₁.view cfg)
              rw [hshrunk.view_eq]
              exact .cleared hmem

/-- A ready slot whose producing channel opened is admitted when it is listed. -/
theorem Ready.admitted {r : ConnRef} {d : CipConnectionObject} {st' : StackState}
    (h : Ready cfg env r st st')
    (hcopy : st.conn r = { d with instanceType := r.instanceType })
    (hchosen : Chosen cfg d r) (hclass : d.transportClass ≠ .class3)
    {c : CipConnectionObject} (hbare : c.bare = (st'.conn r).bare)
    (hstate : c.state = .established) : Admitted cfg d r c := by
  obtain ⟨inhibitTime, hsettled⟩ := h.settled
  rw [hcopy] at hsettled
  have field : ∀ {β : Type} (f : CipConnectionObject → β), (∀ c, f c.bare = f c) →
      (∀ c, f c.settled = f c) → f c = f (CipConnectionObject.prepared cfg inhibitTime
        st.connectionId { d with instanceType := r.instanceType }) :=
    fun f hf hf' => (CipConnectionObject.bare_field hbare f hf).trans
      (settled_field hsettled f hf')
  have htype : c.instanceType = r.instanceType :=
    field (·.instanceType) (fun _ => rfl) fun _ => rfl
  have hclose : c.connectionCloseFunction = some .closeIoConnection :=
    field (·.connectionCloseFunction) (fun _ => rfl) fun _ => rfl
  have htimeout : c.connectionTimeoutFunction = some .handleIoConnectionTimeOut :=
    field (·.connectionTimeoutFunction) (fun _ => rfl) fun _ => rfl
  have htransport : c.transportClass = d.transportClass :=
    field (·.transportClass) (fun _ => rfl) fun _ => rfl
  have hinput : c.producedPath.instanceId = d.producedPath.instanceId :=
    field (·.producedPath.instanceId) (fun _ => rfl) fun _ => rfl
  have houtput : c.consumedPath.instanceId = d.consumedPath.instanceId :=
    field (·.consumedPath.instanceId) (fun _ => rfl) fun _ => rfl
  have hinstance : c.consumingInstance = (st'.conn r).consumingInstance :=
    CipConnectionObject.bare_field hbare (·.consumingInstance) fun _ => rfl
  have hpath : c.consumedPath = (st'.conn r).consumedPath :=
    CipConnectionObject.bare_field hbare (·.consumedPath) fun _ => rfl
  refine ⟨⟨hchosen.valid, .inl hstate, htype, ?_, ?_, ?_, ?_, ?_, ?_, ?_⟩, hstate, hinput,
    htransport, ?_, ?_, ?_, ?_⟩
  · rw [hclose, ConnRef.closeFunction, hchosen.io]
    rfl
  · rw [htimeout, ConnRef.timeoutFunction, hchosen.io]
    rfl
  · intro hio
    rw [hchosen.io] at hio
    cases hio
  · rw [htransport]
    exact fun _ => hclass
  · rw [hinput]
    exact fun _ => hchosen.input
  · rw [houtput]
    exact fun _ => hchosen.output
  · intro n hn
    rw [hinstance] at hn
    rw [hpath]
    exact h.consumes n hn
  · exact field (·.tToOConnectionType) (fun _ => rfl) fun _ => rfl
  · exact field (·.eipLevelSequenceCountProducing) (fun _ => rfl) fun _ => rfl
  · exact field (·.connectionReceiveDataFunction) (fun _ => rfl) fun _ => rfl
  · exact field (·.connectionSendDataFunction) (fun _ => rfl) fun _ => rfl

theorem Ready.granted {r : ConnRef} {d : CipConnectionObject} {st' : StackState}
    (h : Ready cfg env r st st')
    (hcopy : st.conn r = { d with instanceType := r.instanceType })
    {c : CipConnectionObject} (hbare : c.bare = (st'.conn r).bare) :
    Granted cfg env d st.connectionId c ∧
      CipConnectionObject.Points cfg (st.assemblyLength cfg) d c := by
  obtain ⟨inhibitTime, hsettled⟩ := h.settled
  have hpoints := h.points
  have hchannel := h.channel
  rw [hcopy] at hsettled hpoints hchannel
  have field : ∀ {β : Type} (f : CipConnectionObject → β), (∀ c, f c.bare = f c) →
      (∀ c, f c.settled = f c) → f c = f (CipConnectionObject.prepared cfg inhibitTime
        st.connectionId { d with instanceType := r.instanceType }) :=
    fun f hf hf' => (CipConnectionObject.bare_field hbare f hf).trans
      (settled_field hsettled f hf')
  have hsocket : c.consumingSocket = (st'.conn r).consumingSocket :=
    CipConnectionObject.bare_field hbare (·.consumingSocket) fun _ => rfl
  have haddress : c.originatorAddress = (st'.conn r).originatorAddress :=
    CipConnectionObject.bare_field hbare (·.originatorAddress) fun _ => rfl
  have hconsuming : c.consumingInstance = (st'.conn r).consumingInstance :=
    CipConnectionObject.bare_field hbare (·.consumingInstance) fun _ => rfl
  have hproducing : c.producingInstance = (st'.conn r).producingInstance :=
    CipConnectionObject.bare_field hbare (·.producingInstance) fun _ => rfl
  refine ⟨⟨?_, ?_, ⟨?_, ?_⟩, ?_, ?_⟩,
    ⟨?_, ?_, hpoints.consumedSize, hpoints.producedSize⟩⟩
  · exact field CipConnectionObject.terms (fun _ => rfl) fun _ => rfl
  · exact field (·.cipConsumedConnectionId) (fun _ => rfl) fun _ => rfl
  · rw [hsocket]
    exact hchannel.socket
  · rw [haddress]
    exact hchannel.originator
  · exact field (·.eipFirstLevelSequenceCountReceived) (fun _ => rfl) fun _ => rfl
  · exact field (·.sequenceCountConsuming) (fun _ => rfl) fun _ => rfl
  · rw [hconsuming]
    exact hpoints.consuming
  · rw [hproducing]
    exact hpoints.producing

theorem conn_deepCopyDummy_self (r : ConnRef) (st : StackState) :
    (st.deepCopyDummy cfg r).conn r = st.dummy := by
  simp [deepCopyDummy, setConn, conn]

theorem conn_deepCopyDummy_of_ne {r s : ConnRef} (hs : s ≠ r) (st : StackState) :
    (st.deepCopyDummy cfg r).conn s = st.conn s := by
  simp [deepCopyDummy, setConn, conn, hs]

/-- `ConnectionObjectDeepCopy` into a slot that is not listed. -/
theorem view_deepCopyDummy {r : ConnRef} (hr : r ∉ st.connectionList cfg) :
    (st.deepCopyDummy cfg r).view cfg =
      (st.view cfg).scratch r st.dummy st.connectionId := by
  have hcontains : (st.connectionList cfg).contains r = false := by
    simpa using hr
  refine View.ext rfl rfl ?_ rfl
  change ((st.events ++ [Event.copied r ((st.connectionList cfg).contains r)]).filter
    Event.isTraced) = _
  rw [hcontains, List.filter_append]
  rfl

theorem Writes.view_scratch {V : View} {r : ConnRef} {c : CipConnectionObject}
    {connectionId : UInt16} {st' : StackState} (h : Writes r st st')
    (hview : st.view cfg = V.scratch r c connectionId) :
    st'.view cfg = V.scratch r (st'.conn r) st'.connectionId := by
  have hobject : ∀ s, s ≠ r → st.conn s = V.object s := by
    intro s hs
    rw [← view_object cfg, hview]
    exact Function.update_of_ne hs _ _
  refine View.ext ?_ ?_ ?_ rfl
  · rw [view_members, h.connectionList_eq, ← view_members, hview]
    rfl
  · funext s
    by_cases hs : s = r
    · subst hs
      exact (Function.update_self s (st'.conn s) V.object).symm
    · refine ((h.others s hs).trans (hobject s hs)).trans ?_
      exact (Function.update_of_ne hs _ _).symm
  · change (st'.events.filter Event.isTraced) = _
    rw [h.events]
    exact congrArg View.trace hview

theorem getExistingProducer_scratch {V : View} {r : ConnRef} {c : CipConnectionObject}
    {connectionId : UInt16} (hview : st.view cfg = V.scratch r c connectionId)
    (hr : r ∉ V.members) (inputPoint : UInt16) :
    st.getExistingProducerIoConnection cfg true inputPoint = V.producer inputPoint := by
  have hmembers : st.connectionList cfg = V.members := by
    rw [← view_members, hview]
    rfl
  unfold getExistingProducerIoConnection findConnection View.producer
  rw [hmembers]
  refine List.find?_congr fun s hs => ?_
  have hsr : s ≠ r := fun heq => hr (heq ▸ hs)
  have hobject : st.conn s = V.object s := by
    rw [← view_object cfg, hview]
    exact Function.update_of_ne hsr _ _
  rw [hobject]
  simp [View.producesMulticast]

theorem activateIoConnection_spec {ns : List Nat} (h : st.Listed cfg ns) {r : ConnRef}
    (hr : r ∉ st.connectionList cfg) {status : OpenStatus} {st' : StackState}
    (hcall : st.activateIoConnection cfg r = .ok (status, st')) :
    status = {} ∧ (∃ ns', st'.Listed cfg ns') ∧ st'.dummy = st.dummy ∧
      st'.view cfg =
        { st.view cfg with
          members := r :: st.connectionList cfg
          object := Function.update st.conn r ((st.conn r).setState .established) } := by
  unfold activateIoConnection at hcall
  cases hadd : st.addNewActiveConnection cfg r with
  | error fault => simp [hadd] at hcall
  | ok st₁ =>
      simp only [hadd] at hcall
      cases hcall
      obtain ⟨list, rfl, ⟨n, hlisted⟩, hmembers⟩ := addNewActiveConnection_ok h hr hadd
      refine ⟨rfl, ⟨n :: ns, hlisted⟩, rfl, ?_⟩
      rw [view_checkIoConnectionEvent]
      exact View.ext hmembers rfl rfl rfl

/-- A slot that was copied from the request is ready, and its producing channel has been
opened since, in a table that does not list it. -/
structure Prepared (cfg : Config) (env : Environment) (V : View) (r : ConnRef)
    (d : CipConnectionObject) (st st₁ st₂ : StackState) : Prop where
  unlisted : r ∉ V.members
  view : st.view cfg = V.scratch r { d with instanceType := r.instanceType } V.connectionId
  chosen : Chosen cfg d r
  transportClass : d.transportClass ≠ .class3
  ready : Ready cfg env r st st₁
  keeps : Keeps st₁ st₂

namespace Prepared

variable {V W : View} {r : ConnRef} {d c : CipConnectionObject} {st₁ st₂ : StackState}

theorem copied (h : Prepared cfg env V r d st st₁ st₂) :
    st.conn r = { d with instanceType := r.instanceType } := by
  rw [← view_object cfg, h.view]
  exact Function.update_self r _ _

theorem idBefore (h : Prepared cfg env V r d st st₁ st₂) : st.connectionId = V.connectionId :=
  congrArg View.connectionId h.view

theorem readyView (h : Prepared cfg env V r d st st₁ st₂) :
    st₁.view cfg = V.scratch r (st₁.conn r) st₁.connectionId :=
  h.ready.writes.view_scratch h.view

theorem members_eq (h : Prepared cfg env V r d st st₁ st₂) :
    st₂.connectionList cfg = V.members := by
  unfold connectionList
  rw [h.keeps.list]
  exact congrArg View.members h.readyView

theorem connectionId_eq (h : Prepared cfg env V r d st st₁ st₂) :
    st₂.connectionId = d.connectionIdAfter V.connectionId := by
  rw [h.keeps.connectionId, h.ready.connectionId, h.copied, h.idBefore]
  rfl

theorem trace_eq (h : Prepared cfg env V r d st st₁ st₂) :
    (st₂.view cfg).trace = V.trace ++ [.copied r false] := by
  change st₂.events.filter Event.isTraced = _
  rw [h.keeps.events]
  exact congrArg View.trace h.readyView

theorem others (h : Prepared cfg env V r d st st₁ st₂) {s : ConnRef} (hs : s ≠ r) :
    st₁.conn s = V.object s := by
  rw [← view_object cfg, h.readyView]
  exact Function.update_of_ne hs _ _

theorem admitted (h : Prepared cfg env V r d st st₁ st₂) (hbare : c.bare = (st₁.conn r).bare)
    (hstate : c.state = .established) : Admitted cfg d r c :=
  h.ready.admitted h.copied h.chosen h.transportClass hbare hstate

theorem readyAdmitted (h : Prepared cfg env V r d st st₁ st₂) :
    Admitted cfg d r ((st₁.conn r).setState .established) :=
  h.admitted rfl rfl

theorem identifier (h : Prepared cfg env V r d st st₁ st₂) :
    (st₁.conn r).cipProducedConnectionId = d.producedId cfg V.connectionId := by
  obtain ⟨inhibitTime, hsettled⟩ := h.ready.settled
  rw [settled_field hsettled (·.cipProducedConnectionId) fun _ => rfl, h.copied, h.idBefore]
  rfl

/-- What is listed agrees with a multicast slot. -/
theorem agrees (h : Prepared cfg env V r d st st₁ st₂)
    (hmulticast : d.tToOConnectionType = .multicast) (hbare : c.bare = (st₁.conn r).bare) :
    ∀ s ∈ V.members, producerMismatch c (V.object s) = none := by
  intro s hs
  have hsr : s ≠ r := fun heq => h.unlisted (heq ▸ hs)
  have hlisted : s ∈ st.connectionList cfg := by
    rw [← view_members, h.view]
    exact hs
  have hobject : st.conn s = V.object s := by
    rw [← view_object cfg, h.view]
    exact Function.update_of_ne hsr _ _
  have hagree := h.ready.agrees (by rw [h.copied]; exact hmulticast) s hlisted
  rw [hobject] at hagree
  rw [← hagree]
  exact CipConnectionObject.bare_field hbare (fun c => producerMismatch c (V.object s))
    fun _ => rfl

theorem producer (h : Prepared cfg env V r d st st₁ st₂) :
    st₁.getExistingProducerIoConnection cfg true (st₁.conn r).producedPath.instanceId =
      V.producer d.producedPath.instanceId := by
  have hinput : (st₁.conn r).producedPath.instanceId = d.producedPath.instanceId :=
    h.readyAdmitted.input
  rw [getExistingProducer_scratch h.readyView h.unlisted, hinput]

/-- The slot is listed in front of a table that has the other objects. -/
theorem insert_eq (h : Prepared cfg env V r d st st₁ st₂) {V' : View}
    (hV' : V' = { st₂.view cfg with
      members := r :: st₂.connectionList cfg
      object := Function.update st₂.conn r ((st₂.conn r).setState .established) })
    (hmembers : W.members = V.members) (htrace : W.trace = V.trace)
    (hobject : ∀ s, s ≠ r → st₂.conn s = W.object s)
    (hc : (st₂.conn r).setState .established = c) :
    V' = W.insert r c (d.connectionIdAfter V.connectionId) := by
  rw [hV', ← hc]
  refine View.ext ?_ ?_ ?_ h.connectionId_eq
  · change r :: st₂.connectionList cfg = r :: W.members
    rw [h.members_eq, hmembers]
  · funext s
    by_cases hs : s = r
    · subst hs
      exact (Function.update_self s _ _).trans (Function.update_self s _ W.object).symm
    · exact ((Function.update_of_ne hs _ _).trans (hobject s hs)).trans
        (Function.update_of_ne hs _ _).symm
  · have hcopied := h.trace_eq
    rw [← htrace] at hcopied
    exact hcopied

theorem opens_plain (h : Prepared cfg env V r d st st₁ st₂)
    (hsingle : (st₁.conn r).tToOConnectionType ≠ .multicast) {socket : Int}
    (hsocket : socket = (st₁.conn r).producingSocket ∨ socket = st₁.udpIoMessaging)
    (address : SockaddrIn) :
    Opens cfg d env.udpSocket V r
      (V.insert r (((st₁.conn r).producing socket address).setState .established)
        (d.connectionIdAfter V.connectionId)) := by
  have htToO : (st₁.conn r).tToOConnectionType = d.tToOConnectionType := h.readyAdmitted.tToO
  have hsingle' : d.tToOConnectionType ≠ .multicast := htToO ▸ hsingle
  refine .plain (h.admitted rfl rfl) hsingle' ?_ ?_
  · refine h.identifier.trans ?_
    rw [CipConnectionObject.producedId, if_neg hsingle']
  · rcases hsocket with rfl | rfl
    · obtain ⟨inhibitTime, hsettled⟩ := h.ready.settled
      exact .inl (CipConnectionObject.settled_field hsettled (·.producingSocket) fun _ => rfl)
    · exact .inr h.ready.socket

theorem opens_first (h : Prepared cfg env V r d st st₁ st₂)
    (hmulticast : (st₁.conn r).tToOConnectionType = .multicast)
    (hlonely : st₁.getExistingProducerIoConnection cfg true
      (st₁.conn r).producedPath.instanceId = none) (address : SockaddrIn) :
    Opens cfg d env.udpSocket V r
      (V.insert r (((st₁.conn r).producing st₁.udpIoMessaging address).setState .established)
        (d.connectionIdAfter V.connectionId)) := by
  have htToO : (st₁.conn r).tToOConnectionType = d.tToOConnectionType := h.readyAdmitted.tToO
  have hmulticast' : d.tToOConnectionType = .multicast := htToO ▸ hmulticast
  exact .first (h.admitted rfl rfl) hmulticast' (h.agrees hmulticast' rfl)
    (h.producer ▸ hlonely) h.identifier h.ready.socket

theorem opens_join (h : Prepared cfg env V r d st st₁ st₂)
    (hmulticast : (st₁.conn r).tToOConnectionType = .multicast) {existing : ConnRef}
    (hproducer : V.producer d.producedPath.instanceId = some existing) (hne : existing ≠ r)
    (address : SockaddrIn) :
    Opens cfg d env.udpSocket V r
      ((V.modify existing (leftBehind
        ((joining (st₁.conn existing) address (st₁.conn r)).setState .established))).insert r
          ((joining (st₁.conn existing) address (st₁.conn r)).setState .established)
          (d.connectionIdAfter V.connectionId)) := by
  have htToO : (st₁.conn r).tToOConnectionType = d.tToOConnectionType := h.readyAdmitted.tToO
  have hmulticast' : d.tToOConnectionType = .multicast := htToO ▸ hmulticast
  have htype : (st₁.conn r).instanceType = r.instanceType := h.readyAdmitted.kind.instanceType
  refine .join (h.admitted rfl rfl) hmulticast' (h.agrees hmulticast' rfl) hproducer ?_ ?_
  · rw [← h.others hne]
    rfl
  · rw [← h.others hne, ← htype]
    rfl

theorem opens (h : Prepared cfg env V r d st st₁ st₂) {V' : View}
    (hchannel : ProducingChannel cfg r st₁ st₂ GeneralStatus.success)
    (hV' : V' = { st₂.view cfg with
      members := r :: st₂.connectionList cfg
      object := Function.update st₂.conn r ((st₂.conn r).setState .established) }) :
    Opens cfg d env.udpSocket V r V' := by
  cases hchannel with
  | refused failed others slot => exact absurd rfl failed
  | plain single others slot =>
      obtain ⟨socket, address, hsocket, hslot⟩ := slot
      rw [h.insert_eq hV' rfl rfl (fun s hs => (others s hs).trans (h.others hs))
        (congrArg (·.setState .established) hslot)]
      exact h.opens_plain single hsocket address
  | first multicast lonely others slot =>
      obtain ⟨address, hslot⟩ := slot
      rw [h.insert_eq hV' rfl rfl (fun s hs => (others s hs).trans (h.others hs))
        (congrArg (·.setState .established) hslot)]
      exact h.opens_first multicast lonely address
  | @join existing multicast producer others left slot =>
      obtain ⟨address, hslot⟩ := slot
      rw [h.producer] at producer
      have hmem : existing ∈ V.members := List.mem_of_find?_eq_some producer
      have hne : existing ≠ r := fun heq => h.unlisted (heq ▸ hmem)
      have hobject : ∀ s, s ≠ r → st₂.conn s = (V.modify existing (leftBehind
          ((joining (st₁.conn existing) address (st₁.conn r)).setState
            .established))).object s := by
        intro s hs
        by_cases hse : s = existing
        · subst hse
          rw [View.modify_object_self, left, ← h.others hs]
          rfl
        · rw [View.modify_object_of_ne _ hse, others s hs hse, h.others hs]
      rw [h.insert_eq (W := V.modify existing _) hV' rfl rfl hobject
        (congrArg (·.setState .established) hslot)]
      exact h.opens_join multicast producer hne address

end Prepared

/-- Opening the producing channel writes the address, the socket and the id only. -/
theorem ProducingChannel.bare {r : ConnRef} {st₁ st₂ : StackState}
    (h : ProducingChannel cfg r st₁ st₂ GeneralStatus.success) :
    (st₂.conn r).bare = (st₁.conn r).bare := by
  cases h with
  | refused failed others slot => exact absurd rfl failed
  | plain single others slot =>
      obtain ⟨socket, address, -, hslot⟩ := slot
      rw [hslot]
      rfl
  | first multicast lonely others slot =>
      obtain ⟨address, hslot⟩ := slot
      rw [hslot]
      rfl
  | join multicast producer others left slot =>
      obtain ⟨address, hslot⟩ := slot
      rw [hslot]
      rfl

theorem opens_of_ready {V : View} {r : ConnRef} {d : CipConnectionObject}
    {st₁ st₂ : StackState} {V' : View} (h : Prepared cfg env V r d st st₁ st₂)
    (hchannel : ProducingChannel cfg r st₁ st₂ GeneralStatus.success)
    (hV' : V' = { st₂.view cfg with
      members := r :: st₂.connectionList cfg
      object := Function.update st₂.conn r ((st₂.conn r).setState .established) }) :
    Opens cfg d env.udpSocket V r V' ∧ Granted cfg env d V.connectionId (V'.object r) ∧
      CipConnectionObject.Points cfg (st.assemblyLength cfg) d (V'.object r) := by
  have hobject : V'.object r = (st₂.conn r).setState .established := by
    rw [hV']
    exact Function.update_self r _ _
  rw [← h.idBefore, hobject]
  exact ⟨h.opens hchannel hV', h.ready.granted h.copied hchannel.bare⟩

/-- The request object as the open functions find it. -/
structure Requested (d : CipConnectionObject) : Prop where
  state : d.state = .nonExistent
  close : d.connectionCloseFunction = none
  instances : d.instances = (none, none)

/-- What an open attempt leaves of the request. -/
def AfterRequest (st st' : StackState) : Prop :=
  st'.dummy.connectionCloseFunction = st.dummy.connectionCloseFunction ∧
    st'.dummy.instances = st.dummy.instances ∧ st'.dummy.triad = st.dummy.triad

/-- `EstablishIoConnection`: refused with at most one slot scratched, or opened. In
both cases a timed-out connection may have been closed to get the slot. -/
inductive Established (cfg : Config) (env : Environment) (st : StackState) :
    OpenStatus → View → Prop
  | nothing {status : OpenStatus} (failed : status.general ≠ GeneralStatus.success)
      {extended : UInt16} (lookup : (st.ioConnectionLookup cfg).1 = .notFound extended) :
      Established cfg env st status (st.view cfg)
  | refused {status : OpenStatus} (failed : status.general ≠ GeneralStatus.success)
      {r : ConnRef} {V : View} {c : CipConnectionObject} {connectionId : UInt16}
      (chosen : Chosen cfg st.dummy r) (finds : Finds cfg st r (st.ioConnectionLookup cfg).1)
      (instanceType : (st.ioConnectionLookup cfg).2 = r.instanceType)
      (vacated : Vacated (st.view cfg) r (st.ioConnectionLookup cfg).1 V) (idle : Idle c) :
      Established cfg env st status (V.scratch r c connectionId)
  | opened {r : ConnRef} {V V' : View} (chosen : Chosen cfg st.dummy r)
      (finds : Finds cfg st r (st.ioConnectionLookup cfg).1)
      (instanceType : (st.ioConnectionLookup cfg).2 = r.instanceType)
      (vacated : Vacated (st.view cfg) r (st.ioConnectionLookup cfg).1 V)
      (opens : Opens cfg st.dummy env.udpSocket V r V')
      (granted : Granted cfg env st.dummy V.connectionId (V'.object r))
      (points : CipConnectionObject.Points cfg (st.assemblyLength cfg) st.dummy (V'.object r)) :
      Established cfg env st {} V'

theorem establishIoConnection_spec {ns : List Nat} (h : st.Listed cfg ns)
    (hregular : Regular cfg (st.view cfg)) (hrequest : Requested st.dummy)
    (hclass : st.dummy.transportClass ≠ .class3) {status : OpenStatus} {st' : StackState}
    (hcall : st.establishIoConnection cfg env = .ok (status, st')) :
    (∃ ns', st'.Listed cfg ns') ∧ AfterRequest st st' ∧
      Established cfg env st status (st'.view cfg) := by
  unfold establishIoConnection at hcall
  cases hresolve : st.resolveIoConnection cfg with
  | error fault => simp [hresolve] at hcall
  | ok result =>
      obtain ⟨outcome, st₁⟩ := result
      obtain ⟨hframe, hnone | hsome⟩ := resolveIoConnection_spec h hregular hresolve
      · obtain ⟨extended, rfl, hlookup, rfl⟩ := hnone
        simp only [hresolve] at hcall
        cases hcall
        exact ⟨⟨ns, h⟩, ⟨rfl, rfl, rfl⟩, .nothing (connectionFailure_ne_success extended) hlookup⟩
      · obtain ⟨r, ns₁, rfl, hchosen, htype, hlisted₁, hfinds, hvacated⟩ := hsome
        simp only [hresolve] at hcall
        have hr₁ : r ∉ st₁.connectionList cfg := hvacated.not_mem
        have hdummy₁ : st₁.dummy = { st.dummy with instanceType := r.instanceType } :=
          htype ▸ hframe.dummy
        have hview₂ := @view_deepCopyDummy cfg st₁ r hr₁
        have hlisted₂ : (st₁.deepCopyDummy cfg r).Listed cfg ns₁ := hlisted₁
        have hdummy₂ : (st₁.deepCopyDummy cfg r).dummy =
            { st.dummy with instanceType := r.instanceType } := hdummy₁
        have hdata₂ : (st₁.deepCopyDummy cfg r).assemblyData = st.assemblyData :=
          hframe.assemblyData
        rw [hdummy₁] at hview₂
        generalize st₁.deepCopyDummy cfg r = st₂ at hcall hview₂ hlisted₂ hdummy₂ hdata₂
        have hconn₂ : st₂.conn r = { st.dummy with instanceType := r.instanceType } := by
          rw [← view_object cfg, hview₂]
          exact Function.update_self r _ _
        have hr₂ : r ∉ st₂.connectionList cfg := by
          rw [← view_members, hview₂]
          exact hr₁
        cases hprepare : st₂.prepareIoConnection cfg env r with
        | error fault => simp [hprepare] at hcall
        | ok result =>
            obtain ⟨status₁, st₃⟩ := result
            simp only [hprepare] at hcall
            rcases prepareIoConnection_spec hr₂ (by rw [hconn₂]; exact hrequest.state)
              (by rw [hconn₂]; exact hrequest.close) hprepare with
              ⟨hfailed, hwrites, hidle⟩ | ⟨hsuccess, st₄, hready, hkeeps, hchannel⟩
            · rw [if_pos hfailed] at hcall
              cases hcall
              have hunsized := hwrites.dummy
              rw [hdummy₂] at hunsized
              refine ⟨⟨ns₁, ?_⟩, ⟨?_, ?_, ?_⟩, ?_⟩
              · unfold Listed
                rw [hwrites.list]
                exact hlisted₂
              · exact CipConnectionObject.unsized_field hunsized (·.connectionCloseFunction)
                  fun _ => rfl
              · exact CipConnectionObject.unsized_field hunsized (·.instances)
                  fun _ => rfl
              · exact CipConnectionObject.unsized_field hunsized (·.triad) fun _ => rfl
              · rw [hwrites.view_scratch hview₂]
                exact .refused hfailed hchosen hfinds htype hvacated hidle
            · rw [if_neg (not_not.mpr hsuccess)] at hcall
              have hwrites := hready.writes
              have hunsized := hwrites.dummy
              rw [hdummy₂] at hunsized
              have hlist₃ : st₃.store.connectionList = st₂.store.connectionList :=
                hkeeps.list.trans hwrites.list
              have hlisted₃ : st₃.Listed cfg ns₁ := by
                unfold Listed
                rw [hlist₃]
                exact hlisted₂
              have hr₃ : r ∉ st₃.connectionList cfg := by
                unfold connectionList
                rw [hlist₃]
                exact hr₂
              obtain ⟨rfl, hlisted', hdummy', hview'⟩ :=
                activateIoConnection_spec hlisted₃ hr₃ hcall
              refine ⟨hlisted', ⟨?_, ?_, ?_⟩, ?_⟩
              · rw [hdummy', hkeeps.dummy]
                exact CipConnectionObject.unsized_field hunsized (·.connectionCloseFunction)
                  fun _ => rfl
              · rw [hdummy', hkeeps.dummy]
                exact CipConnectionObject.unsized_field hunsized (·.instances)
                  fun _ => rfl
              · rw [hdummy', hkeeps.dummy]
                exact CipConnectionObject.unsized_field hunsized (·.triad) fun _ => rfl
              · obtain ⟨hopens, hgranted, hpoints⟩ := opens_of_ready
                  ⟨hr₁, hview₂, hchosen, hclass, hready, hkeeps⟩ hchannel hview'
                have hlengths : st₂.assemblyLength cfg = st.assemblyLength cfg := by
                  funext instanceNumber
                  rw [assemblyLength, hdata₂, assemblyLength]
                rw [hlengths] at hpoints
                exact .opened hchosen hfinds htype hvacated hopens hgranted hpoints

theorem getFreeExplicitConnection_found {r : ConnRef}
    (h : st.getFreeExplicitConnection cfg = some r) :
    r.Valid cfg ∧ r.isIo = false ∧ (st.conn r).state = .nonExistent := by
  unfold getFreeExplicitConnection at h
  obtain ⟨i, hi, rfl⟩ := Option.map_eq_some_iff.mp h
  have hlt := List.mem_range.mp (List.mem_of_find?_eq_some hi)
  have hstate := List.find?_some hi
  exact ⟨hlt, rfl, of_decide_eq_true hstate⟩

theorem kind_class3 {r : ConnRef} (hvalid : r.Valid cfg) (hio : r.isIo = false)
    {d : CipConnectionObject} (hrequest : Requested d) (consumedId producedId : UInt32) :
    Kind cfg r { d.configured consumedId producedId with
      state := .established
      instanceType := .explicitMessaging
      connectionCloseFunction := some .closeConnection
      connectionTimeoutFunction := some .class3ConnectionTimeoutHandler } := by
  refine ⟨hvalid, .inl rfl, (ConnRef.instanceType_eq_explicit.mpr hio).symm, ?_, ?_,
    fun _ => ⟨rfl, rfl, hrequest.instances⟩, ?_, ?_, ?_, ?_⟩
  · rw [ConnRef.closeFunction, hio]
    rfl
  · rw [ConnRef.timeoutFunction, hio]
    rfl
  · intro h
    rw [hio] at h
    cases h
  · intro h
    rw [hio] at h
    cases h
  · intro h
    rw [hio] at h
    cases h
  · intro n hn
    have hnone : some n = none := hn.symm.trans (congrArg Prod.fst hrequest.instances)
    cases hnone

/-- A class 3 slot keeps the terms of its request and the id that was drawn for it. -/
theorem granted_class3 (env : Environment) (d : CipConnectionObject) (connectionId : UInt16)
    (producedId : UInt32) :
    Granted cfg env d connectionId
      { d.configured (d.consumedId cfg connectionId) producedId with
        state := .established
        instanceType := .explicitMessaging
        connectionCloseFunction := some .closeConnection
        connectionTimeoutFunction := some .class3ConnectionTimeoutHandler } where
  terms := by rfl
  consumedId := rfl
  channel := ⟨.inl rfl, .inl rfl⟩
  unheard := ⟨rfl, rfl⟩

/-- `EstablishClass3Connection` lists a slot of the explicit pool. -/
theorem establishClass3Connection_spec (env : Environment) {ns : List Nat}
    (h : st.Listed cfg ns)
    (hregular : Regular cfg (st.view cfg)) (hrequest : Requested st.dummy)
    {status : OpenStatus} {st' : StackState}
    (hcall : st.establishClass3Connection cfg = .ok (status, st')) :
    (∃ ns', st'.Listed cfg ns') ∧ AfterRequest st st' ∧
      ((status.general ≠ GeneralStatus.success ∧ st' = st) ∨
        (status = {} ∧ ∃ r c, r ∉ st.connectionList cfg ∧ r.isIo = false ∧ Kind cfg r c ∧
          c.state = .established ∧
          c.transportClass = st.dummy.transportClass ∧
          Granted cfg env st.dummy st.connectionId c ∧
          st'.view cfg = (st.view cfg).insert r c
            (st.dummy.connectionIdAfter st.connectionId))) := by
  unfold establishClass3Connection at hcall
  cases hfree : st.getFreeExplicitConnection cfg with
  | none =>
      simp only [hfree] at hcall
      cases hcall
      exact ⟨⟨ns, h⟩, ⟨rfl, rfl, rfl⟩, .inl ⟨connectionFailure_ne_success _, rfl⟩⟩
  | some r =>
      simp only [hfree] at hcall
      obtain ⟨hvalid, hio, hstate⟩ := getFreeExplicitConnection_found hfree
      have hr : r ∉ st.connectionList cfg := by
        intro hmem
        rcases (hregular.kind r hmem).state with hs | ⟨hs, -⟩
        · rw [view_object, hstate] at hs
          cases hs
        · rw [view_object, hstate] at hs
          cases hs
      have hview₁ := view_deepCopyDummy hr
      have hlisted₁ : (st.deepCopyDummy cfg r).Listed cfg ns := h
      have hdummy₁ : (st.deepCopyDummy cfg r).dummy = st.dummy := rfl
      have hid₁ : (st.deepCopyDummy cfg r).connectionId = st.connectionId := rfl
      generalize st.deepCopyDummy cfg r = st₁ at hcall hview₁ hlisted₁ hdummy₁ hid₁
      have hconn₁ : st₁.conn r = st.dummy := by
        rw [← st₁.view_object cfg, hview₁]
        exact Function.update_self r _ _
      obtain ⟨hwrites, hid, hconn⟩ := generalConfiguration_spec cfg r st₁
      rw [hconn₁, hid₁] at hid hconn
      unfold prepareClass3Connection at hcall
      generalize st₁.generalConfiguration cfg r = st₂ at hcall hwrites hid hconn
      have hwrites₃ := hwrites.trans (writes_modifyConn r st₂ fun c =>
        { c with
          instanceType := .explicitMessaging
          connectionCloseFunction := some .closeConnection
          connectionTimeoutFunction := some .class3ConnectionTimeoutHandler })
      have hconn₃ := conn_modifyConn_self st₂ r fun c =>
        { c with
          instanceType := .explicitMessaging
          connectionCloseFunction := some .closeConnection
          connectionTimeoutFunction := some .class3ConnectionTimeoutHandler }
      have hid₃ : (st₂.modifyConn r fun c =>
        { c with
          instanceType := .explicitMessaging
          connectionCloseFunction := some .closeConnection
          connectionTimeoutFunction := some .class3ConnectionTimeoutHandler }).connectionId =
          st.dummy.connectionIdAfter st.connectionId := hid
      generalize (st₂.modifyConn r fun c =>
        { c with
          instanceType := .explicitMessaging
          connectionCloseFunction := some .closeConnection
          connectionTimeoutFunction := some .class3ConnectionTimeoutHandler }) = st₃
        at hcall hwrites₃ hconn₃ hid₃
      have hview₃ := hwrites₃.view_scratch hview₁
      have hlisted₃ : st₃.Listed cfg ns := by
        unfold Listed
        rw [hwrites₃.list]
        exact hlisted₁
      have hr₃ : r ∉ st₃.connectionList cfg := by
        rw [← view_members, hview₃]
        exact hr
      cases hadd : st₃.addNewActiveConnection cfg r with
      | error fault => simp [hadd] at hcall
      | ok st₄ =>
          simp only [hadd] at hcall
          cases hcall
          obtain ⟨list, rfl, ⟨n, hlisted⟩, hmembers⟩ :=
            addNewActiveConnection_ok hlisted₃ hr₃ hadd
          refine ⟨⟨n :: ns, hlisted⟩, ⟨?_, ?_, ?_⟩, .inr ⟨rfl, r,
            (st₃.conn r).setState .established, hr, hio, ?_, rfl, ?_, ?_, ?_⟩⟩
          · rw [← hdummy₁]
            exact CipConnectionObject.unsized_field hwrites₃.dummy
              (·.connectionCloseFunction) fun _ => rfl
          · rw [← hdummy₁]
            exact CipConnectionObject.unsized_field hwrites₃.dummy
              (·.instances) fun _ => rfl
          · rw [← hdummy₁]
            exact CipConnectionObject.unsized_field hwrites₃.dummy (·.triad) fun _ => rfl
          · rw [hconn₃, hconn]
            exact kind_class3 hvalid hio hrequest _ _
          · rw [hconn₃, hconn]
            rfl
          · rw [hconn₃, hconn]
            exact granted_class3 env st.dummy st.connectionId _
          · refine View.ext ?_ ?_ ?_ hid₃
            · exact hmembers.trans (congrArg (r :: ·) (congrArg View.members hview₃))
            · funext s
              by_cases hs : s = r
              · subst hs
                exact (Function.update_self s _ _).trans
                  (Function.update_self s _ (st.view cfg).object).symm
              · refine (Function.update_of_ne hs _ _).trans ?_
                refine (congrFun (congrArg View.object hview₃) s).trans ?_
                exact (Function.update_of_ne hs _ _).trans (Function.update_of_ne hs _ _).symm
            · have htrace : (st₃.view cfg).trace = (st.view cfg).trace ++ [.copied r false] :=
                congrArg View.trace hview₃
              exact htrace

end StackState

end Opener

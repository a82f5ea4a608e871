import Opener.Metatheory.ConsumedOrder
import Opener.Metatheory.MalformedItems

/-!
The data that a class 1 connection hands to its assembly. From its opening on, the items
that its receive function gets are logged with whether their data was written. The count
of an item is compared with that of the item before it, and that of the first item with
zero, as if an item with this count had been there.
-/

namespace Opener

/-- In front of the other by less than half the counts. -/
def Newer (a b : UInt16) : Prop := 0 < (a - b).toNat ∧ (a - b).toNat < 2 ^ 15

theorem seqLeq16_eq_false_iff {a b : UInt16} : seqLeq16 a b = false ↔ Newer a b := by
  rw [seqLeq16, Newer, Bool.or_eq_false_iff, decide_eq_false_iff_not, decide_eq_false_iff_not]
  omega

/-- An item that was received. -/
structure ReceivedItem where
  count : UInt16
  /-- It is of the negotiated size. -/
  sized : Bool
  /-- Its data is in the consuming assembly. -/
  written : Bool
deriving DecidableEq, Repr

namespace ReceivedItem

/-- What the count of the next item is compared with. -/
def lastCount (last : Option ReceivedItem) : UInt16 := (last.map count).getD 0

/-- The first data of the negotiated size is written. -/
def FirstDelivered (log : List ReceivedItem) : Prop :=
  ∀ before item after, log = before ++ item :: after → item.sized = true →
    (∀ earlier ∈ before, earlier.sized = false) → item.written = true

/-- Later data is written when its count is newer than that of the item before it. -/
def LaterNewer (log : List ReceivedItem) : Prop :=
  ∀ before item after, log = before ++ item :: after → item.sized = true →
    (∃ earlier ∈ before, earlier.sized = true) →
      ∀ previous, before.getLast? = some previous →
        (item.written = true ↔ Newer item.count previous.count)

/-- The first data of the negotiated size has a count newer than the item before it, or
than zero if there is none. -/
def FirstNewer (log : List ReceivedItem) : Prop :=
  ∀ before item after, log = before ++ item :: after → item.sized = true →
    (∀ earlier ∈ before, earlier.sized = false) →
      Newer item.count (lastCount before.getLast?)

/-- How the receive function decides. -/
def Decided (last : Option ReceivedItem) (item : ReceivedItem) : Prop :=
  item.written = true ↔ item.sized = true ∧ Newer item.count (lastCount last)

theorem laterNewer_of_judged {log : List ReceivedItem} (h : Records.Judged Decided log) :
    LaterNewer log := by
  intro before item after hlog hsized _ previous hprevious
  have hdecided := h before item after hlog
  rw [hprevious, Decided] at hdecided
  rw [hdecided]
  exact and_iff_right hsized

theorem firstDelivered_iff {log : List ReceivedItem} (h : Records.Judged Decided log) :
    FirstDelivered log ↔ FirstNewer log := by
  constructor
  · intro hdelivered before item after hlog hsized hfirst
    have hwritten := hdelivered before item after hlog hsized hfirst
    exact ((h before item after hlog).mp hwritten).2
  · intro hnewer before item after hlog hsized hfirst
    exact (h before item after hlog).mpr ⟨hsized, hnewer before item after hlog hsized hfirst⟩

end ReceivedItem

namespace Reception

variable {cfg : Config} {env : Environment} {r : ConnRef} {reception : Reception}

/-- The data of an item behind the headers. -/
def payload (cfg : Config) (c : CipConnectionObject) (bytes : Nat) (data : Message) :
    List UInt8 :=
  Message.takeBytes (data.drop (c.headerSize cfg.consumeRunIdle bytes)) bytes

theorem mem_headed_calls {data : Message} {call : ReceptionCall}
    (h : call ∈ (reception.headed cfg data).calls) :
    call ∈ reception.calls ∨ ∃ runIdle, call = .runIdleChanged runIdle := by
  rw [headed] at h
  split at h
  · rw [receiveRunIdle] at h
    dsimp only at h
    split at h
    · refine (List.mem_append.mp h).imp id fun hchanged => ?_
      exact ⟨_, List.mem_singleton.mp hchanged⟩
    · exact .inl h
  · exact .inl h

/-- The 16-bit length behind the headers is that of the assembly for the negotiated size
only. -/
theorem rest_eq_iff {runIdle : Bool} {bytes : Nat} {dataLength : UInt16}
    (hbound : 2 + (if runIdle then 4 else 0) + bytes < 65536) :
    (if runIdle then dataLength - 2 - 4 else dataLength - 2).toNat = bytes ↔
      dataLength.toNat = 2 + (if runIdle then 4 else 0) + bytes := by
  have hlength := dataLength.toNat_lt
  have htwo : (2 : UInt16).toNat = 2 := rfl
  have hfour : (4 : UInt16).toNat = 4 := rfl
  cases runIdle with
  | true =>
      simp only [if_true, UInt16.toNat_sub, htwo, hfour] at hbound ⊢
      omega
  | false =>
      simp only [Bool.false_eq_true, if_false, UInt16.toNat_sub, htwo] at hbound ⊢
      omega

theorem headed_unwritten {data : Message} (hcalls : reception.calls = [])
    (instanceNumber : UInt16) (bytes : List UInt8) :
    .written instanceNumber bytes ∉ (reception.headed cfg data).calls := by
  intro hwritten
  rcases mem_headed_calls hwritten with hbefore | ⟨runIdle, hchanged⟩
  · rw [hcalls] at hbefore
    cases hbefore
  · cases hchanged

theorem receiveData_written_iff {instanceNumber : UInt16}
    (hconsuming : (reception.state.conn r).consumingInstance = some instanceNumber)
    (hpoint : instanceNumber ≠ 0)
    (hunwritten : ∀ bytes, .written instanceNumber bytes ∉ reception.calls)
    (env : Environment) (data : Message) (dataLength : UInt16) :
    ∃ status after, reception.receiveData env r data dataLength = .ok (status, after) ∧
      (.written instanceNumber (data.takeBytes (reception.state.takenLength instanceNumber)) ∈
          after.calls ↔
        dataLength.toNat = reception.state.takenLength instanceNumber) := by
  by_cases hlength : dataLength.toNat = reception.state.takenLength instanceNumber
  · obtain ⟨status, assemblyData, -, hdata⟩ :=
      @receiveData_taken env r reception data dataLength instanceNumber hconsuming hpoint hlength
    refine ⟨_, _, hdata, iff_of_true ?_ hlength⟩
    rw [← hlength]
    exact List.mem_append_right _ List.mem_cons_self
  · exact ⟨_, _, receiveData_refused hconsuming hlength,
      iff_of_false (hunwritten _) hlength⟩

/-- The connection consumes an assembly that is not empty, with class 1. -/
structure ConsumesData (cfg : Config) (length : UInt16 → Nat) (c : CipConnectionObject) :
    Prop where
  transportClass : c.transportClass = .class1
  instance_ne : c.consumedPath.instanceId ≠ 0
  consumingInstance : c.consumingInstance = some c.consumedPath.instanceId
  size : c.oToTConnectionSize.toNat =
    2 + (if cfg.consumeRunIdle then 4 else 0) + length c.consumedPath.instanceId
  nonempty : length c.consumedPath.instanceId ≠ 0

theorem receiveSized_spec {length : UInt16 → Nat}
    (hconsumes : ConsumesData cfg length (reception.state.conn r))
    (hlengths : HasLengths length reception.state.assemblyData)
    (hcalls : reception.calls = []) (env : Environment) (data : Message) (dataLength : UInt16) :
    ∃ status after,
      reception.handleReceivedIoConnectionData cfg env r data dataLength = .ok (status, after) ∧
      (.written (reception.state.conn r).consumedPath.instanceId
          (payload cfg (reception.state.conn r)
            (length (reception.state.conn r).consumedPath.instanceId) data) ∈ after.calls ↔
        dataLength.toNat = (reception.state.conn r).oToTConnectionSize.toNat ∧
          Newer data.getUint.1 (reception.state.conn r).sequenceCountConsuming) := by
  obtain ⟨hclass, hpoint, hinstance, hsize, hnonempty⟩ := hconsumes
  rw [handleReceivedIoConnectionData_class1 hclass, payload, CipConnectionObject.headerSize,
    if_pos hclass, hsize]
  have hbound : 2 + (if cfg.consumeRunIdle then 4 else 0) +
      length (reception.state.conn r).consumedPath.instanceId < 65536 := by
    rw [← hsize]
    exact CipConnectionObject.connectionSize_lt _ _
  have hconsuming : ((reception.counted r data.getUint.1).state.conn r).consumingInstance =
      some (reception.state.conn r).consumedPath.instanceId :=
    (congrArg CipConnectionObject.consumingInstance
      (StackState.conn_modifyConn_self _ _ _)).trans hinstance
  have hassembly : (reception.counted r data.getUint.1).state.assemblyData =
      reception.state.assemblyData := rfl
  have hnone : (reception.counted r data.getUint.1).calls = [] := hcalls
  generalize reception.counted r data.getUint.1 = counted at hconsuming hassembly hnone ⊢
  generalize (reception.state.conn r).consumedPath.instanceId = instanceNumber
    at hpoint hnonempty hbound hconsuming ⊢
  have hunwritten := @headed_unwritten cfg counted (data.drop 2) hnone instanceNumber
  by_cases hnil : (dataLength - 2).toNat = 0
  · refine ⟨_, _, receiveContent_nil hnil, iff_of_false ?_ fun hboth => ?_⟩
    · rw [hnone]
      exact List.not_mem_nil
    · have hlength := hboth.1
      rw [UInt16.toNat_sub] at hnil
      have htwo : (2 : UInt16).toNat = 2 := rfl
      omega
  · cases hold : seqLeq16 data.getUint.1 (reception.state.conn r).sequenceCountConsuming with
    | true =>
        refine ⟨_, _, receiveContent_repeated hnil, iff_of_false (hunwritten _) fun hboth => ?_⟩
        rw [seqLeq16_eq_false_iff.mpr hboth.2] at hold
        cases hold
    | false =>
        have hnewer := seqLeq16_eq_false_iff.mp hold
        have htaken : (counted.headed cfg (data.drop 2)).state.takenLength instanceNumber =
            length instanceNumber := by
          rw [StackState.takenLength, if_neg hpoint, headed_assemblyData, hassembly, hlengths]
        have hconsuming' : ((counted.headed cfg (data.drop 2)).state.conn r).consumingInstance =
            some instanceNumber := by
          rw [(headed_onward cfg (data.drop 2) counted).conn]
          exact hconsuming
        have hcontent : (if cfg.consumeRunIdle then (data.drop 2).drop 4 else data.drop 2) =
            data.drop (2 + if cfg.consumeRunIdle = true ∧ length instanceNumber ≠ 0 then 4
              else 0) := by
          by_cases hrunIdle : cfg.consumeRunIdle = true
          · rw [if_pos hrunIdle, if_pos ⟨hrunIdle, hnonempty⟩]
            exact List.drop_drop
          · rw [if_neg hrunIdle, if_neg fun hboth => hrunIdle hboth.1]
        have hrest := @rest_eq_iff cfg.consumeRunIdle (length instanceNumber) dataLength hbound
        rw [receiveContent_new hnil, ← hrest, ← hcontent, and_iff_left hnewer, ← htaken]
        exact receiveData_written_iff hconsuming' hpoint hunwritten env _ _

theorem ConsumesData.of_lasting {length : UInt16 → Nat} {c d : CipConnectionObject}
    (h : ConsumesData cfg length c) (hlasting : d.lasting = c.lasting) :
    ConsumesData cfg length d := by
  have hfields : (d.transportClass, d.consumedPath.instanceId, d.consumingInstance,
      d.oToTConnectionSize) = (c.transportClass, c.consumedPath.instanceId,
      c.consumingInstance, c.oToTConnectionSize) :=
    CipConnectionObject.lasting_field hlasting (fun c => (c.transportClass,
      c.consumedPath.instanceId, c.consumingInstance, c.oToTConnectionSize)) fun _ => rfl
  simp only [Prod.mk.injEq] at hfields
  obtain ⟨hclass, hpath, hinstance, hsize⟩ := hfields
  obtain ⟨hclass', hpoint, hinstance', hsize', hnonempty⟩ := h
  rw [← hclass] at hclass'
  rw [← hpath] at hpoint hnonempty
  rw [← hinstance, ← hpath] at hinstance'
  rw [← hsize, ← hpath] at hsize'
  exact ⟨hclass', hpoint, hinstance', hsize', hnonempty⟩

theorem consumesData_of_fits {length : UInt16 → Nat} {st : StackState}
    (hlengths : HasLengths length st.assemblyData)
    (hfits : CipConnectionObject.Fits cfg (st.assemblyLength cfg) (st.conn r))
    (hclass : (st.conn r).transportClass = .class1)
    (hoToT : (st.conn r).oToTConnectionType ≠ .null)
    (hpoint : (st.conn r).consumedPath.instanceId ≠ 0)
    (hnonempty : length (st.conn r).consumedPath.instanceId ≠ 0) :
    ConsumesData cfg length (st.conn r) := by
  obtain ⟨hinstance, hsize⟩ := hfits.consuming hoToT
  rw [StackState.assemblyLength, if_neg hpoint, hlengths, CipConnectionObject.wireSize,
    CipConnectionObject.headerSize, if_pos hclass] at hsize
  simp only [hnonempty, ne_eq, not_false_eq_true, and_true] at hsize
  exact ⟨hclass, hpoint, hinstance, hsize, hnonempty⟩

/-- What an item leaves of the connection, and the lengths of the assemblies. -/
theorem receive_after {length : UInt16 → Nat} (henv : env.KeepsLengths length)
    (hclass : (reception.state.conn r).transportClass = .class1) {data : Message}
    {dataLength : UInt16} {status : EipStatus} {after : Reception}
    (hcall : reception.handleReceivedIoConnectionData cfg env r data dataLength =
      .ok (status, after)) :
    (after.state.conn r).sequenceCountConsuming = data.getUint.1 ∧
      (after.state.conn r).lasting = (reception.state.conn r).lasting ∧
      StackState.RetainsLengths length reception.state after.state := by
  refine ⟨?_, ?_, ?_⟩
  · rw [handleReceivedIoConnectionData_class1 hclass] at hcall
    rw [(receiveContent_onward hcall).conn]
    exact counted_sequenceCountConsuming r data.getUint.1 reception
  · rw [handleReceivedIoConnectionData_class1 hclass] at hcall
    rw [(receiveContent_onward hcall).conn]
    exact (congrArg CipConnectionObject.lasting
      (StackState.conn_modifyConn_self _ _ _)).trans rfl
  · have hstate := @handleReceivedIoConnectionData_onState cfg env r data dataLength reception
    rw [hcall] at hstate
    exact StackState.handleReceivedIoConnectionData_lengths henv hstate.symm

/-- What is logged of an item. -/
def receivedItem (cfg : Config) (env : Environment) (r : ConnRef) (data : Message)
    (dataLength : UInt16) (reception : Reception) : ReceivedItem where
  count := data.getUint.1
  sized := dataLength.toNat = (reception.state.conn r).oToTConnectionSize.toNat
  written :=
    match reception.handleReceivedIoConnectionData cfg env r data dataLength with
    | .error _ => false
    | .ok (_, after) =>
        after.calls.contains (.written (reception.state.conn r).consumedPath.instanceId
          (payload cfg (reception.state.conn r) (reception.state.assemblyData
            (reception.state.conn r).consumedPath.instanceId).length data))

theorem receivedItem_decided {length : UInt16 → Nat}
    (hconsumes : ConsumesData cfg length (reception.state.conn r))
    (hlengths : HasLengths length reception.state.assemblyData)
    (hcalls : reception.calls = []) (env : Environment) (data : Message) (dataLength : UInt16) :
    (receivedItem cfg env r data dataLength reception).written = true ↔
      (receivedItem cfg env r data dataLength reception).sized = true ∧
        Newer (receivedItem cfg env r data dataLength reception).count
          (reception.state.conn r).sequenceCountConsuming := by
  obtain ⟨status, after, hcall, hwritten⟩ :=
    receiveSized_spec hconsumes hlengths hcalls env data dataLength
  rw [← hlengths] at hwritten
  rw [receivedItem, hcall]
  dsimp only
  rw [List.contains_iff_mem, hwritten, decide_eq_true_eq]

end Reception

namespace StackState

open Reception

variable {cfg : Config} {length : UInt16 → Nat} {assemblyData : UInt16 → List UInt8}
  {st st' start : StackState} {r : ConnRef} {log : List ReceivedItem}
  {result : Except Fault StackState}

/-- A connection to an assembly that was just opened, in a run in which the application
keeps the lengths of the assemblies. -/
def OpenedToAssembly (cfg : Config) (length : UInt16 → Nat)
    (assemblyData : UInt16 → List UInt8) (r : ConnRef) (st : StackState) : Prop :=
  ∃ before label st₁, Runs.Reaches (step cfg) (fun label _ => KeepsLengths length label)
      (initialState cfg assemblyData) before ∧
    KeepsLengths length label ∧ openEntry cfg label before = some st₁ ∧
    st₁.dummy.configurationPath.classId = assemblyClassCode ∧
    st₁.openConnection cfg label.1 = .ok ({}, st) ∧ (st.connectionList cfg).head? = some r

theorem OpenedToAssembly.newlyOpened (h : OpenedToAssembly cfg length assemblyData r st) :
    NewlyOpened cfg assemblyClassCode r st := by
  obtain ⟨before, label, st₁, hreaches, -, hentry, hclass, hopen, hhead⟩ := h
  have hreachable : Reachable cfg before :=
    ⟨assemblyData, hreaches.mono fun _ _ _ => trivial⟩
  exact ⟨before, label, st₁, hreachable, hentry, hclass, hopen, hhead⟩

theorem OpenedToAssembly.fits (hassemblies : HasLengths length assemblyData)
    (h : OpenedToAssembly cfg length assemblyData r st) :
    HasLengths length st.assemblyData ∧
      CipConnectionObject.Fits cfg (st.assemblyLength cfg) (st.conn r) ∧
      (st.conn r).sequenceCountConsuming = 0 := by
  obtain ⟨-, -, hcount⟩ := h.newlyOpened.found (by decide)
  have hio := h.newlyOpened.io.1
  obtain ⟨before, label, st₁, hreaches, hkeeps, hentry, hclass, hopen, hhead⟩ := h
  obtain ⟨hlengths, hsized⟩ := sized_of_reaches hassemblies hreaches
  have hreachable : Reachable cfg before :=
    ⟨assemblyData, hreaches.mono fun _ _ _ => trivial⟩
  obtain ⟨hsound, hrequested, htransport, hmembers, hcores⟩ :=
    openEntry_sound hreachable.sound hentry
  have hassembly₁ := openEntry_assemblyData hentry
  have hlengths₁ : HasLengths length st₁.assemblyData := by
    rw [hassembly₁]
    exact hlengths
  have hsized₁ : (st₁.view cfg).Sized cfg (st₁.assemblyLength cfg) := by
    rw [assemblyLength_congr hlengths hlengths₁]
    intro s hs hio
    rw [hmembers] at hs
    exact CipConnectionObject.fits_of_lasting (hsized s hs hio)
      (CipConnectionObject.lasting_of_core (hcores s))
  obtain ⟨ns, hlisted⟩ := hsound.wellFormed
  obtain ⟨-, -, hanswered⟩ := openConnection_spec hlisted hsound.regular hrequested htransport
    hopen
  have hlengths' := openConnection_lengths hkeeps.callbacks hlisted hsound.regular hopen hlengths₁
  refine ⟨hlengths', ?_, hcount⟩
  rw [assemblyLength_congr hlengths₁ hlengths']
  exact hanswered.sized hsized₁ r (List.mem_of_head? hhead) hio

/-- Nothing else happened to what the connection consumes. -/
structure Unvisited (length : UInt16 → Nat) (r : ConnRef) (st st' : StackState) : Prop where
  lasting : (st'.conn r).lasting = (st.conn r).lasting
  sequenceCountConsuming :
    (st'.conn r).sequenceCountConsuming = (st.conn r).sequenceCountConsuming
  lengths : RetainsLengths length st st'

/-- The items that the receive function of a connection gets, of any length; anything else
may happen between them that leaves the connection alone. -/
inductive ReceivesItems (cfg : Config) (length : UInt16 → Nat) (r : ConnRef)
    (start : StackState) : List ReceivedItem → Except Fault StackState → Prop
  | start : ReceivesItems cfg length r start [] (.ok start)
  | elsewhere {log : List ReceivedItem} {st st' : StackState}
      (before : ReceivesItems cfg length r start log (.ok st))
      (unvisited : Unvisited length r st st') :
      ReceivesItems cfg length r start log (.ok st')
  | item {log : List ReceivedItem} {st : StackState} {env : Environment}
      (before : ReceivesItems cfg length r start log (.ok st))
      (keeps : env.KeepsLengths length) (identity : CipIdentityObject) (data : Message)
      (dataLength : UInt16) :
      ReceivesItems cfg length r start
        (log ++ [receivedItem cfg env r data dataLength { state := st, identity }])
        ((Reception.handleReceivedIoConnectionData cfg env r data dataLength
          { state := st, identity }).map fun result => result.2.state)

/-- The connection remembers the count of the last item, and each item was judged by
it. -/
theorem ReceivesItems.judged (hrun : ReceivesItems cfg length r start log result)
    (hconsumes : ConsumesData cfg length (start.conn r))
    (hlengths : HasLengths length start.assemblyData)
    (hcount : (start.conn r).sequenceCountConsuming = 0) :
    Records.Judged ReceivedItem.Decided log ∧ ∀ st, result = .ok st →
      ConsumesData cfg length (st.conn r) ∧ HasLengths length st.assemblyData ∧
        (st.conn r).sequenceCountConsuming = ReceivedItem.lastCount log.getLast? := by
  induction hrun with
  | start =>
      refine ⟨Records.judged_nil _, fun st hst => ?_⟩
      cases hst
      exact ⟨hconsumes, hlengths, hcount⟩
  | elsewhere before unvisited ih =>
      obtain ⟨hjudged, hafter⟩ := ih
      refine ⟨hjudged, fun st hst => ?_⟩
      cases hst
      obtain ⟨hconsumes, hlengths, hcount⟩ := hafter _ rfl
      exact ⟨hconsumes.of_lasting unvisited.lasting, unvisited.lengths hlengths,
        unvisited.sequenceCountConsuming.trans hcount⟩
  | @item log st env before keeps identity data dataLength ih =>
      obtain ⟨hjudged, hafter⟩ := ih
      obtain ⟨hconsumes, hlengths, hcount⟩ := hafter _ rfl
      refine ⟨hjudged.append ?_, fun st' hst' => ?_⟩
      · have hdecided := @receivedItem_decided cfg r { state := st, identity } length hconsumes
          hlengths rfl env data dataLength
        rw [ReceivedItem.Decided, ← hcount]
        exact hdecided
      · cases hcall : Reception.handleReceivedIoConnectionData cfg env r data dataLength
            { state := st, identity } with
        | error fault =>
            rw [hcall] at hst'
            cases hst'
        | ok result =>
            rw [hcall] at hst'
            cases hst'
            obtain ⟨hstored, hlasting, hretains⟩ :=
              receive_after keeps hconsumes.transportClass hcall
            refine ⟨hconsumes.of_lasting hlasting, hretains hlengths, hstored.trans ?_⟩
            rw [List.getLast?_append]
            rfl

/-- The first data of a connection is delivered, and later data when it is newer, exactly
when the count of the first data of the negotiated size is newer than that of the item
before it, or, without one, than zero. -/
theorem first_data_delivered_iff (hassemblies : HasLengths length assemblyData)
    (hopened : OpenedToAssembly cfg length assemblyData r start)
    (hclass : (start.conn r).transportClass = .class1)
    (hoToT : (start.conn r).oToTConnectionType ≠ .null)
    (hpoint : (start.conn r).consumedPath.instanceId ≠ 0)
    (hnonempty : length (start.conn r).consumedPath.instanceId ≠ 0)
    (hrun : ReceivesItems cfg length r start log result) :
    ReceivedItem.FirstDelivered log ∧ ReceivedItem.LaterNewer log ↔
      ReceivedItem.FirstNewer log := by
  obtain ⟨hlengths, hfits, hcount⟩ := hopened.fits hassemblies
  have hconsumes := consumesData_of_fits hlengths hfits hclass hoToT hpoint hnonempty
  obtain ⟨hjudged, -⟩ := hrun.judged hconsumes hlengths hcount
  rw [ReceivedItem.firstDelivered_iff hjudged]
  exact and_iff_left (ReceivedItem.laterNewer_of_judged hjudged)

section Sample

open SampleApplication

/-- An item of the exclusive owner's size, with the count in its first two bytes. -/
def ownerItem (count : UInt16) : Message :=
  intBytes count ++ dintBytes 1 ++ List.replicate 32 7

/-- An exclusive owner is opened, and its first item with the count is written or not. -/
def receivesFirst (count : UInt16) (written : Bool) (label : Environment × Action)
    (st : StackState) : Bool :=
  match openEntry config label st with
  | none => false
  | some st₁ =>
      st₁.dummy.configurationPath.classId = assemblyClassCode &&
      match st₁.openConnection config label.1 with
      | .error _ => false
      | .ok (status, start) =>
          status = {} && (start.connectionList config).head? = some (.exclusiveOwner 0) &&
          (start.conn (.exclusiveOwner 0)).transportClass = .class1 &&
          (start.conn (.exclusiveOwner 0)).oToTConnectionType = .pointToPoint &&
          (start.conn (.exclusiveOwner 0)).consumedPath.instanceId = 150 &&
          receivedItem config (environment 0 20) (.exclusiveOwner 0) (ownerItem count) 38
              { state := start, identity := {} } = { count, sized := true, written }

theorem receivesItems_of_receivesFirst {count : UInt16} {written : Bool}
    (h : ends config [] (receivesFirst count written (request (exclusiveOwner 1 1 multicast))) =
      true) :
    HasLengths sampleLength SampleApplication.assemblyData ∧ ∃ start result,
      OpenedToAssembly config sampleLength SampleApplication.assemblyData (.exclusiveOwner 0)
        start ∧
      (start.conn (.exclusiveOwner 0)).transportClass = .class1 ∧
      (start.conn (.exclusiveOwner 0)).oToTConnectionType ≠ .null ∧
      (start.conn (.exclusiveOwner 0)).consumedPath.instanceId = 150 ∧
      ReceivesItems config sampleLength (.exclusiveOwner 0) start
        [{ count, sized := true, written }] result := by
  rw [ends] at h
  cases hrun : run config [] with
  | error fault => simp [hrun] at h
  | ok st =>
      simp only [hrun, receivesFirst] at h
      obtain ⟨hlengths, hreaches⟩ := reaches_of_run (List.forall_mem_nil _) hrun
      split at h
      · cases h
      · rename_i st₁ hentry
        rw [Bool.and_eq_true, decide_eq_true_eq] at h
        obtain ⟨hassembly, h⟩ := h
        split at h
        · cases h
        · rename_i status start hopen
          simp only [Bool.and_eq_true, decide_eq_true_eq] at h
          obtain ⟨⟨⟨⟨⟨rfl, hhead⟩, hclass⟩, htype⟩, hpoint⟩, hitem⟩ := h
          have hstart : ReceivesItems config sampleLength (.exclusiveOwner 0) start []
              (.ok start) := .start
          have hitems := hstart.item (environment_keepsLengths 0 20) {} (ownerItem count) 38
          rw [hitem] at hitems
          have hoToT : (start.conn (.exclusiveOwner 0)).oToTConnectionType ≠ .null := by
            rw [htype]
            decide
          exact ⟨hlengths, start, _, ⟨st, _, st₁, hreaches, keepsLengths_request _, hentry,
            hassembly, hopen, hhead⟩, hclass, hoToT, hpoint, hitems⟩

/-- Count 1 is newer than zero. -/
theorem first_data_delivered_one : ∃ start result,
    ReceivesItems config sampleLength (.exclusiveOwner 0) start
      [{ count := 1, sized := true, written := true }] result ∧
    ReceivedItem.FirstDelivered [{ count := 1, sized := true, written := true }] ∧
    ReceivedItem.LaterNewer [{ count := 1, sized := true, written := true }] := by
  obtain ⟨hlengths, start, result, hopened, hclass, hoToT, hpoint, hrun⟩ :=
    @receivesItems_of_receivesFirst 1 true (by decide +kernel)
  have hassembly : (start.conn (.exclusiveOwner 0)).consumedPath.instanceId ≠ 0 := by
    rw [hpoint]
    decide
  have hnonempty : sampleLength (start.conn (.exclusiveOwner 0)).consumedPath.instanceId ≠ 0 := by
    rw [hpoint]
    decide
  refine ⟨start, result, hrun, (first_data_delivered_iff hlengths hopened hclass hoToT hassembly
    hnonempty hrun).mpr ?_⟩
  intro before item after hlog _ _
  cases before with
  | nil =>
      cases hlog
      exact ⟨by decide, by decide⟩
  | cons _ before =>
      obtain ⟨-, htail⟩ := List.cons.inj hlog
      exact absurd htail (by simp)

/-- Count 32768, as of an originator that starts anywhere, is not. -/
theorem first_data_delivered_half : ∃ start result,
    OpenedToAssembly config sampleLength SampleApplication.assemblyData (.exclusiveOwner 0)
      start ∧
    (start.conn (.exclusiveOwner 0)).transportClass = .class1 ∧
    sampleLength (start.conn (.exclusiveOwner 0)).consumedPath.instanceId = 32 ∧
    ReceivesItems config sampleLength (.exclusiveOwner 0) start
      [{ count := 32768, sized := true, written := false }] result ∧
    ¬ReceivedItem.FirstDelivered [{ count := 32768, sized := true, written := false }] := by
  obtain ⟨-, start, result, hopened, hclass, -, hpoint, hrun⟩ :=
    @receivesItems_of_receivesFirst 32768 false (by decide +kernel)
  refine ⟨start, result, hopened, hclass, ?_, hrun, fun hdelivered => ?_⟩
  · rw [hpoint]
    rfl
  · have hwritten := hdelivered [] _ [] rfl rfl fun _ hnone => absurd hnone List.not_mem_nil
    cases hwritten

end Sample

end StackState

end Opener

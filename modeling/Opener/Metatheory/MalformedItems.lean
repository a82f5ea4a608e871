import Opener.Core.Reception
import Opener.Metatheory.WireSizes

/-!
Data items of a length that was not negotiated. The assembly compares lengths behind the
headers, so an item of any other length is refused there; the sequence count and the
run/idle header have then been taken from it without a look at its length. It changes
nothing exactly when the headers fit into it and repeat what is stored.
-/

namespace Opener

open CipIdentityExtendedStatus

/-- The length that `NotifyAssemblyConnectedDataReceived` takes. The first attribute of
the class object is its revision. -/
def StackState.takenLength (st : StackState) (instanceNumber : UInt16) : Nat :=
  if instanceNumber = 0 then 2 else (st.assemblyData instanceNumber).length

namespace Reception

variable {cfg : Config} {env : Environment} {r : ConnRef} {reception after : Reception}
  {data : Message} {dataLength : UInt16} {status : EipStatus}

/-- `HandleReceivedIoConnectionData` behind the sequence count. -/
def receiveContent (cfg : Config) (env : Environment) (r : ConnRef) (noNewData : Bool)
    (data : Message) (dataLength : UInt16) (reception : Reception) :
    Except Fault (EipStatus × Reception) :=
  if dataLength > 0 then
    let (data, dataLength, reception) :=
      if cfg.consumeRunIdle then
        let (runIdle, data) := data.getUdint
        (data, dataLength - 4, reception.receiveRunIdle runIdle)
      else (data, dataLength, reception)
    if noNewData then .ok (.ok, reception)
    else reception.receiveData env r data dataLength
  else .ok (.ok, reception)

/-- After the sequence count of class 1. -/
def counted (r : ConnRef) (sequenceCount : UInt16) (reception : Reception) : Reception :=
  { reception with
    state := reception.state.modifyConn r fun c =>
      { c with sequenceCountConsuming := sequenceCount }
    interpreted := reception.interpreted + 2 }

theorem counted_sequenceCountConsuming (r : ConnRef) (sequenceCount : UInt16)
    (reception : Reception) :
    ((reception.counted r sequenceCount).state.conn r).sequenceCountConsuming =
      sequenceCount :=
  congrArg CipConnectionObject.sequenceCountConsuming (StackState.conn_modifyConn_self _ _ _)

theorem handleReceivedIoConnectionData_class1
    (hclass : (reception.state.conn r).transportClass = .class1) :
    reception.handleReceivedIoConnectionData cfg env r data dataLength =
      receiveContent cfg env r
        (seqLeq16 data.getUint.1 (reception.state.conn r).sequenceCountConsuming)
        (data.drop 2) (dataLength - 2) (reception.counted r data.getUint.1) := by
  rw [handleReceivedIoConnectionData, receiveSequenceCount, if_pos hclass]
  rfl

theorem handleReceivedIoConnectionData_class0
    (hclass : (reception.state.conn r).transportClass ≠ .class1) :
    reception.handleReceivedIoConnectionData cfg env r data dataLength =
      receiveContent cfg env r false data dataLength reception := by
  rw [handleReceivedIoConnectionData, receiveSequenceCount, if_neg hclass]
  rfl

/-- Receiving leaves the objects alone and never reads back. -/
structure Onward (before after : Reception) : Prop where
  conn : ∀ r, after.state.conn r = before.state.conn r
  interpreted : before.interpreted ≤ after.interpreted
  calls : before.calls.length ≤ after.calls.length

theorem Onward.refl (reception : Reception) : Onward reception reception :=
  ⟨fun _ => rfl, Nat.le_refl _, Nat.le_refl _⟩

theorem Onward.trans {before between after : Reception} (h : Onward before between)
    (hnext : Onward between after) : Onward before after :=
  ⟨fun r => (hnext.conn r).trans (h.conn r), h.interpreted.trans hnext.interpreted,
    h.calls.trans hnext.calls⟩

theorem receiveRunIdle_onward (runIdle : UInt32) (reception : Reception) :
    Onward reception (reception.receiveRunIdle runIdle) := by
  refine ⟨fun _ => rfl, Nat.le_add_right _ _, ?_⟩
  rw [receiveRunIdle]
  dsimp only
  split
  · rw [List.length_append]
    exact Nat.le_add_right _ _
  · exact Nat.le_refl _

theorem receiveData_refused {instanceNumber : UInt16}
    (hinstance : (reception.state.conn r).consumingInstance = some instanceNumber)
    (hlength : dataLength.toNat ≠ reception.state.takenLength instanceNumber) :
    reception.receiveData env r data dataLength = .ok (.error, reception) := by
  have hbytes : (data.takeBytes dataLength.toNat).length = dataLength.toNat := by
    rw [Message.takeBytes, List.length_map, List.length_range]
  simp only [receiveData, notifyAssemblyConnectedDataReceived, hbytes, hinstance]
  rw [StackState.takenLength] at hlength
  by_cases hzero : instanceNumber = 0
  · rw [if_pos hzero] at hlength
    simp only [if_pos hzero, if_neg hlength]
  · rw [if_neg hzero] at hlength
    simp only [if_neg hzero, if_pos hlength.symm]

theorem receiveData_taken {instanceNumber : UInt16}
    (hinstance : (reception.state.conn r).consumingInstance = some instanceNumber)
    (hpoint : instanceNumber ≠ 0)
    (hlength : dataLength.toNat = reception.state.takenLength instanceNumber) :
    ∃ status assemblyData, env.afterAssemblyDataReceived instanceNumber
        (Function.update reception.state.assemblyData instanceNumber
          (data.takeBytes dataLength.toNat)) = (status, assemblyData) ∧
      reception.receiveData env r data dataLength =
        .ok (if status = .ok then .ok else .error,
          { reception with
            state := { reception.state with assemblyData }
            calls := reception.calls ++
              [.written instanceNumber (data.takeBytes dataLength.toNat),
                .afterAssemblyDataReceived instanceNumber]
            interpreted := reception.interpreted + dataLength.toNat }) := by
  have hbytes : (data.takeBytes dataLength.toNat).length = dataLength.toNat := by
    rw [Message.takeBytes, List.length_map, List.length_range]
  rw [StackState.takenLength, if_neg hpoint] at hlength
  have hfits : ¬(reception.state.assemblyData instanceNumber).length ≠ dataLength.toNat :=
    not_not.mpr hlength.symm
  obtain ⟨status, assemblyData, htold⟩ : ∃ status assemblyData,
      env.afterAssemblyDataReceived instanceNumber
        (Function.update reception.state.assemblyData instanceNumber
          (data.takeBytes dataLength.toNat)) = (status, assemblyData) := ⟨_, _, rfl⟩
  refine ⟨status, assemblyData, htold, ?_⟩
  simp only [receiveData, notifyAssemblyConnectedDataReceived, hbytes, hinstance, if_neg hpoint,
    if_neg hfits, htold]
  cases status with
  | ok | okSend | error => rfl

/-- The class object is no assembly that could be written, and without an instance there
is nothing to compare with. -/
theorem receiveData_cases (h : reception.receiveData env r data dataLength = .ok (status, after)) :
    ∃ instanceNumber, (reception.state.conn r).consumingInstance = some instanceNumber ∧
      ((dataLength.toNat ≠ reception.state.takenLength instanceNumber ∧ after = reception) ∨
        (dataLength.toNat = reception.state.takenLength instanceNumber ∧
          (∀ s, after.state.conn s = reception.state.conn s) ∧
          after.calls = reception.calls ++
            [.written instanceNumber (data.takeBytes dataLength.toNat),
              .afterAssemblyDataReceived instanceNumber] ∧
          after.interpreted = reception.interpreted + dataLength.toNat)) := by
  cases hinstance : (reception.state.conn r).consumingInstance with
  | none => simp [receiveData, hinstance] at h
  | some instanceNumber =>
      refine ⟨instanceNumber, rfl, ?_⟩
      by_cases hlength : dataLength.toNat = reception.state.takenLength instanceNumber
      · by_cases hpoint : instanceNumber = 0
        · have hbytes : (data.takeBytes dataLength.toNat).length = 2 := by
            rw [Message.takeBytes, List.length_map, List.length_range, hlength,
              StackState.takenLength, if_pos hpoint]
          simp [receiveData, notifyAssemblyConnectedDataReceived, hinstance, hpoint, hbytes] at h
        · obtain ⟨told, assemblyData, -, hdata⟩ :=
            @receiveData_taken env r reception data dataLength instanceNumber hinstance hpoint
              hlength
          rw [hdata] at h
          cases h
          exact .inr ⟨hlength, fun _ => rfl, rfl, rfl⟩
      · rw [receiveData_refused hinstance hlength] at h
        cases h
        exact .inl ⟨hlength, rfl⟩

theorem receiveData_onward (h : reception.receiveData env r data dataLength = .ok (status, after)) :
    Onward reception after := by
  obtain ⟨_, _, ⟨_, hsame⟩ | ⟨_, hconn, hcalls, hinterpreted⟩⟩ := receiveData_cases h
  · rw [hsame]
    exact .refl reception
  · refine ⟨hconn, ?_, ?_⟩
    · rw [hinterpreted]
      exact Nat.le_add_right _ _
    · rw [hcalls, List.length_append]
      exact Nat.le_add_right _ _

theorem receiveContent_onward {noNewData : Bool}
    (h : receiveContent cfg env r noNewData data dataLength reception = .ok (status, after)) :
    Onward reception after := by
  simp only [receiveContent] at h
  split at h
  · by_cases hrunIdle : cfg.consumeRunIdle = true
    · simp only [if_pos hrunIdle] at h
      refine (receiveRunIdle_onward data.getUdint.1 reception).trans ?_
      split at h
      · cases h
        exact .refl _
      · exact receiveData_onward h
    · simp only [if_neg hrunIdle] at h
      split at h
      · cases h
        exact .refl _
      · exact receiveData_onward h
  · cases h
    exact .refl _

/-- What an item of the wrong length has to leave alone. -/
structure Observed where
  assemblyData : UInt16 → List UInt8
  runIdleState : UInt32
  extStatus : UInt16
  sequenceCountConsuming : UInt16
  calls : List ReceptionCall

def observed (r : ConnRef) (reception : Reception) : Observed where
  assemblyData := reception.state.assemblyData
  runIdleState := reception.state.runIdleState
  extStatus := reception.identity.extStatus
  sequenceCountConsuming := (reception.state.conn r).sequenceCountConsuming
  calls := reception.calls

/-- The item has no effect, and no byte behind its end is looked at. -/
def ChangesNothing (cfg : Config) (env : Environment) (r : ConnRef) (data : Message)
    (dataLength : UInt16) (reception : Reception) : Prop :=
  ∃ status after,
    reception.handleReceivedIoConnectionData cfg env r data dataLength = .ok (status, after) ∧
      after.observed r = reception.observed r ∧
      after.interpreted ≤ reception.interpreted + dataLength.toNat

/-- The extended status that a run/idle header sets. -/
def runIdleStatus (runIdle : UInt32) : UInt16 :=
  if runIdle &&& 0x0001 = 1 then atLeastOneIoConnectionInRunMode
  else atLeastOneIoConnectionEstablishedAllInIdleMode

/-- The run/idle header, where there is one, is in the data and says what is known. -/
def KnownRunIdle (cfg : Config) (data : Message) (length : Nat) (reception : Reception) : Prop :=
  cfg.consumeRunIdle = true →
    4 ≤ length ∧ data.getUdint.1 = reception.state.runIdleState ∧
      reception.identity.extStatus = runIdleStatus data.getUdint.1

/-- After the run/idle header. -/
def headed (cfg : Config) (data : Message) (reception : Reception) : Reception :=
  if cfg.consumeRunIdle then reception.receiveRunIdle data.getUdint.1 else reception

def contentLength (cfg : Config) (length : Nat) : Nat :=
  length - if cfg.consumeRunIdle then 4 else 0

theorem headed_onward (cfg : Config) (data : Message) (reception : Reception) :
    Onward reception (reception.headed cfg data) := by
  rw [headed]
  split
  · exact receiveRunIdle_onward _ reception
  · exact .refl reception

theorem headed_assemblyData (cfg : Config) (data : Message) (reception : Reception) :
    (reception.headed cfg data).state.assemblyData = reception.state.assemblyData := by
  rw [headed]
  split
  · rfl
  · rfl

theorem receiveRunIdle_extStatus (runIdle : UInt32) (reception : Reception) :
    (reception.receiveRunIdle runIdle).identity.extStatus = runIdleStatus runIdle := by
  have hstatus : (reception.receiveRunIdle runIdle).identity.extStatus =
      runIdleStatus runIdle &&& extStatusMask := rfl
  rw [hstatus, runIdleStatus]
  split
  · rfl
  · rfl

theorem receiveRunIdle_observed_iff {runIdle : UInt32} :
    (reception.receiveRunIdle runIdle).observed r = reception.observed r ↔
      runIdle = reception.state.runIdleState ∧
        reception.identity.extStatus = runIdleStatus runIdle := by
  constructor
  · intro h
    have hrunIdle := congrArg Observed.runIdleState h
    have hstatus := congrArg Observed.extStatus h
    simp only [observed, receiveRunIdle_extStatus] at hstatus
    exact ⟨hrunIdle, hstatus.symm⟩
  · rintro ⟨hrunIdle, hstatus⟩
    have hcalls : (reception.receiveRunIdle runIdle).calls = reception.calls :=
      if_neg (not_not.mpr hrunIdle.symm)
    simp only [observed, receiveRunIdle_extStatus, hcalls, hstatus, Observed.mk.injEq, true_and,
      and_true]
    exact ⟨rfl, hrunIdle, rfl⟩

theorem headed_iff {length : Nat} :
    ((reception.headed cfg data).observed r = reception.observed r ∧
      (reception.headed cfg data).interpreted ≤ reception.interpreted + length) ↔
      KnownRunIdle cfg data length reception := by
  rw [KnownRunIdle, headed]
  by_cases hrunIdle : cfg.consumeRunIdle = true
  · have hinterpreted : (reception.receiveRunIdle data.getUdint.1).interpreted ≤
        reception.interpreted + length ↔ 4 ≤ length := Nat.add_le_add_iff_left
    rw [if_pos hrunIdle, receiveRunIdle_observed_iff, hinterpreted,
      forall_prop_of_true hrunIdle]
    exact and_comm
  · simp [hrunIdle]

theorem receiveContent_nil {noNewData : Bool} (hlength : dataLength.toNat = 0) :
    receiveContent cfg env r noNewData data dataLength reception = .ok (.ok, reception) := by
  have hzero : ¬dataLength > 0 := by
    rw [gt_iff_lt, UInt16.lt_iff_toNat_lt, hlength]
    exact Nat.lt_irrefl 0
  rw [receiveContent, if_neg hzero]

theorem receiveContent_repeated (hlength : dataLength.toNat ≠ 0) :
    receiveContent cfg env r true data dataLength reception =
      .ok (.ok, reception.headed cfg data) := by
  have hpositive : dataLength > 0 := UInt16.lt_iff_toNat_lt.mpr (Nat.pos_of_ne_zero hlength)
  rw [receiveContent, if_pos hpositive, headed]
  by_cases hrunIdle : cfg.consumeRunIdle = true
  · simp only [if_pos hrunIdle]
    rfl
  · simp only [if_neg hrunIdle]
    rfl

theorem receiveContent_new (hlength : dataLength.toNat ≠ 0) :
    receiveContent cfg env r false data dataLength reception =
      (reception.headed cfg data).receiveData env r
        (if cfg.consumeRunIdle then data.drop 4 else data)
        (if cfg.consumeRunIdle then dataLength - 4 else dataLength) := by
  have hpositive : dataLength > 0 := UInt16.lt_iff_toNat_lt.mpr (Nat.pos_of_ne_zero hlength)
  rw [receiveContent, if_pos hpositive, headed]
  by_cases hrunIdle : cfg.consumeRunIdle = true
  · simp only [if_pos hrunIdle]
    rfl
  · simp only [if_neg hrunIdle]
    rfl

theorem toNat_contentLength (hfits : cfg.consumeRunIdle = true → 4 ≤ dataLength.toNat) :
    (if cfg.consumeRunIdle then dataLength - 4 else dataLength).toNat =
      contentLength cfg dataLength.toNat := by
  rw [contentLength]
  by_cases hrunIdle : cfg.consumeRunIdle = true
  · rw [if_pos hrunIdle, if_pos hrunIdle]
    exact UInt16.toNat_sub_of_le _ _ (UInt16.le_iff_toNat_le.mpr (hfits hrunIdle))
  · rw [if_neg hrunIdle, if_neg hrunIdle]
    rfl

/-- When an item has no effect, by what it brings and what is stored. -/
def Unnoticed (cfg : Config) (r : ConnRef) (data : Message) (length : Nat)
    (reception : Reception) : Prop :=
  if (reception.state.conn r).transportClass = .class1 then
    2 ≤ length ∧ data.getUint.1 = (reception.state.conn r).sequenceCountConsuming ∧
      (length = 2 ∨ KnownRunIdle cfg (data.drop 2) (length - 2) reception)
  else
    length = 0 ∨
      (KnownRunIdle cfg data length reception ∧
        ∃ instanceNumber, (reception.state.conn r).consumingInstance = some instanceNumber ∧
          contentLength cfg length ≠ reception.state.takenLength instanceNumber)

theorem seqLeq16_self (a : UInt16) : seqLeq16 a a = true := by
  rw [seqLeq16, UInt16.sub_self]
  rfl

theorem class1_changesNothing_iff
    (hclass : (reception.state.conn r).transportClass = .class1) :
    ChangesNothing cfg env r data dataLength reception ↔
      2 ≤ dataLength.toNat ∧
        data.getUint.1 = (reception.state.conn r).sequenceCountConsuming ∧
        (dataLength.toNat = 2 ∨
          KnownRunIdle cfg (data.drop 2) (dataLength.toNat - 2) reception) := by
  rw [ChangesNothing, handleReceivedIoConnectionData_class1 hclass]
  have hstored := counted_sequenceCountConsuming r data.getUint.1 reception
  have hinterpreted : (reception.counted r data.getUint.1).interpreted =
      reception.interpreted + 2 := rfl
  have hobserved : data.getUint.1 = (reception.state.conn r).sequenceCountConsuming →
      (reception.counted r data.getUint.1).observed r = reception.observed r := by
    intro hcount
    rw [observed, hstored, hcount]
    rfl
  have hknown : ∀ content length,
      KnownRunIdle cfg content length (reception.counted r data.getUint.1) ↔
        KnownRunIdle cfg content length reception := fun _ _ => Iff.rfl
  generalize reception.counted r data.getUint.1 = counted
    at hstored hinterpreted hobserved hknown ⊢
  constructor
  · rintro ⟨status, after, hcall, hunchanged, hwithin⟩
    have honward := receiveContent_onward hcall
    have hcount : data.getUint.1 = (reception.state.conn r).sequenceCountConsuming := by
      have hafter : (after.state.conn r).sequenceCountConsuming =
          (reception.state.conn r).sequenceCountConsuming :=
        congrArg Observed.sequenceCountConsuming hunchanged
      rw [← hstored, ← hafter, honward.conn]
    have hcounts : 2 ≤ dataLength.toNat := by
      have hlater := honward.interpreted
      omega
    have hrest : (dataLength - 2).toNat = dataLength.toNat - 2 :=
      UInt16.toNat_sub_of_le _ _ (UInt16.le_iff_toNat_le.mpr hcounts)
    refine ⟨hcounts, hcount, ?_⟩
    by_cases htwo : dataLength.toNat = 2
    · exact .inl htwo
    · have hcontent : (dataLength - 2).toNat ≠ 0 := by omega
      rw [hcount, seqLeq16_self, receiveContent_repeated hcontent] at hcall
      cases hcall
      rw [← hobserved hcount] at hunchanged
      refine .inr ((hknown _ _).mp (headed_iff.mp ⟨hunchanged, ?_⟩))
      omega
  · rintro ⟨hcounts, hcount, hrest⟩
    have hlength : (dataLength - 2).toNat = dataLength.toNat - 2 :=
      UInt16.toNat_sub_of_le _ _ (UInt16.le_iff_toNat_le.mpr hcounts)
    rw [hcount, seqLeq16_self]
    by_cases htwo : dataLength.toNat = 2
    · have hnil : (dataLength - 2).toNat = 0 := by omega
      refine ⟨_, _, receiveContent_nil hnil, hobserved hcount, ?_⟩
      omega
    · have hcontent : (dataLength - 2).toNat ≠ 0 := by omega
      obtain ⟨hunchanged, hwithin⟩ :=
        headed_iff.mpr ((hknown _ _).mpr (hrest.resolve_left htwo))
      refine ⟨_, _, receiveContent_repeated hcontent, hunchanged.trans (hobserved hcount), ?_⟩
      omega

theorem class0_changesNothing_iff
    (hclass : (reception.state.conn r).transportClass ≠ .class1) :
    ChangesNothing cfg env r data dataLength reception ↔
      dataLength.toNat = 0 ∨
        (KnownRunIdle cfg data dataLength.toNat reception ∧
          ∃ instanceNumber,
            (reception.state.conn r).consumingInstance = some instanceNumber ∧
              contentLength cfg dataLength.toNat ≠
                reception.state.takenLength instanceNumber) := by
  rw [ChangesNothing, handleReceivedIoConnectionData_class0 hclass]
  have hinstance : ((reception.headed cfg data).state.conn r).consumingInstance =
      (reception.state.conn r).consumingInstance := by
    rw [(headed_onward cfg data reception).conn]
  have htaken : ∀ instanceNumber, (reception.headed cfg data).state.takenLength instanceNumber =
      reception.state.takenLength instanceNumber := by
    intro instanceNumber
    rw [StackState.takenLength, headed_assemblyData, StackState.takenLength]
  by_cases hzero : dataLength.toNat = 0
  · refine iff_of_true ⟨_, _, receiveContent_nil hzero, rfl, ?_⟩ (.inl hzero)
    exact Nat.le_add_right _ _
  · rw [receiveContent_new hzero]
    constructor
    · rintro ⟨status, after, hcall, hunchanged, hwithin⟩
      obtain ⟨instanceNumber, hconsuming, ⟨hrefused, hsame⟩ | ⟨-, -, hcalls, -⟩⟩ :=
        receiveData_cases hcall
      · rw [hsame] at hunchanged hwithin
        have hknown := headed_iff.mp ⟨hunchanged, hwithin⟩
        rw [toNat_contentLength fun hrunIdle => (hknown hrunIdle).1, htaken] at hrefused
        exact .inr ⟨hknown, instanceNumber, hinstance.symm.trans hconsuming, hrefused⟩
      · -- the assembly took it, so there is a call more than before
        have hmore := congrArg (List.length ∘ Observed.calls) hunchanged
        have hbefore := (headed_onward cfg data reception).calls
        simp only [Function.comp_apply, observed, hcalls, List.length_append,
          List.length_cons] at hmore
        omega
    · rintro (hnil | ⟨hknown, instanceNumber, hconsuming, hrefused⟩)
      · exact absurd hnil hzero
      · obtain ⟨hunchanged, hwithin⟩ := headed_iff.mpr hknown
        refine ⟨_, _, receiveData_refused (hinstance.trans hconsuming) ?_, hunchanged, hwithin⟩
        rw [toNat_contentLength fun hrunIdle => (hknown hrunIdle).1, htaken]
        exact hrefused

theorem changesNothing_iff_unnoticed :
    ChangesNothing cfg env r data dataLength reception ↔
      Unnoticed cfg r data dataLength.toNat reception := by
  rw [Unnoticed]
  by_cases hclass : (reception.state.conn r).transportClass = .class1
  · rw [if_pos hclass]
    exact class1_changesNothing_iff hclass
  · rw [if_neg hclass]
    exact class0_changesNothing_iff hclass

/-- The status and the state of the stack. -/
def onState : EipStatus × Reception → EipStatus × StackState :=
  fun result => (result.1, result.2.state)

theorem notifyAssemblyConnectedDataReceived_onState (instanceNumber : UInt16)
    (data : List UInt8) (reception : Reception) :
    (reception.notifyAssemblyConnectedDataReceived env instanceNumber data).map onState =
      reception.state.notifyAssemblyConnectedDataReceived env instanceNumber data := by
  rw [notifyAssemblyConnectedDataReceived, StackState.notifyAssemblyConnectedDataReceived]
  split
  · split
    · rfl
    · rfl
  · split
    · rfl
    · rfl

theorem receiveData_onState (reception : Reception) :
    (reception.receiveData env r data dataLength).map onState =
      match (reception.state.conn r).consumingInstance with
      | none => .error .nullDereference
      | some instanceNumber =>
          match reception.state.notifyAssemblyConnectedDataReceived env instanceNumber
              (data.takeBytes dataLength.toNat) with
          | .error fault => .error fault
          | .ok (.ok, st) => .ok (.ok, st)
          | .ok (_, st) => .ok (.error, st) := by
  rw [receiveData]
  cases (reception.state.conn r).consumingInstance with
  | none => rfl
  | some instanceNumber =>
      dsimp only
      rw [← notifyAssemblyConnectedDataReceived_onState]
      cases reception.notifyAssemblyConnectedDataReceived env instanceNumber
          (data.takeBytes dataLength.toNat) with
      | error fault => rfl
      | ok result =>
          obtain ⟨status, after⟩ := result
          cases status with
          | ok | okSend | error => rfl

/-- Receiving an item does to the stack what the model of the whole stack says. -/
theorem handleReceivedIoConnectionData_onState (reception : Reception) :
    (reception.handleReceivedIoConnectionData cfg env r data dataLength).map onState =
      reception.state.handleReceivedIoConnectionData cfg env r data dataLength := by
  have hcounted : reception.state.receiveSequenceCount r data dataLength =
      ((reception.receiveSequenceCount r data dataLength).1,
        (reception.receiveSequenceCount r data dataLength).2.1,
        (reception.receiveSequenceCount r data dataLength).2.2.1,
        (reception.receiveSequenceCount r data dataLength).2.2.2.state) := by
    rw [receiveSequenceCount, StackState.receiveSequenceCount]
    split
    · rfl
    · rfl
  rw [handleReceivedIoConnectionData, StackState.handleReceivedIoConnectionData, hcounted]
  obtain ⟨noNewData, data, dataLength, counted⟩ :=
    reception.receiveSequenceCount r data dataLength
  dsimp only
  by_cases hlength : dataLength > 0
  · rw [if_pos hlength, if_pos hlength]
    by_cases hrunIdle : cfg.consumeRunIdle = true
    · simp only [if_pos hrunIdle]
      cases noNewData with
      | true => rfl
      | false => exact receiveData_onState _
    · simp only [if_neg hrunIdle]
      cases noNewData with
      | true => rfl
      | false => exact receiveData_onState _
  · rw [if_neg hlength, if_neg hlength]
    rfl

/-- Connections that were opened compare with the size that was negotiated. -/
theorem unnoticed_iff_of_fits {length : Nat}
    (hfits : CipConnectionObject.Fits cfg (reception.state.assemblyLength cfg)
      (reception.state.conn r))
    (hoToT : (reception.state.conn r).oToTConnectionType ≠ .null)
    (hpoint : (reception.state.conn r).consumedPath.instanceId ≠ 0)
    (hclass : (reception.state.conn r).transportClass ≠ .class1)
    (hmalformed : length ≠ (reception.state.conn r).oToTConnectionSize.toNat) :
    Unnoticed cfg r data length reception ↔
      length = 0 ∨ (KnownRunIdle cfg data length reception ∧
        ¬(cfg.consumeRunIdle = true ∧ length = 4 ∧ (reception.state.assemblyData
          (reception.state.conn r).consumedPath.instanceId).length = 0)) := by
  obtain ⟨hinstance, hsize⟩ := hfits.consuming hoToT
  rw [StackState.assemblyLength, if_neg hpoint, CipConnectionObject.wireSize,
    CipConnectionObject.headerSize, if_neg hclass, Nat.zero_add] at hsize
  rw [hsize] at hmalformed
  rw [Unnoticed, if_neg hclass, hinstance]
  refine or_congr_right (and_congr_right fun hknown => ?_)
  have htaken : reception.state.takenLength (reception.state.conn r).consumedPath.instanceId =
      (reception.state.assemblyData
        (reception.state.conn r).consumedPath.instanceId).length := by
    rw [StackState.takenLength, if_neg hpoint]
  simp only [Option.some.injEq, exists_eq_left', htaken, contentLength]
  generalize (reception.state.assemblyData
    (reception.state.conn r).consumedPath.instanceId).length = bytes at hmalformed
  by_cases hrunIdle : cfg.consumeRunIdle = true
  · have hfour := (hknown hrunIdle).1
    simp only [hrunIdle, true_and, if_true] at hmalformed ⊢
    split at hmalformed
    · omega
    · omega
  · have hheader : ¬(cfg.consumeRunIdle = true ∧ bytes ≠ 0) := fun h => hrunIdle h.1
    rw [if_neg hheader, Nat.zero_add] at hmalformed
    rw [if_neg hrunIdle]
    exact iff_of_true hmalformed fun h => hrunIdle h.1

end Reception

open Reception

/-- A data item of another length than the negotiated one changes nothing exactly when
it is unnoticed: it is long enough for the headers that are taken from it, and they
repeat what is stored. -/
theorem malformed_changesNothing_iff {cfg : Config} {length : UInt16 → Nat}
    {assemblyData : UInt16 → List UInt8} (hassemblies : HasLengths length assemblyData)
    {reception : Reception}
    (h : Runs.Reaches (StackState.step cfg)
      (fun label _ => StackState.KeepsLengths length label)
      (initialState cfg assemblyData) reception.state)
    {r : ConnRef} (hr : r ∈ reception.state.connectionList cfg) (hio : r.isIo = true)
    (env : Environment) (data : Message) {dataLength : UInt16}
    (hmalformed : dataLength.toNat ≠
      (reception.state.conn r).oToTConnectionSize.toNat) :
    (ChangesNothing cfg env r data dataLength reception ↔
      Unnoticed cfg r data dataLength.toNat reception) ∧
    ((reception.state.conn r).oToTConnectionType ≠ .null →
      (reception.state.conn r).consumedPath.instanceId ≠ 0 →
      (reception.state.conn r).transportClass ≠ .class1 →
      (Unnoticed cfg r data dataLength.toNat reception ↔
        dataLength.toNat = 0 ∨ (KnownRunIdle cfg data dataLength.toNat reception ∧
          ¬(cfg.consumeRunIdle = true ∧ dataLength.toNat = 4 ∧
            length (reception.state.conn r).consumedPath.instanceId = 0)))) := by
  obtain ⟨hlengths, hsized⟩ := StackState.sized_of_reaches hassemblies h
  refine ⟨changesNothing_iff_unnoticed, fun hoToT hpoint hclass => ?_⟩
  rw [unnoticed_iff_of_fits (hsized r hr hio) hoToT hpoint hclass hmalformed, hlengths]

section Sample

open SampleApplication

/-- The sample application with the exclusive owner that is open in the state. -/
def ownerReception (st : StackState) : Reception where
  state := st
  identity := {}

/-- A state in which the exclusive owner is open and has received nothing. -/
theorem ownerReception_reached : ∃ st : StackState,
    HasLengths StackState.sampleLength SampleApplication.assemblyData ∧
    Runs.Reaches (StackState.step config)
      (fun label _ => StackState.KeepsLengths StackState.sampleLength label)
      (initialState config SampleApplication.assemblyData) st ∧
    .exclusiveOwner 0 ∈ st.connectionList config ∧
    (st.conn (.exclusiveOwner 0)).oToTConnectionSize = 38 ∧
    (st.conn (.exclusiveOwner 0)).transportClass = .class1 ∧
    (st.conn (.exclusiveOwner 0)).sequenceCountConsuming = 0 := by
  have hends : ends config [request (exclusiveOwner 1 1 multicast)] (fun st =>
      decide (.exclusiveOwner 0 ∈ st.connectionList config ∧
        (st.conn (.exclusiveOwner 0)).oToTConnectionSize = 38 ∧
        (st.conn (.exclusiveOwner 0)).transportClass = .class1 ∧
        (st.conn (.exclusiveOwner 0)).sequenceCountConsuming = 0)) = true := by
    decide +kernel
  rw [ends] at hends
  cases hrun : run config [request (exclusiveOwner 1 1 multicast)] with
  | error fault => simp [hrun] at hends
  | ok st =>
      simp only [hrun, decide_eq_true_eq] at hends
      obtain ⟨hlengths, hreaches⟩ := StackState.reaches_of_run
        (List.forall_mem_singleton.mpr (StackState.keepsLengths_request _)) hrun
      exact ⟨st, hlengths, hreaches, hends⟩

theorem ownerReception_heard : ∃ st : StackState,
    HasLengths StackState.sampleLength SampleApplication.assemblyData ∧
    Runs.Reaches (StackState.step config)
      (fun label _ => StackState.KeepsLengths StackState.sampleLength label)
      (initialState config SampleApplication.assemblyData) st ∧
    .exclusiveOwner 0 ∈ st.connectionList config ∧
    (st.conn (.exclusiveOwner 0)).oToTConnectionSize = 38 ∧
    (st.conn (.exclusiveOwner 0)).transportClass = .class1 ∧
    (st.conn (.exclusiveOwner 0)).sequenceCountConsuming = 1 ∧ st.runIdleState = 1 := by
  let packet := sequencedPacket 0x12340013 1
    (intBytes 1 ++ dintBytes 1 ++ List.replicate 32 0)
  have hends : returns (run config [request (exclusiveOwner 1 1 multicast), receive packet])
      (fun st => decide (.exclusiveOwner 0 ∈ st.connectionList config ∧
        (st.conn (.exclusiveOwner 0)).oToTConnectionSize = 38 ∧
        (st.conn (.exclusiveOwner 0)).transportClass = .class1 ∧
        (st.conn (.exclusiveOwner 0)).sequenceCountConsuming = 1 ∧
        st.runIdleState = 1)) = true := by
    decide +kernel
  obtain ⟨st, hrun, hst⟩ := returns_iff.mp hends
  obtain ⟨hsends, hreceives, hstores⟩ := StackState.environment_keepsLengths 0 20
  have hreceive : StackState.KeepsLengths StackState.sampleLength (receive packet) :=
    ⟨⟨hsends, hreceives, hstores⟩, fun _ hwrites => by cases hwrites⟩
  obtain ⟨hlengths, hreaches⟩ := StackState.reaches_of_run
    (List.forall_mem_cons.mpr ⟨StackState.keepsLengths_request _,
      List.forall_mem_singleton.mpr hreceive⟩) hrun
  exact ⟨st, hlengths, hreaches, of_decide_eq_true hst⟩

/-- Six bytes that repeat the sequence count and the run/idle header are unnoticed. -/
theorem malformed_changesNothing_repeated : ∃ st : StackState,
    (st.conn (.exclusiveOwner 0)).oToTConnectionSize = 38 ∧
      ChangesNothing config (environment 0 20) (.exclusiveOwner 0) [1, 0, 1, 0, 0, 0] 6
        { state := st, identity := { extStatus := runIdleStatus 1 } } := by
  obtain ⟨st, hlengths, hreaches, hr, hsize, hclass, hcount, hrunIdle⟩ := ownerReception_heard
  let reception : Reception := { state := st, identity := { extStatus := runIdleStatus 1 } }
  have hmalformed : (6 : UInt16).toNat ≠
      (reception.state.conn (.exclusiveOwner 0)).oToTConnectionSize.toNat := by
    rw [hsize]
    decide
  have hreached : Runs.Reaches (StackState.step config)
      (fun label _ => StackState.KeepsLengths StackState.sampleLength label)
      (initialState config SampleApplication.assemblyData) reception.state := hreaches
  refine ⟨st, hsize, (malformed_changesNothing_iff hlengths hreached hr rfl (environment 0 20)
    [1, 0, 1, 0, 0, 0] hmalformed).1.mpr ?_⟩
  rw [Unnoticed, if_pos hclass, hcount]
  refine ⟨by decide, by decide, .inr fun _ => ⟨by decide, ?_, rfl⟩⟩
  rw [hrunIdle]
  decide

/-- Six bytes instead of 38: the sequence count and the run/idle header are taken, and
only then the assembly refuses the rest. -/
theorem malformed_changesNothing_headers : ∃ st : StackState,
    Runs.Reaches (StackState.step config)
      (fun label _ => StackState.KeepsLengths StackState.sampleLength label)
      (initialState config SampleApplication.assemblyData) st ∧
    .exclusiveOwner 0 ∈ st.connectionList config ∧
    (st.conn (.exclusiveOwner 0)).oToTConnectionSize = 38 ∧
    ¬ChangesNothing config (environment 0 20) (.exclusiveOwner 0) [1, 0, 1, 0, 0, 0] 6
      (ownerReception st) := by
  obtain ⟨st, -, hreaches, hr, hsize, hclass, hcount⟩ := ownerReception_reached
  refine ⟨st, hreaches, hr, hsize, fun hunchanged => ?_⟩
  have hrepeats := ((class1_changesNothing_iff hclass).mp hunchanged).2.1
  rw [ownerReception, hcount] at hrepeats
  exact absurd hrepeats (by decide)

end Sample

end Opener

import Opener.Metatheory.Allocation
import Opener.Metatheory.ConnectionPoints
import Opener.Metatheory.FailedOpens

/-!
Which Forward Opens are answered. An open function can fail to come back in two
places: the pool search closes a slot that never had a close function, and the
configuration data go to the class object, which is no assembly. Every other request
is answered while there is a list node.
-/

namespace Opener

open LinkedCells

theorem not_returns {α : Type} {fault : Fault} :
    ¬∃ result : α, Except.error fault = .ok result := by
  rintro ⟨_, hok⟩
  cases hok

/-- The parser has found the class and the instance of a path. -/
def ConnectionPathEpath.Found (cfg : Config) (path : ConnectionPathEpath) : Prop :=
  ∃ instances, cfg.getCipClass path.classId = some instances ∧
    (Config.getCipInstance instances path.instanceId).isSome

namespace PathState

variable {cfg : Config} {s s' : PathState}

theorem parseClass_found {classId : UInt32} {instances : List UInt16}
    (h : s.parseClass cfg = .ok (classId, instances, s')) :
    cfg.getCipClass classId = some instances := by
  simp only [parseClass] at h
  split at h
  · split at h
    · split at h
      · cases h
      · cases h
    · rename_i hfound
      cases h
      exact hfound
  · cases h

/-- Without the segment the instance is zero, the class object. -/
theorem parseConfigurationInstance_found {instances : List UInt16} {instanceId : UInt16}
    (h : s.parseConfigurationInstance instances = .ok (instanceId, s')) :
    (Config.getCipInstance instances instanceId).isSome := by
  simp only [parseConfigurationInstance] at h
  split at h
  · split at h
    · cases h
    · rename_i hfound
      cases h
      exact Option.isSome_iff_ne_none.mpr fun hnone => hfound (.inr hnone)
  · cases h
    rfl

theorem parseConnectionPoint_configurationPath {classId : UInt32} {instances : List UInt16}
    {path : EncodedPath} (h : s.parseConnectionPoint classId instances path = .ok s') :
    s'.object.configurationPath = s.object.configurationPath := by
  simp only [parseConnectionPoint] at h
  split at h
  · split at h
    · cases h
    · split at h
      · cases h
      · cases h
        cases path with
        | consumed => rfl
        | produced => rfl
  · cases h

theorem parseConnectionPoints_configurationPath {classId : UInt32} {instances : List UInt16}
    {paths : List EncodedPath} (h : parseConnectionPoints classId instances paths s = .ok s') :
    s'.object.configurationPath = s.object.configurationPath := by
  induction paths generalizing s with
  | nil =>
      cases h
      rfl
  | cons path paths ih =>
      rw [parseConnectionPoints] at h
      split at h
      · cases h
      · rename_i s₁ hpoint
        exact (ih h).trans (parseConnectionPoint_configurationPath hpoint)

theorem parseConfigurationData_configurationPath {connectionPathSize : UInt64} {fuel : Nat}
    (h : parseConfigurationData connectionPathSize fuel s = .ok s') :
    s'.object.configurationPath = s.object.configurationPath := by
  induction fuel generalizing s with
  | zero =>
      unfold parseConfigurationData at h
      split at h
      · cases h
        rfl
      · cases h
  | succ fuel ih =>
      unfold parseConfigurationData at h
      split at h
      · cases h
        rfl
      · simp only at h
        split at h
        · split at h
          · exact (ih h).trans rfl
          · cases h
        · split at h
          · split at h
            · exact (ih h).trans rfl
            · cases h
          · cases h
        · cases h

theorem parseIoEndPoints_configurationPath {connectionPathSize : UInt64} {classId : UInt32}
    {instanceId : UInt16} {instances : List UInt16}
    (h : s.parseIoEndPoints connectionPathSize classId instanceId instances = .ok s') :
    s'.object.configurationPath = { classId, instanceId } := by
  simp only [parseIoEndPoints] at h
  split at h
  · cases h
  · rename_i s₁ hpoints
    exact (parseConfigurationData_configurationPath h).trans
      (parseConnectionPoints_configurationPath hpoints)

theorem parseClass3EndPoint_configurationPath {classId : UInt32} {instanceId : UInt16}
    (h : s.parseClass3EndPoint classId instanceId = .ok s') :
    s'.object.configurationPath = { classId, instanceId } := by
  simp only [parseClass3EndPoint] at h
  split at h
  · cases h
  · split at h
    · cases h
    · cases h
      rfl

theorem parseSegments_found {connectionPathSize : UInt64}
    (h : s.parseSegments cfg connectionPathSize = .ok s') :
    s'.object.configurationPath.Found cfg := by
  simp only [parseSegments] at h
  split at h
  · cases h
  · split at h
    · cases h
    · rename_i classId instances s₂ hclass
      split at h
      · cases h
      · rename_i instanceId s₃ hinstance
        have hpath : s'.object.configurationPath = { classId, instanceId } := by
          split at h
          · exact parseClass3EndPoint_configurationPath h
          · exact parseIoEndPoints_configurationPath h
        rw [hpath]
        exact ⟨instances, parseClass_found hclass, parseConfigurationInstance_found hinstance⟩

end PathState

theorem parseConnectionPath_found {cfg : Config} {message : Message}
    {requestDataSize : UInt64} {object : CipConnectionObject}
    {configData : Option (List UInt8)} {s : PathState}
    (h : parseConnectionPath cfg message requestDataSize object configData = .ok s) :
    s.object.configurationPath.Found cfg := by
  simp only [parseConnectionPath] at h
  generalize (if object.isLargeForwardOpen = true then (40 : UInt64) else 36) = headerLength at h
  split at h
  · cases h
  · split at h
    · cases h
    · split at h
      · cases h
      · exact PathState.parseSegments_found h

namespace StackState

variable {cfg : Config} {env : Environment} {st st' : StackState}

/-- A request that is handed to an open function is for a registered class. -/
theorem forwardOpenRequest_found {isLarge : Bool} {request : MessageRouterRequest}
    {originatorAddress : SockaddrIn} {encapsulationSession : UInt32}
    (h : st.forwardOpenRequest cfg env isLarge request originatorAddress encapsulationSession =
      .ok (none, st')) :
    st'.dummy.configurationPath.Found cfg := by
  simp only [forwardOpenRequest] at h
  split at h
  · cases h
  · split at h
    · cases h
    · split at h
      · cases h
      · split at h
        · cases h
        · rename_i s hparse
          cases h
          exact parseConnectionPath_found hparse

/-- The drawing comes to an end when an unused number turns up. -/
theorem generateRandomConnectionNumber_isSome {used : List UInt16} {fuel : Nat}
    {rand : List UInt16} (hfuel : rand.length ≤ fuel) (hunused : ∃ number ∈ rand, number ∉ used) :
    (generateRandomConnectionNumber used fuel rand).isSome := by
  induction fuel generalizing rand with
  | zero =>
      obtain ⟨number, hmem, -⟩ := hunused
      rw [List.length_eq_zero_iff.mp (Nat.le_zero.mp hfuel)] at hmem
      cases hmem
  | succ fuel ih =>
      cases rand with
      | nil =>
          obtain ⟨number, hmem, -⟩ := hunused
          cases hmem
      | cons first rand =>
          rw [generateRandomConnectionNumber]
          -- a number in use is drawn again, one that is not in use stays
          have hfold : ∀ (remaining : List UInt16) (drawn : UInt16 × List UInt16),
              remaining ⊆ used →
              (drawn.1 ∉ used ∨ drawn.2.length ≤ fuel ∧ ∃ number ∈ drawn.2, number ∉ used) →
              (remaining.foldlM (fun drawn inUse =>
                if inUse = drawn.1 then generateRandomConnectionNumber used fuel drawn.2
                else some drawn) drawn).isSome := by
            intro remaining
            induction remaining with
            | nil =>
                intro drawn _ _
                rfl
            | cons inUse remaining ih' =>
                intro drawn hsub hdrawn
                rw [List.foldlM_cons]
                have hrest : remaining ⊆ used := fun number hmem => hsub (.tail _ hmem)
                by_cases heq : inUse = drawn.1
                · rw [if_pos heq]
                  have hinUse : drawn.1 ∈ used := heq ▸ hsub (.head _)
                  obtain ⟨hlength, hremains⟩ := hdrawn.resolve_left (not_not.mpr hinUse)
                  obtain ⟨redrawn, hredrawn⟩ := Option.isSome_iff_exists.mp (ih hlength hremains)
                  rw [hredrawn]
                  exact ih' redrawn hrest (.inl (generateRandomConnectionNumber_fresh hredrawn))
                · rw [if_neg heq]
                  exact ih' drawn hrest hdrawn
          refine hfold used (first, rand) (List.Subset.refl used) ?_
          obtain ⟨number, hmem, hnumber⟩ := hunused
          rcases List.mem_cons.mp hmem with rfl | hmem
          · exact .inl hnumber
          · exact .inr ⟨Nat.le_of_succ_le_succ hfuel, number, hmem, hnumber⟩

/-- The fixed part of the request is received, and its path parsed or refused. -/
theorem forwardOpenRequest_returns (isLarge : Bool) (request : MessageRouterRequest)
    (originatorAddress : SockaddrIn) (encapsulationSession : UInt32)
    (hunused : ∃ number ∈ env.rand, ∀ s ∈ st.connectionList cfg,
      (st.conn s).connectionNumber ≠ number) :
    ∃ result, st.forwardOpenRequest cfg env isLarge request originatorAddress
      encapsulationSession = .ok result := by
  obtain ⟨number, hmem, hnumber⟩ := hunused
  have hdraws : (generateRandomConnectionNumber
      ((st.connectionList cfg).map fun r => (st.conn r).connectionNumber) env.rand.length
      env.rand).isSome := by
    refine generateRandomConnectionNumber_isSome (le_refl env.rand.length) ⟨number, hmem, ?_⟩
    intro hused
    obtain ⟨s, hs, heq⟩ := List.mem_map.mp hused
    exact hnumber s hs heq
  obtain ⟨drawn, hdrawn⟩ := Option.isSome_iff_exists.mp hdraws
  simp only [forwardOpenRequest, receiveForwardOpen, hdrawn]
  split
  · exact ⟨_, rfl⟩
  · split
    · exact ⟨_, rfl⟩
    · split
      · exact ⟨_, rfl⟩
      · exact ⟨_, rfl⟩

section Assemblies

variable {instances : List UInt16}

theorem getAssemblyInstance_found (hclass : cfg.getCipClass assemblyClassCode = some instances)
    (instanceNumber : UInt16) :
    cfg.getAssemblyInstance instanceNumber =
      .ok (Config.getCipInstance instances instanceNumber) := by
  rw [Config.getAssemblyInstance, hclass]

theorem setupOriginatorToTarget_returns
    (hclass : cfg.getCipClass assemblyClassCode = some instances) (r : ConnRef)
    (st : StackState) :
    ∃ result, st.setupIoConnectionOriginatorToTargetConnectionPoint cfg r = .ok result := by
  rw [setupIoConnectionOriginatorToTargetConnectionPoint, getAssemblyInstance_found hclass]
  cases Config.getCipInstance instances (st.conn r).consumedPath.instanceId with
  | none => exact ⟨_, rfl⟩
  | some instanceNumber =>
      simp only
      split
      · exact ⟨_, rfl⟩
      · exact ⟨_, rfl⟩

theorem setupTargetToOriginator_returns
    (hclass : cfg.getCipClass assemblyClassCode = some instances) (r : ConnRef)
    (st : StackState) :
    ∃ result, st.setupIoConnectionTargetToOriginatorConnectionPoint cfg r = .ok result := by
  simp only [setupIoConnectionTargetToOriginatorConnectionPoint,
    getAssemblyInstance_found hclass]
  split
  · exact ⟨_, rfl⟩
  · cases Config.getCipInstance instances (st.conn r).producedPath.instanceId with
    | none => exact ⟨_, rfl⟩
    | some instanceNumber =>
        simp only
        split
        · exact ⟨_, rfl⟩
        · exact ⟨_, rfl⟩

theorem setupConnectionPoints_returns
    (hclass : cfg.getCipClass assemblyClassCode = some instances) (r : ConnRef)
    (st : StackState) : ∃ result, st.setupConnectionPoints cfg r = .ok result := by
  have hconsumer : ∃ result, (if (st.conn r).oToTConnectionType ≠ .null then
      st.setupIoConnectionOriginatorToTargetConnectionPoint cfg r
      else .ok (ExtendedStatus.success, st)) = .ok result := by
    split
    · exact setupOriginatorToTarget_returns hclass r st
    · exact ⟨_, rfl⟩
  obtain ⟨⟨extended, st₁⟩, hconsumer⟩ := hconsumer
  simp only [setupConnectionPoints, hconsumer]
  split
  · exact ⟨_, rfl⟩
  · split
    · exact setupTargetToOriginator_returns hclass r st₁
    · exact ⟨_, rfl⟩

theorem configureIoConnection_returns
    (hclass : cfg.getCipClass assemblyClassCode = some instances) (r : ConnRef)
    (st : StackState) : ∃ result, st.configureIoConnection cfg r = .ok result := by
  simp only [configureIoConnection]
  split
  · exact ⟨_, rfl⟩
  · exact setupConnectionPoints_returns hclass r _

end Assemblies

section ConfigurationData

/-- `HandleConfigData` gets as far as the data of the class object. Its third attribute
is the number of instances and its first the revision, two, and both are taken for byte
arrays. -/
structure ReachesClassObject (cfg : Config) (configPoint : UInt16) (data : List UInt8)
    (st : StackState) : Prop where
  classObject : configPoint = 0
  nonempty : data.length ≠ 0
  length : data.length =
    if st.connectionWithSameConfigPointExists cfg configPoint then st.assemblyLength cfg 0
    else 2

theorem notifyAssembly_returns_iff (env : Environment) (instanceNumber : UInt16)
    (data : List UInt8) (st : StackState) :
    (∃ result, st.notifyAssemblyConnectedDataReceived env instanceNumber data = .ok result) ↔
      ¬(instanceNumber = 0 ∧ data.length = 2) := by
  rw [notifyAssemblyConnectedDataReceived]
  split
  · rename_i hzero
    split
    · rename_i hlength
      exact iff_of_false not_returns fun hnot => hnot ⟨hzero, hlength⟩
    · rename_i hlength
      exact iff_of_true ⟨_, rfl⟩ fun hall => hlength hall.2
  · rename_i hzero
    split
    · exact iff_of_true ⟨_, rfl⟩ fun hall => hzero hall.1
    · exact iff_of_true ⟨_, rfl⟩ fun hall => hzero hall.1

theorem handleConfigData_returns_iff (env : Environment) {r : ConnRef} {data : List UInt8}
    (hfound : cfg.getAssemblyInstance (st.conn r).configurationPath.instanceId =
      .ok (some (st.conn r).configurationPath.instanceId)) :
    (∃ result, st.handleConfigData cfg env r data = .ok result) ↔
      ¬st.ReachesClassObject cfg (st.conn r).configurationPath.instanceId data := by
  simp only [handleConfigData, hfound]
  generalize (st.conn r).configurationPath.instanceId = configPoint
  split
  · rename_i hempty
    exact iff_of_true ⟨_, rfl⟩ fun hreaches => hreaches.nonempty hempty
  · rename_i hnonempty
    split
    · rename_i hused
      split
      · rename_i hlength
        refine iff_of_true ⟨_, rfl⟩ fun hreaches => hlength ?_
        have hdata := hreaches.length
        rw [if_pos hused] at hdata
        rw [hreaches.classObject, hdata]
      · rename_i hlength
        split
        · rename_i hzero
          subst hzero
          refine iff_of_false not_returns fun hnot => hnot ?_
          refine ⟨rfl, hnonempty, ?_⟩
          rw [if_pos hused, not_not.mp hlength]
        · rename_i hzero
          split
          · exact iff_of_true ⟨_, rfl⟩ fun hreaches => hzero hreaches.classObject
          · exact iff_of_true ⟨_, rfl⟩ fun hreaches => hzero hreaches.classObject
    · rename_i hunused
      have hnotify := notifyAssembly_returns_iff env configPoint data st
      have hreaches : st.ReachesClassObject cfg configPoint data ↔
          configPoint = 0 ∧ data.length = 2 := by
        constructor
        · rintro ⟨hzero, -, hlength⟩
          rw [if_neg hunused] at hlength
          exact ⟨hzero, hlength⟩
        · rintro ⟨hzero, hlength⟩
          refine ⟨hzero, hnonempty, ?_⟩
          rw [if_neg hunused]
          exact hlength
      rw [hreaches, ← hnotify]
      cases hresult : st.notifyAssemblyConnectedDataReceived env configPoint data with
      | error fault => exact iff_of_false not_returns not_returns
      | ok result =>
          obtain ⟨status, st₁⟩ := result
          refine iff_of_true ?_ ⟨_, rfl⟩
          cases status with
          | ok => exact ⟨_, rfl⟩
          | okSend => exact ⟨_, rfl⟩
          | error => exact ⟨_, rfl⟩

/-- A request without configuration data stands for empty data. -/
theorem applyConfigData_returns_iff (env : Environment) {r : ConnRef}
    (hfound : cfg.getAssemblyInstance (st.conn r).configurationPath.instanceId =
      .ok (some (st.conn r).configurationPath.instanceId)) :
    (∃ result, st.applyConfigData cfg env r = .ok result) ↔
      ¬st.ReachesClassObject cfg (st.conn r).configurationPath.instanceId
        (st.configData.getD []) := by
  rw [applyConfigData]
  cases st.configData with
  | none => exact iff_of_true ⟨_, rfl⟩ fun hreaches => hreaches.nonempty rfl
  | some data => exact handleConfigData_returns_iff env hfound

end ConfigurationData

/-- Preparing a slot comes back unless its configuration data get to the class object. -/
theorem prepareIoConnection_returns_iff (env : Environment) {r : ConnRef}
    (hr : r ∉ st.connectionList cfg)
    (hpath : (st.conn r).configurationPath.classId = assemblyClassCode)
    (hfound : (st.conn r).configurationPath.Found cfg) :
    (∃ result, st.prepareIoConnection cfg env r = .ok result) ↔
      ¬(st.passesChecks cfg r ∧ st.ReachesClassObject cfg
        (st.conn r).configurationPath.instanceId (st.configData.getD [])) := by
  obtain ⟨instances, hclass, hinstance⟩ := hfound
  rw [hpath] at hclass
  obtain ⟨⟨extended, st₁⟩, hconfigure⟩ := configureIoConnection_returns hclass r st
  have hpasses : st.passesChecks cfg r = decide (extended = ExtendedStatus.success) := by
    simp only [passesChecks, hconfigure]
  simp only [prepareIoConnection, hconfigure, hpasses, decide_eq_true_eq]
  split
  · rename_i hrefused
    exact iff_of_true ⟨_, rfl⟩ fun hall => hrefused hall.1
  · rename_i haccepted
    have hsuccess := not_not.mp haccepted
    obtain ⟨hsame, hused⟩ := configureIoConnection_configPoint hr hsuccess hconfigure
    have hstores := configureIoConnection_stores hconfigure
    have hassembly : cfg.getAssemblyInstance (st₁.conn r).configurationPath.instanceId =
        .ok (some (st₁.conn r).configurationPath.instanceId) := by
      obtain ⟨instanceNumber, hnumber⟩ := Option.isSome_iff_exists.mp hinstance
      have hfound := getAssemblyInstance_found hclass (st.conn r).configurationPath.instanceId
      rw [hnumber] at hfound
      rw [hsame, hfound, getAssemblyInstance_eq hfound]
    have happly := applyConfigData_returns_iff env hassembly
    have hreaches : st₁.ReachesClassObject cfg (st₁.conn r).configurationPath.instanceId
        (st₁.configData.getD []) ↔ st.ReachesClassObject cfg
        (st.conn r).configurationPath.instanceId (st.configData.getD []) := by
      rw [hsame, hstores.configData]
      constructor
      · rintro ⟨hzero, hnonempty, hlength⟩
        rw [hused, hstores.assemblyLength_eq] at hlength
        exact ⟨hzero, hnonempty, hlength⟩
      · rintro ⟨hzero, hnonempty, hlength⟩
        refine ⟨hzero, hnonempty, ?_⟩
        rw [hused, hstores.assemblyLength_eq]
        exact hlength
    simp only [hsuccess, true_and]
    rw [← hreaches, ← happly]
    cases hresult : st₁.applyConfigData cfg env r with
    | error fault => exact iff_of_false not_returns not_returns
    | ok result =>
        refine iff_of_true ?_ ⟨_, rfl⟩
        simp only
        split
        · exact ⟨_, rfl⟩
        · exact ⟨_, rfl⟩

/-- The pool search comes back unless it closes a slot that has no close function: a
listed connection has one, and closing it succeeds. -/
theorem resolveIoConnection_returns_iff (hsound : st.Sound cfg) :
    (∃ result, st.resolveIoConnection cfg = .ok result) ↔
      ∀ r, (st.ioConnectionLookup cfg).1 = .replace r →
        (st.conn r).connectionCloseFunction ≠ none := by
  obtain ⟨ns, hlisted⟩ := hsound.wellFormed
  simp only [resolveIoConnection]
  cases hlookup : (st.ioConnectionLookup cfg).1 with
  | notFound extended => exact iff_of_true ⟨_, rfl⟩ fun r heq => by cases heq
  | free r => exact iff_of_true ⟨_, rfl⟩ fun r heq => by cases heq
  | replace r =>
      simp only
      cases hfn : (st.conn r).connectionCloseFunction with
      | none =>
          refine iff_of_false ?_ fun hall => hall r rfl hfn
          simp [connectionCloseFunction, closeFunctionAt, hfn]
      | some close =>
          have hne : (st.conn r).connectionCloseFunction ≠ none := by
            rw [hfn]
            exact Option.some_ne_none close
          have hcloses : ∃ st₁, st.connectionCloseFunction cfg r = .ok st₁ := by
            by_cases hmem : r ∈ st.connectionList cfg
            · obtain ⟨st₁, -, hok, -⟩ :=
                connectionCloseFunction_ok hlisted hsound.regular.closable hmem
              exact ⟨st₁, hok⟩
            · have hm := (hsound.regular.idle r hmem).not_master hne
              rw [connectionCloseFunction, closeFunctionAt, hfn]
              cases close with
              | closeConnection => exact ⟨_, rfl⟩
              | closeIoConnection =>
                  obtain ⟨st₁, -, hok, -⟩ :=
                    closeIoConnection_of_not_master hlisted hm (closeFunctionAt cfg 1)
                  exact ⟨st₁, hok⟩
          obtain ⟨st₁, hok⟩ := hcloses
          refine iff_of_true ?_ fun s heq => ?_
          · rw [hok]
            exact ⟨_, rfl⟩
          · cases heq
            exact hne

/-- The two places at which an I/O request can be lost are not reached: the pool search
closes no slot without a close function, and no configuration data get to the class
object. -/
structure OpensSafely (cfg : Config) (st : StackState) : Prop where
  closes : ∀ r, (st.ioConnectionLookup cfg).1 = .replace r →
    (st.conn r).connectionCloseFunction ≠ none
  stores : ∀ r st₁, st.resolveIoConnection cfg = .ok (.ok r, st₁) →
    ¬((st₁.deepCopyDummy cfg r).passesChecks cfg r ∧
      (st₁.deepCopyDummy cfg r).ReachesClassObject cfg st.dummy.configurationPath.instanceId
        (st.configData.getD []))

theorem establishIoConnection_returns_iff (env : Environment) (hsound : st.Sound cfg)
    (hrequest : Requested st.dummy)
    (hfree : (st.connectionList cfg).length < cfg.nodesAmount)
    (hassembly : st.dummy.configurationPath.classId = assemblyClassCode)
    (hfound : st.dummy.configurationPath.Found cfg) :
    (∃ result, st.establishIoConnection cfg env = .ok result) ↔ st.OpensSafely cfg := by
  obtain ⟨ns, hlisted⟩ := hsound.wellFormed
  have hresolves := resolveIoConnection_returns_iff hsound
  simp only [establishIoConnection]
  cases hresolve : st.resolveIoConnection cfg with
  | error fault =>
      rw [hresolve] at hresolves
      refine iff_of_false not_returns fun hsafe => ?_
      obtain ⟨_, hok⟩ := hresolves.mpr hsafe.closes
      cases hok
  | ok result =>
      have hcloses := hresolves.mp ⟨result, hresolve⟩
      obtain ⟨outcome, st₁⟩ := result
      obtain ⟨hframe, hnone | hsome⟩ := resolveIoConnection_spec hlisted hsound.regular hresolve
      · obtain ⟨extended, rfl, -⟩ := hnone
        refine iff_of_true ⟨_, rfl⟩ ⟨hcloses, fun r st₂ heq => ?_⟩
        rw [hresolve] at heq
        cases heq
      · obtain ⟨r, ns₁, rfl, hchosen, htype, hlisted₁, hfinds, hvacated⟩ := hsome
        have hunlisted : r ∉ (st₁.deepCopyDummy cfg r).connectionList cfg := hvacated.not_mem
        have hcopy : (st₁.deepCopyDummy cfg r).conn r = st₁.dummy :=
          conn_deepCopyDummy_self r st₁
        have hpath : ((st₁.deepCopyDummy cfg r).conn r).configurationPath =
            st.dummy.configurationPath := by
          rw [hcopy, hframe.dummy]
        have hdata : (st₁.deepCopyDummy cfg r).configData = st.configData := hframe.configData
        have hprepares := prepareIoConnection_returns_iff env hunlisted
          (hpath ▸ hassembly) (hpath ▸ hfound)
        rw [hpath, hdata] at hprepares
        dsimp only
        cases hprepare : (st₁.deepCopyDummy cfg r).prepareIoConnection cfg env r with
        | error fault =>
            rw [hprepare] at hprepares
            refine iff_of_false not_returns fun hsafe => ?_
            obtain ⟨_, hok⟩ := hprepares.mpr (hsafe.stores r st₁ hresolve)
            cases hok
        | ok result =>
            have hstores := hprepares.mp ⟨result, hprepare⟩
            obtain ⟨status, st₂⟩ := result
            refine iff_of_true ?_ ⟨hcloses, fun s st₃ heq => ?_⟩
            · dsimp only
              split
              · exact ⟨_, rfl⟩
              · have hroom := room_of_prepareIoConnection hsound hrequest hresolve hprepare
                have hlist : st₂.connectionList cfg = st₁.connectionList cfg := by
                  unfold connectionList
                  rw [prepareIoConnection_list hunlisted
                    (by rw [hcopy, hframe.dummy]; exact hrequest.state)
                    (by rw [hcopy, hframe.dummy]; exact hrequest.close) hprepare]
                  rfl
                have hlength : (st₁.connectionList cfg).length ≤
                    (st.connectionList cfg).length :=
                  (Persists.vacated hvacated).sublist.length_le
                obtain ⟨st₃, hadd, -⟩ := hroom.lists (by rw [hlist]; omega)
                rw [activateIoConnection, hadd]
                exact ⟨_, rfl⟩
            · rw [hresolve] at heq
              cases heq
              exact hstores

theorem establishClass3Connection_returns (hsound : st.Sound cfg)
    (hfree : (st.connectionList cfg).length < cfg.nodesAmount) :
    ∃ result, st.establishClass3Connection cfg = .ok result := by
  rw [establishClass3Connection]
  cases hslot : st.getFreeExplicitConnection cfg with
  | none => exact ⟨_, rfl⟩
  | some r =>
      have hlist : ((st.deepCopyDummy cfg r).prepareClass3Connection cfg r).connectionList cfg =
          st.connectionList cfg := by
        unfold connectionList
        rw [prepareClass3Connection_list]
        rfl
      obtain ⟨st₁, hadd, -⟩ := (room_of_getFreeExplicitConnection hsound hslot).lists
        (by rw [hlist]; exact hfree)
      simp only [hadd]
      exact ⟨_, rfl⟩

/-- Only requests that go to the Assembly class can be lost. -/
theorem openConnection_returns_iff (env : Environment) (hsound : st.Sound cfg)
    (hrequest : Requested st.dummy)
    (hfree : (st.connectionList cfg).length < cfg.nodesAmount)
    (hfound : st.dummy.configurationPath.Found cfg) :
    (∃ result, st.openConnection cfg env = .ok result) ↔
      (st.dummy.configurationPath.classId = assemblyClassCode → st.OpensSafely cfg) := by
  by_cases hassembly : st.dummy.configurationPath.classId = assemblyClassCode
  · rw [openConnection_assembly hassembly,
      establishIoConnection_returns_iff env hsound hrequest hfree hassembly hfound]
    exact ⟨fun hsafe _ => hsafe, fun hsafe => hsafe hassembly⟩
  · refine iff_of_true ?_ fun h => absurd h hassembly
    rw [openConnection]
    split
    · exact ⟨_, rfl⟩
    · exact ⟨_, rfl⟩
    · exact establishClass3Connection_returns hsound hfree
    · rename_i classId hfind
      have hclassId := List.find?_some hfind
      rw [decide_eq_true_eq,
        connectionManagementList_io (List.mem_of_find?_eq_some hfind)] at hclassId
      exact absurd hclassId.symm hassembly

/-- With a connection at the head of the list there is something to answer from. -/
theorem answerOpenConnection_returns (hwell : st.WellFormed cfg) {status : OpenStatus}
    (hhead : status.general = GeneralStatus.success →
      (st.connectionList cfg).head?.isSome) :
    ∃ result, st.answerOpenConnection status = .ok result := by
  rw [answerOpenConnection]
  split
  · exact ⟨_, rfl⟩
  · rename_i hsuccess
    obtain ⟨ns, hlisted⟩ := hwell
    obtain ⟨r, hr⟩ := Option.isSome_iff_exists.mp (hhead (not_not.mp hsuccess))
    have hmembers : st.connectionList cfg = contents st.nodes ns := hlisted.members_eq
    cases ns with
    | nil =>
        rw [hmembers] at hr
        cases hr
    | cons n ns =>
        obtain ⟨r', hdata⟩ := hlisted.data (List.mem_cons_self ..)
        have hfirst : st.store.connectionList.first = some n := hlisted.links.first_eq
        simp only [hfirst, hdata]
        exact ⟨_, rfl⟩

section Answers

variable {isLarge : Bool} {request : MessageRouterRequest} {originatorAddress : SockaddrIn}
  {encapsulationSession : UInt32}

/-- A Forward Open is answered unless its open function does not come back. -/
theorem forwardOpenRoutine_returns_iff (hreachable : Reachable cfg st)
    (hunused : ∃ number ∈ env.rand, ∀ s ∈ st.connectionList cfg,
      (st.conn s).connectionNumber ≠ number)
    (hfree : (st.connectionList cfg).length < cfg.nodesAmount)
    (hhandled : ∀ st₁, st.forwardOpenRequest cfg env isLarge request originatorAddress
      encapsulationSession = .ok (none, st₁) → st₁.dummy.configurationPath.classId ≠ 0) :
    (∃ result, st.forwardOpenRoutine cfg env isLarge request originatorAddress
      encapsulationSession = .ok result) ↔
      ∀ st₁, st.forwardOpenRequest cfg env isLarge request originatorAddress
          encapsulationSession = .ok (none, st₁) →
        st₁.dummy.configurationPath.classId = assemblyClassCode → st₁.OpensSafely cfg := by
  obtain ⟨⟨refusal, st₁⟩, hrequest⟩ := forwardOpenRequest_returns isLarge request
    originatorAddress encapsulationSession hunused
  rw [forwardOpenRoutine_eq, hrequest]
  cases refusal with
  | some status => exact iff_of_true ⟨_, rfl⟩ fun st₂ heq => by cases heq
  | none =>
      obtain ⟨hreceives, hclass⟩ := forwardOpenRequest_receives hrequest
      obtain ⟨hsound₁, hrequested⟩ := hreceives.requested hreachable.sound
      have hview : st₁.view cfg = st.view cfg := hreceives.view_eq
      have hlist : st₁.connectionList cfg = st.connectionList cfg := congrArg (·.members) hview
      have hopens := openConnection_returns_iff env hsound₁ hrequested (hlist ▸ hfree)
        (forwardOpenRequest_found hrequest)
      have hcondition : (∀ st₂, (.ok (none, st₁) : Except Fault (Option OpenStatus × StackState)) =
            .ok (none, st₂) → st₂.dummy.configurationPath.classId = assemblyClassCode →
            st₂.OpensSafely cfg) ↔
          (st₁.dummy.configurationPath.classId = assemblyClassCode → st₁.OpensSafely cfg) := by
        refine ⟨fun h => h st₁ rfl, fun h st₂ heq => ?_⟩
        cases heq
        exact h
      rw [hcondition, ← hopens]
      dsimp only
      cases hopen : st₁.openConnection cfg env with
      | error fault => exact iff_of_false not_returns not_returns
      | ok result =>
          obtain ⟨status, st₂⟩ := result
          refine iff_of_true ?_ ⟨_, rfl⟩
          obtain ⟨ns, hlisted⟩ := hsound₁.wellFormed
          obtain ⟨hwell, -, hanswered⟩ :=
            openConnection_spec hlisted hsound₁.regular hrequested (hclass rfl) hopen
          refine answerOpenConnection_returns hwell fun hsuccess => ?_
          rcases hanswered.outcome with ⟨-, V₁, r, hentered⟩ | ⟨hnobody, -⟩
          · have hmembers : st₂.connectionList cfg = r :: V₁.members := hentered.members
            rw [hmembers]
            rfl
          · exact absurd (hnobody hsuccess) (hhandled st₁ hrequest)

/-- The reply and the connection list agree exactly for the requests whose open
function comes back. -/
theorem forwardOpen_reply_agrees_iff (hreachable : Reachable cfg st)
    (hpeer : env.peerAddress = originatorAddress.sinAddr)
    (hunused : ∃ number ∈ env.rand, ∀ s ∈ st.connectionList cfg,
      (st.conn s).connectionNumber ≠ number)
    (hfree : (st.connectionList cfg).length < cfg.nodesAmount)
    (hhandled : ∀ st₁, st.forwardOpenRequest cfg env isLarge request originatorAddress
      encapsulationSession = .ok (none, st₁) → st₁.dummy.configurationPath.classId ≠ 0) :
    (∃ response st', st.forwardOpenRoutine cfg env isLarge request originatorAddress
        encapsulationSession = .ok (response, st') ∧
      ReplyAgrees cfg isLarge request originatorAddress encapsulationSession st response st') ↔
      ∀ st₁, st.forwardOpenRequest cfg env isLarge request originatorAddress
          encapsulationSession = .ok (none, st₁) →
        st₁.dummy.configurationPath.classId = assemblyClassCode → st₁.OpensSafely cfg := by
  rw [← forwardOpenRoutine_returns_iff hreachable hunused hfree hhandled]
  constructor
  · rintro ⟨response, st', hcall, -⟩
    exact ⟨_, hcall⟩
  · rintro ⟨⟨response, st'⟩, hcall⟩
    exact ⟨response, st', hcall, forwardOpen_reply_agrees hreachable hpeer hhandled hcall⟩

end Answers

open SampleApplication in
/-- An exclusive owner joins an established input-only connection. -/
theorem forwardOpen_reply_agrees_iff_sample :
    ∃ st response st' r, Reachable config st ∧
      st.forwardOpenRoutine config (environment 1002 22) false
        (openRequest (exclusiveOwner 2 2 multicast)) originator 1 = .ok (response, st') ∧
      response.generalStatus = GeneralStatus.success ∧
      OpenedAsAsked config false (openRequest (exclusiveOwner 2 2 multicast)) originator 1
        st st' r ∧
      response.message = successData (st'.conn r) := by
  obtain ⟨st, hreachable, hopens⟩ := reachable_of_ends config
    [request (inputOnly 1 1 multicast)]
    (fun st =>
      returns (st.forwardOpenRoutine config (environment 1002 22) false
          (openRequest (exclusiveOwner 2 2 multicast)) originator 1)
        (fun answer => answer.1.generalStatus = GeneralStatus.success) &&
      returns (st.forwardOpenRequest config (environment 1002 22) false
          (openRequest (exclusiveOwner 2 2 multicast)) originator 1)
        (fun called => called.2.dummy.configurationPath.classId ≠ 0 &&
          (called.2.ioConnectionLookup config).1 = .free (.exclusiveOwner 0) &&
          called.2.dummy.configurationPath.instanceId ≠ 0) &&
      decide ((st.connectionList config).length < config.nodesAmount ∧
        ∀ s ∈ st.connectionList config, (st.conn s).connectionNumber ≠ 1002))
    (by decide +kernel)
  rw [Bool.and_eq_true, Bool.and_eq_true, returns_iff, decide_eq_true_eq] at hopens
  obtain ⟨⟨⟨answer, hanswer, hsuccess⟩, hrequested⟩, hfree, hunused⟩ := hopens
  rw [decide_eq_true_eq] at hsuccess
  have hcalled : ∀ st₁, st.forwardOpenRequest config (environment 1002 22) false
      (openRequest (exclusiveOwner 2 2 multicast)) originator 1 = .ok (none, st₁) →
      st₁.dummy.configurationPath.classId ≠ 0 ∧
        (st₁.ioConnectionLookup config).1 = .free (.exclusiveOwner 0) ∧
        st₁.dummy.configurationPath.instanceId ≠ 0 := by
    intro st₁ hrequest
    rw [hrequest, returns] at hrequested
    simpa only [Bool.and_eq_true, decide_eq_true_eq, and_assoc] using hrequested
  obtain ⟨response, st', hcall, hagrees⟩ := (forwardOpen_reply_agrees_iff hreachable rfl
    ⟨1002, List.mem_singleton_self _, hunused⟩ hfree
    fun st₁ hrequest => (hcalled st₁ hrequest).1).mpr fun st₁ hrequest _ => by
      obtain ⟨-, hlookup, hconfigured⟩ := hcalled st₁ hrequest
      refine ⟨fun r heq => ?_, fun _ _ _ hreaches => hconfigured hreaches.2.classObject⟩
      rw [hlookup] at heq
      cases heq
  rw [hcall, Except.ok.injEq] at hanswer
  rw [← hanswer] at hsuccess
  obtain ⟨r, hr⟩ := hagrees.success_iff.mp hsuccess
  exact ⟨st, response, st', r, hreachable, hcall, hsuccess, hr,
    hagrees.success_data hsuccess r hr.head⟩

open SampleApplication in
/-- A second exclusive-owner point has the same input. The owner of the first has timed
out, and its originator asks for the second, whose slot was never used. -/
theorem forwardOpen_unanswered_sample :
    ∃ cfg st, cfg = Config.configureExclusiveOwnerConnectionPoint
        { config with numExclusiveOwnerConns := 2 } 1 ⟨154, 100, 151⟩ ∧ Reachable cfg st ∧
      (st.connectionList cfg).length < cfg.nodesAmount ∧
      (∀ s ∈ st.connectionList cfg, (st.conn s).connectionNumber ≠ 1002) ∧
      (∃ st₁, st.forwardOpenRequest cfg (environment 1002 22) false
          (openRequest { exclusiveOwner 2 1 multicast with connectionPath := ioPath 154 100 })
          originator 1 = .ok (none, st₁) ∧
        st₁.dummy.configurationPath.classId = assemblyClassCode) ∧
      st.forwardOpenRoutine cfg (environment 1002 22) false
        (openRequest { exclusiveOwner 2 1 multicast with connectionPath := ioPath 154 100 })
        originator 1 = .error .nullFunctionCall := by
  obtain ⟨st, hreachable, hends⟩ := reachable_of_ends
    (Config.configureExclusiveOwnerConnectionPoint
      { config with numExclusiveOwnerConns := 2 } 1 ⟨154, 100, 151⟩)
    [request (exclusiveOwner 1 1 multicast), tick 10000]
    (fun st =>
      let cfg := Config.configureExclusiveOwnerConnectionPoint
        { config with numExclusiveOwnerConns := 2 } 1 ⟨154, 100, 151⟩
      decide ((st.connectionList cfg).length < cfg.nodesAmount ∧
        ∀ s ∈ st.connectionList cfg, (st.conn s).connectionNumber ≠ 1002) &&
      returns (st.forwardOpenRequest cfg (environment 1002 22) false
          (openRequest { exclusiveOwner 2 1 multicast with connectionPath := ioPath 154 100 })
          originator 1)
        (fun called => called.1 = none &&
          called.2.dummy.configurationPath.classId = assemblyClassCode) &&
      faults (st.forwardOpenRoutine cfg (environment 1002 22) false
        (openRequest { exclusiveOwner 2 1 multicast with connectionPath := ioPath 154 100 })
        originator 1) .nullFunctionCall)
    (by decide +kernel)
  rw [Bool.and_eq_true, Bool.and_eq_true, decide_eq_true_eq, returns_iff, faults_iff] at hends
  obtain ⟨⟨⟨hfree, hunused⟩, ⟨⟨refusal, st₁⟩, hrequest, hcalled⟩⟩, hfault⟩ := hends
  rw [Bool.and_eq_true, decide_eq_true_eq, decide_eq_true_eq] at hcalled
  obtain ⟨rfl, hassembly⟩ := hcalled
  exact ⟨_, st, rfl, hreachable, hfree, hunused, ⟨st₁, hrequest, hassembly⟩, hfault⟩

end StackState

end Opener

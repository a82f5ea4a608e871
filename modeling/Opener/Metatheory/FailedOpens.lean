import Opener.Metatheory.Transitions

/-!
What a Forward Open that is answered with an error leaves behind. The pool search
may already have closed a timed-out connection, and the configuration data may
already be stored; nothing else outlives a failure.
-/

namespace Opener

namespace StackState

variable {cfg : Config} {env : Environment} {st : StackState}

theorem setupConnectionPoints_stores {r : ConnRef} {extended : UInt16} {st' : StackState}
    (hcall : st.setupConnectionPoints cfg r = .ok (extended, st')) : Stores st st' := by
  simp only [setupConnectionPoints] at hcall
  split at hcall
  · cases hcall
  · rename_i extended₁ st₁ hconsumer
    have h₁ : Stores st st₁ := by
      split at hconsumer
      · exact setupOriginatorToTarget_stores hconsumer
      · cases hconsumer
        exact Stores.refl st
    split at hcall
    · cases hcall
      exact h₁
    · split at hcall
      · exact h₁.trans (setupTargetToOriginator_stores hcall)
      · cases hcall
        exact h₁

theorem configureIoConnection_stores {r : ConnRef} {extended : UInt16} {st' : StackState}
    (hcall : st.configureIoConnection cfg r = .ok (extended, st')) : Stores st st' := by
  simp only [configureIoConnection] at hcall
  split at hcall
  · cases hcall
    exact ⟨rfl, rfl⟩
  · refine Stores.trans ?_ (setupConnectionPoints_stores hcall)
    refine Stores.trans ?_ (stores_modifyConn r _ _)
    refine Stores.trans ?_ (generalConfiguration_stores cfg r _)
    exact ⟨rfl, rfl⟩

/-- The assemblies after configuration data was received for a connection point:
it is written when no listed connection uses the point and the length fits. -/
def storedAssemblyData (cfg : Config) (env : Environment) (configPoint : UInt16)
    (data : List UInt8) (st : StackState) : UInt16 → List UInt8 :=
  match cfg.getAssemblyInstance configPoint with
  | .ok (some instanceNumber) =>
      if data.length ≠ 0 ∧ instanceNumber ≠ 0 ∧
          st.connectionWithSameConfigPointExists cfg configPoint = false ∧
          (st.assemblyData instanceNumber).length = data.length then
        (env.afterAssemblyDataReceived instanceNumber
          (Function.update st.assemblyData instanceNumber data)).2
      else st.assemblyData
  | _ => st.assemblyData

theorem notifyAssembly_assemblyData {instanceNumber : UInt16} {data : List UInt8}
    {status : EipStatus} {st' : StackState}
    (hcall : st.notifyAssemblyConnectedDataReceived env instanceNumber data =
      .ok (status, st')) :
    st'.assemblyData =
      if instanceNumber ≠ 0 ∧ (st.assemblyData instanceNumber).length = data.length then
        (env.afterAssemblyDataReceived instanceNumber
          (Function.update st.assemblyData instanceNumber data)).2
      else st.assemblyData := by
  simp only [notifyAssemblyConnectedDataReceived] at hcall
  split at hcall
  · rename_i hzero
    rw [if_neg fun hall => hall.1 hzero]
    split at hcall
    · cases hcall
    · cases hcall
      rfl
  · rename_i hzero
    split at hcall
    · rename_i hlength
      rw [if_neg fun hall => hlength hall.2]
      cases hcall
      rfl
    · rename_i hlength
      rw [if_pos ⟨hzero, not_not.mp hlength⟩]
      cases hcall
      rfl

theorem handleConfigData_assemblyData {r : ConnRef} {data : List UInt8} {extended : UInt16}
    {st' : StackState} (hcall : st.handleConfigData cfg env r data = .ok (extended, st')) :
    st'.assemblyData = st.storedAssemblyData cfg env
      (st.conn r).configurationPath.instanceId data := by
  simp only [handleConfigData] at hcall
  simp only [storedAssemblyData]
  cases hinstance : cfg.getAssemblyInstance (st.conn r).configurationPath.instanceId with
  | error fault => simp [hinstance] at hcall
  | ok found =>
      simp only [hinstance] at hcall
      cases found with
      | none =>
          split at hcall
          · cases hcall
            rfl
          · cases hcall
      | some instanceNumber =>
          simp only at hcall ⊢
          split at hcall
          · rename_i hempty
            rw [if_neg fun hall => hall.1 hempty]
            cases hcall
            rfl
          · rename_i hempty
            split at hcall
            · rename_i hused
              rw [if_neg fun hall => by simp [hused] at hall]
              split at hcall
              · cases hcall
                rfl
              · split at hcall
                · cases hcall
                · split at hcall
                  · cases hcall
                    rfl
                  · cases hcall
                    rfl
            · rename_i hused
              have hfree : st.connectionWithSameConfigPointExists cfg
                  (st.conn r).configurationPath.instanceId = false := by
                simpa using hused
              have hstored : ∀ {status : EipStatus} {st₁ : StackState},
                  st.notifyAssemblyConnectedDataReceived env instanceNumber data =
                    .ok (status, st₁) → st₁.assemblyData =
                  if data.length ≠ 0 ∧ instanceNumber ≠ 0 ∧
                      st.connectionWithSameConfigPointExists cfg
                        (st.conn r).configurationPath.instanceId = false ∧
                      (st.assemblyData instanceNumber).length = data.length then
                    (env.afterAssemblyDataReceived instanceNumber
                      (Function.update st.assemblyData instanceNumber data)).2
                  else st.assemblyData := by
                intro status st₁ hnotify
                rw [notifyAssembly_assemblyData hnotify]
                refine if_congr ?_ rfl rfl
                exact ⟨fun hall => ⟨hempty, hall.1, hfree, hall.2⟩,
                  fun hall => ⟨hall.2.1, hall.2.2.2⟩⟩
              split at hcall
              · cases hcall
              · rename_i hnotify
                cases hcall
                exact hstored hnotify
              · rename_i hnotify
                cases hcall
                exact hstored hnotify

theorem applyConfigData_assemblyData {r : ConnRef} {extended : UInt16} {st' : StackState}
    (hcall : st.applyConfigData cfg env r = .ok (extended, st')) :
    st'.assemblyData = st.storedAssemblyData cfg env
      (st.conn r).configurationPath.instanceId (st.configData.getD []) := by
  simp only [applyConfigData] at hcall
  cases hdata : st.configData with
  | none =>
      simp only [hdata] at hcall
      cases hcall
      simp only [storedAssemblyData]
      split
      · rw [if_neg (by simp)]
      · rfl
  | some data =>
      simp only [hdata] at hcall
      exact handleConfigData_assemblyData hcall

theorem openMulticastConnection_stores (cfg : Config) (env : Environment)
    (direction : UdpCommunicationDirection) (r : ConnRef) (st : StackState) :
    Stores st (st.openMulticastConnection cfg env direction r).2 := by
  obtain ⟨cpf, item, hopen | hopen⟩ := openMulticastConnection_spec cfg env direction r st
  · rw [hopen]
    exact ⟨rfl, rfl⟩
  · rw [hopen]
    exact ⟨rfl, rfl⟩

theorem openConsumingChannel_stores (cfg : Config) (env : Environment) (r : ConnRef)
    (st : StackState) :
    Stores st (st.openConsumingChannel cfg env r).2 := by
  have hmulticast := openMulticastConnection_stores cfg env .consuming r st
  unfold openConsumingChannel
  split
  · generalize st.openMulticastConnection cfg env .consuming r = result at hmulticast
    obtain ⟨status, st₁⟩ := result
    cases status <;> exact hmulticast
  · have hpoint : Stores st (st.openConsumingPointToPointConnection env r).2 := by
      unfold openConsumingPointToPointConnection
      split
      · exact Stores.refl st
      · split
        · exact Stores.refl st
        · exact ⟨rfl, rfl⟩
    generalize st.openConsumingPointToPointConnection env r = result at hpoint
    obtain ⟨status, st₁⟩ := result
    cases status <;> exact hpoint
  · exact Stores.refl st

theorem openProducingMulticastConnection_stores (cfg : Config) (env : Environment)
    (r : ConnRef) (st : StackState) :
    Stores st (st.openProducingMulticastConnection cfg env r).2 := by
  simp only [openProducingMulticastConnection]
  split
  · exact Stores.refl st
  · split
    · refine Stores.trans ?_ (openMulticastConnection_stores cfg env .producing r _)
      exact ⟨rfl, rfl⟩
    · exact ⟨rfl, rfl⟩

theorem openProducingChannel_stores (r : ConnRef) (st : StackState) :
    Stores st (st.openProducingChannel cfg env r).2 := by
  have hmulticast := openProducingMulticastConnection_stores cfg env r st
  unfold openProducingChannel
  split
  · generalize st.openProducingMulticastConnection cfg env r = result at hmulticast
    obtain ⟨status, st₁⟩ := result
    cases status <;> exact hmulticast
  · have hpoint : Stores st (st.openProducingPointToPointConnection env r).2 := by
      simp only [openProducingPointToPointConnection]
      split
      · exact ⟨rfl, rfl⟩
      · exact ⟨rfl, rfl⟩
    generalize st.openProducingPointToPointConnection env r = result at hpoint
    obtain ⟨opened, st₁⟩ := result
    cases opened <;> exact hpoint
  · exact Stores.refl st

theorem openCommunicationChannels_stores (cfg : Config) (env : Environment) (r : ConnRef)
    (st : StackState) :
    Stores st (st.openCommunicationChannels cfg env r).2 := by
  obtain ⟨masterSocket, hcreate⟩ := createUdpSocket_eq env st
  have h₁ : Stores st (st.createUdpSocket env) := by
    rw [hcreate]
    exact ⟨rfl, rfl⟩
  unfold openCommunicationChannels
  generalize st.createUdpSocket env = st₁ at h₁
  have h₂ := h₁.trans (openConsumingChannel_stores cfg env r st₁)
  generalize st₁.openConsumingChannel cfg env r = result at h₂
  obtain ⟨status, st₂⟩ := result
  simp only
  split
  · exact h₂
  · exact h₂.trans (openProducingChannel_stores r st₂)

/-- Whether the request passes the checks that come before its configuration
data is stored. -/
def passesChecks (cfg : Config) (r : ConnRef) (st : StackState) : Bool :=
  match st.configureIoConnection cfg r with
  | .ok (extended, _) => extended = ExtendedStatus.success
  | .error _ => false

/-- A slot that passes the checks is looked at for the same configuration point, which is
in use by the same connections. -/
theorem configureIoConnection_configPoint {r : ConnRef} {extended : UInt16} {st' : StackState}
    (hr : r ∉ st.connectionList cfg) (hpasses : extended = ExtendedStatus.success)
    (hcall : st.configureIoConnection cfg r = .ok (extended, st')) :
    (st'.conn r).configurationPath = (st.conn r).configurationPath ∧
      ∀ configPoint, st'.connectionWithSameConfigPointExists cfg configPoint =
        st.connectionWithSameConfigPointExists cfg configPoint := by
  obtain ⟨hwrites, ⟨hfailed, -⟩ | ⟨⟨inhibitTime, hsettled⟩, -⟩⟩ :=
    configureIoConnection_spec hr hcall
  · exact absurd hpasses hfailed
  · refine ⟨CipConnectionObject.settled_field hsettled (·.configurationPath) fun _ => rfl,
      fun configPoint => ?_⟩
    simp only [connectionWithSameConfigPointExists, findConnection]
    rw [hwrites.connectionList_eq]
    congr 1
    refine List.find?_congr fun s hs => ?_
    rw [hwrites.others s (ne_of_mem_of_not_mem hs hr)]

/-- The assemblies after a slot was prepared, whether the request is accepted or
not. -/
theorem prepareIoConnection_assemblyData {r : ConnRef} {status : OpenStatus}
    {st' : StackState} (hr : r ∉ st.connectionList cfg)
    (hcall : st.prepareIoConnection cfg env r = .ok (status, st')) :
    st'.assemblyData =
      if st.passesChecks cfg r then
        st.storedAssemblyData cfg env (st.conn r).configurationPath.instanceId
          (st.configData.getD [])
      else st.assemblyData := by
  simp only [prepareIoConnection] at hcall
  cases hconfigure : st.configureIoConnection cfg r with
  | error fault => simp [hconfigure] at hcall
  | ok result =>
      obtain ⟨extended, st₁⟩ := result
      simp only [hconfigure] at hcall
      have hpasses : st.passesChecks cfg r = decide (extended = ExtendedStatus.success) := by
        simp only [passesChecks, hconfigure]
      rw [hpasses]
      have hstores := configureIoConnection_stores hconfigure
      split at hcall
      · rename_i hextended
        cases hcall
        rw [if_neg (by simpa using hextended)]
        exact hstores.assemblyData
      · rename_i hextended
        rw [if_pos (by simpa using hextended)]
        obtain ⟨hpath, hused⟩ :=
          configureIoConnection_configPoint hr (not_not.mp hextended) hconfigure
        have hstored : st₁.storedAssemblyData cfg env
            (st₁.conn r).configurationPath.instanceId (st₁.configData.getD []) =
            st.storedAssemblyData cfg env (st.conn r).configurationPath.instanceId
              (st.configData.getD []) := by
          simp only [storedAssemblyData, hpath, hstores.configData, hstores.assemblyData, hused]
        rw [← hstored]
        split at hcall
        · cases hcall
        · rename_i extended₂ st₂ happly
          rw [← applyConfigData_assemblyData happly]
          split at hcall
          · cases hcall
            rfl
          · have hchannels := openCommunicationChannels_stores cfg env r st₂
            generalize st₂.openCommunicationChannels cfg env r = result at hcall hchannels
            obtain ⟨general, st₃⟩ := result
            cases hcall
            exact hchannels.assemblyData

/-- The list, the fields of the listed connections and the assemblies. -/
structure Unchanged (cfg : Config) (st st' : StackState) : Prop where
  list : st'.connectionList cfg = st.connectionList cfg
  object : ∀ r ∈ st.connectionList cfg, st'.conn r = st.conn r
  assemblyData : st'.assemblyData = st.assemblyData

theorem Unchanged.of_eq {st₁ st₂ st₃ : StackState} (h : Unchanged cfg st₁ st₂)
    (hstore : st₁.store = st.store) (hdata : st₁.assemblyData = st.assemblyData)
    (hstore' : st₃.store = st₂.store) (hdata' : st₃.assemblyData = st₂.assemblyData) :
    Unchanged cfg st st₃ := by
  obtain ⟨hlist, hobject, hassembly⟩ := h
  simp only [connectionList, conn, hstore] at hlist hobject
  refine ⟨?_, ?_, ?_⟩
  · simp only [connectionList, hstore']
    exact hlist
  · simp only [connectionList, conn, hstore']
    exact hobject
  · rw [hdata', hassembly, hdata]

theorem unchanged_congr {st₁ st₂ st₃ : StackState} (hstore : st₁.store = st.store)
    (hdata : st₁.assemblyData = st.assemblyData) (hstore' : st₃.store = st₂.store)
    (hdata' : st₃.assemblyData = st₂.assemblyData) :
    Unchanged cfg st st₃ ↔ Unchanged cfg st₁ st₂ :=
  ⟨fun h => h.of_eq hstore.symm hdata.symm hstore'.symm hdata'.symm,
    fun h => h.of_eq hstore hdata hstore' hdata'⟩

/-- The pool search of the request picks a listed connection, which is closed
first. -/
def ReplacesListed (cfg : Config) (st : StackState) : Prop :=
  ∃ r ∈ st.connectionList cfg, (st.ioConnectionLookup cfg).1 = .replace r

/-- The request gets an object, passes the checks of its connection points, and
its configuration data is stored and differs from what the assemblies hold. -/
def ChangesAssemblies (cfg : Config) (env : Environment) (st : StackState) : Prop :=
  ∃ r st₁, st.resolveIoConnection cfg = .ok (.ok r, st₁) ∧
    (st₁.deepCopyDummy cfg r).passesChecks cfg r ∧
    st.storedAssemblyData cfg env st.dummy.configurationPath.instanceId
      (st.configData.getD []) ≠ st.assemblyData

theorem storedAssemblyData_congr {st' : StackState} (configPoint : UInt16)
    (data : List UInt8) (hlist : st'.connectionList cfg = st.connectionList cfg)
    (hobject : ∀ r ∈ st.connectionList cfg, st'.conn r = st.conn r)
    (hdata : st'.assemblyData = st.assemblyData) :
    st'.storedAssemblyData cfg env configPoint data =
      st.storedAssemblyData cfg env configPoint data := by
  have hused : st'.connectionWithSameConfigPointExists cfg configPoint =
      st.connectionWithSameConfigPointExists cfg configPoint := by
    simp only [connectionWithSameConfigPointExists, findConnection, hlist]
    congr 1
    refine List.find?_congr fun s hs => ?_
    rw [hobject s hs]
  simp only [storedAssemblyData, hused, hdata]

section Resolved

variable {r : ConnRef} {st₁ st' : StackState}

theorem changesAssemblies_iff (hresolve : st.resolveIoConnection cfg = .ok (.ok r, st₁)) :
    ChangesAssemblies cfg env st ↔ (st₁.deepCopyDummy cfg r).passesChecks cfg r = true ∧
      st.storedAssemblyData cfg env st.dummy.configurationPath.instanceId
        (st.configData.getD []) ≠ st.assemblyData := by
  constructor
  · rintro ⟨r', st₂, hok, hpasses, hstored⟩
    rw [hresolve] at hok
    cases hok
    exact ⟨hpasses, hstored⟩
  · rintro ⟨hpasses, hstored⟩
    exact ⟨r, st₁, hresolve, hpasses, hstored⟩

variable {instanceType : ConnectionObjectInstanceType} {lookup : Lookup}

/-- A slot that was not listed makes no difference to what is stored. -/
theorem storedAssemblyData_copied (hframe : RequestFrame instanceType st st₁)
    (hvacated : Vacated (st.view cfg) r lookup (st₁.view cfg))
    (hr : r ∉ st.connectionList cfg) :
    (st₁.deepCopyDummy cfg r).storedAssemblyData cfg env
        ((st₁.deepCopyDummy cfg r).conn r).configurationPath.instanceId
        ((st₁.deepCopyDummy cfg r).configData.getD []) =
      st.storedAssemblyData cfg env st.dummy.configurationPath.instanceId
        (st.configData.getD []) := by
  obtain ⟨hlist, hobject⟩ := hvacated.unlisted hr
  have hstores : Stores st (st₁.deepCopyDummy cfg r) := ⟨hframe.assemblyData, hframe.configData⟩
  have hpath : st₁.dummy.configurationPath = st.dummy.configurationPath := by
    rw [hframe.dummy]
  rw [conn_deepCopyDummy_self, hpath, hstores.configData]
  refine storedAssemblyData_congr _ _ hlist (fun s hs => ?_) hstores.assemblyData
  rw [conn_deepCopyDummy_of_ne (ne_of_mem_of_not_mem hs hr) st₁]
  exact hobject s hs

/-- A listed connection whose slot is taken is closed first, and is missed. -/
theorem not_unchanged_of_listed (hvacated : Vacated (st.view cfg) r lookup (st₁.view cfg))
    (hwrites : Writes r (st₁.deepCopyDummy cfg r) st') (hr : r ∈ st.connectionList cfg) :
    ¬Unchanged cfg st st' := by
  intro hunchanged
  have hlist : st'.connectionList cfg = st₁.connectionList cfg := hwrites.connectionList_eq
  rw [← hunchanged.list, hlist] at hr
  exact hvacated.not_mem hr

/-- An unlisted slot that is prepared in vain leaves a change in the assemblies only. -/
theorem unchanged_of_unlisted (hvacated : Vacated (st.view cfg) r lookup (st₁.view cfg))
    (hwrites : Writes r (st₁.deepCopyDummy cfg r) st') (hr : r ∉ st.connectionList cfg) :
    Unchanged cfg st st' ↔ st'.assemblyData = st.assemblyData := by
  obtain ⟨hlist, hobject⟩ := hvacated.unlisted hr
  refine ⟨fun hunchanged => hunchanged.assemblyData, fun hdata => ⟨?_, fun s hs => ?_, hdata⟩⟩
  · have hkept : st'.connectionList cfg = st₁.connectionList cfg := hwrites.connectionList_eq
    exact hkept.trans hlist
  · have hne : s ≠ r := ne_of_mem_of_not_mem hs hr
    exact ((hwrites.others s hne).trans (conn_deepCopyDummy_of_ne hne st₁)).trans (hobject s hs)

/-- The slot that was found is prepared in vain. -/
theorem prepareIoConnection_unchanged_iff {status : OpenStatus}
    (hresolve : st.resolveIoConnection cfg = .ok (.ok r, st₁))
    (hframe : RequestFrame instanceType st st₁)
    (hvacated : Vacated (st.view cfg) r (st.ioConnectionLookup cfg).1 (st₁.view cfg))
    (hwrites : Writes r (st₁.deepCopyDummy cfg r) st')
    (hprepare : (st₁.deepCopyDummy cfg r).prepareIoConnection cfg env r = .ok (status, st')) :
    Unchanged cfg st st' ↔ ¬ReplacesListed cfg st ∧ ¬ChangesAssemblies cfg env st := by
  by_cases hr : r ∈ st.connectionList cfg
  · have hreplaces : ReplacesListed cfg st := ⟨r, hr, hvacated.replaces hr⟩
    exact iff_of_false (not_unchanged_of_listed hvacated hwrites hr) fun hnot => hnot.1 hreplaces
  · have hreplaces : ¬ReplacesListed cfg st := by
      rintro ⟨r', hr', hreplace⟩
      rw [hreplace] at hvacated
      exact hr (hvacated.replace_eq ▸ hr')
    have hunlisted : r ∉ (st₁.deepCopyDummy cfg r).connectionList cfg := hvacated.not_mem
    have hassembly := prepareIoConnection_assemblyData hunlisted hprepare
    rw [storedAssemblyData_copied hframe hvacated hr] at hassembly
    rw [and_iff_right hreplaces, unchanged_of_unlisted hvacated hwrites hr,
      changesAssemblies_iff hresolve, hassembly]
    split
    · rename_i hpasses
      rw [not_and, not_not]
      exact ⟨fun hsame _ => hsame, fun hsame => hsame hpasses⟩
    · rename_i hfails
      exact iff_of_true hframe.assemblyData fun hchanges => hfails hchanges.1

end Resolved

/-- A refused attempt to establish an I/O connection. -/
theorem establishIoConnection_unchanged_iff (hsound : st.Sound cfg)
    (hrequest : Requested st.dummy) {status : OpenStatus} {st' : StackState}
    (hcall : st.establishIoConnection cfg env = .ok (status, st'))
    (hfailed : status.general ≠ GeneralStatus.success) :
    Unchanged cfg st st' ↔ ¬ReplacesListed cfg st ∧ ¬ChangesAssemblies cfg env st := by
  obtain ⟨ns, hlisted⟩ := hsound.wellFormed
  simp only [establishIoConnection] at hcall
  cases hresolve : st.resolveIoConnection cfg with
  | error fault => simp [hresolve] at hcall
  | ok result =>
      obtain ⟨outcome, st₁⟩ := result
      obtain ⟨hframe, ⟨extended, rfl, hlookup, rfl⟩ |
          ⟨r, ns₁, rfl, hchosen, htype, hlisted₁, hfinds, hvacated⟩⟩ :=
        resolveIoConnection_spec hlisted hsound.regular hresolve
      · simp only [hresolve] at hcall
        cases hcall
        refine ⟨fun _ => ⟨?_, ?_⟩, fun _ => ⟨rfl, fun _ _ => rfl, rfl⟩⟩
        · rintro ⟨r, -, hreplace⟩
          rw [hlookup] at hreplace
          cases hreplace
        · rintro ⟨r, st₂, hok, -⟩
          rw [hresolve] at hok
          cases hok
      · simp only [hresolve] at hcall
        have hunlisted : r ∉ (st₁.deepCopyDummy cfg r).connectionList cfg := hvacated.not_mem
        have hcopied : (st₁.deepCopyDummy cfg r).conn r = st₁.dummy :=
          conn_deepCopyDummy_self r st₁
        cases hprepare : (st₁.deepCopyDummy cfg r).prepareIoConnection cfg env r with
        | error fault => simp [hprepare] at hcall
        | ok result =>
            obtain ⟨status₁, st₂⟩ := result
            simp only [hprepare] at hcall
            rcases prepareIoConnection_spec hunlisted
              (by rw [hcopied, hframe.dummy]; exact hrequest.state)
              (by rw [hcopied, hframe.dummy]; exact hrequest.close) hprepare with
              ⟨hrefused, hwrites, -⟩ | ⟨hsuccess, -⟩
            · rw [if_pos hrefused] at hcall
              cases hcall
              exact prepareIoConnection_unchanged_iff hresolve hframe hvacated hwrites hprepare
            · rw [if_neg (not_not.mpr hsuccess)] at hcall
              simp only [activateIoConnection] at hcall
              split at hcall
              · cases hcall
              · cases hcall
                exact absurd rfl hfailed

/-- Opens of the Assembly class, and only these, establish I/O connections. -/
theorem connectionManagementList_assembly :
    cfg.connectionManagementList.find? (fun entry => entry.1 = assemblyClassCode) =
      some (assemblyClassCode, some .establishIoConnection) := by
  simp [Config.connectionManagementList, messageRouterClassCode, assemblyClassCode]

theorem openConnection_unchanged_iff (hsound : st.Sound cfg) (hrequest : Requested st.dummy)
    {status : OpenStatus} {st' : StackState}
    (hcall : st.openConnection cfg env = .ok (status, st'))
    (hfailed : status.general ≠ GeneralStatus.success) :
    Unchanged cfg st st' ↔ (st.dummy.configurationPath.classId = assemblyClassCode →
      ¬ReplacesListed cfg st ∧ ¬ChangesAssemblies cfg env st) := by
  by_cases hassembly : st.dummy.configurationPath.classId = assemblyClassCode
  · simp only [openConnection, hassembly, connectionManagementList_assembly] at hcall
    rw [establishIoConnection_unchanged_iff hsound hrequest hcall hfailed]
    exact ⟨fun h _ => h, fun h => h hassembly⟩
  · refine iff_of_true ?_ fun h => absurd h hassembly
    simp only [openConnection] at hcall
    split at hcall
    · cases hcall
      exact ⟨rfl, fun _ _ => rfl, rfl⟩
    · cases hcall
      exact ⟨rfl, fun _ _ => rfl, rfl⟩
    · obtain ⟨ns, hlisted⟩ := hsound.wellFormed
      obtain ⟨-, -, ⟨-, rfl⟩ | ⟨rfl, -⟩⟩ :=
        establishClass3Connection_spec env hlisted hsound.regular hrequest hcall
      · exact ⟨rfl, fun _ _ => rfl, rfl⟩
      · exact absurd rfl hfailed
    · rename_i classId hfind
      have hclassId := List.find?_some hfind
      rw [decide_eq_true_eq,
        connectionManagementList_io (List.mem_of_find?_eq_some hfind)] at hclassId
      exact absurd hclassId.symm hassembly

/-- The general status of the reply is that of the open function. -/
theorem answerOpenConnection_generalStatus {status : OpenStatus}
    {response : MessageRouterResponse} {st' : StackState}
    (hcall : st.answerOpenConnection status = .ok (response, st'))
    (hfailed : response.generalStatus ≠ GeneralStatus.success) :
    status.general ≠ GeneralStatus.success := by
  intro hsuccess
  rw [answerOpenConnection, if_neg (not_not.mpr hsuccess)] at hcall
  split at hcall
  · cases hcall
  · split at hcall
    · cases hcall
    · cases hcall
      exact hfailed rfl

/-- A Forward Open that fails changes nothing exactly when its pool search does not
close a listed connection and its configuration data is not stored. -/
theorem failed_open_unchanged_iff (hreachable : Reachable cfg st) {isLarge : Bool}
    {request : MessageRouterRequest} {originatorAddress : SockaddrIn}
    {encapsulationSession : UInt32} {response : MessageRouterResponse} {st' : StackState}
    (hcall : st.forwardOpenRoutine cfg env isLarge request originatorAddress
      encapsulationSession = .ok (response, st'))
    (hfailed : response.generalStatus ≠ GeneralStatus.success) :
    Unchanged cfg st st' ↔
      ∀ st₁, st.forwardOpenRequest cfg env isLarge request originatorAddress
          encapsulationSession = .ok (none, st₁) →
        st₁.dummy.configurationPath.classId = assemblyClassCode →
        ¬ReplacesListed cfg st₁ ∧ ¬ChangesAssemblies cfg env st₁ := by
  have hsound := hreachable.sound
  rw [forwardOpenRoutine_eq] at hcall
  cases hrequest : st.forwardOpenRequest cfg env isLarge request originatorAddress
      encapsulationSession with
  | error fault => simp [hrequest] at hcall
  | ok result =>
      obtain ⟨refusal, st₁⟩ := result
      obtain ⟨hreceives, -⟩ := forwardOpenRequest_receives hrequest
      have hstore : st₁.store = st.store := by rw [hreceives.eq]
      have hdata : st₁.assemblyData = st.assemblyData := by rw [hreceives.eq]
      cases refusal with
      | some status =>
          simp only [hrequest] at hcall
          have hanswers := assembleForwardOpenResponse_answers st₁ st₁.dummy status
          rw [Except.ok.injEq, refuse] at hcall
          rw [hcall] at hanswers
          refine iff_of_true ?_ fun st₂ h => by cases h
          rw [unchanged_congr hstore hdata hanswers.store hanswers.assemblyData]
          exact ⟨rfl, fun _ _ => rfl, rfl⟩
      | none =>
          simp only [hrequest] at hcall
          obtain ⟨hsound₁, hrequested⟩ := hreceives.requested hsound
          split at hcall
          · cases hcall
          · rename_i status st₂ hopen
            have hanswers := answerOpenConnection_answers hcall
            rw [unchanged_congr hstore hdata hanswers.store hanswers.assemblyData,
              openConnection_unchanged_iff hsound₁ hrequested hopen
                (answerOpenConnection_generalStatus hcall hfailed)]
            constructor
            · intro h st₃ heq
              cases heq
              exact h
            · intro h
              exact h st₁ rfl

open SampleApplication in
/-- A second exclusive owner is refused and nothing changes. -/
theorem failed_open_unchanged_sample :
    ∃ st response st', Reachable config st ∧
      st.forwardOpenRoutine config (environment 1002 22) false
        (openRequest (exclusiveOwner 2 2 multicast)) originator 1 = .ok (response, st') ∧
      response.generalStatus ≠ GeneralStatus.success ∧ Unchanged config st st' := by
  obtain ⟨st, hreachable, hrefused⟩ := reachable_of_ends config
    [request (exclusiveOwner 1 1 multicast)]
    (fun st =>
      returns (st.forwardOpenRoutine config (environment 1002 22) false
          (openRequest (exclusiveOwner 2 2 multicast)) originator 1)
        (fun answer => answer.1.generalStatus ≠ GeneralStatus.success) &&
      returns (st.forwardOpenRequest config (environment 1002 22) false
          (openRequest (exclusiveOwner 2 2 multicast)) originator 1)
        fun called =>
          (called.2.ioConnectionLookup config).1 =
            .notFound ExtendedStatus.ownershipConflict &&
          returns (called.2.resolveIoConnection config) fun resolved => !resolved.1.isOk)
    (by decide +kernel)
  rw [Bool.and_eq_true, returns_iff] at hrefused
  obtain ⟨⟨⟨response, st'⟩, hcall, hresponse⟩, hcalled⟩ := hrefused
  rw [decide_eq_true_eq] at hresponse
  refine ⟨st, response, st', hreachable, hcall, hresponse, ?_⟩
  refine (failed_open_unchanged_iff hreachable hcall hresponse).mpr ?_
  intro st₁ hrequest _
  rw [hrequest, returns, Bool.and_eq_true, decide_eq_true_eq] at hcalled
  refine ⟨?_, ?_⟩
  · rintro ⟨r, -, hreplace⟩
    cases hreplace.symm.trans hcalled.1
  · rintro ⟨r, st₂, hresolve, -⟩
    rw [hresolve] at hcalled
    cases hcalled.2

open SampleApplication in
/-- An originator reopens its timed-out connection with a wrong size: the request
is refused, and the connection is gone from the list. -/
theorem failed_open_changes_sample :
    ∃ st response st', Reachable config st ∧
      st.forwardOpenRoutine config (environment 1002 22) false
        (openRequest { inputOnly 2 1 multicast with tToOParameters := multicast + 35 })
        originator 1 = .ok (response, st') ∧
      response.generalStatus ≠ GeneralStatus.success ∧ ¬Unchanged config st st' := by
  obtain ⟨st, hreachable, hlost⟩ := reachable_of_ends config
    [request (inputOnly 1 1 multicast), tick 10000]
    (fun st => returns (st.forwardOpenRoutine config (environment 1002 22) false
        (openRequest { inputOnly 2 1 multicast with tToOParameters := multicast + 35 })
        originator 1)
      fun answer => answer.1.generalStatus ≠ GeneralStatus.success &&
        answer.2.connectionList config ≠ st.connectionList config)
    (by decide +kernel)
  obtain ⟨⟨response, st'⟩, hcall, hanswer⟩ := returns_iff.mp hlost
  rw [Bool.and_eq_true, decide_eq_true_eq, decide_eq_true_eq] at hanswer
  exact ⟨st, response, st', hreachable, hcall, hanswer.1,
    fun hunchanged => hanswer.2 hunchanged.list⟩

end StackState

end Opener

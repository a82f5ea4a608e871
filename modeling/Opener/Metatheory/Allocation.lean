import Mathlib.Data.List.Perm.Subperm
import Opener.Core.SampleApplication
import Opener.Metatheory.Transitions

/-!
The node array of the connection list against the connection pools. Every listed
connection is an object of a pool, so the array is large enough exactly when it
has a node for every object.
-/

namespace Opener

/-- Every connection object of the pools. -/
def Config.pools (cfg : Config) : List ConnRef :=
  (List.range cfg.numExplicitConns).map .explicit ++
    (List.range cfg.numExclusiveOwnerConns).map .exclusiveOwner ++
    (List.range cfg.numInputOnlyConns).flatMap (fun i =>
      (List.range cfg.numInputOnlyConnsPerConPath).map (.inputOnly i)) ++
    (List.range cfg.numListenOnlyConns).flatMap fun i =>
      (List.range cfg.numListenOnlyConnsPerConPath).map (.listenOnly i)

theorem mem_pools {cfg : Config} {r : ConnRef} (h : r.Valid cfg) : r ∈ cfg.pools := by
  simp only [Config.pools, List.mem_append, List.mem_map, List.mem_flatMap, List.mem_range]
  cases r with
  | explicit i => exact .inl (.inl (.inl ⟨i, h, rfl⟩))
  | exclusiveOwner i => exact .inl (.inl (.inr ⟨i, h, rfl⟩))
  | inputOnly i j => exact .inl (.inr ⟨i, h.1, j, h.2, rfl⟩)
  | listenOnly i j => exact .inr ⟨i, h.1, j, h.2, rfl⟩

theorem length_pools (cfg : Config) :
    cfg.pools.length = cfg.numExplicitConns + cfg.numExclusiveOwnerConns +
      cfg.numInputOnlyConns * cfg.numInputOnlyConnsPerConPath +
      cfg.numListenOnlyConns * cfg.numListenOnlyConnsPerConPath := by
  simp only [Config.pools, List.length_append, List.length_map, List.length_range,
    List.length_flatMap, List.map_const', List.sum_replicate_nat]

/-- There is a list node for every object of the pools. -/
def Config.NodesSuffice (cfg : Config) : Prop :=
  cfg.numInputOnlyConns * cfg.numInputOnlyConnsPerConPath +
      cfg.numListenOnlyConns * cfg.numListenOnlyConnsPerConPath ≤
    cfg.numInputOnlyConns + cfg.numListenOnlyConns

theorem Config.NodesSuffice.length_pools_le {cfg : Config} (h : cfg.NodesSuffice) :
    cfg.pools.length ≤ cfg.nodesAmount := by
  have hlength := length_pools cfg
  unfold NodesSuffice at h
  unfold nodesAmount
  omega

/-- A list of distinct objects that leaves one out is shorter than the array. -/
theorem length_lt_nodesAmount {cfg : Config} (h : cfg.NodesSuffice) {members : List ConnRef}
    (hnodup : members.Nodup) (hvalid : ∀ s ∈ members, s.Valid cfg) {r : ConnRef}
    (hr : r ∉ members) (hrvalid : r.Valid cfg) : members.length < cfg.nodesAmount := by
  have hsub : r :: members ⊆ cfg.pools := by
    intro s hs
    rcases List.mem_cons.mp hs with rfl | hs
    · exact mem_pools hrvalid
    · exact mem_pools (hvalid s hs)
  have hle := ((List.nodup_cons.mpr ⟨hr, hnodup⟩).subperm hsub).length_le
  have hpools := h.length_pools_le
  simp only [List.length_cons] at hle
  omega

namespace StackState

variable {cfg : Config} {env : Environment} {st : StackState}

/-- The call of `AddNewActiveConnection` in a step, if there is one: the state and
the object of the call. -/
def activation (cfg : Config) (label : Environment × Action) (st : StackState) :
    Option (StackState × ConnRef) :=
  match openEntry cfg label st with
  | none => none
  | some st =>
      match cfg.connectionManagementList.find? fun entry =>
          entry.1 = st.dummy.configurationPath.classId with
      | some (_, some .establishClass3Connection) =>
          match st.getFreeExplicitConnection cfg with
          | none => none
          | some r => some ((st.deepCopyDummy cfg r).prepareClass3Connection cfg r, r)
      | some (_, some .establishIoConnection) =>
          match st.resolveIoConnection cfg with
          | .ok (.ok r, st) =>
              match (st.deepCopyDummy cfg r).prepareIoConnection cfg label.1 r with
              | .ok (status, st) =>
                  if status.general = GeneralStatus.success then some (st, r) else none
              | .error _ => none
          | _ => none
      | _ => none

/-- A sound state with a valid object that is not listed. -/
structure Room (cfg : Config) (st : StackState) (r : ConnRef) : Prop where
  wellFormed : st.WellFormed cfg
  valid : ∀ s ∈ st.connectionList cfg, s.Valid cfg
  unlisted : r ∉ st.connectionList cfg
  slot : r.Valid cfg

theorem Room.of_list_eq {r : ConnRef} {st' : StackState} (h : Room cfg st r)
    (hlist : st'.store.connectionList = st.store.connectionList) : Room cfg st' r := by
  have hmembers : st'.connectionList cfg = st.connectionList cfg := by
    unfold connectionList
    rw [hlist]
  refine ⟨?_, hmembers ▸ h.valid, hmembers ▸ h.unlisted, h.slot⟩
  have hwell := h.wellFormed
  unfold WellFormed Listed at hwell ⊢
  rw [hlist]
  exact hwell

/-- With a free node an object for which there is room is listed at the head. -/
theorem Room.lists {r : ConnRef} (h : Room cfg st r)
    (hfree : (st.connectionList cfg).length < cfg.nodesAmount) :
    ∃ st', st.addNewActiveConnection cfg r = .ok st' ∧
      st'.connectionList cfg = r :: st.connectionList cfg := by
  obtain ⟨ns, hlisted⟩ := h.wellFormed
  have halloc := (allocator_isSome_iff hlisted).mpr hfree
  cases hadd : st.addNewActiveConnection cfg r with
  | error fault =>
      rw [(addNewActiveConnection_error hadd).2] at halloc
      cases halloc
  | ok st' =>
      obtain ⟨list, rfl, -, hmembers⟩ := addNewActiveConnection_ok hlisted h.unlisted hadd
      exact ⟨_, rfl, hmembers⟩

theorem Room.activates {r : ConnRef} (h : Room cfg st r) (hnodes : cfg.NodesSuffice) :
    (st.store.connectionList.listArrayAllocator cfg.nodesAmount).isSome ∧
      ∃ st', st.addNewActiveConnection cfg r = .ok st' ∧
        st'.connectionList cfg = r :: st.connectionList cfg := by
  obtain ⟨ns, hlisted⟩ := h.wellFormed
  have hlt := length_lt_nodesAmount hnodes (WellFormed.nodup ⟨ns, hlisted⟩) h.valid h.unlisted
    h.slot
  exact ⟨(allocator_isSome_iff hlisted).mpr hlt, h.lists hlt⟩

theorem prepareIoConnection_list {r : ConnRef} {status : OpenStatus} {st' : StackState}
    (hr : r ∉ st.connectionList cfg) (hstate : (st.conn r).state = .nonExistent)
    (hclear : (st.conn r).connectionCloseFunction = none)
    (hcall : st.prepareIoConnection cfg env r = .ok (status, st')) :
    st'.store.connectionList = st.store.connectionList := by
  rcases prepareIoConnection_spec hr hstate hclear hcall with
    ⟨-, hwrites, -⟩ | ⟨-, st₁, hready, hkeeps, -⟩
  · exact hwrites.list
  · exact hkeeps.list.trans hready.writes.list

theorem prepareClass3Connection_list (r : ConnRef) (st : StackState) :
    (st.prepareClass3Connection cfg r).store.connectionList = st.store.connectionList :=
  (generalConfiguration_spec cfg r st).1.list

theorem room_of_prepareIoConnection {st₁ : StackState} (hsound : st₁.Sound cfg)
    (hrequest : Requested st₁.dummy) {r : ConnRef} {st₂ st₃ : StackState}
    {status : OpenStatus} (hresolve : st₁.resolveIoConnection cfg = .ok (.ok r, st₂))
    (hprepare : (st₂.deepCopyDummy cfg r).prepareIoConnection cfg env r = .ok (status, st₃)) :
    Room cfg st₃ r := by
  obtain ⟨ns, hlisted⟩ := hsound.wellFormed
  obtain ⟨hframe, hnone | hsome⟩ := resolveIoConnection_spec hlisted hsound.regular hresolve
  · obtain ⟨extended, herror, -⟩ := hnone
    cases herror
  · obtain ⟨r', ns₂, heq, hchosen, htype, hlisted₂, hfinds, hvacated⟩ := hsome
    cases heq
    have hroom : Room cfg st₂ r := by
      refine ⟨⟨ns₂, hlisted₂⟩, ?_, hvacated.not_mem, hchosen.valid⟩
      intro s hs
      exact ((hvacated.regular hsound.regular).kind s hs).valid
    have hcopied : Room cfg (st₂.deepCopyDummy cfg r) r := hroom.of_list_eq rfl
    have hcopy : (st₂.deepCopyDummy cfg r).conn r = st₂.dummy :=
      conn_deepCopyDummy_self r st₂
    have hdummy : st₂.dummy =
        { st₁.dummy with instanceType := (st₁.ioConnectionLookup cfg).2 } := hframe.dummy
    exact hcopied.of_list_eq (prepareIoConnection_list hcopied.unlisted
      (by rw [hcopy, hdummy]; exact hrequest.state)
      (by rw [hcopy, hdummy]; exact hrequest.close) hprepare)

theorem room_of_getFreeExplicitConnection {st₁ : StackState} (hsound : st₁.Sound cfg)
    {r : ConnRef} (hfree : st₁.getFreeExplicitConnection cfg = some r) :
    Room cfg ((st₁.deepCopyDummy cfg r).prepareClass3Connection cfg r) r := by
  obtain ⟨hvalid, hio, hstate⟩ := getFreeExplicitConnection_found hfree
  have hroom : Room cfg st₁ r := by
    refine ⟨hsound.wellFormed, ?_, ?_, hvalid⟩
    · intro s hs
      exact (hsound.regular.kind s hs).valid
    · intro hmem
      rcases (hsound.regular.kind r hmem).state with hs | ⟨hs, -⟩
      · rw [view_object, hstate] at hs
        cases hs
      · rw [view_object, hstate] at hs
        cases hs
  have hcopied : Room cfg (st₁.deepCopyDummy cfg r) r := hroom.of_list_eq rfl
  exact hcopied.of_list_eq (prepareClass3Connection_list r _)

/-- There is room at every call of `AddNewActiveConnection`. -/
theorem room_of_activation {label : Environment × Action} (hsound : st.Sound cfg)
    {s : StackState} {r : ConnRef} (h : activation cfg label st = some (s, r)) :
    Room cfg s r := by
  simp only [activation] at h
  split at h
  · cases h
  · rename_i st₁ hentry
    obtain ⟨hsound₁, hrequest, hclass, -⟩ := openEntry_sound hsound hentry
    split at h
    · split at h
      · cases h
      · rename_i hfree
        obtain ⟨rfl, rfl⟩ := Prod.mk.inj (Option.some.inj h)
        exact room_of_getFreeExplicitConnection hsound₁ hfree
    · split at h
      · rename_i hresolve
        split at h
        · rename_i hprepare
          split at h
          · obtain ⟨rfl, rfl⟩ := Prod.mk.inj (Option.some.inj h)
            exact room_of_prepareIoConnection hsound₁ hrequest hresolve hprepare
          · cases h
        · cases h
      · cases h
    · cases h

/-- When there is a node for every object, the allocator never runs dry. -/
theorem activation_succeeds (hnodes : cfg.NodesSuffice) (hreachable : Reachable cfg st)
    {label : Environment × Action} {s : StackState} {r : ConnRef}
    (h : activation cfg label st = some (s, r)) :
    (s.store.connectionList.listArrayAllocator cfg.nodesAmount).isSome ∧
      ∃ s', s.addNewActiveConnection cfg r = .ok s' ∧ r ∈ s'.connectionList cfg := by
  obtain ⟨halloc, s', hadd, hmembers⟩ :=
    (room_of_activation hreachable.sound h).activates hnodes
  exact ⟨halloc, s', hadd, hmembers ▸ List.mem_cons_self⟩

open SampleApplication in
/-- With one object for each input-only and listen-only path there is a node for
every object. -/
theorem activation_succeeds_sample :
    ∃ cfg st s r, cfg = { config with
        numInputOnlyConnsPerConPath := 1
        numListenOnlyConnsPerConPath := 1 } ∧ cfg.NodesSuffice ∧ Reachable cfg st ∧
      activation cfg (request (inputOnly 3 3 multicast)) st = some (s, r) ∧
      (s.store.connectionList.listArrayAllocator cfg.nodesAmount).isSome ∧
      ∃ s', s.addNewActiveConnection cfg r = .ok s' ∧ r ∈ s'.connectionList cfg := by
  obtain ⟨st, hreachable, hcalled⟩ := reachable_of_ends
    { config with numInputOnlyConnsPerConPath := 1, numListenOnlyConnsPerConPath := 1 }
    [request (class3 1 1), request (exclusiveOwner 2 2 multicast)]
    (fun st => (activation
      { config with numInputOnlyConnsPerConPath := 1, numListenOnlyConnsPerConPath := 1 }
      (request (inputOnly 3 3 multicast)) st).isSome)
    (by decide +kernel)
  obtain ⟨⟨s, r⟩, hcall⟩ := Option.isSome_iff_exists.mp hcalled
  have hnodes : Config.NodesSuffice
      { config with numInputOnlyConnsPerConPath := 1, numListenOnlyConnsPerConPath := 1 } := by
    change 1 * 1 + 1 * 1 ≤ 1 + 1
    decide
  exact ⟨_, st, s, r, rfl, hnodes, hreachable, hcall,
    activation_succeeds hnodes hreachable hcall⟩

open SampleApplication in
/-- The sample application with six class 3 connections, an exclusive owner and
two input-only connections has no node left for a third one. -/
theorem activation_fails_sample :
    ∃ st s r, Reachable config st ∧
      activation config (request (inputOnly 10 10 multicast)) st = some (s, r) ∧
      s.store.connectionList.listArrayAllocator config.nodesAmount = none := by
  obtain ⟨st, hreachable, hdry⟩ := reachable_of_ends config
    [request (class3 1 1), request (class3 2 2), request (class3 3 3),
      request (class3 4 4), request (class3 5 5), request (class3 6 6),
      request (exclusiveOwner 7 7 multicast), request (inputOnly 8 8 multicast),
      request (inputOnly 9 9 multicast)]
    (fun st => match activation config (request (inputOnly 10 10 multicast)) st with
      | none => false
      | some (s, _) =>
          (s.store.connectionList.listArrayAllocator config.nodesAmount).isNone)
    (by decide +kernel)
  cases hcall : activation config (request (inputOnly 10 10 multicast)) st with
  | none => simp [hcall] at hdry
  | some call =>
      obtain ⟨s, r⟩ := call
      simp only [hcall, Option.isNone_iff_eq_none] at hdry
      exact ⟨st, s, r, hreachable, hcall, hdry⟩

end StackState

end Opener

import Opener.Metatheory.Transitions

/-!
Exclusive ownership. The ownership check goes by the input assembly: of the
listed exclusive owners of one input only the first can be established. Outputs
are owned exclusively when the configured points tie them to one input.
-/

namespace Opener

/-- An exclusive owner of the input. -/
def ownsInput (inputPoint : UInt16) (c : CipConnectionObject) : Bool :=
  c.instanceType = .ioExclusiveOwner && c.producedPath.instanceId = inputPoint

/-- An established exclusive owner is the first owner of its input. -/
def FirstOwner (V : View) : Prop :=
  ∀ r ∈ V.members, (V.object r).instanceType = .ioExclusiveOwner →
    (V.object r).state = .established →
    V.members.find? (fun s => ownsInput (V.object r).producedPath.instanceId (V.object s)) =
      some r

theorem find?_filter_eq_some {α : Type} {l : List α} {p q : α → Bool} {a : α}
    (h : l.find? p = some a) (hq : q a = true) : (l.filter q).find? p = some a := by
  obtain ⟨hp, pre, post, rfl, hpre⟩ := List.find?_eq_some_iff_append.mp h
  refine List.find?_eq_some_iff_append.mpr ⟨hp, pre.filter q, post.filter q, ?_, ?_⟩
  · rw [List.filter_append, List.filter_cons_of_pos hq]
  · intro b hb
    exact hpre b (List.mem_filter.mp hb).1

namespace FirstOwner

variable {V V' : View}

/-- Owners that stay in order, with their type and input, and no newly
established one. -/
theorem of_same (h : FirstOwner V) (hmembers : V'.members = V.members)
    (htype : ∀ r ∈ V.members, (V'.object r).instanceType = (V.object r).instanceType)
    (hinput : ∀ r ∈ V.members,
      (V'.object r).producedPath.instanceId = (V.object r).producedPath.instanceId)
    (hstate : ∀ r ∈ V.members, (V'.object r).state = .established →
      (V.object r).state = .established) : FirstOwner V' := by
  intro r hr howner hestablished
  rw [hmembers] at hr ⊢
  have hfirst := h r hr (htype r hr ▸ howner) (hstate r hr hestablished)
  rw [← hfirst, hinput r hr]
  refine List.find?_congr fun s hs => ?_
  simp only [ownsInput, htype s hs, hinput s hs]

theorem without (h : FirstOwner V) (dropped : ConnRef → Bool) :
    FirstOwner (V.without dropped) := by
  intro r hr howner hestablished
  obtain ⟨hmem, hkept⟩ := V.mem_without.mp hr
  have hobject : ∀ s, dropped s = false → (V.without dropped).object s = V.object s := by
    intro s hs
    rw [View.without_object, hs]
    rfl
  rw [hobject r hkept] at howner hestablished ⊢
  have hfirst := find?_filter_eq_some (q := fun s => !dropped s)
    (h r hmem howner hestablished) (by simp [hkept])
  rw [← hfirst]
  refine List.find?_congr fun s hs => ?_
  have hs' : dropped s = false := by simpa using (List.mem_filter.mp hs).2
  rw [hobject s hs']

theorem modify (h : FirstOwner V) {r : ConnRef}
    {f : CipConnectionObject → CipConnectionObject}
    (htype : (f (V.object r)).instanceType = (V.object r).instanceType)
    (hinput : (f (V.object r)).producedPath.instanceId =
      (V.object r).producedPath.instanceId)
    (hstate : (f (V.object r)).state = .established → (V.object r).state = .established) :
    FirstOwner (V.modify r f) := by
  have hcases : ∀ (P : CipConnectionObject → CipConnectionObject → Prop),
      P (f (V.object r)) (V.object r) → (∀ c, P c c) →
      ∀ s, P ((V.modify r f).object s) (V.object s) := by
    intro P hself hother s
    by_cases hs : s = r
    · subst hs
      rw [View.modify_object_self]
      exact hself
    · rw [V.modify_object_of_ne hs]
      exact hother _
  refine h.of_same rfl ?_ ?_ ?_
  · exact fun s _ => hcases (fun c d => c.instanceType = d.instanceType) htype
      (fun _ => rfl) s
  · exact fun s _ => hcases (fun c d => c.producedPath.instanceId = d.producedPath.instanceId)
      hinput (fun _ => rfl) s
  · exact fun s _ => hcases (fun c d => c.state = .established → d.state = .established)
      hstate (fun _ => id) s

theorem vacate (h : FirstOwner V) (r : ConnRef) : FirstOwner (V.vacate r) := by
  unfold View.vacate
  split
  · split
    · rename_i heir hheir
      have hinherit : FirstOwner (V.modify heir (View.inherit (V.object r))) :=
        h.modify rfl rfl id
      exact hinherit.modify rfl rfl id
    · exact h.without _
  · exact h

theorem depart (h : FirstOwner V) (hdepart : Depart V V') : FirstOwner V' := by
  cases hdepart with
  | discard dropped class3 => exact h.without dropped
  | close member io => exact (h.vacate _).without _
  | expire member io established =>
      exact (h.vacate _).modify rfl rfl fun hstate => by cases hstate

theorem move (h : FirstOwner V) (hmove : Move V V') : FirstOwner V' := by
  rcases hmove.depart_or_same with hdepart | ⟨hmembers, hfield⟩
  · exact h.depart hdepart
  · refine h.of_same hmembers ?_ ?_ ?_
    · exact fun r _ => hfield (·.instanceType) (fun _ => rfl) (fun _ => rfl) r
    · exact fun r _ => hfield (·.producedPath.instanceId) (fun _ => rfl) (fun _ => rfl) r
    · intro r _ hstate
      rw [← hstate]
      exact (hfield (·.state) (fun _ => rfl) (fun _ => rfl) r).symm

theorem scratch (h : FirstOwner V) {r : ConnRef} (hr : r ∉ V.members)
    (c : CipConnectionObject) (connectionId : UInt16) :
    FirstOwner (V.scratch r c connectionId) := by
  have hobject : ∀ s ∈ V.members, (V.scratch r c connectionId).object s = V.object s :=
    fun s hs => V.scratch_object_of_ne (ne_of_mem_of_not_mem hs hr) c _
  refine h.of_same rfl ?_ ?_ ?_
  · exact fun s hs => congrArg _ (hobject s hs)
  · exact fun s hs => congrArg (fun c => c.producedPath.instanceId) (hobject s hs)
  · intro s hs hstate
    rw [hobject s hs] at hstate
    exact hstate

end FirstOwner

/-- No established exclusive owner of the input is listed. -/
def Unowned (inputPoint : UInt16) (V : View) : Prop :=
  ∀ r ∈ V.members, ownsInput inputPoint (V.object r) = true →
    (V.object r).state ≠ .established

namespace Unowned

variable {V : View} {inputPoint : UInt16}

theorem without (h : Unowned inputPoint V) (dropped : ConnRef → Bool) :
    Unowned inputPoint (V.without dropped) := by
  intro r hr howner
  obtain ⟨hmem, hkept⟩ := V.mem_without.mp hr
  rw [View.without_object, hkept] at howner ⊢
  exact h r hmem howner

theorem modify (h : Unowned inputPoint V) {r : ConnRef}
    {f : CipConnectionObject → CipConnectionObject}
    (howner : ownsInput inputPoint (f (V.object r)) = ownsInput inputPoint (V.object r))
    (hstate : (f (V.object r)).state = (V.object r).state) :
    Unowned inputPoint (V.modify r f) := by
  intro s hs hsowner
  by_cases hsr : s = r
  · subst hsr
    rw [View.modify_object_self] at hsowner ⊢
    rw [hstate]
    exact h s hs (howner ▸ hsowner)
  · rw [V.modify_object_of_ne hsr] at hsowner ⊢
    exact h s hs hsowner

theorem vacate (h : Unowned inputPoint V) (r : ConnRef) :
    Unowned inputPoint (V.vacate r) := by
  unfold View.vacate
  split
  · split
    · rename_i heir hheir
      have hinherit : Unowned inputPoint (V.modify heir (View.inherit (V.object r))) :=
        h.modify rfl rfl
      exact hinherit.modify rfl rfl
    · exact h.without _
  · exact h

theorem vacated (h : Unowned inputPoint V) {r : ConnRef} {lookup : Lookup} {V' : View}
    (hvacated : Vacated V r lookup V') : Unowned inputPoint V' := by
  cases hvacated with
  | free unlisted => exact h
  | closed member => exact (h.vacate r).without _
  | cleared unlisted => exact h.without _

end Unowned

namespace FirstOwner

variable {V : View}

/-- A new connection at the head of the list. -/
theorem insert (h : FirstOwner V) {r : ConnRef} (hr : r ∉ V.members)
    {c : CipConnectionObject} (connectionId : UInt16)
    (hunowned : c.instanceType = .ioExclusiveOwner →
      Unowned c.producedPath.instanceId V) :
    FirstOwner (V.insert r c connectionId) := by
  have hself : (V.insert r c connectionId).object r = c := V.insert_object_self r c _
  have hobject : ∀ s ∈ V.members, (V.insert r c connectionId).object s = V.object s :=
    fun s hs => V.insert_object_of_ne (ne_of_mem_of_not_mem hs hr) c _
  intro s hs howner hestablished
  change (r :: V.members).find? _ = some s
  rcases List.mem_cons.mp hs with rfl | hs
  · rw [hself] at howner ⊢
    refine List.find?_cons_of_pos ?_
    simp [ownsInput, howner]
  · rw [hobject s hs] at howner hestablished ⊢
    have hne : ownsInput (V.object s).producedPath.instanceId c = false := by
      by_contra hcontra
      rw [Bool.not_eq_false] at hcontra
      simp only [ownsInput, Bool.and_eq_true, decide_eq_true_eq] at hcontra
      refine hunowned hcontra.1 s hs ?_ hestablished
      simp [ownsInput, howner, hcontra.2]
    rw [List.find?_cons_of_neg (by simp [hne])]
    rw [← h s hs howner hestablished]
    refine List.find?_congr fun t ht => ?_
    rw [hobject t ht]

theorem vacated (h : FirstOwner V) {r : ConnRef} {lookup : Lookup} {V' : View}
    (hvacated : Vacated V r lookup V') : FirstOwner V' := by
  cases hvacated with
  | free unlisted => exact h
  | closed member => exact (h.vacate r).without _
  | cleared unlisted => exact h.without _

end FirstOwner

namespace StackState

variable {cfg : Config} {env : Environment} {st : StackState}

/-- The search of the code for an owner of the input. -/
theorem getConnectedOutputAssembly_eq (hregular : Regular cfg (st.view cfg))
    (inputPoint : UInt16) :
    st.getConnectedOutputAssembly cfg inputPoint =
      (st.connectionList cfg).find? fun r => ownsInput inputPoint (st.conn r) := by
  refine List.find?_congr fun r hr => ?_
  have hkind : Kind cfg r (st.conn r) := hregular.kind r hr
  rcases hkind.state with hstate | ⟨hstate, -⟩
  · simp [ownsInput, hstate]
  · simp [ownsInput, hstate]

/-- An exclusive owner only gets an object when no owner of its input is
established. -/
theorem unowned_of_finds (hregular : Regular cfg (st.view cfg))
    (hfirst : FirstOwner (st.view cfg)) {r : ConnRef} {lookup : Lookup}
    (howner : r.instanceType = .ioExclusiveOwner) (hfinds : Finds cfg st r lookup) :
    Unowned st.dummy.producedPath.instanceId (st.view cfg) := by
  intro s hs hsowner hestablished
  cases hfinds with
  | idle shared state => exact shared howner
  | timedOut shared state => exact shared howner
  | unowned owner none =>
      rw [getConnectedOutputAssembly_eq hregular] at none
      exact List.find?_eq_none.mp none s hs hsowner
  | @abandoned owner exclusive found state =>
      rw [getConnectedOutputAssembly_eq hregular] at found
      have hsowner' := hsowner
      simp only [ownsInput, Bool.and_eq_true, decide_eq_true_eq] at hsowner'
      have hself := hfirst s hs hsowner'.1 hestablished
      rw [hsowner'.2] at hself
      have heq : owner = s := Option.some.inj (found.symm.trans hself)
      rw [heq, ← view_object cfg, hestablished] at state
      cases state

theorem firstOwner_established {status : OpenStatus} {V : View}
    (h : Established cfg env st status V) (hregular : Regular cfg (st.view cfg))
    (hfirst : FirstOwner (st.view cfg)) : FirstOwner V := by
  cases h with
  | nothing failed lookup => exact hfirst
  | refused failed chosen finds instanceType vacated idle =>
      exact (hfirst.vacated vacated).scratch vacated.not_mem _ _
  | @opened r V₁ _ chosen finds instanceType vacated opens =>
      have hr := vacated.not_mem
      have hfirst₁ := hfirst.vacated vacated
      have hunowned : ∀ {c : CipConnectionObject}, Admitted cfg st.dummy r c →
          c.instanceType = .ioExclusiveOwner → Unowned c.producedPath.instanceId V₁ := by
        intro c hadmitted htype
        have howner : r.instanceType = .ioExclusiveOwner :=
          hadmitted.kind.instanceType.symm.trans htype
        rw [hadmitted.input]
        exact (unowned_of_finds hregular hfirst howner finds).vacated vacated
      cases opens with
      | plain admitted single identifier => exact hfirst₁.insert hr _ (hunowned admitted)
      | first admitted multicast agrees lonely identifier socket =>
          exact hfirst₁.insert hr _ (hunowned admitted)
      | @join c producer admitted multicast agrees existing identifier socket =>
          have hleft : ∀ d, (leftBehind c d).instanceType = d.instanceType ∧
              (leftBehind c d).producedPath = d.producedPath ∧
              (leftBehind c d).state = d.state := by
            intro d
            unfold leftBehind
            split <;> exact ⟨rfl, rfl, rfl⟩
          have hmodified : FirstOwner (V₁.modify producer (leftBehind c)) := by
            refine hfirst₁.modify (hleft _).1 ?_ ?_
            · rw [(hleft _).2.1]
            · rw [(hleft _).2.2]
              exact id
          refine hmodified.insert hr _ fun htype => ?_
          refine (hunowned admitted htype).modify ?_ (hleft _).2.2
          simp only [ownsInput, (hleft _).1, (hleft _).2.1]

theorem firstOwner_answered {status : OpenStatus} {V : View}
    (h : Answered cfg env st status V) (hregular : Regular cfg (st.view cfg))
    (hfirst : FirstOwner (st.view cfg)) : FirstOwner V := by
  cases h with
  | unchanged => exact hfirst
  | io assembly established => exact firstOwner_established established hregular hfirst
  | class3 unlisted explicit kind established =>
      refine hfirst.insert unlisted _ fun htype => ?_
      rw [kind.instanceType, ConnRef.instanceType_eq_explicit.mpr explicit] at htype
      cases htype

theorem Reachable.firstOwner (h : Reachable cfg st) : FirstOwner (st.view cfg) := by
  obtain ⟨assemblyData, hreaches⟩ := h
  refine (view_invariant FirstOwner ?_ ?_ (sound_initialState cfg assemblyData) ?_ hreaches).2
  · exact fun V V' _ hmove hV => hV.move hmove
  · exact fun label st st₁ status V _ _ _ hsound _ hanswered hV =>
      firstOwner_answered hanswered hsound.regular hV
  · intro r hr
    have hempty : (initialState cfg assemblyData).connectionList cfg = [] :=
      connectionList_initialState cfg assemblyData
    rw [view_members, hempty] at hr
    cases hr

end StackState

/-- Exclusive-owner points with one output have one input. -/
def Config.OutputsDetermineInputs (cfg : Config) : Prop :=
  ∀ i j, i < cfg.numExclusiveOwnerConns → j < cfg.numExclusiveOwnerConns →
    (cfg.exclusiveOwnerPoint i).outputAssembly = (cfg.exclusiveOwnerPoint j).outputAssembly →
    (cfg.exclusiveOwnerPoint i).inputAssembly = (cfg.exclusiveOwnerPoint j).inputAssembly

namespace StackState

variable {cfg : Config} {st : StackState}

/-- Exclusive owners that consume into one output have one input. -/
theorem same_input_of_same_output (hpoints : cfg.OutputsDetermineInputs)
    (hregular : Regular cfg (st.view cfg)) {r s : ConnRef}
    (hr : r ∈ st.connectionList cfg) (hs : s ∈ st.connectionList cfg)
    (hrowner : (st.conn r).instanceType = .ioExclusiveOwner)
    (hsowner : (st.conn s).instanceType = .ioExclusiveOwner) {output : UInt16}
    (hrout : (st.conn r).consumingInstance = some output)
    (hsout : (st.conn s).consumingInstance = some output) :
    (st.conn r).producedPath.instanceId = (st.conn s).producedPath.instanceId := by
  have hrkind : Kind cfg r (st.conn r) := hregular.kind r hr
  have hskind : Kind cfg s (st.conn s) := hregular.kind s hs
  have hrtype := hrkind.instanceType
  have hstype := hskind.instanceType
  rw [hrowner] at hrtype
  rw [hsowner] at hstype
  cases r with
  | explicit i | inputOnly i j | listenOnly i j => cases hrtype
  | exclusiveOwner i =>
      cases s with
      | explicit i | inputOnly i j | listenOnly i j => cases hstype
      | exclusiveOwner j =>
          have hiout := hrkind.output rfl
          have hjout := hskind.output rfl
          rw [← hrkind.consuming output hrout] at hiout
          rw [← hskind.consuming output hsout] at hjout
          have hinput := hpoints i j hrkind.valid hskind.valid (hiout.symm.trans hjout)
          refine UInt16.toUInt32_inj.mp ?_
          rw [hrkind.input rfl, hskind.input rfl]
          exact hinput

/-- With such points at most one established exclusive owner consumes into an
output assembly. -/
theorem exclusive_ownership (hpoints : cfg.OutputsDetermineInputs)
    (hreachable : Reachable cfg st) {output : UInt16} {r s : ConnRef}
    (hr : (st.conn r).state = .established ∧
      (st.conn r).instanceType = .ioExclusiveOwner ∧
      (st.conn r).consumingInstance = some output)
    (hs : (st.conn s).state = .established ∧
      (st.conn s).instanceType = .ioExclusiveOwner ∧
      (st.conn s).consumingInstance = some output) : r = s := by
  have hregular := hreachable.sound.regular
  have hfirst := hreachable.firstOwner
  obtain ⟨hrstate, hrowner, hrout⟩ := hr
  obtain ⟨hsstate, hsowner, hsout⟩ := hs
  have hrmem := mem_of_established hregular hrstate
  have hsmem := mem_of_established hregular hsstate
  have hinput := same_input_of_same_output hpoints hregular hrmem hsmem hrowner hsowner
    hrout hsout
  have hrfirst := hfirst r hrmem hrowner hrstate
  have hsfirst := hfirst s hsmem hsowner hsstate
  rw [view_object, hinput] at hrfirst
  exact Option.some.inj (hrfirst.symm.trans hsfirst)

open SampleApplication in
/-- The sample application has one exclusive-owner point; here its output is in
use. -/
theorem exclusive_ownership_sample :
    ∃ st, config.OutputsDetermineInputs ∧ Reachable config st ∧
      ((st.conn (.exclusiveOwner 0)).state = .established ∧
        (st.conn (.exclusiveOwner 0)).instanceType = .ioExclusiveOwner ∧
        (st.conn (.exclusiveOwner 0)).consumingInstance = some 150) ∧
      ∀ s, ((st.conn s).state = .established ∧
        (st.conn s).instanceType = .ioExclusiveOwner ∧
        (st.conn s).consumingInstance = some 150) → s = .exclusiveOwner 0 := by
  obtain ⟨st, hreachable, howner⟩ := reachable_of_ends config
    [request (exclusiveOwner 1 1 multicast), request (inputOnly 2 2 multicast)]
    (fun st => (st.conn (.exclusiveOwner 0)).state = .established &&
      (st.conn (.exclusiveOwner 0)).instanceType = .ioExclusiveOwner &&
      (st.conn (.exclusiveOwner 0)).consumingInstance = some 150)
    (by decide +kernel)
  simp only [Bool.and_eq_true, decide_eq_true_eq] at howner
  have hpoints : config.OutputsDetermineInputs := by
    intro i j hi hj _
    change i < 1 at hi
    change j < 1 at hj
    have hij : i = j := by omega
    rw [hij]
  exact ⟨st, hpoints, hreachable, ⟨howner.1.1, howner.1.2, howner.2⟩, fun s hs =>
    exclusive_ownership hpoints hreachable hs ⟨howner.1.1, howner.1.2, howner.2⟩⟩

open SampleApplication in
/-- With a second point for output 150 and the input 154, both owners are
established. -/
theorem shared_output_sample :
    ∃ cfg st, cfg = Config.configureExclusiveOwnerConnectionPoint
        { config with numExclusiveOwnerConns := 2 } 1 ⟨150, 154, 151⟩ ∧
      Reachable cfg st ∧ ∀ r ∈ [ConnRef.exclusiveOwner 0, .exclusiveOwner 1],
        (st.conn r).state = .established ∧ (st.conn r).instanceType = .ioExclusiveOwner ∧
        (st.conn r).consumingInstance = some 150 := by
  obtain ⟨st, hreachable, howners⟩ := reachable_of_ends
    (Config.configureExclusiveOwnerConnectionPoint
      { config with numExclusiveOwnerConns := 2 } 1 ⟨150, 154, 151⟩)
    [request (exclusiveOwner 1 1 multicast),
      request { exclusiveOwner 2 2 multicast with connectionPath := ioPath 150 154 }]
    (fun st => decide (∀ r ∈ [ConnRef.exclusiveOwner 0, .exclusiveOwner 1],
      (st.conn r).state = .established ∧ (st.conn r).instanceType = .ioExclusiveOwner ∧
      (st.conn r).consumingInstance = some 150))
    (by decide +kernel)
  exact ⟨_, st, rfl, hreachable, of_decide_eq_true howners⟩

end StackState

end Opener

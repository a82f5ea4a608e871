import Opener.Metatheory.Transitions

/-!
The producing socket of a multicast input. It goes from connection to connection,
and at any time at most one listed connection of the input holds it.
-/

namespace Opener

open View (producesMulticast)

/-- A multicast I/O connection of the input, with or without the socket. -/
def sharesInput (inputPoint : UInt16) (c : CipConnectionObject) : Bool :=
  c.isTypeIOConnection && c.producedPath.instanceId = inputPoint &&
    c.tToOConnectionType = .multicast

theorem producesMulticast_iff {inputPoint : UInt16} {c : CipConnectionObject} :
    producesMulticast inputPoint c = true ↔
      sharesInput inputPoint c = true ∧ c.producingSocket ≠ eipInvalidSocket := by
  simp only [producesMulticast, sharesInput, Bool.and_eq_true, decide_eq_true_eq]
  tauto

theorem sharesInput_input {inputPoint : UInt16} {c : CipConnectionObject}
    (h : sharesInput inputPoint c = true) : c.producedPath.instanceId = inputPoint := by
  simp only [sharesInput, Bool.and_eq_true, decide_eq_true_eq] at h
  exact h.1.2

/-- A master holds the socket of its input. -/
theorem producesMulticast_of_master {c : CipConnectionObject}
    (h : StackState.isMulticastMaster c = true) :
    producesMulticast c.producedPath.instanceId c = true := by
  simp only [StackState.isMulticastMaster, Bool.and_eq_true, Bool.or_eq_true,
    decide_eq_true_eq] at h
  obtain ⟨⟨htype, hmulticast⟩, hsocket⟩ := h
  rcases htype with htype | htype
  · simp [producesMulticast, CipConnectionObject.isTypeIOConnection, htype, hmulticast,
      hsocket]
  · simp [producesMulticast, CipConnectionObject.isTypeIOConnection, htype, hmulticast,
      hsocket]

/-- A connection that can take over is an established one of the input without the
socket. -/
theorem of_canTakeOver {inputPoint : UInt16} {c : CipConnectionObject}
    (h : View.canTakeOver inputPoint c = true) :
    sharesInput inputPoint c = true ∧ c.state = .established ∧
      c.instanceType ≠ .ioListenOnly := by
  simp only [View.canTakeOver, Bool.and_eq_true, decide_eq_true_eq] at h
  obtain ⟨⟨⟨⟨htype, hstate⟩, hinput⟩, hmulticast⟩, -⟩ := h
  have hlisten : c.instanceType ≠ .ioListenOnly := by
    intro heq
    simp [CipConnectionObject.isTypeNonLOIOConnection, heq] at htype
  have hio : c.isTypeIOConnection = true := by
    unfold CipConnectionObject.isTypeNonLOIOConnection at htype
    unfold CipConnectionObject.isTypeIOConnection
    split at htype <;> simp_all
  refine ⟨?_, hstate, hlisten⟩
  simp [sharesInput, hio, hinput, hmulticast]

/-- A holder that is not listen-only is a master of its input. -/
theorem master_of_producesMulticast {inputPoint : UInt16} {c : CipConnectionObject}
    (h : producesMulticast inputPoint c = true) (htype : c.instanceType = .ioExclusiveOwner ∨
      c.instanceType = .ioInputOnly) : StackState.isMulticastMaster c = true := by
  simp only [producesMulticast, Bool.and_eq_true, decide_eq_true_eq] at h
  simp only [StackState.isMulticastMaster, Bool.and_eq_true, Bool.or_eq_true,
    decide_eq_true_eq]
  exact ⟨⟨htype, h.2⟩, h.1.2⟩

namespace CipConnectionObject

/-- The object without what a producer hands over and what traffic changes. -/
def profile (c : CipConnectionObject) : CipConnectionObject :=
  { c.core with
    producingSocket := eipInvalidSocket
    remoteAddress := {}
    eipLevelSequenceCountProducing := 0 }

theorem profile_field {β : Type} {c d : CipConnectionObject} (h : d.profile = c.profile)
    (f : CipConnectionObject → β) (hf : ∀ c, f c.profile = f c) : f d = f c := by
  rw [← hf d, h, hf c]

theorem profile_inherit (old c : CipConnectionObject) :
    (View.inherit old c).profile = c.profile := rfl

theorem profile_retire (c : CipConnectionObject) : (View.retire c).profile = c.profile := rfl

end CipConnectionObject

namespace View

variable (V : View)

theorem modify_id (r : ConnRef) : V.modify r id = V := by
  rw [modify, id_eq, Function.update_eq_self]

theorem pass_object_self {r heir : ConnRef} (hne : heir ≠ r) :
    (V.pass r heir).object r = retire (V.object r) := by
  rw [pass, modify_object_self, modify_object_of_ne _ hne.symm]

theorem pass_object_heir {r heir : ConnRef} (hne : heir ≠ r) :
    (V.pass r heir).object heir = inherit (V.object r) (V.object heir) := by
  rw [pass, modify_object_of_ne _ hne, modify_object_self]

theorem pass_object_of_ne {r heir s : ConnRef} (hr : s ≠ r) (hheir : s ≠ heir) :
    (V.pass r heir).object s = V.object s := by
  rw [pass, modify_object_of_ne _ hr, modify_object_of_ne _ hheir]

theorem pass_profile {r heir : ConnRef} (hne : heir ≠ r) (s : ConnRef) :
    ((V.pass r heir).object s).profile = (V.object s).profile := by
  by_cases hr : s = r
  · subst hr
    rw [V.pass_object_self hne, CipConnectionObject.profile_retire]
  · by_cases hheir : s = heir
    · subst hheir
      rw [V.pass_object_heir hne, CipConnectionObject.profile_inherit]
    · rw [V.pass_object_of_ne hr hheir]

/-- The heir holds the socket in place of the old master, nobody else changed. -/
theorem pass_holder {r heir s : ConnRef} (hne : heir ≠ r)
    (htakes : canTakeOver (V.object r).producedPath.instanceId (V.object heir) = true)
    {inputPoint : UInt16}
    (hholds : producesMulticast inputPoint ((V.pass r heir).object s) = true) :
    (s = heir ∧ inputPoint = (V.object r).producedPath.instanceId) ∨
      (s ≠ heir ∧ s ≠ r ∧ producesMulticast inputPoint (V.object s) = true) := by
  by_cases hsr : s = r
  · subst hsr
    rw [V.pass_object_self hne] at hholds
    simp [producesMulticast, retire] at hholds
  · by_cases hsheir : s = heir
    · subst hsheir
      rw [V.pass_object_heir hne] at hholds
      have hinput := sharesInput_input (producesMulticast_iff.mp hholds).1
      have hshares := (of_canTakeOver htakes).1
      exact .inl ⟨rfl, hinput.symm.trans (sharesInput_input hshares)⟩
    · rw [V.pass_object_of_ne hsr hsheir] at hholds
      exact .inr ⟨hsheir, hsr, hholds⟩

end View

/-- What happens to the production of a connection that goes: it had none to give,
it passes it on, or its listeners go too. -/
inductive Vacates (V : View) (r : ConnRef) : View → Prop
  | quiet (silent : StackState.isMulticastMaster (V.object r) = false) : Vacates V r V
  | passed {heir : ConnRef} (master : StackState.isMulticastMaster (V.object r) = true)
      (member : heir ∈ V.members) (differs : heir ≠ r)
      (takes : View.canTakeOver (V.object r).producedPath.instanceId (V.object heir) = true) :
      Vacates V r (V.pass r heir)
  | silenced (master : StackState.isMulticastMaster (V.object r) = true)
      (nobody : ∀ s ∈ V.members,
        View.canTakeOver (V.object r).producedPath.instanceId (V.object s) = false) :
      Vacates V r
        (V.without (V.ofInput .ioListenOnly (V.object r).producedPath.instanceId))

theorem vacates_vacate (V : View) (r : ConnRef) : Vacates V r (V.vacate r) := by
  cases hm : StackState.isMulticastMaster (V.object r) with
  | false =>
      rw [View.vacate_of_not_master hm]
      exact .quiet hm
  | true =>
      rw [View.vacate, if_pos hm]
      cases hs : V.successor (V.object r).producedPath.instanceId with
      | some heir =>
          have htakes := List.find?_some hs
          exact .passed hm (List.mem_of_find?_eq_some hs) (View.successor_ne hm hs) htakes
      | none =>
          refine .silenced hm fun s hs' => ?_
          have hnone := List.find?_eq_none.mp hs s hs'
          simpa using hnone

namespace Vacates

variable {V V' : View} {r : ConnRef}

theorem member (h : Vacates V r V') {s : ConnRef} (hs : s ∈ V'.members) : s ∈ V.members := by
  cases h with
  | quiet silent => exact hs
  | passed master member differs takes => exact hs
  | silenced master nobody => exact (V.mem_without.mp hs).1

theorem profile (h : Vacates V r V') {s : ConnRef} (hs : s ∈ V'.members) :
    (V'.object s).profile = (V.object s).profile := by
  cases h with
  | quiet silent => rfl
  | passed master member differs takes => exact V.pass_profile differs s
  | silenced master nobody =>
      rw [View.without_object, (V.mem_without.mp hs).2]
      rfl

/-- Another connection is as before, or it takes over from `r`. -/
theorem object (h : Vacates V r V') {s : ConnRef} (hs : s ∈ V'.members) (hne : s ≠ r) :
    V'.object s = V.object s ∨
      StackState.isMulticastMaster (V.object r) = true ∧
        View.canTakeOver (V.object r).producedPath.instanceId (V.object s) = true ∧
        V'.object s = View.inherit (V.object r) (V.object s) := by
  cases h with
  | quiet silent => exact .inl rfl
  | @passed heir master member differs takes =>
      by_cases hheir : s = heir
      · subst hheir
        exact .inr ⟨master, takes, V.pass_object_heir differs⟩
      · exact .inl (V.pass_object_of_ne hne hheir)
  | silenced master nobody =>
      rw [View.without_object, (V.mem_without.mp hs).2]
      exact .inl rfl

/-- Who holds a socket afterwards held it before or takes over from `r`. -/
theorem holder (h : Vacates V r V') {s : ConnRef} (hs : s ∈ V'.members)
    {inputPoint : UInt16} (hholds : producesMulticast inputPoint (V'.object s) = true) :
    (producesMulticast inputPoint (V.object s) = true ∧ V'.object s = V.object s) ∨
      (StackState.isMulticastMaster (V.object r) = true ∧
        inputPoint = (V.object r).producedPath.instanceId ∧
        View.canTakeOver inputPoint (V.object s) = true ∧
        V'.object s = View.inherit (V.object r) (V.object s)) := by
  cases h with
  | quiet silent => exact .inl ⟨hholds, rfl⟩
  | @passed heir master member differs takes =>
      rcases V.pass_holder differs takes hholds with ⟨rfl, hinput⟩ | ⟨hheir, hr, hheld⟩
      · exact .inr ⟨master, hinput, hinput ▸ takes, V.pass_object_heir differs⟩
      · exact .inl ⟨hheld, V.pass_object_of_ne hr hheir⟩
  | silenced master nobody =>
      rw [View.without_object, (V.mem_without.mp hs).2] at hholds ⊢
      exact .inl ⟨hholds, rfl⟩

end Vacates

theorem leftBehind_owner {c : CipConnectionObject} (h : c.instanceType = .ioExclusiveOwner) :
    StackState.leftBehind c = View.retire := by
  funext p
  rw [StackState.leftBehind, if_pos h]
  rfl

theorem leftBehind_other {c : CipConnectionObject} (h : c.instanceType ≠ .ioExclusiveOwner) :
    StackState.leftBehind c = id := by
  funext p
  rw [StackState.leftBehind, if_neg h]
  rfl

/-- At most one listed connection of an input holds its producing socket. -/
def UniqueHolder (V : View) : Prop :=
  ∀ inputPoint, ∀ r ∈ V.members, ∀ s ∈ V.members,
    producesMulticast inputPoint (V.object r) = true →
    producesMulticast inputPoint (V.object s) = true → r = s

namespace UniqueHolder

variable {V V' : View}

/-- No connection starts to hold the socket. -/
theorem mono (h : UniqueHolder V) (hmembers : V'.members ⊆ V.members)
    (hholds : ∀ inputPoint, ∀ r ∈ V'.members,
      producesMulticast inputPoint (V'.object r) = true →
      producesMulticast inputPoint (V.object r) = true) : UniqueHolder V' := by
  intro inputPoint r hr s hs hrholds hsholds
  exact h inputPoint r (hmembers hr) s (hmembers hs) (hholds inputPoint r hr hrholds)
    (hholds inputPoint s hs hsholds)

theorem without (h : UniqueHolder V) (dropped : ConnRef → Bool) :
    UniqueHolder (V.without dropped) := by
  refine h.mono (fun r hr => (V.mem_without.mp hr).1) fun inputPoint r hr hholds => ?_
  rw [View.without_object, (V.mem_without.mp hr).2] at hholds
  exact hholds

theorem modify (h : UniqueHolder V) {r : ConnRef}
    {f : CipConnectionObject → CipConnectionObject}
    (hf : ∀ inputPoint, producesMulticast inputPoint (f (V.object r)) = true →
      producesMulticast inputPoint (V.object r) = true) : UniqueHolder (V.modify r f) := by
  refine h.mono (fun s hs => hs) fun inputPoint s _ hholds => ?_
  by_cases hs : s = r
  · subst hs
    rw [View.modify_object_self] at hholds
    exact hf inputPoint hholds
  · rw [V.modify_object_of_ne hs] at hholds
    exact hholds

theorem not_retired (inputPoint : UInt16) (c : CipConnectionObject) :
    producesMulticast inputPoint (View.retire c) = false := by
  simp [producesMulticast, View.retire]

theorem pass (h : UniqueHolder V) {r heir : ConnRef} (hr : r ∈ V.members)
    (hm : StackState.isMulticastMaster (V.object r) = true) (hne : heir ≠ r)
    (htakes : View.canTakeOver (V.object r).producedPath.instanceId (V.object heir) = true) :
    UniqueHolder (V.pass r heir) := by
  have hold := producesMulticast_of_master hm
  intro inputPoint s hs' t ht hsholds htholds
  rcases V.pass_holder hne htakes hsholds with ⟨hsheir, hsinput⟩ | ⟨-, hsr, hsheld⟩
  · rcases V.pass_holder hne htakes htholds with ⟨htheir, -⟩ | ⟨-, htr, htheld⟩
    · exact hsheir.trans htheir.symm
    · exact absurd (h inputPoint t ht r hr htheld (hsinput ▸ hold)) htr
  · rcases V.pass_holder hne htakes htholds with ⟨-, htinput⟩ | ⟨-, -, htheld⟩
    · exact absurd (h inputPoint s hs' r hr hsheld (htinput ▸ hold)) hsr
    · exact h inputPoint s hs' t ht hsheld htheld

theorem vacates (h : UniqueHolder V) {r : ConnRef} (hr : r ∈ V.members)
    (hvacates : Vacates V r V') : UniqueHolder V' := by
  cases hvacates with
  | quiet silent => exact h
  | passed master member differs takes => exact h.pass hr master differs takes
  | silenced master nobody => exact h.without _

theorem depart (h : UniqueHolder V) (hdepart : Depart V V') : UniqueHolder V' := by
  cases hdepart with
  | discard dropped class3 => exact h.without dropped
  | close member io => exact (h.vacates member (vacates_vacate V _)).without _
  | expire member io established => exact (h.vacates member (vacates_vacate V _)).modify fun _ => id

theorem move (h : UniqueHolder V) (hmove : Move V V') : UniqueHolder V' := by
  rcases hmove.depart_or_same with hdepart | ⟨hmembers, hfield⟩
  · exact h.depart hdepart
  · refine h.mono (fun r hr => hmembers ▸ hr) fun inputPoint r _ hholds => ?_
    rw [← hfield (producesMulticast inputPoint) (fun _ => rfl) (fun _ => rfl) r]
    exact hholds

theorem scratch (h : UniqueHolder V) {r : ConnRef} (hr : r ∉ V.members)
    (c : CipConnectionObject) (connectionId : UInt16) :
    UniqueHolder (V.scratch r c connectionId) := by
  refine h.mono (fun s hs => hs) fun inputPoint s hs hholds => ?_
  rw [V.scratch_object_of_ne (ne_of_mem_of_not_mem hs hr)] at hholds
  exact hholds

theorem insert (h : UniqueHolder V) {r : ConnRef} (hr : r ∉ V.members)
    {c : CipConnectionObject} (connectionId : UInt16)
    (hfree : ∀ inputPoint, producesMulticast inputPoint c = true →
      ∀ s ∈ V.members, producesMulticast inputPoint (V.object s) = false) :
    UniqueHolder (V.insert r c connectionId) := by
  have hobject : ∀ s ∈ V.members, (V.insert r c connectionId).object s = V.object s :=
    fun s hs => V.insert_object_of_ne (ne_of_mem_of_not_mem hs hr) c _
  have hnone : ∀ inputPoint, ∀ s ∈ V.members,
      producesMulticast inputPoint ((V.insert r c connectionId).object r) = true →
      producesMulticast inputPoint ((V.insert r c connectionId).object s) = true → False := by
    intro inputPoint s hs hrholds hsholds
    rw [View.insert_object_self] at hrholds
    rw [hobject s hs, hfree inputPoint hrholds s hs] at hsholds
    cases hsholds
  intro inputPoint s hs t ht hsholds htholds
  rcases List.mem_cons.mp hs with hsr | hsmem
  · rcases List.mem_cons.mp ht with htr | htmem
    · exact hsr.trans htr.symm
    · exact (hnone inputPoint t htmem (hsr ▸ hsholds) htholds).elim
  · rcases List.mem_cons.mp ht with htr | htmem
    · exact (hnone inputPoint s hsmem (htr ▸ htholds) hsholds).elim
    · rw [hobject s hsmem] at hsholds
      rw [hobject t htmem] at htholds
      exact h inputPoint s hsmem t htmem hsholds htholds

theorem vacated (h : UniqueHolder V) {r : ConnRef} {lookup : Lookup}
    (hvacated : Vacated V r lookup V') : UniqueHolder V' := by
  cases hvacated with
  | free unlisted => exact h
  | closed member => exact (h.vacates member (vacates_vacate V _)).without _
  | cleared unlisted => exact h.without _

/-- A connection without the socket may be added at any time. -/
theorem not_holds_of_single {c : CipConnectionObject}
    (h : c.tToOConnectionType ≠ .multicast) (inputPoint : UInt16) :
    producesMulticast inputPoint c = false := by
  simp [producesMulticast, h]

theorem opens (h : UniqueHolder V) {cfg : Config} {d : CipConnectionObject}
    {udpSocket : Int} {r : ConnRef} (hr : r ∉ V.members)
    (hopens : Opens cfg d udpSocket V r V') : UniqueHolder V' := by
  cases hopens with
  | plain admitted single identifier =>
      refine h.insert hr _ fun inputPoint hholds => ?_
      rw [not_holds_of_single (admitted.tToO ▸ single)] at hholds
      cases hholds
  | first admitted multicast agrees lonely identifier socket =>
      refine h.insert hr _ fun inputPoint hholds s hs => ?_
      have hinput := sharesInput_input (producesMulticast_iff.mp hholds).1
      rw [← hinput, admitted.input]
      simpa using List.find?_eq_none.mp lonely s hs
  | @join c producer admitted multicast agrees existing identifier socket =>
      have hmem := List.mem_of_find?_eq_some existing
      have hheld := List.find?_some existing
      by_cases howner : c.instanceType = .ioExclusiveOwner
      · -- the exclusive owner takes the socket from the producer
        rw [leftBehind_owner howner]
        have hretired : UniqueHolder (V.modify producer View.retire) :=
          h.modify fun inputPoint hholds => by
            rw [not_retired] at hholds
            cases hholds
        refine hretired.insert hr _ fun inputPoint hholds s hs => ?_
        have hinput := sharesInput_input (producesMulticast_iff.mp hholds).1
        rw [admitted.input] at hinput
        rw [hinput] at hheld
        by_cases hsp : s = producer
        · subst hsp
          rw [View.modify_object_self, not_retired]
        · rw [V.modify_object_of_ne hsp]
          by_contra hcontra
          rw [Bool.not_eq_false] at hcontra
          exact hsp (h inputPoint s hs producer hmem hcontra hheld)
      · rw [leftBehind_other howner, V.modify_id]
        refine h.insert hr _ fun inputPoint hholds => ?_
        have hsocket := (producesMulticast_iff.mp hholds).2
        rw [socket, if_neg (admitted.kind.instanceType ▸ howner)] at hsocket
        exact absurd rfl hsocket

end UniqueHolder

namespace StackState

variable {cfg : Config} {env : Environment} {st : StackState}

theorem uniqueHolder_answered {status : OpenStatus} {V : View}
    (h : Answered cfg env st status V) (hunique : UniqueHolder (st.view cfg)) :
    UniqueHolder V := by
  cases h with
  | unchanged => exact hunique
  | io assembly established =>
      cases established with
      | nothing failed lookup => exact hunique
      | refused failed chosen finds instanceType vacated idle =>
          exact (hunique.vacated vacated).scratch vacated.not_mem _ _
      | opened chosen finds instanceType vacated opens =>
          exact (hunique.vacated vacated).opens vacated.not_mem opens
  | class3 unlisted explicit kind established =>
      refine hunique.insert unlisted _ fun inputPoint hholds => ?_
      have hsocket := (producesMulticast_iff.mp hholds).2
      exact absurd (kind.silent explicit).1 hsocket

theorem Reachable.uniqueHolder (h : Reachable cfg st) : UniqueHolder (st.view cfg) := by
  obtain ⟨assemblyData, hreaches⟩ := h
  refine (view_invariant UniqueHolder ?_ ?_ (sound_initialState cfg assemblyData) ?_
    hreaches).2
  · exact fun V V' _ hmove hV => hV.move hmove
  · exact fun label st st₁ status V _ _ _ _ _ hanswered hV => uniqueHolder_answered hanswered hV
  · intro inputPoint r hr
    rw [view_members, connectionList_initialState cfg assemblyData] at hr
    cases hr

end StackState

end Opener

import Opener.Metatheory.Masters

/-!
What a listed connection keeps from its open to its close. Between two opens the
list only loses members, those that stay keep their order and everything that is
fixed when a connection is opened, and none becomes established again.
-/

namespace Opener

namespace CipConnectionObject

/-- What is fixed when the connection is opened. -/
def lasting (c : CipConnectionObject) : CipConnectionObject :=
  { c.profile with state := .nonExistent }

theorem lasting_field {β : Type} {c d : CipConnectionObject} (h : d.lasting = c.lasting)
    (f : CipConnectionObject → β) (hf : ∀ c, f c.lasting = f c) : f d = f c := by
  rw [← hf d, h, hf c]

theorem lasting_of_profile {c d : CipConnectionObject} (h : d.profile = c.profile) :
    d.lasting = c.lasting := by
  rw [lasting, h, lasting]

theorem lasting_of_core {c d : CipConnectionObject} (h : d.core = c.core) :
    d.lasting = c.lasting :=
  lasting_of_profile (by rw [profile, h, profile])

theorem lasting_setState (c : CipConnectionObject) (state : ConnectionObjectState) :
    (c.setState state).lasting = c.lasting := rfl

theorem lasting_leftBehind (c producer : CipConnectionObject) :
    (StackState.leftBehind c producer).lasting = producer.lasting := by
  rw [StackState.leftBehind]
  split
  · rfl
  · rfl

end CipConnectionObject

open CipConnectionObject (lasting_field)

theorem ConnRef.ne_of_isIo {r s : ConnRef} (hr : r.isIo = false) (hs : s.isIo = true) :
    r ≠ s := by
  intro hcontra
  rw [hcontra, hs] at hr
  cases hr

structure Persists (V V' : View) : Prop where
  sublist : V'.members.Sublist V.members
  lasting : ∀ r ∈ V'.members, (V'.object r).lasting = (V.object r).lasting
  established : ∀ r ∈ V'.members, (V'.object r).state = .established →
    (V.object r).state = .established

namespace Persists

variable {V V' V'' : View}

theorem refl (V : View) : Persists V V := ⟨.refl _, fun _ _ => rfl, fun _ _ h => h⟩

theorem trans (h : Persists V V') (h' : Persists V' V'') : Persists V V'' := by
  refine ⟨h'.sublist.trans h.sublist, fun r hr => ?_, fun r hr hstate => ?_⟩
  · have hr' := h'.sublist.subset hr
    exact (h'.lasting r hr).trans (h.lasting r hr')
  · have hr' := h'.sublist.subset hr
    exact h.established r hr' (h'.established r hr hstate)

theorem without (V : View) (dropped : ConnRef → Bool) : Persists V (V.without dropped) := by
  refine ⟨List.filter_sublist, fun r hr => ?_, fun r hr hstate => ?_⟩
  · rw [View.without_object, (V.mem_without.mp hr).2]
    rfl
  · rw [View.without_object, (V.mem_without.mp hr).2] at hstate
    exact hstate

theorem modify {r : ConnRef} {f : CipConnectionObject → CipConnectionObject}
    (hlasting : (f (V.object r)).lasting = (V.object r).lasting)
    (hstate : (f (V.object r)).state = .established → (V.object r).state = .established) :
    Persists V (V.modify r f) := by
  refine ⟨.refl _, fun s hs => ?_, fun s hs hestablished => ?_⟩
  · by_cases hsr : s = r
    · subst hsr
      rw [View.modify_object_self]
      exact hlasting
    · rw [V.modify_object_of_ne hsr]
  · by_cases hsr : s = r
    · subst hsr
      rw [View.modify_object_self] at hestablished
      exact hstate hestablished
    · rw [V.modify_object_of_ne hsr] at hestablished
      exact hestablished

theorem of_profile (hmembers : V'.members = V.members)
    (hprofile : ∀ r, (V'.object r).profile = (V.object r).profile) : Persists V V' := by
  refine ⟨hmembers ▸ .refl _, fun r _ => ?_, fun r _ hstate => ?_⟩
  · exact CipConnectionObject.lasting_of_profile (hprofile r)
  · rw [← CipConnectionObject.profile_field (hprofile r) (·.state) fun _ => rfl]
    exact hstate

theorem vacate (V : View) (r : ConnRef) : Persists V (V.vacate r) := by
  have hvacates := vacates_vacate V r
  generalize V.vacate r = V' at hvacates
  cases hvacates with
  | quiet silent => exact refl V
  | passed master member differs takes => exact of_profile rfl (V.pass_profile differs)
  | silenced master nobody => exact without V _

theorem closed (V : View) (r : ConnRef) : Persists V (V.closed r) :=
  (vacate V r).trans (without _ _)

theorem timedOut (V : View) (r : ConnRef) :
    Persists V (V.modify r fun c => c.setState .timedOut) :=
  modify rfl fun h => by cases h

theorem depart (h : Depart V V') : Persists V V' := by
  cases h with
  | discard dropped class3 => exact without V dropped
  | @close r member io => exact closed V r
  | @expire r member io established => exact (vacate V r).trans (timedOut _ r)

theorem move (h : Move V V') : Persists V V' := by
  rcases h.depart_or_same with hdepart | ⟨hmembers, hfield⟩
  · exact depart hdepart
  · refine ⟨hmembers ▸ .refl _, fun r _ => ?_, fun r _ hstate => ?_⟩
    · exact hfield CipConnectionObject.lasting (fun _ => rfl) (fun _ => rfl) r
    · rw [← hfield (·.state) (fun _ => rfl) (fun _ => rfl) r]
      exact hstate

theorem moves (h : Moves V V') : Persists V V' := by
  induction h with
  | refl => exact refl V
  | tail _ hlast ih => exact ih.trans (move hlast)

theorem departs (h : Departs V V') : Persists V V' := moves h.moves

theorem vacated {lookup : Lookup} {r : ConnRef} (h : Vacated V r lookup V') :
    Persists V V' := by
  cases h with
  | free unlisted => exact refl V
  | closed member => exact closed V r
  | cleared unlisted => exact without V _

/-- Writing to a slot that is not listed. -/
theorem scratch {r : ConnRef} (hr : r ∉ V.members) (c : CipConnectionObject)
    (connectionId : UInt16) : Persists V (V.scratch r c connectionId) := by
  refine ⟨.refl _, fun s hs => ?_, fun s hs hstate => ?_⟩
  · rw [V.scratch_object_of_ne (ne_of_mem_of_not_mem hs hr)]
  · rwa [V.scratch_object_of_ne (ne_of_mem_of_not_mem hs hr)] at hstate

end Persists

theorem Vacated.connectionId_eq {V V' : View} {r : ConnRef} {lookup : Lookup}
    (h : Vacated V r lookup V') : V'.connectionId = V.connectionId := by
  cases h with
  | free unlisted => rfl
  | closed member =>
      rw [View.closed, View.vacate]
      split
      · split
        · rfl
        · rfl
      · rfl
  | cleared unlisted => rfl

/-- Connections may have left the table, and one has entered it at the head. -/
structure Entered (cfg : Config) (env : Environment) (d : CipConnectionObject)
    (V V₁ : View) (r : ConnRef) (V' : View) : Prop where
  persists : Persists V V₁
  unlisted : r ∉ V₁.members
  members : V'.members = r :: V₁.members
  others : ∀ s ∈ V₁.members, (V'.object s).lasting = (V₁.object s).lasting ∧
    (V'.object s).state = (V₁.object s).state
  established : (V'.object r).state = .established
  granted : Granted cfg env d V.connectionId (V'.object r)

/-- The table after an open function: at most one connection has entered it. -/
inductive Enters (cfg : Config) (env : Environment) (d : CipConnectionObject) (V : View) :
    View → Prop
  | nobody {V' : View} (persists : Persists V V') : Enters cfg env d V V'
  | somebody {V₁ V' : View} {r : ConnRef} (entered : Entered cfg env d V V₁ r V') :
      Enters cfg env d V V'

theorem Entered.of_insert {cfg : Config} {env : Environment} {d : CipConnectionObject}
    {V V₁ V₂ : View} {r : ConnRef} {c : CipConnectionObject} {connectionId : UInt16}
    (hpersists : Persists V V₁) (hr : r ∉ V₁.members) (hmembers : V₂.members = V₁.members)
    (hothers : ∀ s ∈ V₁.members, (V₂.object s).lasting = (V₁.object s).lasting ∧
      (V₂.object s).state = (V₁.object s).state)
    (hstate : c.state = .established) (hgranted : Granted cfg env d V.connectionId c) :
    Entered cfg env d V V₁ r (V₂.insert r c connectionId) := by
  refine ⟨hpersists, hr, congrArg (r :: ·) hmembers, ?_, ?_, ?_⟩
  · intro s hs
    rw [V₂.insert_object_of_ne (ne_of_mem_of_not_mem hs hr)]
    exact hothers s hs
  · rw [V₂.insert_object_self]
    exact hstate
  · rw [V₂.insert_object_self]
    exact hgranted

namespace Opens

variable {cfg : Config} {d : CipConnectionObject} {udpSocket : Int} {V V' : View} {r : ConnRef}

theorem members_eq (h : Opens cfg d udpSocket V r V') : V'.members = r :: V.members := by
  cases h with
  | plain admitted | first admitted => rfl
  | join admitted => rfl

theorem admitted (h : Opens cfg d udpSocket V r V') : Admitted cfg d r (V'.object r) := by
  cases h with
  | plain admitted | first admitted => rwa [View.insert_object_self]
  | join admitted => rwa [View.insert_object_self]

/-- An open leaves the other connections as they are, but for the producing socket. -/
theorem others (h : Opens cfg d udpSocket V r V') (hr : r ∉ V.members) {s : ConnRef}
    (hs : s ∈ V.members) : (V'.object s).lasting = (V.object s).lasting ∧
      (V'.object s).state = (V.object s).state := by
  have hne := ne_of_mem_of_not_mem hs hr
  cases h with
  | plain admitted | first admitted =>
      rw [View.insert_object_of_ne _ hne]
      exact ⟨rfl, rfl⟩
  | @join c producer admitted multicast agrees existing identifier socket =>
      rw [View.insert_object_of_ne _ hne]
      by_cases hsp : s = producer
      · subst hsp
        rw [View.modify_object_self, CipConnectionObject.lasting_leftBehind]
        refine ⟨rfl, ?_⟩
        rw [StackState.leftBehind]
        split
        · rfl
        · rfl
      · rw [View.modify_object_of_ne _ hsp]
        exact ⟨rfl, rfl⟩

end Opens

namespace View

/-- No established connection comes behind one with the same key. -/
def Ordered {κ : Type} (key : CipConnectionObject → κ) (V : View) : Prop :=
  V.members.Pairwise fun r s =>
    key (V.object r) = key (V.object s) → (V.object s).state ≠ .established

/-- No established connection has the key. -/
def Fresh {κ : Type} (key : CipConnectionObject → κ) (k : κ) (V : View) : Prop :=
  ∀ s ∈ V.members, (V.object s).state = .established → k ≠ key (V.object s)

variable {κ : Type} {key : CipConnectionObject → κ} {V V' : View}

theorem Ordered.persists (h : V.Ordered key) (hkey : ∀ c, key c.lasting = key c)
    (hpersists : Persists V V') : V'.Ordered key := by
  refine (h.sublist hpersists.sublist).imp_of_mem ?_
  intro r s hr hs hrs hsame hstate
  refine hrs ?_ (hpersists.established s hs hstate)
  rw [← lasting_field (hpersists.lasting r hr) key hkey,
    ← lasting_field (hpersists.lasting s hs) key hkey]
  exact hsame

theorem Fresh.persists {k : κ} (h : V.Fresh key k) (hkey : ∀ c, key c.lasting = key c)
    (hpersists : Persists V V') : V'.Fresh key k := by
  intro s hs hstate
  rw [lasting_field (hpersists.lasting s hs) key hkey]
  exact h s (hpersists.sublist.subset hs) (hpersists.established s hs hstate)

/-- A connection with a fresh key keeps the order, since it goes to the head. -/
theorem Ordered.enters {cfg : Config} {env : Environment} {d : CipConnectionObject} {k : κ}
    (h : V.Ordered key) (hkey : ∀ c, key c.lasting = key c) (hfresh : V.Fresh key k)
    (henters : Enters cfg env d V V')
    (hgranted : ∀ c, Granted cfg env d V.connectionId c → key c = k) : V'.Ordered key := by
  cases henters with
  | nobody persists => exact h.persists hkey persists
  | @somebody V₁ _ r entered =>
      obtain ⟨persists, unlisted, members, others, established, granted⟩ := entered
      have hothers : ∀ s ∈ V₁.members, key (V'.object s) = key (V₁.object s) := by
        intro s hs
        exact lasting_field (others s hs).1 key hkey
      rw [Ordered, members]
      refine List.pairwise_cons.mpr ⟨?_, ?_⟩
      · intro s hs hsame hstate
        rw [hgranted _ granted, hothers s hs] at hsame
        rw [(others s hs).2] at hstate
        exact hfresh.persists hkey persists s hs hstate hsame
      · refine (h.persists hkey persists).imp_of_mem ?_
        intro s t hs ht hst
        rw [hothers s hs, hothers t ht, (others t ht).2]
        exact hst

theorem Ordered.idxOf_lt (h : V.Ordered key) {r s : ConnRef} (hr : r ∈ V.members)
    (hs : s ∈ V.members) (hne : r ≠ s) (hstate : (V.object r).state = .established)
    (hsame : key (V.object r) = key (V.object s)) :
    V.members.idxOf r < V.members.idxOf s := by
  by_contra hlt
  have hindex : V.members.idxOf s ≠ V.members.idxOf r := fun heq =>
    hne ((List.idxOf_inj hr).mp heq.symm)
  have hpair := List.pairwise_iff_getElem.mp h _ _ (List.idxOf_lt_length_of_mem hs)
    (List.idxOf_lt_length_of_mem hr) (by omega)
  rw [List.getElem_idxOf, List.getElem_idxOf] at hpair
  exact hpair hsame.symm hstate

theorem Ordered.eq_of_established (h : V.Ordered key) {r s : ConnRef} (hr : r ∈ V.members)
    (hs : s ∈ V.members) (hstate : (V.object r).state = .established)
    (hstate' : (V.object s).state = .established)
    (hsame : key (V.object r) = key (V.object s)) : r = s := by
  by_contra hne
  have hlt := h.idxOf_lt hr hs hne hstate hsame
  have hlt' := h.idxOf_lt hs hr (Ne.symm hne) hstate' hsame.symm
  omega

end View

namespace StackState

variable {cfg : Config} {env : Environment} {st : StackState}

/-- The connection that `EstablishIoConnection` opens is the new head. -/
theorem Opens.entered {r : ConnRef} {V V' : View} {lookup : Lookup}
    (vacated : Vacated (st.view cfg) r lookup V)
    (opens : Opens cfg st.dummy env.udpSocket V r V')
    (granted : Granted cfg env st.dummy V.connectionId (V'.object r)) :
    Entered cfg env st.dummy (st.view cfg) V r V' := by
  rw [vacated.connectionId_eq] at granted
  have hr := vacated.not_mem
  exact ⟨.vacated vacated, hr, opens.members_eq, fun s hs => opens.others hr hs,
    opens.admitted.established, granted⟩

/-- An open function of class zero apart, success means a new head of the list and
failure means nobody new. -/
theorem Answered.outcome {status : OpenStatus} {V : View} (h : Answered cfg env st status V) :
    (status = {} ∧ ∃ V₁ r, Entered cfg env st.dummy (st.view cfg) V₁ r V) ∨
      ((status.general = GeneralStatus.success →
        st.dummy.configurationPath.classId = 0) ∧ Persists (st.view cfg) V) := by
  cases h with
  | unchanged failed => exact .inr ⟨failed, .refl _⟩
  | io assembly established =>
      cases established with
      | nothing failed lookup =>
          exact .inr ⟨fun hsuccess => absurd hsuccess failed, .refl _⟩
      | refused failed chosen finds instanceType vacated idle =>
          exact .inr ⟨fun hsuccess => absurd hsuccess failed,
            (Persists.vacated vacated).trans (.scratch vacated.not_mem _ _)⟩
      | opened chosen finds instanceType vacated opens granted points =>
          exact .inl ⟨rfl, _, _, Opens.entered vacated opens granted⟩
  | class3 unlisted explicit kind established granted =>
      exact .inl ⟨rfl, _, _, .of_insert (.refl _) unlisted rfl (fun _ _ => ⟨rfl, rfl⟩)
        established granted⟩

theorem Answered.enters {status : OpenStatus} {V : View} (h : Answered cfg env st status V) :
    Enters cfg env st.dummy (st.view cfg) V := by
  rcases h.outcome with ⟨-, V₁, r, hentered⟩ | ⟨-, hpersists⟩
  · exact .somebody hentered
  · exact .nobody hpersists

/-- The connection at the head of the list was just opened, in a state of a run, by a
Forward Open for the class. -/
def NewlyOpened (cfg : Config) (classId : UInt32) (r : ConnRef) (st : StackState) : Prop :=
  ∃ before label st₁, Reachable cfg before ∧ openEntry cfg label before = some st₁ ∧
    st₁.dummy.configurationPath.classId = classId ∧
    st₁.openConnection cfg label.1 = .ok ({}, st) ∧ (st.connectionList cfg).head? = some r

theorem NewlyOpened.answered {classId : UInt32} {r : ConnRef}
    (h : NewlyOpened cfg classId r st) :
    st.Sound cfg ∧ (st.connectionList cfg).head? = some r ∧
      ∃ st₁ env, st₁.dummy.configurationPath.classId = classId ∧
        Answered cfg env st₁ {} (st.view cfg) := by
  obtain ⟨before, label, st₁, hreachable, hentry, hclassId, hcall, hhead⟩ := h
  obtain ⟨hsound, hrequested, hclass, -⟩ := openEntry_sound hreachable.sound hentry
  obtain ⟨ns, hlisted⟩ := hsound.wellFormed
  obtain ⟨hwell, hafter, hanswered⟩ :=
    openConnection_spec hlisted hsound.regular hrequested hclass hcall
  refine ⟨⟨hwell, hanswered.regular hsound.regular, ?_, ?_⟩, hhead, st₁, label.1, hclassId,
    hanswered⟩
  · exact hafter.1.trans hsound.close
  · exact hafter.2.1.trans hsound.instances

/-- It is found by its id, and it has consumed nothing. -/
theorem NewlyOpened.found {classId : UInt32} {r : ConnRef} (h : NewlyOpened cfg classId r st)
    (hclass : classId ≠ 0) :
    st.getConnectedObject cfg (st.conn r).cipConsumedConnectionId = some r ∧
      (st.conn r).eipFirstLevelSequenceCountReceived = false ∧
      (st.conn r).sequenceCountConsuming = 0 := by
  obtain ⟨-, hhead, st₁, env, hclassId, hanswered⟩ := h.answered
  rcases hanswered.outcome with ⟨-, V₁, s, hentered⟩ | ⟨hzero, -⟩
  · have hmembers : st.connectionList cfg = s :: V₁.members := hentered.members
    rw [hmembers] at hhead
    cases hhead
    have hstate : (st.conn r).state = .established := hentered.established
    refine ⟨?_, hentered.granted.unheard⟩
    rw [getConnectedObject, findConnection, hmembers]
    refine List.find?_cons_of_pos ?_
    simp [hstate]
  · exact absurd (hclassId.symm.trans (hzero rfl)) hclass

end StackState

end Opener

import Opener.Metatheory.Transitions

/-!
What is left of a session's class 3 connections when the session is closed.
-/

namespace Opener

theorem filter_find?_eq_iff {α : Type} [DecidableEq α] {l : List α} (hl : l.Nodup)
    (p : α → Bool) :
    l.filter (fun a => !decide (l.find? p = some a)) = l.filter (fun a => !p a) ↔
      (l.filter p).length ≤ 1 := by
  constructor
  · intro heq
    have hfirst : ∀ a ∈ l.filter p, l.find? p = some a := by
      intro a ha
      obtain ⟨hmem, hp⟩ := List.mem_filter.mp ha
      by_contra hne
      have hkept : a ∈ l.filter (fun a => !decide (l.find? p = some a)) :=
        List.mem_filter.mpr ⟨hmem, by simp [hne]⟩
      rw [heq] at hkept
      have hnot := (List.mem_filter.mp hkept).2
      simp [hp] at hnot
    cases hf : l.filter p with
    | nil => exact Nat.zero_le 1
    | cons a rest =>
        cases rest with
        | nil => exact Nat.le_refl 1
        | cons b rest =>
            have ha := hfirst a (by rw [hf]; simp)
            have hb := hfirst b (by rw [hf]; simp)
            have hab : a = b := Option.some.inj (ha.symm.trans hb)
            have hnodup := hl.filter p
            rw [hf, hab] at hnodup
            exact absurd List.mem_cons_self (List.nodup_cons.mp hnodup).1
  · intro hone
    refine List.filter_congr fun a ha => ?_
    congr 1
    rw [Bool.eq_iff_iff, decide_eq_true_eq]
    constructor
    · exact List.find?_some
    · intro hp
      have hmem : a ∈ l.filter p := List.mem_filter.mpr ⟨ha, hp⟩
      cases hf : l.find? p with
      | none => exact absurd hp (List.find?_eq_none.mp hf a ha)
      | some b =>
          have hb : b ∈ l.filter p :=
            List.mem_filter.mpr ⟨List.mem_of_find?_eq_some hf, List.find?_some hf⟩
          cases hlist : l.filter p with
          | nil =>
              rw [hlist] at hmem
              cases hmem
          | cons c rest =>
              rw [hlist, List.length_cons] at hone
              have hrest : rest = [] := List.length_eq_zero_iff.mp (by omega)
              rw [hlist, hrest, List.mem_singleton] at hmem hb
              rw [hmem, hb]

namespace StackState

variable {cfg : Config} {st : StackState}

/-- Exactly the class 3 connections of the session are gone; the others are in
the same order with the same fields. -/
def ClosesSession (cfg : Config) (sessionHandle : UInt32) (st st' : StackState) : Prop :=
  st'.connectionList cfg =
      (st.connectionList cfg).filter (fun r => !st.ofSession sessionHandle r) ∧
    ∀ r ∈ st'.connectionList cfg, st'.conn r = st.conn r

/-- `CloseClass3ConnectionBasedOnSession` always returns; it closes the session's
connections exactly when the session has at most one. -/
theorem closeClass3_closesSession_iff (hreachable : Reachable cfg st)
    (sessionHandle : UInt32) :
    ∃ st', st.closeClass3ConnectionBasedOnSession cfg sessionHandle = .ok st' ∧
      (ClosesSession cfg sessionHandle st st' ↔
        ((st.connectionList cfg).filter (st.ofSession sessionHandle)).length ≤ 1) := by
  have hsound := hreachable.sound
  obtain ⟨ns, hlisted⟩ := hsound.wellFormed
  obtain ⟨st', ns', hcall, hshrunk⟩ := closeClass3_spec hlisted hsound.regular sessionHandle
  refine ⟨st', hcall, ?_⟩
  have hmembers : st'.connectionList cfg = (st.connectionList cfg).filter fun r =>
      !decide ((st.connectionList cfg).find? (st.ofSession sessionHandle) = some r) := by
    rw [← view_members, hshrunk.view_eq]
    rfl
  have hobject : ∀ r ∈ st'.connectionList cfg, st'.conn r = st.conn r := by
    intro r hr
    have hkept : decide ((st.connectionList cfg).find? (st.ofSession sessionHandle) =
        some r) = false := by
      rw [hmembers] at hr
      simpa using (List.mem_filter.mp hr).2
    rw [← view_object cfg, hshrunk.view_eq, View.without_object, hkept]
    rfl
  have hnodup : (st.connectionList cfg).Nodup := hsound.regular.nodup
  rw [← filter_find?_eq_iff hnodup (st.ofSession sessionHandle)]
  constructor
  · intro hcloses
    exact hmembers.symm.trans hcloses.1
  · intro heq
    exact ⟨hmembers.trans heq, hobject⟩

open SampleApplication in
theorem closeClass3_closesSession_sample :
    ∃ st st', Reachable config st ∧
      st.closeClass3ConnectionBasedOnSession config 1 = .ok st' ∧
      ClosesSession config 1 st st' := by
  obtain ⟨st, hreachable, hone⟩ := reachable_of_ends config
    [request (inputOnly 1 1 multicast), request (class3 2 2)]
    (fun st => ((st.connectionList config).filter (st.ofSession 1)).length ≤ 1)
    (by decide +kernel)
  obtain ⟨st', hcall, hiff⟩ := closeClass3_closesSession_iff hreachable 1
  exact ⟨st, st', hreachable, hcall, hiff.mpr (of_decide_eq_true hone)⟩

open SampleApplication in
theorem closeClass3_leaves_sample :
    ∃ st st', Reachable config st ∧
      st.closeClass3ConnectionBasedOnSession config 1 = .ok st' ∧
      ∃ r ∈ st'.connectionList config, (st'.conn r).transportClass = .class3 ∧
        (st'.conn r).associatedEncapsulationSession = 1 := by
  obtain ⟨st, hreachable, hleft⟩ := reachable_of_ends config
    [request (class3 1 1), request (class3 2 2)]
    (fun st => returns (st.closeClass3ConnectionBasedOnSession config 1) fun st' =>
      (st'.connectionList config).any (st'.ofSession 1))
    (by decide +kernel)
  obtain ⟨st', hcall, hleft⟩ := returns_iff.mp hleft
  obtain ⟨r, hr, hsession⟩ := List.any_eq_true.mp hleft
  simp only [ofSession, Bool.and_eq_true, decide_eq_true_eq] at hsession
  exact ⟨st, st', hreachable, hcall, r, hr, hsession⟩

end StackState

end Opener

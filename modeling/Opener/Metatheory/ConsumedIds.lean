import Opener.Metatheory.Triads

/-!
The O->T connection ids, by which connected messages and I/O data find their
connection. A drawn id is new until the counter comes round, and an id that the
originator chose is taken as it is, so they are only distinct as long as every
open gets one that no established connection has.
-/

namespace Opener

namespace StackState

variable {cfg : Config} {st : StackState}

/-- An open function that the step calls gives an O->T id that no established
connection has. -/
def givesFreshId (cfg : Config) (label : Environment × Action) (st : StackState) : Bool :=
  match openEntry cfg label st with
  | none => true
  | some st₁ => (st₁.connectionList cfg).all fun r =>
      (st₁.conn r).state ≠ .established ||
        (st₁.conn r).cipConsumedConnectionId ≠ st₁.dummy.consumedId cfg st₁.connectionId

theorem fresh_of_givesFreshId {label : Environment × Action} {st₁ : StackState}
    (h : givesFreshId cfg label st = true) (hentry : openEntry cfg label st = some st₁) :
    (st₁.view cfg).Fresh (·.cipConsumedConnectionId)
      (st₁.dummy.consumedId cfg st₁.connectionId) := by
  simp only [givesFreshId, hentry, List.all_eq_true, Bool.or_eq_true,
    decide_eq_true_eq] at h
  intro s hs hstate hsame
  rcases h s hs with hidle | hother
  · exact hidle hstate
  · exact hother hsame.symm

/-- In a run of such steps an O->T id belongs to one established connection, which
is the one that is found by it. -/
theorem consumed_id_unique {assemblyData : UInt16 → List UInt8}
    (h : Runs.Reaches (step cfg) (fun label st => givesFreshId cfg label st = true)
      (initialState cfg assemblyData) st) :
    (∀ r ∈ st.connectionList cfg, ∀ s ∈ st.connectionList cfg,
      (st.conn r).state = .established → (st.conn s).state = .established → r ≠ s →
        (st.conn r).cipConsumedConnectionId ≠ (st.conn s).cipConsumedConnectionId) ∧
      ∀ r ∈ st.connectionList cfg, (st.conn r).state = .established →
        st.getConnectedObject cfg (st.conn r).cipConsumedConnectionId = some r := by
  have hordered : (st.view cfg).Ordered (·.cipConsumedConnectionId) := by
    refine (view_invariant (View.Ordered (·.cipConsumedConnectionId)) ?_ ?_
      (sound_initialState cfg assemblyData) ?_ h).2
    · intro V V' _ hmove hV
      exact hV.persists (fun _ => rfl) (.move hmove)
    · intro label st st₁ status V hfresh _ hentry _ _ hanswered hV
      exact hV.enters (fun _ => rfl) (fresh_of_givesFreshId hfresh hentry) hanswered.enters
        fun c hgranted => hgranted.consumedId
    · rw [View.Ordered, view_members, connectionList_initialState]
      exact .nil
  refine ⟨?_, ?_⟩
  · intro r hr s hs hstate hstate' hne hsame
    exact hne (hordered.eq_of_established hr hs hstate hstate' hsame)
  · intro r hr hstate
    cases hfind : st.getConnectedObject cfg (st.conn r).cipConsumedConnectionId with
    | none =>
        have hnone := List.find?_eq_none.mp hfind r hr
        simp [hstate] at hnone
    | some s =>
        have hs : s ∈ st.connectionList cfg := List.mem_of_find?_eq_some hfind
        have hfound := List.find?_some hfind
        rw [Bool.and_eq_true, decide_eq_true_eq, decide_eq_true_eq] at hfound
        exact congrArg some (hordered.eq_of_established hs hr hfound.1 hstate hfound.2)

open SampleApplication in
/-- A class 3 connection and an exclusive owner get ids of their own. -/
theorem consumed_id_unique_sample :
    ∃ st, Runs.Reaches (step config) (fun label st => givesFreshId config label st = true)
        (initialState config SampleApplication.assemblyData) st ∧
      (st.connectionList config = [.exclusiveOwner 0, .explicit 0] ∧
        (st.conn (.explicit 0)).state = .established ∧
        (st.conn (.exclusiveOwner 0)).state = .established) ∧
      (∀ r ∈ st.connectionList config, ∀ s ∈ st.connectionList config,
        (st.conn r).state = .established → (st.conn s).state = .established → r ≠ s →
          (st.conn r).cipConsumedConnectionId ≠ (st.conn s).cipConsumedConnectionId) ∧
        ∀ r ∈ st.connectionList config, (st.conn r).state = .established →
          st.getConnectedObject config (st.conn r).cipConsumedConnectionId = some r := by
  obtain ⟨st, hreaches, hst⟩ := reaches_of_endsWithin config (givesFreshId config)
    [request (class3 1 1), request (exclusiveOwner 2 1 multicast)]
    (fun st => st.connectionList config = [.exclusiveOwner 0, .explicit 0] ∧
      (st.conn (.explicit 0)).state = .established ∧
      (st.conn (.exclusiveOwner 0)).state = .established)
    (by decide +kernel)
  exact ⟨st, hreaches, of_decide_eq_true hst, consumed_id_unique hreaches⟩

open SampleApplication in
/-- Two originators ask for class 3 connections whose O->T direction is multicast
under the same id; only the later connection is found by it. -/
theorem consumed_id_shared_sample :
    ∃ st, Reachable config st ∧
      (.explicit 0 ∈ st.connectionList config ∧ .explicit 1 ∈ st.connectionList config ∧
        (st.conn (.explicit 0)).state = .established ∧
        (st.conn (.explicit 1)).state = .established ∧
        (st.conn (.explicit 0)).cipConsumedConnectionId =
          (st.conn (.explicit 1)).cipConsumedConnectionId) ∧
      st.getConnectedObject config (st.conn (.explicit 0)).cipConsumedConnectionId ≠
        some (.explicit 0) := by
  obtain ⟨st, hreachable, hst⟩ := reachable_of_ends config
    [request { class3 1 1 with oToTParameters := multicast + 16 },
      request { class3 2 2 with oToTParameters := multicast + 16 }]
    (fun st => (.explicit 0 ∈ st.connectionList config ∧
        .explicit 1 ∈ st.connectionList config ∧
        (st.conn (.explicit 0)).state = .established ∧
        (st.conn (.explicit 1)).state = .established ∧
        (st.conn (.explicit 0)).cipConsumedConnectionId =
          (st.conn (.explicit 1)).cipConsumedConnectionId) ∧
      st.getConnectedObject config (st.conn (.explicit 0)).cipConsumedConnectionId ≠
        some (.explicit 0))
    (by decide +kernel)
  exact ⟨st, hreachable, of_decide_eq_true hst⟩

end StackState

end Opener

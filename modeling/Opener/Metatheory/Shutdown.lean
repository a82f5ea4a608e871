import Opener.Metatheory.Transitions

/-!
`CloseAllConnections`. Each turn of its loop closes the connection at the head of the
list, whatever else that closes or hands over; so the list gets shorter until it is
empty.
-/

namespace Opener

namespace StackState

variable {cfg : Config} {st : StackState} {ns : List Nat}

/-- Closing the connection at the head takes at least its node from the list. -/
theorem connectionCloseFunction_shorter {n : Nat} (h : st.Listed cfg (n :: ns))
    (hregular : Regular cfg (st.view cfg)) :
    ∃ r st' ns', (st.nodes n).data = some r ∧ st.connectionCloseFunction cfg r = .ok st' ∧
      st'.Listed cfg ns' ∧ Regular cfg (st'.view cfg) ∧ Frame st st' ∧
      ns'.length ≤ ns.length := by
  obtain ⟨r, hdata, hr⟩ := h.data List.mem_cons_self
  obtain ⟨st', ns', hclose, hshrunk⟩ := connectionCloseFunction_ok h hregular.closable hr
  refine ⟨r, st', ns', hdata, hclose, hshrunk.listed, ?_, hshrunk.frame, ?_⟩
  · rw [hshrunk.view_eq]
    exact (hregular.vacate hr).1.without _
  · have hgone : n ∉ ns' := by
      intro hn
      have hmem := (h.mem_trimmed hshrunk.listed hshrunk.trimmed List.mem_cons_self hdata).mp hn
      have hview : st'.store.connectionList.members cfg.nodesAmount =
          ((st.view cfg).closed r).members := congrArg View.members hshrunk.view_eq
      rw [hview] at hmem
      simp [View.closed] at hmem
    have hsub : ns'.Sublist ns := by
      refine (List.sublist_cons_iff.mp hshrunk.trimmed.sublist).resolve_right ?_
      rintro ⟨_, heq, -⟩
      exact hgone (heq ▸ List.mem_cons_self)
    exact hsub.length_le

theorem closeFirstConnections_ok {fuel : Nat} (h : st.Listed cfg ns)
    (hregular : Regular cfg (st.view cfg)) (hfuel : ns.length ≤ fuel) :
    ∃ st', st.closeFirstConnections cfg fuel = .ok st' ∧ st'.Listed cfg [] ∧
      Regular cfg (st'.view cfg) ∧ Frame st st' := by
  induction fuel generalizing st ns with
  | zero =>
      obtain rfl := List.eq_nil_of_length_eq_zero (Nat.le_zero.mp hfuel)
      have hfirst := h.links.first_eq
      refine ⟨st, ?_, h, hregular, .refl st⟩
      rw [closeFirstConnections, hfirst]
      rfl
  | succ fuel ih =>
      have hfirst := h.links.first_eq
      cases ns with
      | nil =>
          refine ⟨st, ?_, h, hregular, .refl st⟩
          rw [closeFirstConnections, hfirst]
          rfl
      | cons n ns =>
          obtain ⟨r, st₁, ns₁, hdata, hclose, hlisted, hregular₁, hframe, hshorter⟩ :=
            connectionCloseFunction_shorter h hregular
          rw [List.length_cons] at hfuel
          obtain ⟨st', hrest, hempty, hregular', hframe'⟩ := ih hlisted hregular₁ (by omega)
          refine ⟨st', ?_, hempty, hregular', hframe.trans hframe'⟩
          rw [closeFirstConnections, hfirst]
          simp only [List.head?_cons, hdata, hclose]
          exact hrest

/-- From every reachable state `CloseAllConnections` returns; the list is then empty, no
pool object is in use and every node can be allocated again. -/
theorem closeAllConnections_empties (h : Reachable cfg st) :
    ∃ st', st.closeAllConnections cfg = .ok st' ∧ st'.connectionList cfg = [] ∧
      st'.store.connectionList.first = none ∧ st'.store.connectionList.last = none ∧
      (∀ r, (st'.conn r).state = .nonExistent) ∧
      ∀ n, st'.store.connectionList.nodes n = {} := by
  have hsound := h.sound
  obtain ⟨ns, hlisted⟩ := hsound.wellFormed
  obtain ⟨st', hcall, hempty, hregular, -⟩ :=
    closeFirstConnections_ok hlisted hsound.regular hlisted.length_le
  have hmembers : st'.connectionList cfg = [] := hempty.members_eq
  refine ⟨st', hcall, hmembers, hempty.links.first_eq, hempty.links.last_eq, fun r => ?_,
    fun n => hempty.links.free n List.not_mem_nil⟩
  have hidle := hregular.idle r (by rw [view_members, hmembers]; exact List.not_mem_nil)
  exact hidle.state

open SampleApplication in
/-- An exclusive owner and two input-only connections on the same multicast data, with a
class 3 connection opened before them. -/
theorem closeAllConnections_empties_sample :
    ∃ st, Reachable config st ∧ (st.connectionList config).length = 4 ∧
      ∃ st', st.closeAllConnections config = .ok st' ∧ st'.connectionList config = [] ∧
        st'.store.connectionList.first = none ∧ st'.store.connectionList.last = none ∧
        (∀ r, (st'.conn r).state = .nonExistent) ∧
        ∀ n, st'.store.connectionList.nodes n = {} := by
  obtain ⟨st, hreachable, hst⟩ := reachable_of_ends config
    [request (class3 1 1), request (exclusiveOwner 2 1 multicast),
      request (inputOnly 3 1 multicast), request (inputOnly 4 1 multicast)]
    (fun st => (st.connectionList config).length = 4) (by decide +kernel)
  exact ⟨st, hreachable, of_decide_eq_true hst, closeAllConnections_empties hreachable⟩

end StackState

end Opener

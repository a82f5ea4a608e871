import Opener.Core.ActiveConnections

/-!
`connection_list` as a list of connections. `WellFormed` says that the nodes of
the static array form a chain and that no connection is linked twice; adding and
removing a connection is then consing and erasing.
-/

namespace Opener

open LinkedCells

namespace DoublyLinkedList

variable {α : Type} {list : DoublyLinkedList α} {ns : List Nat}

/-- The list's nodes, in order. -/
def Links (list : DoublyLinkedList α) (ns : List Nat) : Prop :=
  Chain list.nodes list.first list.last ns

theorem removeNode_links (h : list.Links ns) {pre post : List Nat} {n : Nat}
    (hns : ns = pre ++ n :: post) : (list.removeNode n).Links (pre ++ post) := by
  have hchain := h.unlink hns
  have hprev := h.previous_eq hns
  have hnext := h.next_eq hns
  have hnodup : (pre ++ n :: post).Nodup := hns ▸ h.nodup
  have hnpre : n ∉ pre := fun hmem =>
    (List.nodup_append.mp hnodup).2.2 n hmem n List.mem_cons_self rfl
  have hnpost : n ∉ post := (List.nodup_cons.mp (List.nodup_append.mp hnodup).2.1).1
  have hfirst : list.first = (pre ++ n :: post).head? := hns ▸ h.first_eq
  have hlast : list.last = (pre ++ n :: post).getLast? := hns ▸ h.last_eq
  have hfirst_iff : list.first = some n ↔ pre = [] := by
    rw [hfirst]
    cases pre with
    | nil => simp
    | cons p rest =>
        have hpn : p ≠ n := fun heq => hnpre (heq ▸ List.mem_cons_self)
        simp [hpn]
  have hlast_iff : list.last = some n ↔ post = [] := by
    rw [hlast]
    cases hp : post with
    | nil => simp
    | cons q rest =>
        have hne : (n :: q :: rest).getLast? ≠ some n := by
          rw [List.getLast?_cons_cons]
          intro heq
          exact hnpost (hp ▸ List.mem_of_getLast? heq)
        simpa [List.getLast?_append, List.getLast?_cons_cons] using hne
  unfold removeNode
  by_cases honly : list.first = some n ∧ list.last = some n
  · rw [if_pos honly]
    obtain ⟨hf, hl⟩ := honly
    have hpre : pre = [] := hfirst_iff.mp hf
    have hpost : post = [] := hlast_iff.mp hl
    subst hpre hpost
    have hcells : LinkedCells.unlink list.nodes n = Function.update list.nodes n {} := by
      unfold LinkedCells.unlink
      rw [hprev, hnext]
      rfl
    change Chain (Function.update list.nodes n {}) none none []
    rw [← hcells]
    exact hchain
  · rw [if_neg honly]
    have hf : (if list.first = some n then (list.nodes n).next else list.first) =
        (pre ++ post).head? := by
      by_cases hp : pre = []
      · rw [if_pos (hfirst_iff.mpr hp), hnext, hp, List.nil_append]
      · rw [if_neg (fun hf => hp (hfirst_iff.mp hf)), hfirst]
        cases pre with
        | nil => exact absurd rfl hp
        | cons p rest => rfl
    have hl : (if list.last = some n then (list.nodes n).previous else list.last) =
        (pre ++ post).getLast? := by
      by_cases hp : post = []
      · rw [if_pos (hlast_iff.mpr hp), hprev, hp, List.append_nil]
      · rw [if_neg (fun hl => hp (hlast_iff.mp hl)), hlast]
        cases post with
        | nil => exact absurd rfl hp
        | cons q rest =>
            rw [List.getLast?_append, List.getLast?_append, List.getLast?_cons_cons]
    simp only [hf, hl]
    exact hchain

theorem insertAtHead_links (h : list.Links ns) {n : Nat} (hn : n ∉ ns) (a : α) :
    ∃ list', list.insertAtHead (some n) a = .ok list' ∧ list'.Links (n :: ns) ∧
      list'.nodes = push list.nodes list.first n a := by
  have hchain := h.push hn a
  unfold insertAtHead
  cases hf : list.first with
  | none =>
      rw [hf] at hchain
      have hnil : ns = [] := by
        have := h.first_eq
        rw [hf] at this
        exact List.head?_eq_none_iff.mp this.symm
      subst hnil
      exact ⟨_, rfl, hchain, rfl⟩
  | some f =>
      rw [hf] at hchain
      refine ⟨_, rfl, ?_, rfl⟩
      have hlast : (n :: ns).getLast? = list.last := by
        rw [h.last_eq]
        cases ns with
        | nil =>
            have := h.first_eq
            rw [hf] at this
            cases this
        | cons m rest => rw [List.getLast?_cons_cons]
      rw [hlast] at hchain
      exact hchain

theorem listArrayAllocator_eq_some (h : list.Links ns) {amount n : Nat}
    (ha : list.listArrayAllocator amount = some n) : n ∉ ns ∧ n < amount := by
  have hmem := List.mem_of_find?_eq_some ha
  have hfree := List.find?_some ha
  refine ⟨?_, List.mem_range.mp hmem⟩
  intro hn
  have hdata := h.data_isSome hn
  cases hd : (list.nodes n).data with
  | none => rw [hd] at hdata; cases hdata
  | some a => simp [hd] at hfree

/-- The allocator finds a node exactly when not all of them are linked. -/
theorem listArrayAllocator_isSome_iff (h : list.Links ns) {amount : Nat}
    (hns : ∀ n ∈ ns, n < amount) :
    (list.listArrayAllocator amount).isSome ↔ ns.length < amount := by
  constructor
  · intro hsome
    obtain ⟨n, hn⟩ := Option.isSome_iff_exists.mp hsome
    obtain ⟨hmem, hlt⟩ := listArrayAllocator_eq_some h hn
    have hsub : n :: ns ⊆ List.range amount := by
      intro m hm
      rcases List.mem_cons.mp hm with rfl | hm
      · exact List.mem_range.mpr hlt
      · exact List.mem_range.mpr (hns m hm)
    have hle := (List.nodup_cons.mpr ⟨hmem, h.nodup⟩).length_le_of_subset hsub
    rw [List.length_range] at hle
    exact hle
  · intro hlt
    by_contra hnone
    have hall : ∀ m ∈ List.range amount, m ∈ ns := by
      intro m hm
      by_contra hmem
      have hfind : list.listArrayAllocator amount = none := by
        simpa using hnone
      have := List.find?_eq_none.mp hfind m hm
      simp [h.free m hmem] at this
    have hle := List.nodup_range.length_le_of_subset hall
    simp only [List.length_range] at hle
    omega

/-- The nodes lie in the static array and no data is linked twice. -/
structure Listing (list : DoublyLinkedList α) (amount : Nat) (ns : List Nat) : Prop where
  links : list.Links ns
  bounded : ∀ n ∈ ns, n < amount
  nodup : (contents list.nodes ns).Nodup

/-- Some nodes were unlinked and the data of the others is what it was. -/
structure Trimmed (list : DoublyLinkedList α) (ns : List Nat)
    (list' : DoublyLinkedList α) (ns' : List Nat) : Prop where
  sublist : ns'.Sublist ns
  data_eq : ∀ n ∈ ns', (list'.nodes n).data = (list.nodes n).data

theorem Trimmed.refl (list : DoublyLinkedList α) (ns : List Nat) :
    Trimmed list ns list ns :=
  ⟨List.Sublist.refl ns, fun _ _ => rfl⟩

theorem Trimmed.trans {list₁ list₂ list₃ : DoublyLinkedList α} {ns₁ ns₂ ns₃ : List Nat}
    (h : Trimmed list₁ ns₁ list₂ ns₂) (h' : Trimmed list₂ ns₂ list₃ ns₃) :
    Trimmed list₁ ns₁ list₃ ns₃ := by
  refine ⟨h'.sublist.trans h.sublist, fun n hn => ?_⟩
  rw [h'.data_eq n hn, h.data_eq n (h'.sublist.subset hn)]

namespace Listing

variable {amount : Nat}

theorem length_le (h : list.Listing amount ns) : ns.length ≤ amount := by
  have hsub : ns ⊆ List.range amount := fun n hn => List.mem_range.mpr (h.bounded n hn)
  simpa using h.links.nodup.length_le_of_subset hsub

theorem nodeNumbers_eq (h : list.Listing amount ns) : list.nodeNumbers amount = ns :=
  h.links.follow_eq h.length_le

theorem members_eq (h : list.Listing amount ns) :
    list.members amount = contents list.nodes ns := by
  unfold members
  rw [h.nodeNumbers_eq]

theorem length_members (h : list.Listing amount ns) :
    (list.members amount).length = ns.length := by
  rw [h.members_eq]
  have hall : ∀ n ∈ ns, ((list.nodes n).data).isSome := fun n hn => h.links.data_isSome hn
  clear h
  induction ns with
  | nil => rfl
  | cons n ns ih =>
      obtain ⟨a, ha⟩ := Option.isSome_iff_exists.mp (hall n List.mem_cons_self)
      rw [contents_cons ha, List.length_cons, List.length_cons,
        ih fun m hm => hall m (List.mem_cons_of_mem n hm)]

theorem mem_members (h : list.Listing amount ns) {a : α} :
    a ∈ list.members amount ↔ ∃ n ∈ ns, (list.nodes n).data = some a := by
  rw [h.members_eq]
  exact mem_contents

/-- A node of the list splits nodes and data alike. -/
theorem split_members (h : list.Listing amount ns) {pre post : List Nat} {n : Nat} {a : α}
    (hns : ns = pre ++ n :: post) (ha : (list.nodes n).data = some a) :
    list.members amount = contents list.nodes pre ++ a :: contents list.nodes post := by
  rw [h.members_eq, hns, contents_append, contents_cons ha]

theorem node_unique (h : list.Listing amount ns) {n m : Nat} {a : α}
    (hn : n ∈ ns) (hm : m ∈ ns) (hna : (list.nodes n).data = some a)
    (hma : (list.nodes m).data = some a) : n = m := by
  by_contra hne
  obtain ⟨pre, post, hns⟩ := List.append_of_mem hn
  have hsplit := h.split_members hns hna
  have hnodup := h.nodup
  rw [← h.members_eq, hsplit] at hnodup
  have hmem : m ∈ pre ++ post := by
    rw [hns, List.mem_append, List.mem_cons] at hm
    rcases hm with hp | rfl | hp
    · exact List.mem_append_left post hp
    · exact absurd rfl hne
    · exact List.mem_append_right pre hp
  refine (List.nodup_cons.mp (List.nodup_middle.mp hnodup)).1 ?_
  rw [← contents_append]
  exact mem_contents.mpr ⟨m, hmem, hma⟩

/-- After a trim a node stays exactly when its data stays. -/
theorem mem_trimmed (h : list.Listing amount ns) {list' : DoublyLinkedList α}
    {ns' : List Nat} (h' : list'.Listing amount ns') (ht : Trimmed list ns list' ns')
    {n : Nat} {a : α} (hn : n ∈ ns) (ha : (list.nodes n).data = some a) :
    n ∈ ns' ↔ a ∈ list'.members amount := by
  rw [h'.mem_members]
  constructor
  · intro hn'
    exact ⟨n, hn', (ht.data_eq n hn').trans ha⟩
  · rintro ⟨m, hm, hma⟩
    have hdata := (ht.data_eq m hm).symm.trans hma
    rwa [h.node_unique hn (ht.sublist.subset hm) ha hdata]

theorem removeNode (h : list.Listing amount ns) {pre post : List Nat} {n : Nat}
    (hns : ns = pre ++ n :: post) :
    (list.removeNode n).Listing amount (pre ++ post) ∧
      Trimmed list ns (list.removeNode n) (pre ++ post) := by
  have hlinks := removeNode_links h.links hns
  have hsub : (pre ++ post).Sublist ns := by
    rw [hns]
    exact List.Sublist.append_left (List.sublist_cons_self n post) pre
  have hdata : ∀ m ∈ pre ++ post,
      ((list.removeNode n).nodes m).data = (list.nodes m).data := by
    intro m hm
    have hne : m ≠ n := by
      rintro rfl
      have hnodup : (pre ++ m :: post).Nodup := hns ▸ h.links.nodup
      exact (List.nodup_cons.mp (List.nodup_middle.mp hnodup)).1 hm
    unfold DoublyLinkedList.removeNode
    split
    · change (Function.update list.nodes n {} m).data = (list.nodes m).data
      rw [Function.update_of_ne hne]
    · exact unlink_data list.nodes hne
  refine ⟨⟨hlinks, fun m hm => h.bounded m (hsub.subset hm), ?_⟩, hsub, hdata⟩
  rw [contents_congr hdata]
  exact h.nodup.sublist (List.Sublist.filterMap _ hsub)

theorem insertAtHead (h : list.Listing amount ns) {n : Nat} {a : α}
    (halloc : list.listArrayAllocator amount = some n) (ha : a ∉ list.members amount) :
    ∃ list', list.insertAtHead (some n) a = .ok list' ∧ list'.Listing amount (n :: ns) ∧
      list'.members amount = a :: list.members amount := by
  obtain ⟨hn, hlt⟩ := listArrayAllocator_eq_some h.links halloc
  obtain ⟨list', hins, hlinks, hnodes⟩ := insertAtHead_links h.links hn a
  have hfirst : list.first ≠ some n := by
    intro hf
    rw [h.links.first_eq] at hf
    exact hn (List.mem_of_head? hf)
  have hself : (list'.nodes n).data = some a := by
    rw [hnodes]
    exact push_data_self list.nodes a hfirst
  have hrest : contents list'.nodes ns = contents list.nodes ns := by
    refine contents_congr fun m hm => ?_
    have hmn : m ≠ n := fun heq => hn (heq ▸ hm)
    rw [hnodes, push_data_of_ne list.nodes a hmn]
  have hcontents : contents list'.nodes (n :: ns) = a :: list.members amount := by
    rw [h.members_eq, ← hrest, contents_cons hself]
  have hlisting : list'.Listing amount (n :: ns) := by
    refine ⟨hlinks, ?_, ?_⟩
    · intro m hm
      rcases List.mem_cons.mp hm with rfl | hm
      · exact hlt
      · exact h.bounded m hm
    · rw [hcontents, List.nodup_cons]
      exact ⟨ha, h.members_eq ▸ h.nodup⟩
  exact ⟨list', hins, hlisting, hlisting.members_eq.trans hcontents⟩

end Listing

end DoublyLinkedList

namespace StackState

variable {cfg : Config} {st : StackState}

/-- The nodes of `connection_list`, whose members are distinct connections. -/
def Listed (cfg : Config) (st : StackState) (ns : List Nat) : Prop :=
  st.store.connectionList.Listing cfg.nodesAmount ns

def WellFormed (cfg : Config) (st : StackState) : Prop := ∃ ns, st.Listed cfg ns

/-- `st'` lists what `st` lists, less some nodes. -/
def Trimmed (st : StackState) (ns : List Nat) (st' : StackState) (ns' : List Nat) : Prop :=
  DoublyLinkedList.Trimmed st.store.connectionList ns st'.store.connectionList ns'

theorem Listed.mem {ns : List Nat} (h : st.Listed cfg ns) {r : ConnRef} :
    r ∈ st.connectionList cfg ↔ ∃ n ∈ ns, (st.nodes n).data = some r :=
  DoublyLinkedList.Listing.mem_members h

theorem WellFormed.nodup (h : st.WellFormed cfg) : (st.connectionList cfg).Nodup := by
  obtain ⟨ns, hns⟩ := h
  have := hns.nodup
  rwa [← hns.members_eq] at this

theorem listed_initialState (cfg : Config) (assemblyData : UInt16 → List UInt8) :
    (initialState cfg assemblyData).Listed cfg [] := by
  refine ⟨⟨List.nodup_nil, trivial, rfl, rfl, fun _ _ => rfl⟩, ?_, List.nodup_nil⟩
  intro n hn
  exact absurd hn List.not_mem_nil

/-- Only the list is written. -/
theorem removeFromActiveConnections_eq (cfg : Config) (st : StackState) (r : ConnRef) :
    ∃ list, st.removeFromActiveConnections cfg r =
      { st with store := { st.store with connectionList := list } } := by
  simp only [removeFromActiveConnections]
  split
  · exact ⟨st.store.connectionList, rfl⟩
  · exact ⟨_, rfl⟩

/-- Removing a connection takes its node out, and leaves the list alone when the
connection has none. -/
theorem removeFromActiveConnections_listed {ns : List Nat} (h : st.Listed cfg ns)
    (r : ConnRef) :
    ∃ ns', (st.removeFromActiveConnections cfg r).Listed cfg ns' ∧
      st.Trimmed ns (st.removeFromActiveConnections cfg r) ns' ∧
      (st.removeFromActiveConnections cfg r).connectionList cfg =
        (st.connectionList cfg).filter (fun s => s ≠ r) := by
  simp only [removeFromActiveConnections, h.nodeNumbers_eq]
  cases hfind : ns.find? fun n => (st.store.connectionList.nodes n).data = some r with
  | none =>
      refine ⟨ns, h, DoublyLinkedList.Trimmed.refl _ ns, ?_⟩
      symm
      refine List.filter_eq_self.mpr fun s hs => ?_
      obtain ⟨n, hn, hdata⟩ := h.mem.mp hs
      have hnot := List.find?_eq_none.mp hfind n hn
      refine decide_eq_true ?_
      rintro rfl
      exact hnot (decide_eq_true hdata)
  | some n =>
      have hn := List.mem_of_find?_eq_some hfind
      have hdata : (st.store.connectionList.nodes n).data = some r := by
        simpa using List.find?_some hfind
      obtain ⟨pre, post, hns⟩ := List.append_of_mem hn
      obtain ⟨hlisting, htrim⟩ := DoublyLinkedList.Listing.removeNode h hns
      refine ⟨pre ++ post, hlisting, htrim, ?_⟩
      have hsplit := DoublyLinkedList.Listing.split_members h hns hdata
      have hnodup := h.nodup
      rw [← h.members_eq, hsplit] at hnodup
      have hne : ∀ s ∈ contents st.store.connectionList.nodes pre ++
          contents st.store.connectionList.nodes post, s ≠ r := by
        rintro s hs rfl
        exact (List.nodup_cons.mp (List.nodup_middle.mp hnodup)).1 hs
      have hafter : (st.store.connectionList.removeNode n).members cfg.nodesAmount =
          contents st.store.connectionList.nodes pre ++
            contents st.store.connectionList.nodes post := by
        rw [hlisting.members_eq, contents_congr htrim.data_eq, contents_append]
      have hbefore : st.connectionList cfg = contents st.store.connectionList.nodes pre ++
          r :: contents st.store.connectionList.nodes post := hsplit
      rw [hbefore]
      refine hafter.trans ?_
      rw [List.filter_append, List.filter_cons_of_neg (by simp), ← List.filter_append]
      symm
      exact List.filter_eq_self.mpr fun s hs => decide_eq_true (hne s hs)

/-- `AddNewActiveConnection` gets a node exactly while the list is shorter than
the node array. -/
theorem allocator_isSome_iff {ns : List Nat} (h : st.Listed cfg ns) :
    (st.store.connectionList.listArrayAllocator cfg.nodesAmount).isSome ↔
      (st.connectionList cfg).length < cfg.nodesAmount := by
  rw [DoublyLinkedList.listArrayAllocator_isSome_iff h.links h.bounded]
  unfold connectionList
  rw [DoublyLinkedList.Listing.length_members h]

theorem addNewActiveConnection_error {r : ConnRef} {fault : Fault}
    (hadd : st.addNewActiveConnection cfg r = .error fault) :
    fault = .nodesExhausted ∧
      st.store.connectionList.listArrayAllocator cfg.nodesAmount = none := by
  unfold addNewActiveConnection at hadd
  cases halloc : st.store.connectionList.listArrayAllocator cfg.nodesAmount with
  | none =>
      simp only [halloc, DoublyLinkedList.insertAtHead, Except.error.injEq] at hadd
      exact ⟨hadd.symm, rfl⟩
  | some n =>
      simp only [halloc, DoublyLinkedList.insertAtHead] at hadd
      cases hfirst : st.store.connectionList.first <;> simp [hfirst] at hadd

/-- A connection that is not listed yet is put in front and becomes established. -/
theorem addNewActiveConnection_ok {ns : List Nat} (h : st.Listed cfg ns) {r : ConnRef}
    (hr : r ∉ st.connectionList cfg) {st' : StackState}
    (hadd : st.addNewActiveConnection cfg r = .ok st') :
    ∃ list, st' = modifyConn { st with store := { st.store with connectionList := list } } r
        (fun c => c.setState .established) ∧
      (∃ n, st'.Listed cfg (n :: ns)) ∧
      st'.connectionList cfg = r :: st.connectionList cfg := by
  unfold addNewActiveConnection at hadd
  cases halloc : st.store.connectionList.listArrayAllocator cfg.nodesAmount with
  | none => simp [halloc, DoublyLinkedList.insertAtHead] at hadd
  | some n =>
      obtain ⟨list, hins, hlisting, hmembers⟩ :=
        DoublyLinkedList.Listing.insertAtHead h halloc hr
      simp only [halloc, hins, Except.ok.injEq] at hadd
      subst hadd
      exact ⟨list, rfl, ⟨n, hlisting⟩, hmembers⟩

end StackState

end Opener

import Mathlib.Data.UInt
import Mathlib.Order.Interval.Finset.Nat
import Opener.Core.Instances
import Opener.Library.Runs

/-!
The instances of a class in every run. The search for a free number starts where all smaller
numbers are in use, so that it ends at the smallest free one before the numbers wrap.
-/

namespace Opener

namespace InstanceTable

def numbers (table : InstanceTable) : List UInt16 := table.instances.map (·.instanceNumber)

def addresses (table : InstanceTable) : List Nat := table.instances.map (·.address)

/-- The number of an instance tells it from all others, and none is the number of the class. -/
structure Distinct (table : InstanceTable) : Prop where
  numbers_nodup : table.numbers.Nodup
  addresses_nodup : table.addresses.Nodup
  zero_not_mem : 0 ∉ table.numbers
  count : table.numberOfInstances.toNat = table.instances.length

/-- The attributes of the class describe its instances. -/
structure WellFormed (table : InstanceTable) : Prop extends Distinct table where
  le_maxInstance : ∀ number ∈ table.numbers, number ≤ table.maxInstance
  maxInstance_mem : table.maxInstance ∈ table.numbers ∨
    table.instances = [] ∧ table.maxInstance = 0

end InstanceTable

open InstanceTable

section Search

variable {instances : List CipInstanceNode} {number free : UInt16}

theorem exists_free (h : instances.length < 65535) :
    ∃ free, free ≠ 0 ∧ free ∉ instances.map (·.instanceNumber) := by
  have hcard : ((instances.map (·.instanceNumber.toNat)).toFinset).card <
      (Finset.Ico 1 65536).card := by
    rw [Nat.card_Ico]
    exact (List.toFinset_card_le _).trans_lt (by rwa [List.length_map])
  obtain ⟨number, hnumber, hunused⟩ := Finset.exists_mem_notMem_of_card_lt_card hcard
  obtain ⟨hpos, hlt⟩ := Finset.mem_Ico.mp hnumber
  have htoNat : (UInt16.ofNat number).toNat = number := UInt16.toNat_ofNat_of_lt' hlt
  refine ⟨UInt16.ofNat number, ?_, ?_⟩
  · rintro hzero
    rw [hzero] at htoNat
    exact (Nat.pos_iff_ne_zero.mp hpos) htoNat.symm
  · intro hmem
    obtain ⟨inst, hinst, hused⟩ := List.mem_map.mp hmem
    exact hunused (List.mem_toFinset.mpr (List.mem_map.mpr ⟨inst, hinst, by rw [hused, htoNat]⟩))

theorem toNat_add_one {bound : UInt16} (h : number.toNat < bound.toNat) :
    (number + 1).toNat = number.toNat + 1 := by
  have hbound := bound.toNat_lt
  have hone : (1 : UInt16).toNat = 1 := rfl
  rw [UInt16.toNat_add, hone]
  exact Nat.mod_eq_of_lt (by omega)

theorem findFreeNumber_spec (attempts : Nat)
    (hfree : free ∉ instances.map (·.instanceNumber)) (hle : number.toNat ≤ free.toNat)
    (hattempts : free.toNat - number.toNat < attempts) :
    ∃ found, findFreeNumber instances attempts number = .ok found ∧
      number.toNat ≤ found.toNat ∧ found ∉ instances.map (·.instanceNumber) ∧
      ∀ used : UInt16, number.toNat ≤ used.toNat → used.toNat < found.toNat →
        used ∈ instances.map (·.instanceNumber) := by
  induction attempts generalizing number with
  | zero => exact absurd hattempts (Nat.not_lt_zero _)
  | succ attempts ih =>
      rw [findFreeNumber]
      have hany : instances.any (·.instanceNumber = number) = true ↔
          number ∈ instances.map (·.instanceNumber) := by
        simp [List.any_eq_true]
      by_cases hused : number ∈ instances.map (·.instanceNumber)
      · rw [if_pos (hany.mpr hused)]
        have hne : number.toNat ≠ free.toNat := fun h => hfree (UInt16.toNat_inj.mp h ▸ hused)
        have hnext := toNat_add_one (lt_of_le_of_ne hle hne)
        have hnextLe : (number + 1).toNat ≤ free.toNat := by omega
        obtain ⟨found, hfound, hfrom, hunused, hbelow⟩ := ih hnextLe (by omega)
        refine ⟨found, hfound, by omega, hunused, fun used hge hlt => ?_⟩
        rcases eq_or_ne used number with rfl | hneUsed
        · exact hused
        · have hneNat : used.toNat ≠ number.toNat := fun h => hneUsed (UInt16.toNat_inj.mp h)
          exact hbelow used (by omega) hlt
      · rw [if_neg fun h => hused (hany.mp h)]
        exact ⟨number, rfl, le_refl _, hused, fun used hge hlt => absurd hlt (by omega)⟩

end Search

section Maximum

variable {instances : List CipInstanceNode}

theorem foldl_max_spec (maxInstance : UInt16) :
    let result := instances.foldl (fun maxInstance inst =>
      if inst.instanceNumber > maxInstance then inst.instanceNumber else maxInstance) maxInstance
    maxInstance ≤ result ∧ (∀ inst ∈ instances, inst.instanceNumber ≤ result) ∧
      (result = maxInstance ∨ result ∈ instances.map (·.instanceNumber)) := by
  induction instances generalizing maxInstance with
  | nil => exact ⟨UInt16.le_refl _, fun _ h => absurd h List.not_mem_nil, .inl rfl⟩
  | cons inst instances ih =>
      rw [List.foldl_cons]
      by_cases hlarger : inst.instanceNumber > maxInstance
      · rw [if_pos hlarger]
        obtain ⟨hle, hall, hresult⟩ := ih inst.instanceNumber
        refine ⟨UInt16.le_trans (UInt16.le_of_lt hlarger) hle,
          List.forall_mem_cons.mpr ⟨hle, hall⟩, .inr ?_⟩
        exact List.mem_cons.mpr hresult
      · rw [if_neg hlarger]
        obtain ⟨hle, hall, hresult⟩ := ih maxInstance
        exact ⟨hle, List.forall_mem_cons.mpr
          ⟨UInt16.le_trans (UInt16.not_lt.mp hlarger) hle, hall⟩,
          hresult.imp_right (List.mem_cons_of_mem _)⟩

/-- The largest number is that of an instance, or 0 without instances. -/
theorem getMaxInstanceNumber_spec (instances : List CipInstanceNode) :
    (∀ inst ∈ instances, inst.instanceNumber ≤ getMaxInstanceNumber instances) ∧
      (getMaxInstanceNumber instances = 0 ∨
        getMaxInstanceNumber instances ∈ instances.map (·.instanceNumber)) :=
  (foldl_max_spec 0).2

end Maximum

namespace InstanceTable

variable {table : InstanceTable}

theorem Distinct.updateMaxInstance (h : table.Distinct) : table.updateMaxInstance.WellFormed := by
  obtain ⟨hle, hmax⟩ := getMaxInstanceNumber_spec table.instances
  refine { toDistinct := ⟨h.1, h.2, h.3, h.4⟩, le_maxInstance := ?_, maxInstance_mem := ?_ }
  · intro number hnumber
    obtain ⟨inst, hinst, rfl⟩ := List.mem_map.mp hnumber
    exact hle inst hinst
  · rcases hmax with hzero | hmem
    · refine .inr ⟨?_, hzero⟩
      -- a number of at most 0 would be that of the class
      refine List.eq_nil_iff_forall_not_mem.mpr fun inst hinst => h.zero_not_mem ?_
      have hnumber : inst.instanceNumber = 0 := UInt16.le_zero_iff.mp (hzero ▸ hle inst hinst)
      exact hnumber ▸ List.mem_map_of_mem hinst
    · exact .inl hmem

theorem nodup_append_singleton {α : Type} {list : List α} {last : α} (h : list.Nodup)
    (hlast : last ∉ list) : (list ++ [last]).Nodup := by
  rw [← List.concat_eq_append]
  exact List.Nodup.concat hlast h

@[simp] theorem numbers_link (table : InstanceTable) (inst : CipInstanceNode) :
    (table.link inst).numbers = table.numbers ++ [inst.instanceNumber] := List.map_append

theorem Distinct.link (h : table.Distinct) {inst : CipInstanceNode}
    (hnumber : inst.instanceNumber ∉ table.numbers) (hne : inst.instanceNumber ≠ 0)
    (haddress : inst.address ∉ table.addresses) (hfits : table.instances.length < 65535) :
    (table.link inst).Distinct where
  numbers_nodup := by
    rw [numbers_link]
    exact nodup_append_singleton h.numbers_nodup hnumber
  addresses_nodup := by
    have haddresses : (table.link inst).addresses = table.addresses ++ [inst.address] :=
      List.map_append
    rw [haddresses]
    exact nodup_append_singleton h.addresses_nodup haddress
  zero_not_mem := by
    rw [numbers_link, List.mem_append, List.mem_singleton, not_or]
    exact ⟨h.zero_not_mem, hne.symm⟩
  count := by
    have hone : (1 : UInt16).toNat = 1 := rfl
    have hcount := h.count
    change (table.numberOfInstances + 1).toNat = (table.instances ++ [inst]).length
    rw [UInt16.toNat_add, hone, hcount, List.length_append, List.length_singleton]
    exact Nat.mod_eq_of_lt (by omega)

/-- What the loop of `AddCipInstances` adds behind the instances that are there. -/
theorem allocateInstances_spec (allocator : Allocator) {remaining : Nat} {number : UInt16}
    {first : Option CipInstanceNode} (h : table.Distinct)
    (hfits : table.instances.length + remaining ≤ 65535)
    (hbelow : ∀ used : UInt16, used ≠ 0 → used.toNat < number.toNat → used ∈ table.numbers)
    (hnumber : remaining = 0 ∨ number ≠ 0) :
    ∃ added table', allocateInstances allocator remaining number first table =
        .ok (first.or added.head?, table') ∧
      table'.instances = table.instances ++ added ∧ added.length = remaining ∧
      table'.Distinct := by
  induction remaining generalizing table number first with
  | zero =>
      refine ⟨[], table, ?_, (List.append_nil _).symm, rfl, h⟩
      rw [allocateInstances, List.head?_nil, Option.or_none]
  | succ remaining ih =>
      have hne : number ≠ 0 := hnumber.resolve_left (Nat.succ_ne_zero _)
      obtain ⟨free, hfree, hunused⟩ : ∃ free, free ≠ 0 ∧ free ∉ table.numbers :=
        exists_free (by omega)
      have hle : number.toNat ≤ free.toNat := by
        by_contra hlt
        exact hunused (hbelow free hfree (by omega))
      obtain ⟨found, hfound, hfrom, hnew, hskipped⟩ := findFreeNumber_spec
        numberOfInstanceNumbers hunused hle ((Nat.sub_le _ _).trans_lt free.toNat_lt)
      have hfoundNe : found ≠ 0 := by
        rintro rfl
        exact hne (UInt16.toNat_inj.mp (Nat.le_zero.mp hfrom))
      let inst : CipInstanceNode := ⟨allocator.calloc table.addresses, found⟩
      have hlink : (table.link inst).Distinct :=
        h.link hnew hfoundNe (allocator.fresh table.addresses) (by omega)
      have hlength : (table.link inst).instances.length = table.instances.length + 1 := by
        rw [link, List.length_append, List.length_singleton]
      -- the search for the next one goes on behind a number below which all are in use
      have hbelow' : ∀ used : UInt16, used ≠ 0 → used.toNat ≤ found.toNat →
          used ∈ (table.link inst).numbers := by
        intro used husedNe hused
        rw [numbers_link, List.mem_append, List.mem_singleton]
        rcases Nat.lt_or_eq_of_le hused with hlt | heq
        · rcases Nat.lt_or_ge used.toNat number.toNat with hbefore | hsearched
          · exact .inl (hbelow used husedNe hbefore)
          · exact .inl (hskipped used hsearched hlt)
        · exact .inr (UInt16.toNat_inj.mp heq)
      have hnext : (found + 1).toNat ≤ found.toNat + 1 := by
        rw [UInt16.toNat_add]
        exact Nat.mod_le _ _
      have hnextNe : remaining = 0 ∨ found + 1 ≠ 0 := by
        rcases Nat.eq_zero_or_pos remaining with hzero | hpos
        · exact .inl hzero
        · obtain ⟨free', hfree', hunused'⟩ :
              ∃ free, free ≠ 0 ∧ free ∉ (table.link inst).numbers :=
            exists_free (by omega)
          have hlt : found.toNat < free'.toNat := by
            by_contra hge
            exact hunused' (hbelow' free' hfree' (by omega))
          refine .inr fun hzero => ?_
          have := toNat_add_one hlt
          rw [hzero] at this
          cases this
      obtain ⟨added, table', hallocated, hinstances, hadded, hdistinct⟩ :=
        @ih (table.link inst) (found + 1) (first.or (some inst)) hlink (by omega)
          (fun used husedNe hused => hbelow' used husedNe (by omega)) hnextNe
      refine ⟨inst :: added, table', ?_, ?_, by rw [List.length_cons, hadded], hdistinct⟩
      · rw [allocateInstances]
        simp only [hfound, bind, Except.bind]
        refine hallocated.trans ?_
        rw [Option.or_assoc]
        rfl
      · rw [hinstances, link, List.append_assoc, List.singleton_append]

/-- New instances stand behind the others, and none of them has a number that was in use. -/
theorem addCipInstances_spec (allocator : Allocator) {numberOfInstances : UInt16}
    (h : table.Distinct) (hfits : table.instances.length + numberOfInstances.toNat ≤ 65535) :
    ∃ added table', addCipInstances allocator numberOfInstances table =
        .ok (added.head?, table') ∧
      table'.instances = table.instances ++ added ∧ added.length = numberOfInstances.toNat ∧
      (∀ inst ∈ added, inst.instanceNumber ∉ table.numbers) ∧ table'.WellFormed := by
  obtain ⟨added, table', hallocated, hinstances, hadded, hdistinct⟩ :=
    @allocateInstances_spec table allocator numberOfInstances.toNat 1 none h hfits
      (fun used hne hlt => absurd (UInt16.toNat_inj.mp (Nat.lt_one_iff.mp hlt)) hne)
      (.inr (by decide))
  refine ⟨added, table'.updateMaxInstance, ?_, hinstances, hadded, fun inst hinst hmem => ?_,
    hdistinct.updateMaxInstance⟩
  · rw [addCipInstances, hallocated, Option.none_or]
    rfl
  · have hnodup := hdistinct.numbers_nodup
    rw [numbers, hinstances, List.map_append] at hnodup
    exact (List.nodup_append.mp hnodup).2.2 _ hmem _ (List.mem_map_of_mem hinst) rfl

theorem setInstanceNumber_instances {inst : CipInstanceNode} {instances : List CipInstanceNode}
    (hinstances : table.instances = instances ++ [inst])
    (haddress : inst.address ∉ instances.map (·.address)) (instanceNumber : UInt16) :
    (table.setInstanceNumber inst.address instanceNumber).instances =
      instances ++ [{ inst with instanceNumber }] := by
  have hold : instances.map (fun other =>
      if other.address = inst.address then { other with instanceNumber } else other) =
        instances := by
    refine (List.map_congr_left fun other hother => if_neg fun heq => ?_).trans (List.map_id _)
    exact haddress (heq ▸ List.mem_map_of_mem hother)
  rw [setInstanceNumber, hinstances, List.map_append, hold, List.map_singleton, if_pos rfl]

theorem Distinct.setInstanceNumber (h : table.Distinct) {inst : CipInstanceNode}
    {instances : List CipInstanceNode} (hinstances : table.instances = instances ++ [inst])
    {instanceNumber : UInt16} (hne : instanceNumber ≠ 0)
    (hnew : instanceNumber ∉ instances.map (·.instanceNumber)) :
    (table.setInstanceNumber inst.address instanceNumber).instances =
        instances ++ [{ inst with instanceNumber }] ∧
      (table.setInstanceNumber inst.address instanceNumber).Distinct := by
  have haddresses := h.addresses_nodup
  have hnumbers := h.numbers_nodup
  have hzero := h.zero_not_mem
  rw [addresses, hinstances, List.map_append, List.map_singleton] at haddresses
  rw [numbers, hinstances, List.map_append, List.map_singleton] at hnumbers hzero
  have haddress : inst.address ∉ instances.map (·.address) := fun hmem =>
    (List.nodup_append.mp haddresses).2.2 _ hmem _ (List.mem_singleton_self _) rfl
  have hset := setInstanceNumber_instances hinstances haddress instanceNumber
  refine ⟨hset, ?_, ?_, ?_, ?_⟩
  · rw [numbers, hset, List.map_append, List.map_singleton]
    exact nodup_append_singleton (List.nodup_append.mp hnumbers).1 hnew
  · rw [addresses, hset, List.map_append, List.map_singleton]
    exact haddresses
  · rw [numbers, hset, List.map_append, List.map_singleton, List.mem_append,
      List.mem_singleton, not_or]
    exact ⟨fun hmem => hzero (List.mem_append_left _ hmem), hne.symm⟩
  · have hcount := h.count
    rw [hinstances, List.length_append, List.length_singleton] at hcount
    rw [hset, List.length_append, List.length_singleton]
    exact hcount

theorem getCipInstance_isSome_iff {instanceNumber : UInt16} :
    (table.getCipInstance instanceNumber).isSome = true ↔ instanceNumber ∈ table.numbers := by
  rw [getCipInstance, List.find?_isSome, numbers, List.mem_map]
  simp only [decide_eq_true_eq]

/-- An instance that the caller numbers is added if the number is not in use. -/
theorem addCipInstance_spec (allocator : Allocator) {instanceId : UInt16} (h : table.Distinct)
    (hne : instanceId ≠ 0) (hnew : instanceId ∉ table.numbers)
    (hfits : table.instances.length + 1 ≤ 65535) :
    ∃ address table', addCipInstance allocator instanceId table = .ok table' ∧
      table'.instances = table.instances ++ [⟨address, instanceId⟩] ∧ table'.WellFormed := by
  obtain ⟨added, table', hallocated, hinstances, hadded, -, hwellFormed⟩ :=
    @addCipInstances_spec table allocator 1 h hfits
  obtain ⟨inst, rfl⟩ := List.length_eq_one_iff.mp hadded
  obtain ⟨hset, hdistinct⟩ := hwellFormed.toDistinct.setInstanceNumber hinstances hne hnew
  refine ⟨inst.address, (table'.setInstanceNumber inst.address instanceId).updateMaxInstance, ?_,
    hset, hdistinct.updateMaxInstance⟩
  rw [addCipInstance, if_neg (not_or.mpr ⟨hne, mt getCipInstance_isSome_iff.mp hnew⟩),
    hallocated]
  rfl

theorem addCipInstance_old (allocator : Allocator) {instanceId : UInt16} (h : table.Distinct)
    (hold : instanceId = 0 ∨ instanceId ∈ table.numbers) :
    ∃ table', addCipInstance allocator instanceId table = .ok table' ∧
      table'.instances = table.instances ∧ table'.WellFormed := by
  rw [addCipInstance, if_pos (hold.imp_right getCipInstance_isSome_iff.mpr)]
  exact ⟨_, rfl, rfl, h.updateMaxInstance⟩

theorem unlinkBehind_eq_erase {inst : CipInstanceNode} {instances : List CipInstanceNode}
    (hnodup : (instances.map (·.instanceNumber)).Nodup) (hinst : inst ∈ instances) :
    unlinkBehind inst.instanceNumber instances = instances.erase inst := by
  induction instances with
  | nil => exact absurd hinst List.not_mem_nil
  | cons head instances ih =>
      obtain ⟨hhead, htail⟩ := List.nodup_cons.mp hnodup
      rw [unlinkBehind, List.erase_cons]
      rcases List.mem_cons.mp hinst with rfl | hmem
      · rw [if_pos rfl, if_pos (beq_self_eq_true inst)]
      · have hne : head.instanceNumber ≠ inst.instanceNumber := fun heq =>
          hhead (List.mem_map.mpr ⟨inst, hmem, heq.symm⟩)
        have hother : (head == inst) = false := by
          rw [beq_eq_false_iff_ne]
          exact fun heq => hne (congrArg _ heq)
        rw [if_neg hne, hother, if_neg Bool.false_ne_true, ih htail hmem]

theorem Distinct.erase (h : table.Distinct) {inst : CipInstanceNode}
    (hinst : inst ∈ table.instances) :
    Distinct { table with
      instances := table.instances.erase inst
      numberOfInstances := table.numberOfInstances - 1 } := by
  have hsub : (table.instances.erase inst).Sublist table.instances := List.erase_sublist
  refine ⟨(hsub.map _).nodup h.numbers_nodup, (hsub.map _).nodup h.addresses_nodup,
    fun hmem => h.zero_not_mem ((hsub.map _).subset hmem), ?_⟩
  have hpos : 0 < table.instances.length := List.length_pos_of_mem hinst
  have hone : (1 : UInt16) ≤ table.numberOfInstances :=
    UInt16.le_iff_toNat_le.mpr (by rw [h.count]; exact hpos)
  change (table.numberOfInstances - 1).toNat = (table.instances.erase inst).length
  rw [UInt16.toNat_sub_of_le _ _ hone, h.count, List.length_erase_of_mem hinst]
  rfl

theorem cipDeleteService_spec {inst : CipInstanceNode} (h : table.Distinct)
    (hinst : inst ∈ table.instances) :
    ∃ table', cipDeleteService .ok inst table = .ok table' ∧
      table'.instances = table.instances.erase inst ∧ table'.WellFormed := by
  have hunlink := unlinkBehind_eq_erase h.numbers_nodup hinst
  refine ⟨InstanceTable.updateMaxInstance { table with
    instances := table.instances.erase inst
    numberOfInstances := table.numberOfInstances - 1 }, ?_, rfl, (h.erase hinst).updateMaxInstance⟩
  rw [cipDeleteService, if_neg (not_not.mpr rfl)]
  cases hinstances : table.instances with
  | nil => exact absurd (hinstances ▸ hinst) List.not_mem_nil
  | cons head instances =>
      -- the head is treated as the loop treats the others
      rw [hinstances, unlinkBehind] at hunlink
      simp only [hunlink]
      rfl

theorem createCipClass_spec (allocator : Allocator) (numberOfInstances : UInt16) :
    ∃ table, createCipClass allocator numberOfInstances = .ok table ∧ table.WellFormed := by
  have hempty : Distinct empty := ⟨List.nodup_nil, List.nodup_nil, List.not_mem_nil, rfl⟩
  rw [createCipClass]
  split
  · obtain ⟨added, table, hallocated, -, -, -, hwellFormed⟩ :=
      @addCipInstances_spec empty allocator numberOfInstances hempty
        (by rw [empty, List.length_nil, Nat.zero_add]; exact Nat.le_of_lt_succ (UInt16.toNat_lt _))
    rw [hallocated]
    exact ⟨table, rfl, hwellFormed⟩
  · exact ⟨empty, rfl, hempty.updateMaxInstance⟩

end InstanceTable

namespace InstanceOperation

/-- How many instances an operation adds. -/
def added (table : InstanceTable) : InstanceOperation → Nat
  | .addInstances numberOfInstances => numberOfInstances.toNat
  | .addInstance instanceId => if instanceId = 0 ∨ instanceId ∈ table.numbers then 0 else 1
  | .create internalState => if internalState = .ok then 1 else 0
  | .delete _ _ => 0

/-- There are numbers for the instances that are added, and what is deleted is an instance of
the class. -/
def Admitted (operation : InstanceOperation) (table : InstanceTable) : Prop :=
  table.instances.length + operation.added table ≤ 65535 ∧
    ∀ internalState inst, operation = .delete internalState inst → inst ∈ table.instances

/-- What an operation does to the list of instances. -/
def Effect (operation : InstanceOperation) (table table' : InstanceTable) : Prop :=
  match operation with
  | .addInstances numberOfInstances =>
      ∃ added, table'.instances = table.instances ++ added ∧
        added.length = numberOfInstances.toNat ∧
        ∀ inst ∈ added, inst.instanceNumber ∉ table.numbers
  | .addInstance instanceId =>
      if instanceId = 0 ∨ instanceId ∈ table.numbers then table'.instances = table.instances
      else ∃ address, table'.instances = table.instances ++ [⟨address, instanceId⟩]
  | .create internalState =>
      if internalState = .ok then
        ∃ inst, table'.instances = table.instances ++ [inst] ∧
          inst.instanceNumber ∉ table.numbers
      else table'.instances = table.instances
  | .delete internalState inst =>
      if internalState = .ok then table'.instances = table.instances.erase inst
      else table'.instances = table.instances

end InstanceOperation

namespace InstanceTable

/-- The operations in turn, each with what the allocator does then. -/
def step (label : Allocator × InstanceOperation) (table : InstanceTable) :
    Except Fault InstanceTable :=
  table.apply label.1 label.2

/-- One operation ends, keeps the table well formed and does what it should. -/
theorem WellFormed.apply {table : InstanceTable} (h : table.WellFormed) (allocator : Allocator)
    {operation : InstanceOperation} (hadmitted : operation.Admitted table) :
    ∃ table', table.apply allocator operation = .ok table' ∧ table'.WellFormed ∧
      operation.Effect table table' := by
  obtain ⟨hfits, hdeleted⟩ := hadmitted
  cases operation with
  | addInstances numberOfInstances =>
      obtain ⟨added, table', hallocated, hinstances, hadded, hnew, hwellFormed⟩ :=
        addCipInstances_spec allocator h.toDistinct hfits
      rw [InstanceTable.apply, hallocated]
      exact ⟨table', rfl, hwellFormed, added, hinstances, hadded, hnew⟩
  | addInstance instanceId =>
      rw [InstanceOperation.added] at hfits
      simp only [InstanceOperation.Effect]
      by_cases hold : instanceId = 0 ∨ instanceId ∈ table.numbers
      · obtain ⟨table', hresult, hinstances, hwellFormed⟩ :=
          addCipInstance_old allocator h.toDistinct hold
        exact ⟨table', hresult, hwellFormed, by rwa [if_pos hold]⟩
      · rw [if_neg hold] at hfits
        obtain ⟨hne, hnew⟩ := not_or.mp hold
        obtain ⟨address, table', hresult, hinstances, hwellFormed⟩ :=
          addCipInstance_spec allocator h.toDistinct hne hnew hfits
        exact ⟨table', hresult, hwellFormed, by rw [if_neg hold]; exact ⟨address, hinstances⟩⟩
  | create internalState =>
      rw [InstanceOperation.added] at hfits
      simp only [InstanceOperation.Effect, InstanceTable.apply, cipCreateService]
      by_cases hstate : internalState = .ok
      · rw [if_pos hstate] at hfits
        obtain ⟨added, table', hallocated, hinstances, hadded, hnew, hwellFormed⟩ :=
          @addCipInstances_spec table allocator 1 h.toDistinct hfits
        obtain ⟨inst, rfl⟩ := List.length_eq_one_iff.mp hadded
        rw [if_pos hstate, hallocated]
        refine ⟨table', rfl, hwellFormed, ?_⟩
        rw [if_pos hstate]
        exact ⟨inst, hinstances, hnew inst (List.mem_singleton_self _)⟩
      · rw [if_neg hstate]
        exact ⟨table, rfl, h, by rw [if_neg hstate]⟩
  | delete internalState inst =>
      simp only [InstanceOperation.Effect, InstanceTable.apply]
      by_cases hstate : internalState = .ok
      · obtain ⟨table', hresult, hinstances, hwellFormed⟩ :=
          cipDeleteService_spec h.toDistinct (hdeleted _ _ rfl)
        exact ⟨table', hstate ▸ hresult, hwellFormed, by rwa [if_pos hstate]⟩
      · rw [cipDeleteService, if_pos hstate]
        exact ⟨table, rfl, h, by rw [if_neg hstate]⟩

/-- In every run from a new class the table is well formed, and what is done next does what it
should. -/
theorem reaches_wellFormed {allocator : Allocator} {numberOfInstances : UInt16}
    {start table : InstanceTable} (hstart : createCipClass allocator numberOfInstances = .ok start)
    (hrun : Runs.Reaches step (fun label table => label.2.Admitted table) start table) :
    table.WellFormed ∧
      ∀ allocator operation, InstanceOperation.Admitted operation table →
        ∃ table', table.apply allocator operation = .ok table' ∧ table'.WellFormed ∧
          operation.Effect table table' := by
  have hwellFormed : table.WellFormed := by
    refine hrun.invariant WellFormed ?_ ?_
    · obtain ⟨created, hcreated, hwellFormed⟩ := createCipClass_spec allocator numberOfInstances
      rw [hstart] at hcreated
      exact Except.ok.inj hcreated ▸ hwellFormed
    · intro label table table' h hadmitted htaken
      obtain ⟨applied, happlied, hwellFormed, -⟩ := h.apply label.1 hadmitted
      rw [step, happlied] at htaken
      exact Except.ok.inj htaken ▸ hwellFormed
  exact ⟨hwellFormed, fun allocator operation => hwellFormed.apply allocator⟩

/-- Of two instances the first is deleted; the next one that is added gets its number. -/
theorem reaches_wellFormed_reused :
    ∃ start table table',
      createCipClass .upwards 2 = .ok start ∧
      step (.upwards, .delete .ok ⟨1, 1⟩) start = .ok table ∧
      table.apply .upwards (.addInstances 1) = .ok table' ∧ table'.WellFormed ∧
      table'.instances = [⟨2, 2⟩, ⟨3, 1⟩] := by
  have hrun : Runs.Reaches step (fun label table => label.2.Admitted table)
      ⟨[⟨1, 1⟩, ⟨2, 2⟩], 2, 2⟩ ⟨[⟨2, 2⟩], 1, 2⟩ := by
    have htaken : step (.upwards, .delete .ok ⟨1, 1⟩) ⟨[⟨1, 1⟩, ⟨2, 2⟩], 2, 2⟩ =
        .ok ⟨[⟨2, 2⟩], 1, 2⟩ := rfl
    refine .tail .refl ⟨by decide, ?_⟩ htaken
    rintro _ _ ⟨⟩
    exact List.mem_cons_self
  obtain ⟨-, hnext⟩ := @reaches_wellFormed .upwards 2 _ _ rfl hrun
  obtain ⟨table', happlied, hwellFormed, -⟩ :=
    hnext .upwards (.addInstances 1) ⟨by decide, fun _ _ h => nomatch h⟩
  refine ⟨_, _, table', rfl, rfl, happlied, hwellFormed, ?_⟩
  obtain rfl := Except.ok.inj happlied
  rfl

end InstanceTable

end Opener

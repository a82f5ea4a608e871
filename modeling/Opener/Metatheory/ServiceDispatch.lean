import Opener.Core.Services
import Opener.Library.Assignments

/-!
The services of a class as a table of assignments. The slots of the array are the entries of
the table in their order, and unset slots behind them, which have the number 0.
-/

namespace Opener

open Assignments

variable {φ : Type} {entries : List (UInt8 × φ)} {free : Nat}

/-- The array with these services and so many unset slots. -/
def slots (entries : List (UInt8 × φ)) (free : Nat) : List (CipServiceStruct φ) :=
  entries.map (fun entry => { serviceNumber := entry.1, serviceFunction := some entry.2 }) ++
    allocateServices free

theorem insertService_slots {serviceNumber : UInt8} (serviceFunction : φ)
    (h : serviceNumber ∈ entries.map Prod.fst ∨ 0 < free) :
    insertService serviceNumber serviceFunction (slots entries free) =
      .ok (slots (assign serviceNumber serviceFunction entries)
        (if serviceNumber ∈ entries.map Prod.fst then free else free - 1)) := by
  induction entries with
  | nil =>
      obtain ⟨free, rfl⟩ := Nat.exists_eq_succ_of_ne_zero (h.resolve_left List.not_mem_nil).ne'
      exact if_pos (.inr rfl)
  | cons entry entries ih =>
      change (if _ ∨ _ then _ else (insertService _ _ (slots entries free)).map _) = _
      rw [assign]
      by_cases hnumber : entry.1 = serviceNumber
      · rw [if_pos (.inl hnumber), if_pos hnumber,
          if_pos (hnumber ▸ List.mem_cons_self : serviceNumber ∈ (entry :: entries).map Prod.fst)]
        rfl
      · have hmem : serviceNumber ∈ (entry :: entries).map Prod.fst ↔
            serviceNumber ∈ entries.map Prod.fst := by
          rw [List.map_cons, List.mem_cons, or_iff_right (Ne.symm hnumber)]
        rw [if_neg (by simp [hnumber]), if_neg hnumber, ih (h.imp_left hmem.mp),
          if_congr hmem rfl rfl]
        rfl

theorem insertServices_slots {n : Nat} (inserted : List (UInt8 × φ))
    (h : (assignAll inserted).length ≤ n) :
    insertServices inserted (allocateServices n) =
      .ok (slots (assignAll inserted) (n - (assignAll inserted).length)) := by
  induction inserted using List.reverseRecOn with
  | nil => rfl
  | append_singleton inserted service ih =>
      rw [assignAll_append_singleton, length_assign] at h
      have hprefix : (assignAll inserted).length ≤ n := by
        split at h <;> omega
      have hplace : service.1 ∈ (assignAll inserted).map Prod.fst ∨
          0 < n - (assignAll inserted).length := by
        split at h
        · next hmem => exact .inl hmem
        · exact .inr (by omega)
      have hstep := insertService_slots service.2 hplace
      have hfree : (if service.1 ∈ (assignAll inserted).map Prod.fst then
            n - (assignAll inserted).length else n - (assignAll inserted).length - 1) =
          n - (assign service.1 service.2 (assignAll inserted)).length := by
        rw [length_assign]
        split <;> omega
      rw [hfree] at hstep
      rw [insertServices, List.foldlM_append, ← insertServices, ih hprefix,
        assignAll_append_singleton]
      exact (bind_pure _).trans hstep

def specifiedNotification (inserted : List (UInt8 × φ)) (service : UInt8) : Notified φ :=
  match lastAssigned inserted service with
  | some serviceFunction => .called serviceFunction
  | none => .refused GeneralStatus.serviceNotSupported

theorem searchServices_allocateServices (service : UInt8) (free : Nat) :
    searchServices service (allocateServices free : List (CipServiceStruct φ)) =
      if service = 0 ∧ 0 < free then .error .assertionFailed
      else .ok (.refused GeneralStatus.serviceNotSupported) := by
  induction free with
  | zero => rw [if_neg (fun h => h.2.false)]; rfl
  | succ free ih =>
      change (if service = 0 then _ else searchServices service (allocateServices free)) = _
      by_cases hservice : service = 0
      · rw [if_pos hservice, if_pos ⟨hservice, Nat.succ_pos free⟩]
      · rw [if_neg hservice, ih, if_neg (fun h => hservice h.1), if_neg (fun h => hservice h.1)]

/-- The search finds the entries of the table; behind them it takes the number 0 of an unset
slot for that of a service. -/
theorem searchServices_slots (service : UInt8) :
    searchServices service (slots entries free) =
      match entries.lookup service with
      | some serviceFunction => .ok (.called serviceFunction)
      | none =>
          if service = 0 ∧ 0 < free then .error .assertionFailed
          else .ok (.refused GeneralStatus.serviceNotSupported) := by
  induction entries with
  | nil => exact searchServices_allocateServices service free
  | cons entry entries ih =>
      change (if service = entry.1 then _ else searchServices service (slots entries free)) = _
      rw [lookup_cons_eq, ih]
      split <;> rfl

/-- A request for an existing instance calls what was inserted last for its service, or
nothing, unless it asks for the service 0 that only unset slots have. -/
theorem notifyClass_iff (n : Nat) (inserted : List (UInt8 × φ))
    (hcapacity : (inserted.map Prod.fst).dedup.length ≤ n) :
    ∃ services, insertServices inserted (allocateServices n) = .ok services ∧
      ∀ (cipClass : ServicedClass φ) (instanceNumber : UInt16) (service : UInt8),
        cipClass.servicesOf instanceNumber = some services →
          (cipClass.notifyClass instanceNumber service =
              .ok (specifiedNotification inserted service) ↔
            service ≠ 0 ∨ 0 ∈ inserted.map Prod.fst ∨
              (inserted.map Prod.fst).dedup.length = n) := by
  rw [← length_assignAll] at hcapacity ⊢
  refine ⟨_, insertServices_slots inserted hcapacity,
    fun cipClass instanceNumber service hinst => ?_⟩
  rw [ServicedClass.notifyClass, hinst]
  change searchServices service (slots _ _) = _ ↔ _
  rw [searchServices_slots, specifiedNotification, lookup_assignAll]
  cases hlast : lastAssigned inserted service with
  | some serviceFunction =>
      have hmem : service ∈ inserted.map Prod.fst := by
        by_contra hmem
        rw [lastAssigned_eq_none_iff.mpr hmem] at hlast
        cases hlast
      refine iff_of_true rfl ?_
      by_cases hservice : service = 0
      · exact .inr (.inl (hservice ▸ hmem))
      · exact .inl hservice
  | none =>
      have hmem := lastAssigned_eq_none_iff.mp hlast
      change (if _ then _ else _) = _ ↔ _
      by_cases hunset : service = 0 ∧ 0 < n - (assignAll inserted).length
      · rw [if_pos hunset]
        obtain ⟨rfl, hfree⟩ := hunset
        refine iff_of_false (fun h => nomatch h) ?_
        rintro (hne | h | hfull)
        · exact hne rfl
        · exact hmem h
        · omega
      · rw [if_neg hunset]
        refine iff_of_true rfl ?_
        by_cases hservice : service = 0
        · have hfull : ¬ 0 < n - (assignAll inserted).length := fun h => hunset ⟨hservice, h⟩
          exact .inr (.inr (by omega))
        · exact .inl hservice

/-- Of a class with two slots that has one service, the service 0 is asked for. -/
theorem notifyClass_unset :
    ∃ services, insertServices [(0x0E, "GetAttributeSingle")] (allocateServices 2) =
        .ok services ∧
      ServicedClass.notifyClass ⟨[1], services, []⟩ 1 0 = .error .assertionFailed ∧
      specifiedNotification [(0x0E, "GetAttributeSingle")] 0 = .refused 0x08 :=
  ⟨_, rfl, rfl, rfl⟩

theorem notifyClass_full :
    ∃ services, insertServices [(0x0E, "GetAttributeSingle"), (0x10, "SetAttributeSingle")]
        (allocateServices 2) = .ok services ∧
      ServicedClass.notifyClass ⟨[1], services, []⟩ 1 0 = .ok (.refused 0x08) := by
  obtain ⟨services, hservices, hnotified⟩ := notifyClass_iff 2
    [(0x0E, "GetAttributeSingle"), (0x10, "SetAttributeSingle")] (by decide)
  exact ⟨services, hservices,
    (hnotified ⟨[1], services, []⟩ 1 0 rfl).mpr (.inr (.inr (by decide)))⟩

end Opener

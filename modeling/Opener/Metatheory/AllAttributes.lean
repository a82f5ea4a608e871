import Opener.Metatheory.AttributeAccess

/-!
The loop of `GetAttributeAll`. It takes the attributes of an instance in the order in which they
were inserted, those that some instance of the class inserted with a flag for it, and puts their
values one behind the other.
-/

namespace Opener

open CIPAttributeFlag

section Insertions

variable {σ : Type} {calls : List (ClassSetup σ)} {instanceNumber : UInt16}
  {attr : CipAttributeStruct σ}

theorem mem_insertions :
    (instanceNumber, attr) ∈ insertions calls ↔ .insertAttribute instanceNumber attr ∈ calls := by
  rw [insertions, List.mem_filterMap]
  constructor
  · rintro ⟨call, hcall, hinserted⟩
    cases call with
    | insertAttribute number other =>
        cases hinserted
        exact hcall
    | insertGetSetCallback callback callbacksToInstall => cases hinserted
  · exact fun hcall => ⟨_, hcall, rfl⟩

end Insertions

section Masks

variable {σ : Type} {cipClass cipClass' : CipClass σ} {numberOfAttributes : Nat}
  {log : List (UInt16 × CipAttributeStruct σ)}

/-- The mask for the service and the slots of the instances after these insertions. -/
structure CipClass.HoldsAll (cipClass : CipClass σ) (numberOfAttributes : Nat)
    (log : List (UInt16 × CipAttributeStruct σ)) : Prop where
  sameSize : cipClass.getAllBitMask.length = cipClass.getSingleBitMask.length
  mask : ∀ number : UInt16, BitTable.test cipClass.getAllBitMask number.toNat =
    allows log (getableAll ||| getableAllDummy) number
  slots : ∀ inst ∈ cipClass.instances, inst.attributes.length = numberOfAttributes

theorem createCipClass_holdsAll (numberOfAttributes : Nat) (highestAttributeNumber : UInt32)
    (instanceNumbers : List UInt16) :
    (createCipClass (σ := σ) numberOfAttributes highestAttributeNumber
      instanceNumbers).HoldsAll numberOfAttributes [] := by
  refine ⟨rfl, fun number => BitTable.test_replicate _ _, fun inst hinst => ?_⟩
  obtain ⟨instanceNumber, -, rfl⟩ := List.mem_map.mp hinst
  exact List.length_replicate

theorem fillSlot_length {attr : CipAttributeStruct σ} {slots filled : List (CipAttributeStruct σ)}
    (h : fillSlot attr slots = some filled) : filled.length = slots.length := by
  induction slots generalizing filled with
  | nil => cases h
  | cons slot slots ih =>
      rw [fillSlot] at h
      split at h
      · cases h
        rfl
      · obtain ⟨rest, hrest, rfl⟩ := Option.map_eq_some_iff.mp h
        exact congrArg (· + 1) (ih hrest)

theorem insertAttribute_getAllBitMask {instanceNumber : UInt16} {attr : CipAttributeStruct σ}
    (h : insertAttribute cipClass instanceNumber attr = .ok cipClass') :
    cipClass'.getAllBitMask = BitTable.mark cipClass.getAllBitMask attr.attributeNumber.toNat
      (attr.has (getableAll ||| getableAllDummy)) := by
  simp only [insertAttribute] at h
  split at h
  · cases h
  · split at h
    · cases h
    · split at h
      · cases h
      · split at h
        · cases h
        · split at h
          · cases h
          · cases h
            rfl

theorem CipClass.HoldsAll.insert (h : cipClass.HoldsAll numberOfAttributes log)
    {instanceNumber : UInt16} {attr : CipAttributeStruct σ}
    (hinsert : insertAttribute cipClass instanceNumber attr = .ok cipClass') :
    cipClass'.HoldsAll numberOfAttributes (log ++ [(instanceNumber, attr)]) := by
  have hmask := insertAttribute_getAllBitMask hinsert
  obtain ⟨inst, attributes, hinst, -, hfill, hindex, hinstances, hget, -⟩ :=
    insertAttribute_ok hinsert
  refine ⟨?_, ?_, fun other hother => ?_⟩
  · rw [hmask, hget, BitTable.length_mark, BitTable.length_mark, h.sameSize]
  · rw [hmask]
    exact test_mark_allows (h.sameSize ▸ hindex) h.mask instanceNumber
  · rw [hinstances] at hother
    obtain ⟨before, hbefore, rfl⟩ := List.mem_map.mp hother
    split
    · exact (fillSlot_length hfill).trans (h.slots inst (List.mem_of_find?_eq_some hinst))
    · exact h.slots before hbefore

theorem setUpClass_holdsAll {calls : List (ClassSetup σ)}
    (h : cipClass.HoldsAll numberOfAttributes log)
    (hsetup : setUpClass cipClass calls = .ok cipClass') :
    cipClass'.HoldsAll numberOfAttributes (log ++ insertions calls) := by
  induction calls generalizing cipClass log with
  | nil =>
      cases hsetup
      rwa [insertions, List.filterMap_nil, List.append_nil]
  | cons call calls ih =>
      cases call with
      | insertAttribute instanceNumber attr =>
          rw [setUpClass] at hsetup
          cases hinsert : insertAttribute cipClass instanceNumber attr with
          | error fault =>
              rw [hinsert] at hsetup
              cases hsetup
          | ok next =>
              rw [hinsert] at hsetup
              have hrest := ih (h.insert hinsert) hsetup
              rwa [List.append_assoc] at hrest
      | insertGetSetCallback callback callbacksToInstall =>
          have hcallback : (insertGetSetCallback cipClass callback callbacksToInstall).HoldsAll
              numberOfAttributes log := ⟨h.sameSize, h.mask, h.slots⟩
          exact ih hcallback hsetup

end Masks

section Loop

variable {σ : Type} {cipClass : CipClass σ} {state : σ}
  {attributes others : List (CipAttributeStruct σ)} {message message' : List UInt8}

theorem encodeAttributes_append :
    encodeAttributes cipClass state (attributes ++ others) message =
      (encodeAttributes cipClass state attributes message).bind
        (encodeAttributes cipClass state others) := by
  induction attributes generalizing message with
  | nil => rfl
  | cons attr attributes ih =>
      rw [List.cons_append, encodeAttributes, encodeAttributes]
      split
      · split
        · rfl
        · exact ih
      · exact ih

/-- The service takes the attribute. -/
def CipClass.takes (cipClass : CipClass σ) (attr : CipAttributeStruct σ) : Bool :=
  BitTable.test cipClass.getAllBitMask attr.attributeNumber.toNat

/-- The attribute as it is encoded at the start of a message. -/
def Encodes (state : σ) (attr : CipAttributeStruct σ) (part : List UInt8) : Prop :=
  ∃ encode, attr.encode = some encode ∧ part = encode state 0

/-- The loop of the service, where the values do not depend on how long the message is. -/
theorem encodeAttributes_parts {P : Nat → Prop}
    (hencode : ∀ attr ∈ attributes, cipClass.takes attr = true → ∀ encode,
      attr.encode = some encode → ∀ used, P used →
        encode state used = encode state 0 ∧ P (used + (encode state 0).length))
    (hmessage : P message.length)
    (h : encodeAttributes cipClass state attributes message = .ok message') :
    ∃ parts, message' = message ++ parts.flatten ∧ P message'.length ∧
      List.Forall₂ (Encodes state) (attributes.filter cipClass.takes) parts := by
  induction attributes generalizing message with
  | nil =>
      cases h
      exact ⟨[], (List.append_nil _).symm, hmessage, .nil⟩
  | cons attr attributes ih =>
      rw [List.forall_mem_cons] at hencode
      rw [encodeAttributes] at h
      split at h
      · rename_i hmask
        cases hattr : attr.encode with
        | none =>
            rw [hattr] at h
            cases h
        | some encode =>
            obtain ⟨hsame, hlength⟩ := hencode.1 hmask encode hattr message.length hmessage
            simp only [hattr, hsame] at h
            obtain ⟨parts, rfl, hafter, hparts⟩ := ih hencode.2
              (by rw [List.length_append]; exact hlength) h
            refine ⟨encode state 0 :: parts, ?_, hafter, ?_⟩
            · rw [List.flatten_cons, List.append_assoc]
            · rw [List.filter_cons_of_pos (show cipClass.takes attr = true from hmask)]
              exact .cons ⟨encode, hattr, rfl⟩ hparts
      · rename_i hmask
        obtain ⟨parts, hmessage', hafter, hparts⟩ := ih hencode.2 hmessage h
        have hskipped : ¬cipClass.takes attr = true := hmask
        exact ⟨parts, hmessage', hafter, by rwa [List.filter_cons_of_neg hskipped]⟩

end Loop

section Service

variable {σ : Type} {cipClass : CipClass σ} {inst : CipInstance σ} {state state' : σ}
  {numberOfAttributes : Nat} {log : List (UInt16 × CipAttributeStruct σ)}
  {request : MessageRouterRequest} {response : MessageRouterResponse}

/-- The attributes of an instance in the order of their insertion. -/
def instanceAttributes (log : List (UInt16 × CipAttributeStruct σ)) (instanceNumber : UInt16) :
    List (CipAttributeStruct σ) :=
  (log.filter fun call => call.1 = instanceNumber).map Prod.snd

/-- The ones that the service takes. -/
def allAttributes (log : List (UInt16 × CipAttributeStruct σ)) (instanceNumber : UInt16) :
    List (CipAttributeStruct σ) :=
  (instanceAttributes log instanceNumber).filter fun attr =>
    allows log (getableAll ||| getableAllDummy) attr.attributeNumber

/-- The reply of a class with attributes; no attribute has the number of an unused slot. -/
theorem getAttributeAll_message (hholds : cipClass.Holds log)
    (hall : cipClass.HoldsAll numberOfAttributes log)
    (hzero : allows log (getableAll ||| getableAllDummy) 0 = false)
    (hinst : inst ∈ cipClass.instances)
    (hcall : getAttributeAll cipClass numberOfAttributes inst request state =
      .ok (response, state'))
    (hsuccess : response.generalStatus = GeneralStatus.success) :
    state' = state ∧ encodeAttributes cipClass state
      (instanceAttributes log inst.instanceNumber) [] = .ok response.message := by
  rw [getAttributeAll] at hcall
  split at hcall
  · cases hcall
    exact absurd hsuccess (show GeneralStatus.serviceNotSupported ≠ _ by decide)
  · split at hcall
    · cases hcall
    · split at hcall
      · cases hcall
      · rename_i message hmessage
        cases hcall
        refine ⟨rfl, ?_⟩
        obtain ⟨free, hslots⟩ := hholds.slots inst hinst
        have hunused : ∀ free message, encodeAttributes cipClass state
            (List.replicate free .unused) message = .ok message := by
          intro free message
          induction free with
          | zero => rfl
          | succ free ih =>
              have hmask : ¬BitTable.test cipClass.getAllBitMask
                  (CipAttributeStruct.unused (σ := σ)).attributeNumber.toNat = true := by
                rw [Bool.not_eq_true]
                exact (hall.mask 0).trans hzero
              rw [List.replicate_succ, encodeAttributes, if_neg hmask]
              exact ih
        rw [List.take_of_length_le (Nat.le_of_eq (hall.slots inst hinst)), hslots,
          encodeAttributes_append] at hmessage
        cases hfirst : encodeAttributes cipClass state
            ((log.filter fun call => call.1 = inst.instanceNumber).map Prod.snd) [] with
        | error fault =>
            rw [hfirst] at hmessage
            cases hmessage
        | ok first =>
            rw [hfirst, Except.bind, hunused] at hmessage
            cases hmessage
            exact hfirst

end Service

end Opener

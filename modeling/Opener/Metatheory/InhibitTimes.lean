import Opener.Metatheory.PathAccounting
import Opener.Metatheory.NewConnections

/-!
The production inhibit segments of a connection path. One may stand in front of the
class and any number among the configuration data; the last one that the parser takes is
the inhibit time of the request. `ProcessProductionInhibitTime` looks at it for cyclic
connections only, and these are not allowed to have the segment.
-/

namespace Opener

open CursorAccounts

namespace PathState

variable (s : PathState)

/-- The values behind a parser stage, if it was passed. -/
def valuesBehind {α : Type} (stage : Except PathFailure α) (values : α → List UInt8) :
    List UInt8 :=
  match stage with
  | .error _ => []
  | .ok found => values found

/-- The values of the production inhibit segments of the loop. -/
def loopInhibitTimes : Nat → PathState → List UInt8
  | 0, _ => []
  | fuel + 1, s =>
      if s.remainingPath = 0 then []
      else if s.message.isSimpleData then loopInhibitTimes fuel s.takeData
      else if s.inhibits then s.message.byteAt 1 :: loopInhibitTimes fuel s.takeInhibitTime
      else []

def ioEndPointInhibitTimes (classId : UInt32) (instanceId : UInt16)
    (instances : List UInt16) : List UInt8 :=
  let s := { s with object :=
    { s.object with
      configurationPath := { classId, instanceId }
      consumedConnectionPathLength := 0 } }
  valuesBehind (parseConnectionPoints classId instances (encodedPaths s.object) s)
    fun s => loopInhibitTimes (s.message.length + 1) { s with configData := none }

def endPointInhibitTimes (classId : UInt32) (instances : List UInt16)
    (instanceId : UInt16) : List UInt8 :=
  if s.object.transportClass = .class3 then []
  else s.ioEndPointInhibitTimes classId instanceId instances

/-- The value of the segment in front of the class. -/
def leadingInhibitTime : List UInt8 := if s.inhibits then [s.message.byteAt 1] else []

/-- The values of all production inhibit segments that the parser takes, in their order
in the path. -/
def inhibitTimes (cfg : Config) : List UInt8 :=
  valuesBehind (s.parseElectronicKey cfg) fun s =>
    s.leadingInhibitTime ++
      valuesBehind (s.parseProductionInhibitTime.parseClass cfg) fun found =>
        valuesBehind (found.2.2.parseConfigurationInstance found.2.1) fun located =>
          located.2.endPointInhibitTimes found.1 found.2.1 located.1

/-- The inhibit time behind segments with the values. -/
def inhibitTimeAfter (values : List UInt8) (time : UInt16) : UInt16 :=
  values.foldl (fun _ value => value.toUInt16) time

theorem inhibitTimeAfter_append (values values' : List UInt8) (time : UInt16) :
    inhibitTimeAfter (values ++ values') time =
      inhibitTimeAfter values' (inhibitTimeAfter values time) :=
  List.foldl_append

/-- The last value is the one that counts. -/
theorem inhibitTimeAfter_getLast? {values : List UInt8} {value : UInt8}
    (h : values.getLast? = some value) (time : UInt16) :
    inhibitTimeAfter values time = value.toUInt16 := by
  obtain ⟨front, rfl⟩ := List.getLast?_eq_some_iff.mp h
  rw [inhibitTimeAfter_append]
  rfl

variable {s} {cfg : Config} {s' : PathState} {classId : UInt32} {instances : List UInt16}
variable {instanceId : UInt16} {connectionPathSize : UInt64} {fuel : Nat}

theorem parseElectronicKey_inhibitTime (h : s.parseElectronicKey cfg = .ok s') :
    s'.object.productionInhibitTime = s.object.productionInhibitTime := by
  simp only [parseElectronicKey] at h
  split at h
  · split at h
    · cases h
    · split at h
      · cases h
        rfl
      · cases h
  · cases h
    rfl

theorem parseProductionInhibitTime_inhibitTime :
    s.parseProductionInhibitTime.object.productionInhibitTime =
      inhibitTimeAfter s.leadingInhibitTime s.object.productionInhibitTime := by
  rw [parseProductionInhibitTime, leadingInhibitTime]
  by_cases hinhibits : s.inhibits = true
  · obtain ⟨hsegment, htriggered⟩ := inhibits_iff.mp hinhibits
    have htime : isProductionInhibitTimeSegment s.message = true := by
      simp only [isProductionInhibitTimeSegment, hsegment.1, hsegment.2, decide_true,
        Bool.and_self]
    rw [if_pos ⟨htriggered, htime⟩, if_pos hinhibits]
    rfl
  · have hother : ¬(s.object.productionTrigger ≠ .cyclic ∧
        isProductionInhibitTimeSegment s.message = true) := by
      rintro ⟨htriggered, htime⟩
      exact hinhibits (by rw [inhibits, htime, decide_eq_true htriggered]; rfl)
    rw [if_neg hother, if_neg hinhibits]
    rfl

theorem parseConnectionPoint_inhibitTime {path : EncodedPath}
    (h : s.parseConnectionPoint classId instances path = .ok s') :
    s'.object.productionInhibitTime = s.object.productionInhibitTime := by
  simp only [parseConnectionPoint] at h
  split at h
  · split at h
    · cases h
    · split at h
      · cases h
      · cases h
        cases path with
        | consumed => rfl
        | produced => rfl
  · cases h

theorem parseConnectionPoints_inhibitTime (paths : List EncodedPath)
    (h : parseConnectionPoints classId instances paths s = .ok s') :
    s'.object.productionInhibitTime = s.object.productionInhibitTime := by
  induction paths generalizing s with
  | nil =>
      cases h
      rfl
  | cons path paths ih =>
      rw [parseConnectionPoints] at h
      cases hpoint : s.parseConnectionPoint classId instances path with
      | error failure => simp [hpoint] at h
      | ok s₁ =>
          simp only [hpoint] at h
          exact (ih h).trans (parseConnectionPoint_inhibitTime hpoint)

theorem parseConfigurationData_inhibitTime
    (h : parseConfigurationData connectionPathSize fuel s = .ok s')
    (hfuel : s.message.length < fuel) :
    s'.object.productionInhibitTime =
      inhibitTimeAfter (loopInhibitTimes fuel s) s.object.productionInhibitTime := by
  induction fuel generalizing s with
  | zero => cases hfuel
  | succ fuel ih =>
      rw [loopInhibitTimes]
      by_cases hend : s.remainingPath = 0
      · rw [parseConfigurationData_end hend] at h
        cases h
        rw [if_pos hend]
        rfl
      · rw [if_neg hend]
        by_cases hdata : s.message.isSimpleData = true
        · have hpositive := List.length_pos_of_ne_nil (message_ne_nil (.inl hdata))
          have hshorter : s.takeData.message.length < fuel := by
            simp only [takeData, List.length_drop]
            omega
          rw [parseConfigurationData_data hend hdata] at h
          rw [if_pos hdata]
          exact ih h hshorter
        · rw [if_neg hdata]
          by_cases hinhibits : s.inhibits = true
          · have hpositive := List.length_pos_of_ne_nil (message_ne_nil (.inr hinhibits))
            have hshorter : s.takeInhibitTime.message.length < fuel := by
              simp only [takeInhibitTime, List.length_drop]
              omega
            rw [parseConfigurationData_inhibits hend hinhibits] at h
            rw [if_pos hinhibits]
            exact ih h hshorter
          · obtain ⟨extendedStatus, hrefused⟩ :=
              parseConfigurationData_refused hend hdata hinhibits
            rw [hrefused] at h
            cases h

theorem parseIoEndPoints_inhibitTime
    (h : s.parseIoEndPoints connectionPathSize classId instanceId instances = .ok s') :
    s'.object.productionInhibitTime =
      inhibitTimeAfter (s.ioEndPointInhibitTimes classId instanceId instances)
        s.object.productionInhibitTime := by
  rw [ioEndPointInhibitTimes]
  simp only [parseIoEndPoints] at h
  split at h
  · cases h
  · rename_i s₁ hpoints
    have htime := parseConnectionPoints_inhibitTime _ hpoints
    simp only [hpoints, valuesBehind]
    rw [parseConfigurationData_inhibitTime h (Nat.lt_succ_self _)]
    exact congrArg (inhibitTimeAfter _) htime

theorem parseEndPoint_inhibitTime
    (h : parseEndPoint connectionPathSize classId instances instanceId s = .ok s') :
    s'.object.productionInhibitTime =
      inhibitTimeAfter (s.endPointInhibitTimes classId instances instanceId)
        s.object.productionInhibitTime := by
  rw [parseEndPoint] at h
  rw [endPointInhibitTimes]
  by_cases hclass3 : s.object.transportClass = .class3
  · rw [if_pos hclass3] at h
    rw [if_pos hclass3]
    simp only [parseClass3EndPoint] at h
    split at h
    · cases h
    · split at h
      · cases h
      · cases h
        rfl
  · rw [if_neg hclass3] at h
    rw [if_neg hclass3]
    exact parseIoEndPoints_inhibitTime h

theorem parseFromInstance_inhibitTime
    (h : parseFromInstance connectionPathSize classId instances s = .ok s') :
    s'.object.productionInhibitTime =
      inhibitTimeAfter
        (valuesBehind (s.parseConfigurationInstance instances) fun located =>
          located.2.endPointInhibitTimes classId instances located.1)
        s.object.productionInhibitTime := by
  obtain ⟨located, hinstance, hrest⟩ := bind_ok h
  have hobject : located.2.object = s.object :=
    (parseConfigurationInstance_routed hinstance).2 located.1 located.2 rfl
  rw [hinstance, ← hobject]
  exact parseEndPoint_inhibitTime hrest

theorem parseFromInhibitTime_inhibitTime
    (h : parseFromInhibitTime cfg connectionPathSize s = .ok s') :
    s'.object.productionInhibitTime =
      inhibitTimeAfter
        (s.leadingInhibitTime ++
          valuesBehind (s.parseProductionInhibitTime.parseClass cfg) fun found =>
            valuesBehind (found.2.2.parseConfigurationInstance found.2.1) fun located =>
              located.2.endPointInhibitTimes found.1 found.2.1 located.1)
        s.object.productionInhibitTime := by
  have hrest : parseFromClass cfg connectionPathSize s.parseProductionInhibitTime = .ok s' := h
  rw [parseFromClass] at hrest
  obtain ⟨found, hclass, hrest⟩ := bind_ok hrest
  have hobject : found.2.2.object = s.parseProductionInhibitTime.object :=
    (parseClass_routed hclass).2 found.1 found.2.1 found.2.2 rfl
  rw [inhibitTimeAfter_append, ← parseProductionInhibitTime_inhibitTime, hclass, ← hobject]
  exact parseFromInstance_inhibitTime hrest

/-- The inhibit time of an accepted path. -/
theorem parseSegments_inhibitTime (h : s.parseSegments cfg connectionPathSize = .ok s') :
    s'.object.productionInhibitTime =
      inhibitTimeAfter (s.inhibitTimes cfg) s.object.productionInhibitTime := by
  rw [parseSegments_eq] at h
  obtain ⟨s₁, hkey, hrest⟩ := bind_ok h
  rw [inhibitTimes, hkey, ← parseElectronicKey_inhibitTime hkey]
  exact parseFromInhibitTime_inhibitTime hrest

end PathState

/-- The production inhibit segments of the path of a Forward Open. -/
def Message.inhibitTimes (cfg : Config) (message : Message) (object : CipConnectionObject)
    (configData : Option (List UInt8)) : List UInt8 :=
  (pathStart message object configData).inhibitTimes cfg

theorem parseConnectionPath_inhibitTime {cfg : Config} {message : Message}
    {requestDataSize : UInt64} {object : CipConnectionObject}
    {configData : Option (List UInt8)} {s : PathState}
    (h : parseConnectionPath cfg message requestDataSize object configData = .ok s) :
    s.object.productionInhibitTime =
      PathState.inhibitTimeAfter (message.inhibitTimes cfg object configData) 256 := by
  simp only [parseConnectionPath] at h
  generalize (if object.isLargeForwardOpen = true then (40 : UInt64) else 36) = headerLength at h
  split at h
  · cases h
  · split at h
    · cases h
    · split at h
      · cases h
      · exact PathState.parseSegments_inhibitTime h

namespace CipConnectionObject

variable {c : CipConnectionObject}

/-- Without the segment the inhibit time is the quarter of the T->O interval, with it the
value of the last one, and no segment has more than the interval. -/
structure WithinInterval (c : CipConnectionObject) (values : List UInt8) : Prop where
  bounded : c.productionInhibitTime.toNat ≤ c.tToORequestedPacketInterval.toNat / 1000
  given : ∀ value, values.getLast? = some value → c.productionInhibitTime = value.toUInt16
  refused : ∀ value ∈ values, value.toNat ≤ c.tToORequestedPacketInterval.toNat / 1000
  missing : values = [] →
    c.productionInhibitTime.toNat = c.tToORequestedPacketInterval.toNat / 1000 / 4

/-- A connection that is not cyclic has the inhibit time of its path. -/
theorem processedInhibitTime_eq (h : c.productionTrigger ≠ .cyclic) :
    c.processedInhibitTime = c.productionInhibitTime := by
  rw [processedInhibitTime, processProductionInhibitTime, if_neg h]

theorem withinInterval_iff {values : List UInt8}
    (h : c.productionInhibitTime = PathState.inhibitTimeAfter values 256) :
    c.WithinInterval values ↔
      (∀ value ∈ values, value.toNat ≤ c.tToORequestedPacketInterval.toNat / 1000) ∧
        (values = [] → c.tToORequestedPacketInterval.toNat / 4000 = 256) := by
  have hquarter : c.tToORequestedPacketInterval.toNat / 1000 / 4 =
      c.tToORequestedPacketInterval.toNat / 4000 := Nat.div_div_eq_div_mul _ _ _
  cases hlast : values.getLast? with
  | none =>
      rw [List.getLast?_eq_none_iff] at hlast
      have htime : c.productionInhibitTime.toNat = 256 := by
        rw [h, hlast]
        rfl
      constructor
      · intro hwithin
        exact ⟨hwithin.refused, fun hnil => by rw [← hquarter, ← hwithin.missing hnil, htime]⟩
      · rintro ⟨hrefused, hmissing⟩
        have hexact := hmissing hlast
        refine ⟨by omega, ?_, hrefused, fun _ => by omega⟩
        intro value hvalue
        rw [hlast] at hvalue
        cases hvalue
  | some value =>
      have hmember := List.mem_of_getLast? hlast
      have htime : c.productionInhibitTime = value.toUInt16 := by
        rw [h, PathState.inhibitTimeAfter_getLast? hlast]
      have hnonempty : values ≠ [] := List.ne_nil_of_mem hmember
      constructor
      · intro hwithin
        exact ⟨hwithin.refused, fun hnil => absurd hnil hnonempty⟩
      · rintro ⟨hrefused, -⟩
        refine ⟨?_, ?_, hrefused, fun hnil => absurd hnil hnonempty⟩
        · rw [htime, UInt8.toNat_toUInt16]
          exact hrefused value hmember
        · intro other hother
          cases hlast.symm.trans hother
          exact htime

end CipConnectionObject

open CipConnectionObject

namespace StackState

variable {cfg : Config} {env : Environment}

/-- The inhibit time of a connection that is not cyclic is within the interval exactly if
all segments of the path are, or there is none and the quarter of the interval is the 256
that marks the missing segment. -/
theorem withinInterval_of_grantsIo {isLarge : Bool} {request : MessageRouterRequest}
    {originatorAddress : SockaddrIn} {encapsulationSession : UInt32} {st st₀ st' : StackState}
    {message : Message} {s : PathState} {r : ConnRef}
    (hgrants : GrantsIo cfg env isLarge request originatorAddress encapsulationSession st
      message st₀ s st' r)
    (htrigger : st₀.dummy.productionTrigger ≠ .cyclic) :
    (st'.conn r).WithinInterval (message.inhibitTimes cfg st₀.dummy st₀.configData) ↔
      (∀ value ∈ message.inhibitTimes cfg st₀.dummy st₀.configData,
        value.toNat ≤ st₀.dummy.tToORequestedPacketInterval.toNat / 1000) ∧
      (message.inhibitTimes cfg st₀.dummy st₀.configData = [] →
        st₀.dummy.tToORequestedPacketInterval.toNat / 4000 = 256) := by
  have hgranted := hgrants.grantedIo
  have hrouted := parseConnectionPath_routed cfg message request.requestDataSize st₀.dummy
    st₀.configData
  rw [hgrants.parses] at hrouted
  have hinterval : (st'.conn r).tToORequestedPacketInterval =
      st₀.dummy.tToORequestedPacketInterval :=
    (terms_field hgranted.terms (·.tToORequestedPacketInterval) fun _ => rfl).trans
      (unrouted_field hrouted (·.tToORequestedPacketInterval) fun _ => rfl)
  have hobject : s.object.productionTrigger ≠ .cyclic := by
    rw [unrouted_field hrouted (·.productionTrigger) fun _ => rfl]
    exact htrigger
  rw [← hinterval]
  refine withinInterval_iff ?_
  have htime : (st'.conn r).productionInhibitTime = s.object.processedInhibitTime :=
    congrArg Prod.fst hgranted.pacing
  rw [htime, processedInhibitTime_eq hobject]
  exact parseConnectionPath_inhibitTime hgrants.parses

section Sample

open SampleApplication

/-- An exclusive owner that is triggered by changes, with a segment in front of the
class. -/
def changeOfState (segment : List UInt8) : OpenParameters :=
  { exclusiveOwner 1 1 pointToPoint with
    transportClassTrigger := 0x11
    connectionPath := segment ++ ioPath 150 100 }

/-- With a segment of 50 ms and an interval of 100 ms all is well. -/
theorem withinInterval_given :
    ∃ st message st₀ s st' r,
      GrantsIo config (environment 1001 21) false (openRequest (changeOfState [0x43, 50]))
        originator 1 st message st₀ s st' r ∧
      message.inhibitTimes config st₀.dummy st₀.configData = [50] ∧
      (st'.conn r).WithinInterval [50] := by
  obtain ⟨st, hreachable, hst⟩ := reachable_of_ends config []
    (grantsIo config (environment 1001 21) false (openRequest (changeOfState [0x43, 50]))
      originator 1 fun message st₀ _ _ _ =>
        decide (st₀.dummy.productionTrigger ≠ .cyclic ∧
          st₀.dummy.tToORequestedPacketInterval.toNat / 1000 = 100 ∧
          message.inhibitTimes config st₀.dummy st₀.configData = [50]))
    (by decide +kernel)
  obtain ⟨message, st₀, s, st', r, hgrants, hdecision⟩ := grantsIo_of_decision hreachable hst
  obtain ⟨htrigger, hinterval, htimes⟩ := of_decide_eq_true hdecision
  refine ⟨st, message, st₀, s, st', r, hgrants, htimes, ?_⟩
  rw [← htimes]
  refine (withinInterval_of_grantsIo hgrants htrigger).mpr ?_
  rw [hinterval, htimes]
  refine ⟨fun value hvalue => ?_, fun hnil => by cases hnil⟩
  rw [List.mem_singleton.mp hvalue]
  decide

/-- The request is granted with an inhibit time above the interval. -/
theorem changeOfState_exceeds (segment values : List UInt8)
    (h : ends config []
      (grantsIo config (environment 1001 21) false (openRequest (changeOfState segment))
        originator 1 fun message st₀ _ st' r =>
          decide ((st'.conn r).productionTrigger = .changeOfState ∧
            message.inhibitTimes config st₀.dummy st₀.configData = values ∧
            ¬(st'.conn r).productionInhibitTime.toNat ≤
              (st'.conn r).tToORequestedPacketInterval.toNat / 1000)) = true) :
    ∃ st message st₀ s st' r,
      GrantsIo config (environment 1001 21) false (openRequest (changeOfState segment))
        originator 1 st message st₀ s st' r ∧
      (st'.conn r).productionTrigger = .changeOfState ∧
      message.inhibitTimes config st₀.dummy st₀.configData = values ∧
      ¬(st'.conn r).WithinInterval values := by
  obtain ⟨st, hreachable, hst⟩ := reachable_of_ends config [] _ h
  obtain ⟨message, st₀, s, st', r, hgrants, hdecision⟩ := grantsIo_of_decision hreachable hst
  obtain ⟨htrigger, htimes, hexceeds⟩ := of_decide_eq_true hdecision
  exact ⟨st, message, st₀, s, st', r, hgrants, htrigger, htimes,
    fun hwithin => hexceeds hwithin.bounded⟩

/-- Without a segment the inhibit time stays 256 ms and exceeds the interval, with a
segment above the interval the request is granted. -/
theorem withinInterval_missing :
    (∃ st message st₀ s st' r,
      GrantsIo config (environment 1001 21) false (openRequest (changeOfState [])) originator 1
        st message st₀ s st' r ∧
      (st'.conn r).productionTrigger = .changeOfState ∧
      message.inhibitTimes config st₀.dummy st₀.configData = [] ∧
      ¬(st'.conn r).WithinInterval []) ∧
    ∃ st message st₀ s st' r,
      GrantsIo config (environment 1001 21) false (openRequest (changeOfState [0x43, 200]))
        originator 1 st message st₀ s st' r ∧
      (st'.conn r).productionTrigger = .changeOfState ∧
      message.inhibitTimes config st₀.dummy st₀.configData = [200] ∧
      ¬(st'.conn r).WithinInterval [200] :=
  ⟨changeOfState_exceeds [] [] (by decide +kernel),
    changeOfState_exceeds [0x43, 200] [200] (by decide +kernel)⟩

end Sample

end StackState

end Opener

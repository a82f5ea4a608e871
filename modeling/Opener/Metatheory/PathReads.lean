import Opener.Metatheory.PathAccounting

/-!
What `ParseConnectionPath` reads of a path, whether its count is right or not. The reads
stay inside a limit exactly when every segment that is looked at does.
-/

namespace Opener

open CursorAccounts

/-- The loop over the rest of a path looks at no segment behind the limit. -/
inductive DataInside (limit : Nat) (triggered : Bool) : Nat → UInt64 → Message → Prop where
  | finished {position : Nat} {remaining : UInt64} {m : Message} : remaining = 0 →
      DataInside limit triggered position remaining m
  | refused {position : Nat} {remaining : UInt64} {m : Message} : remaining ≠ 0 →
      m.isSimpleData = false → (isProductionInhibitTimeSegment m && triggered) = false →
      position + 1 ≤ limit → DataInside limit triggered position remaining m
  | data {position : Nat} {remaining : UInt64} {m : Message} : remaining ≠ 0 →
      m.isSimpleData = true → position + 2 ≤ limit →
      DataInside limit triggered (position + (m.dataWords * 2 + 2))
        (remaining - UInt64.ofNat (m.dataWords + 1)) (m.drop (m.dataWords * 2 + 2)) →
      DataInside limit triggered position remaining m
  | inhibitTime {position : Nat} {remaining : UInt64} {m : Message} : remaining ≠ 0 →
      m.isSimpleData = false → (isProductionInhibitTimeSegment m && triggered) = true →
      position + 2 ≤ limit →
      DataInside limit triggered (position + 2) (remaining - 2) (m.drop 2) →
      DataInside limit triggered position remaining m

/-- A place where an instance is looked for. -/
def InstanceInside (limit : Nat) (present : Bool) (instances : List UInt16)
    (next : Nat → UInt64 → Message → Prop) (absent : Prop) (position : Nat)
    (remaining : UInt64) (m : Message) : Prop :=
  if present = true then
    position + m.logicalSize ≤ limit ∧ (m.namesInstance instances = true →
      next (position + m.logicalSize)
        (remaining - PathState.instanceWords m.logicalValue.toUInt16) (m.drop m.logicalSize))
  else position + 1 ≤ limit ∧ absent

def PointsInside (limit : Nat) (instances : List UInt16)
    (next : Nat → UInt64 → Message → Prop) : Nat → Nat → UInt64 → Message → Prop
  | 0, position, remaining, m => next position remaining m
  | points + 1, position, remaining, m =>
      InstanceInside limit m.isPoint instances (PointsInside limit instances next points) True
        position remaining m

section Inside

variable (limit : Nat) (cfg : Config) (object : CipConnectionObject)

/-- Behind the configuration instance. A class 3 connection has no more segments. -/
def EndInside (instances : List UInt16) (position : Nat) (remaining : UInt64)
    (m : Message) : Prop :=
  object.transportClass ≠ .class3 →
    PointsInside limit instances (DataInside limit (object.productionTrigger ≠ .cyclic))
      (PathState.encodedPaths object).length position remaining m

def ClassInside (position : Nat) (remaining : UInt64) (m : Message) : Prop :=
  if isLogicalSegment m .classId = true then
    position + m.logicalSize ≤ limit ∧
      ∀ instances, cfg.getCipClass m.logicalValue = some instances →
        InstanceInside limit (isLogicalSegment (m.drop m.logicalSize) .instanceId) instances
          (EndInside limit object instances)
          (EndInside limit object instances (position + m.logicalSize) (remaining - 1)
            (m.drop m.logicalSize))
          (position + m.logicalSize) (remaining - 1) (m.drop m.logicalSize)
  else position + 1 ≤ limit

def InhibitInside (position : Nat) (remaining : UInt64) (m : Message) : Prop :=
  if object.productionTrigger ≠ .cyclic ∧ isProductionInhibitTimeSegment m = true then
    position + 2 ≤ limit ∧
      ClassInside limit cfg object (position + 2) (remaining - 1) (m.drop 2)
  else ClassInside limit cfg object position remaining m

/-- Every segment of a connection path that is looked at lies inside the limit. -/
def ConnectionPathInside (position : Nat) (remaining : UInt64) (m : Message) : Prop :=
  if m.isKey = true then
    position + 2 ≤ limit ∧
      if m.byteAt 1 = 0x04 then
        ¬remaining < 5 → position + 10 ≤ limit ∧
          (checkElectronicKeyData cfg.identity (getElectronicKeyFormat4FromMessage m).1 = .ok () →
            InhibitInside limit cfg object (position + 10) (remaining - 5) (m.drop 10))
      else InhibitInside limit cfg object position remaining m
  else InhibitInside limit cfg object position remaining m

end Inside

namespace PathState

variable {limit position : Nat} {s : PathState}

theorem inside_configurationData {fuel : Nat} (hfuel : s.message.length < fuel) :
    Inside limit (readsFrom position (traceConfigurationData fuel s)) ↔
      DataInside limit (s.object.productionTrigger ≠ .cyclic) position s.remainingPath
        s.message := by
  induction fuel generalizing s position with
  | zero => cases hfuel
  | succ fuel ih =>
      rw [traceConfigurationData]
      by_cases hend : s.remainingPath = 0
      · rw [if_pos hend]
        exact iff_of_true inside_nil (.finished hend)
      · rw [if_neg hend]
        by_cases hdata : s.message.isSimpleData = true
        · have hlength := List.length_pos_of_ne_nil (message_ne_nil (.inl hdata))
          have hshorter : s.takeData.message.length < fuel := by
            simp only [takeData, List.length_drop]
            omega
          rw [if_pos hdata, readsFrom, inside_cons, ih hshorter]
          constructor
          · rintro ⟨hinside, hrest⟩
            exact .data hend hdata hinside hrest
          · intro h
            cases h with
            | finished hzero => exact absurd hzero hend
            | refused _ hother _ _ => cases hdata.symm.trans hother
            | data _ _ hinside hrest => exact ⟨hinside, hrest⟩
            | inhibitTime _ hother _ _ _ => cases hdata.symm.trans hother
        · have hother : s.message.isSimpleData = false := Bool.eq_false_iff.mpr hdata
          rw [if_neg hdata]
          by_cases hinhibits : s.inhibits = true
          · have hlength := List.length_pos_of_ne_nil (message_ne_nil (.inr hinhibits))
            have hshorter : s.takeInhibitTime.message.length < fuel := by
              simp only [takeInhibitTime, List.length_drop]
              omega
            rw [if_pos hinhibits, readsFrom, inside_cons, ih hshorter]
            constructor
            · rintro ⟨hinside, hrest⟩
              exact .inhibitTime hend hother hinhibits hinside hrest
            · intro h
              cases h with
              | finished hzero => exact absurd hzero hend
              | refused _ _ hrefused _ => cases hrefused.symm.trans hinhibits
              | data _ hsimple _ _ => cases hsimple.symm.trans hother
              | inhibitTime _ _ _ hinside hrest => exact ⟨hinside, hrest⟩
          · have hrefused : s.inhibits = false := Bool.eq_false_iff.mpr hinhibits
            rw [if_neg hinhibits, readsFrom, inside_cons]
            constructor
            · rintro ⟨hinside, -⟩
              exact .refused hend hother hrefused hinside
            · intro h
              cases h with
              | finished hzero => exact absurd hzero hend
              | refused _ _ _ hinside => exact ⟨hinside, inside_nil⟩
              | data _ hsimple _ _ => cases hsimple.symm.trans hother
              | inhibitTime _ _ htaken _ _ => cases hrefused.symm.trans htaken

theorem inside_instance {present : Bool} {instances : List UInt16} {accepts C absent : Prop}
    {next : Nat → UInt64 → Message → Prop}
    (haccepts : present = true → (accepts ↔ s.message.namesInstance instances = true))
    (habsent : present = false → ((accepts → C) ↔ absent))
    (hnext : present = true → s.message.namesInstance instances = true →
      (C ↔ next (position + s.message.logicalSize)
        (s.remainingPath - instanceWords s.message.logicalValue.toUInt16)
        (s.message.drop s.message.logicalSize))) :
    (position + (s.instanceAccess present instances).reads ≤ limit ∧ (accepts → C)) ↔
      InstanceInside limit present instances next absent position s.remainingPath s.message := by
  cases present with
  | false =>
      rw [habsent rfl, InstanceInside, if_neg Bool.false_ne_true, instanceAccess,
        if_neg Bool.false_ne_true]
  | true =>
      have hreads : (s.instanceAccess true instances).reads = s.message.logicalSize := by
        rw [instanceAccess, if_pos rfl]
        split <;> rfl
      rw [InstanceInside, if_pos rfl, haccepts rfl, hreads]
      exact and_congr_right fun _ => imp_congr_right fun hnames => hnext rfl hnames

/-- What an access that was accepted moves and counts. -/
theorem instanceAccess_accepted {instances : List UInt16}
    (hnames : s.message.namesInstance instances = true) :
    s.instanceAccess true instances =
      { reads := s.message.logicalSize
        moves := s.message.logicalSize
        counts := (instanceWords s.message.logicalValue.toUInt16).toNat } := by
  rw [instanceAccess, if_pos rfl, if_pos hnames]

theorem inside_connectionPoints {classId : UInt32} {instances : List UInt16}
    {next : PathState → List Access} {Next : Nat → UInt64 → Message → Prop}
    {trigger : ProductionTrigger}
    (hnext : ∀ {s : PathState} {position : Nat}, s.object.productionTrigger = trigger →
      (Inside limit (readsFrom position (next s)) ↔ Next position s.remainingPath s.message))
    (paths : List EncodedPath) (htrigger : s.object.productionTrigger = trigger) :
    Inside limit (readsFrom position (traceConnectionPoints classId instances next paths s)) ↔
      PointsInside limit instances Next paths.length position s.remainingPath s.message := by
  induction paths generalizing s position with
  | nil => exact hnext htrigger
  | cons path paths ih =>
      rw [traceConnectionPoints, inside_andThen, List.length_cons, PointsInside]
      have hsteps : ∀ {s' : PathState}, Consumes s (s.pointAccess instances) s' →
          (Inside limit (readsFrom (position + (s.pointAccess instances).moves)
              (traceConnectionPoints classId instances next paths s')) ↔
            PointsInside limit instances Next paths.length
              (position + (s.pointAccess instances).moves)
              (s.remainingPath - UInt64.ofNat (s.pointAccess instances).counts)
              (s.message.drop (s.pointAccess instances).moves)) := by
        intro s' hconsumes
        rw [← hconsumes.message, ← hconsumes.remainingPath]
        exact ih (hconsumes.productionTrigger.trans htrigger)
      rw [forall_ok_iff parseConnectionPoint_ok parseConnectionPoint_error
        fun _ s' hconsumes => hsteps hconsumes]
      refine inside_instance ?_ ?_ ?_
      · intro hpoint
        exact ⟨fun h => h.2, fun h => ⟨hpoint, h⟩⟩
      · intro hnone
        exact ⟨fun _ => trivial, fun _ h => absurd h.1 (Bool.eq_false_iff.mp hnone)⟩
      · intro hpoint hnames
        rw [pointAccess, hpoint, instanceAccess_accepted hnames, UInt64.ofNat_toNat]

variable {cfg : Config} {object : CipConnectionObject} {configData : Option (List UInt8)}
variable {classId : UInt32} {instances : List UInt16} {instanceId : UInt16}

theorem inside_endPoint (hfollows : Follows object configData s) :
    Inside limit (readsFrom position (s.traceEndPoint classId instances instanceId)) ↔
      EndInside limit object instances position s.remainingPath s.message := by
  rw [traceEndPoint, EndInside, hfollows.transportClass]
  by_cases hclass3 : object.transportClass = .class3
  · rw [if_pos hclass3]
    exact iff_of_true inside_nil fun hother => absurd hclass3 hother
  · rw [if_neg hclass3, traceIoEndPoints, ← hfollows.encodedPaths, forall_prop_of_true hclass3]
    refine inside_connectionPoints ?_ _ hfollows.productionTrigger
    intro s position htrigger
    rw [← htrigger]
    exact inside_configurationData (Nat.lt_succ_self _)

theorem inside_instances (hfollows : Follows object configData s) :
    Inside limit (readsFrom position (s.traceInstance classId instances)) ↔
      InstanceInside limit (isLogicalSegment s.message .instanceId) instances
        (EndInside limit object instances)
        (EndInside limit object instances position s.remainingPath s.message) position
        s.remainingPath s.message := by
  have hsteps : ∀ {found : UInt16 × PathState},
      found.1 = s.configurationInstance ∧
        Consumes s (s.configurationAccess instances) found.2 →
      (Inside limit (readsFrom (position + (s.configurationAccess instances).moves)
          (traceEndPoint found.2 classId instances found.1)) ↔
        EndInside limit object instances (position + (s.configurationAccess instances).moves)
          (s.remainingPath - UInt64.ofNat (s.configurationAccess instances).counts)
          (s.message.drop (s.configurationAccess instances).moves)) := by
    intro found hfound
    rw [← hfound.2.message, ← hfound.2.remainingPath]
    exact inside_endPoint (hfollows.consumes hfound.2)
  rw [traceInstance, inside_andThen, forall_ok_iff parseConfigurationInstance_ok
    parseConfigurationInstance_error fun _ found hfound => hsteps hfound]
  refine inside_instance ?_ ?_ ?_
  · intro hsegment
    exact ⟨fun h => h hsegment, fun h _ => h⟩
  · intro hnone
    have hother : ¬isLogicalSegment s.message .instanceId = true := Bool.eq_false_iff.mp hnone
    rw [configurationAccess, instanceAccess, if_neg hother]
    have hzero : s.remainingPath - UInt64.ofNat 0 = s.remainingPath := UInt64.sub_zero _
    rw [hzero]
    exact ⟨fun h => h fun hsegment => absurd hsegment hother, fun h _ => h⟩
  · intro hsegment hnames
    rw [configurationAccess, hsegment, instanceAccess_accepted hnames, UInt64.ofNat_toNat]

theorem inside_class (hfollows : Follows object configData s) :
    Inside limit (readsFrom position (s.traceClass cfg)) ↔
      ClassInside limit cfg object position s.remainingPath s.message := by
  rw [traceClass, inside_andThen, ClassInside]
  by_cases hsegment : isLogicalSegment s.message .classId = true
  · have hreads : (s.classAccess cfg).reads = s.message.logicalSize := by
      rw [classAccess, if_pos hsegment]
      split <;> rfl
    rw [if_pos hsegment, hreads]
    refine and_congr_right fun _ => ?_
    cases hclass : cfg.getCipClass s.message.logicalValue with
    | none =>
        have hrefused : ¬(isLogicalSegment s.message .classId = true ∧
            (cfg.getCipClass s.message.logicalValue).isSome = true) := by
          simp [hclass]
        obtain ⟨failure, herror⟩ := parseClass_error hrefused
        simp only [herror, reduceCtorEq, false_implies, implies_true]
    | some instances =>
        obtain ⟨s', hok, hconsumes⟩ := parseClass_ok hsegment hclass
        have haccess : s.classAccess cfg =
            { reads := s.message.logicalSize, moves := s.message.logicalSize, counts := 1 } := by
          rw [classAccess, if_pos hsegment, hclass]
          rfl
        have hmessage : s'.message = s.message.drop s.message.logicalSize := by
          rw [hconsumes.message, haccess]
        have hleft : s'.remainingPath = s.remainingPath - 1 := by
          rw [hconsumes.remainingPath, haccess]
          rfl
        simp only [hok, haccess, Except.ok.injEq, forall_eq', Option.some.injEq]
        rw [← hmessage, ← hleft]
        exact inside_instances (hfollows.consumes hconsumes)
  · obtain ⟨failure, herror⟩ := parseClass_error fun (hboth :
      isLogicalSegment s.message .classId = true ∧
        (cfg.getCipClass s.message.logicalValue).isSome = true) => hsegment hboth.1
    simp only [hsegment, classAccess, herror, reduceCtorEq, false_implies, implies_true,
      and_true, Bool.false_eq_true, if_false]

/-- Some byte is read where the class is looked for. -/
theorem ClassInside.lt {remaining : UInt64} {m : Message}
    (h : ClassInside limit cfg object position remaining m) : position + 1 ≤ limit := by
  have hsize := logicalSize_pos m
  rw [ClassInside] at h
  split at h
  · omega
  · exact h

theorem inside_inhibitTime (hfollows : Follows object configData s) :
    Inside limit (readsFrom position (s.traceInhibitTime cfg)) ↔
      InhibitInside limit cfg object position s.remainingPath s.message := by
  have hconsumes := parseProductionInhibitTime_consumes (s := s)
  have hrest : Inside limit (readsFrom (position + s.inhibitAccess.moves)
      (s.parseProductionInhibitTime.traceClass cfg)) ↔
        ClassInside limit cfg object (position + s.inhibitAccess.moves)
          s.parseProductionInhibitTime.remainingPath s.parseProductionInhibitTime.message :=
    inside_class (hfollows.consumes hconsumes)
  rw [traceInhibitTime, inside_andThen]
  simp only [Except.ok.injEq, forall_eq']
  rw [hrest, hconsumes.message, hconsumes.remainingPath, InhibitInside,
    ← hfollows.productionTrigger]
  by_cases hboth : s.object.productionTrigger ≠ .cyclic ∧
      isProductionInhibitTimeSegment s.message = true
  · have haccess : s.inhibitAccess = { reads := 2, moves := 2, counts := 1 } := by
      rw [inhibitAccess, if_pos hboth.1, if_pos hboth.2]
    rw [if_pos hboth, haccess]
    rfl
  · rw [if_neg hboth]
    have haccess : ∃ reads, reads ≤ 1 ∧ s.inhibitAccess = { reads } := by
      rw [inhibitAccess]
      by_cases htriggered : s.object.productionTrigger ≠ .cyclic
      · rw [if_pos htriggered, if_neg fun hsegment => hboth ⟨htriggered, hsegment⟩]
        exact ⟨1, Nat.le_refl 1, rfl⟩
      · rw [if_neg htriggered]
        exact ⟨0, Nat.zero_le 1, rfl⟩
    obtain ⟨reads, hreads, haccess⟩ := haccess
    have hzero : s.remainingPath - UInt64.ofNat 0 = s.remainingPath := UInt64.sub_zero _
    rw [haccess, hzero]
    refine ⟨fun h => h.2, fun h => ⟨?_, h⟩⟩
    have hlt := ClassInside.lt h
    dsimp only
    omega

theorem InhibitInside.lt {remaining : UInt64} {m : Message}
    (h : InhibitInside limit cfg object position remaining m) : position + 1 ≤ limit := by
  rw [InhibitInside] at h
  split at h
  · omega
  · exact ClassInside.lt h

/-- The accesses behind the length checks stay inside exactly when the segments do. -/
theorem inside_segments (hfollows : Follows object configData s) :
    Inside limit (readsFrom position (s.traceSegments cfg)) ↔
      ConnectionPathInside limit cfg object position s.remainingPath s.message := by
  have hrest : ∀ {s' : PathState}, Consumes s s.keyAccess s' →
      (Inside limit (readsFrom (position + s.keyAccess.moves) (s'.traceInhibitTime cfg)) ↔
        InhibitInside limit cfg object (position + s.keyAccess.moves)
          (s.remainingPath - UInt64.ofNat s.keyAccess.counts)
          (s.message.drop s.keyAccess.moves)) := by
    intro s' hconsumes
    rw [← hconsumes.message, ← hconsumes.remainingPath]
    exact inside_inhibitTime (hfollows.consumes hconsumes)
  have hzero : s.remainingPath - UInt64.ofNat 0 = s.remainingPath := UInt64.sub_zero _
  rw [traceSegments, inside_andThen, forall_ok_iff parseElectronicKey_ok
    parseElectronicKey_error fun _ s' hconsumes => hrest hconsumes, ConnectionPathInside,
    keyAccepted]
  by_cases hkey : s.message.isKey = true
  · rw [if_pos hkey]
    by_cases hformat : s.message.byteAt 1 = 0x04
    · rw [if_pos hformat]
      by_cases hlong : ¬s.remainingPath < 5
      · have haccess : s.keyAccess = { reads := 10, moves := 10, counts := 5 } := by
          rw [keyAccess, if_pos hkey, if_pos ⟨hformat, hlong⟩]
        rw [haccess]
        constructor
        · rintro ⟨hreads, hnext⟩
          dsimp only at hreads
          exact ⟨by omega, fun _ => ⟨hreads, fun hcheck => hnext fun _ _ => ⟨hlong, hcheck⟩⟩⟩
        · rintro ⟨-, hnext⟩
          exact ⟨(hnext hlong).1, fun h => (hnext hlong).2 (h hkey hformat).2⟩
      · have haccess : s.keyAccess = { reads := 2 } := by
          rw [keyAccess, if_pos hkey, if_neg fun hboth => hlong hboth.2]
        rw [haccess]
        exact ⟨fun h => ⟨h.1, fun hlonger => absurd hlonger hlong⟩,
          fun h => ⟨h.1, fun haccepted => absurd (haccepted hkey hformat).1 hlong⟩⟩
    · have haccess : s.keyAccess = { reads := 2 } := by
        rw [keyAccess, if_pos hkey, if_neg fun hboth => hformat hboth.1]
      rw [if_neg hformat, haccess, hzero]
      exact and_congr_right fun _ =>
        ⟨fun h => h fun _ hother => absurd hother hformat, fun h _ => h⟩
  · have haccess : s.keyAccess = { reads := 1 } := by
      rw [keyAccess, if_neg hkey]
    rw [if_neg hkey, haccess, hzero]
    exact ⟨fun h => h.2 fun hother => absurd hother hkey,
      fun h => ⟨InhibitInside.lt h, fun _ => h⟩⟩

end PathState

end Opener

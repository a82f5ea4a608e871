import Opener.Core.ConnectionPath
import Opener.Library.CursorAccounts

/-!
The accesses of `ParseConnectionPath`: at each place how far the parser reads from the
cursor, how far it moves the cursor and how many words it takes off the count. The
cursor moves by the size of a segment, the count falls by a constant or by the value
that was read. An accepted parse is where its accesses add up to.
-/

namespace Opener

open CursorAccounts

namespace Message

variable (message : Message)

/-- The bytes of a logical segment; an invalid format moves past the segment byte. -/
def logicalSize : Nat :=
  if message.byteAt 0 &&& 0x03 = 0 then 2
  else if message.byteAt 0 &&& 0x03 = 1 then 4
  else if message.byteAt 0 &&& 0x03 = 2 then 6
  else 1

def logicalValue : UInt32 := (cipEpathGetLogicalValue message).1

theorem cipEpathGetLogicalValue_eq : cipEpathGetLogicalValue message =
    (message.logicalValue, message.drop message.logicalSize) := by
  refine Prod.ext rfl ?_
  simp only [cipEpathGetLogicalValue, logicalSize]
  split
  · simp [Message.getUsint]
  · split
    · simp [Message.getUint]
    · split
      · simp [Message.getUdint]
      · rfl

/-- A segment with an electronic key, of any format. -/
def isKey : Bool := isLogicalSegment message .special && message.byteAt 0 &&& 0x03 = 0

def isPoint : Bool :=
  isLogicalSegment message .instanceId || isLogicalSegment message .connectionPoint

def isSimpleData : Bool :=
  getPathSegmentType message = .dataSegment && message.byteAt 0 &&& 0x1F = 0x00

/-- The data words of a data segment. -/
def dataWords : Nat := (message.byteAt 1).toNat

/-- The instance that a segment names exists. -/
def namesInstance (instances : List UInt16) : Bool :=
  message.logicalValue ≤ 0xFFFF &&
    (Config.getCipInstance instances message.logicalValue.toUInt16).isSome

/-- The count for an instance, two words for a value above 255 and one otherwise, is the
size of its segment. -/
def countsItself : Bool :=
  message.byteAt 0 &&& 0x03 = 0 ||
    message.byteAt 0 &&& 0x03 = 1 && 0xFF < message.logicalValue

end Message

namespace PathState

variable (s : PathState)

/-- What `ParseConnectionPath` reads and consumes at each place. A segment that is
refused is not consumed. -/
def keyAccess : Access :=
  if s.message.isKey then
    if s.message.byteAt 1 = 0x04 ∧ ¬s.remainingPath < 5 then
      { reads := 10, moves := 10, counts := 5 }
    else { reads := 2 }
  else { reads := 1 }

def inhibitAccess : Access :=
  if s.object.productionTrigger ≠ .cyclic then
    if isProductionInhibitTimeSegment s.message then { reads := 2, moves := 2, counts := 1 }
    else { reads := 1 }
  else { reads := 0 }

def classAccess (cfg : Config) : Access :=
  if isLogicalSegment s.message .classId then
    if (cfg.getCipClass s.message.logicalValue).isSome then
      { reads := s.message.logicalSize, moves := s.message.logicalSize, counts := 1 }
    else { reads := s.message.logicalSize }
  else { reads := 1 }

/-- An instance or connection point, which is there if `present`. -/
def instanceAccess (present : Bool) (instances : List UInt16) : Access :=
  if present then
    if s.message.namesInstance instances then
      { reads := s.message.logicalSize
        moves := s.message.logicalSize
        counts := (instanceWords s.message.logicalValue.toUInt16).toNat }
    else { reads := s.message.logicalSize }
  else { reads := 1 }

/-- The configuration instance that is there, or zero. -/
def configurationInstance : UInt16 :=
  if isLogicalSegment s.message .instanceId = true then s.message.logicalValue.toUInt16 else 0

def configurationAccess (instances : List UInt16) : Access :=
  s.instanceAccess (isLogicalSegment s.message .instanceId) instances

def pointAccess (instances : List UInt16) : Access :=
  s.instanceAccess s.message.isPoint instances

def traceConnectionPoints (classId : UInt32) (instances : List UInt16)
    (next : PathState → List Access) : List EncodedPath → PathState → List Access
  | [], s => next s
  | path :: paths, s =>
      (s.pointAccess instances).andThen
        (s.parseConnectionPoint classId instances path)
        (traceConnectionPoints classId instances next paths)

/-- The data segment and the production inhibit time of the loop, as the loop leaves
them. -/
def takeData : PathState :=
  { s with
    configData := some (Message.takeBytes (s.message.drop 2) (s.message.dataWords * 2))
    remainingPath := s.remainingPath - UInt64.ofNat (s.message.dataWords + 1)
    message := s.message.drop (s.message.dataWords * 2 + 2) }

def takeInhibitTime : PathState :=
  { s with
    object := { s.object with productionInhibitTime := (s.message.byteAt 1).toUInt16 }
    message := s.message.drop 2
    remainingPath := s.remainingPath - 2 }

/-- The loop accepts a production inhibit time. -/
def inhibits : Bool :=
  isProductionInhibitTimeSegment s.message && decide (s.object.productionTrigger ≠ .cyclic)

def traceConfigurationData : Nat → PathState → List Access
  | 0, _ => []
  | fuel + 1, s =>
      if s.remainingPath = 0 then []
      else if s.message.isSimpleData then
        { reads := 2
          moves := s.message.dataWords * 2 + 2
          counts := s.message.dataWords + 1
          keeps := some (2, s.message.dataWords * 2) } ::
          traceConfigurationData fuel s.takeData
      else if s.inhibits then
        { reads := 2, moves := 2, counts := 2 } ::
          traceConfigurationData fuel s.takeInhibitTime
      else [{ reads := 1 }]

def traceIoEndPoints (classId : UInt32) (instanceId : UInt16) (instances : List UInt16) :
    List Access :=
  let s := { s with object :=
    { s.object with
      configurationPath := { classId, instanceId }
      consumedConnectionPathLength := 0 } }
  traceConnectionPoints classId instances
    (fun s => traceConfigurationData (s.message.length + 1) { s with configData := none })
    (encodedPaths s.object) s

def traceEndPoint (classId : UInt32) (instances : List UInt16) (instanceId : UInt16) :
    List Access :=
  if s.object.transportClass = .class3 then []
  else s.traceIoEndPoints classId instanceId instances

def traceInstance (classId : UInt32) (instances : List UInt16) : List Access :=
  (s.configurationAccess instances).andThen (s.parseConfigurationInstance instances)
    fun found => found.2.traceEndPoint classId instances found.1

def traceClass (cfg : Config) : List Access :=
  (s.classAccess cfg).andThen (s.parseClass cfg)
    fun found => found.2.2.traceInstance found.1 found.2.1

def traceInhibitTime (cfg : Config) : List Access :=
  s.inhibitAccess.andThen (.ok s.parseProductionInhibitTime : Except PathFailure PathState)
    fun s => s.traceClass cfg

/-- The accesses of `ParseConnectionPath` behind the length checks. -/
def traceSegments (cfg : Config) : List Access :=
  s.keyAccess.andThen (s.parseElectronicKey cfg) fun s => s.traceInhibitTime cfg

/-- A step that moves the cursor and lowers the count, and changes neither the terms that
the rest of the parse depends on nor the configuration data. -/
structure Consumes (s : PathState) (a : Access) (s' : PathState) : Prop where
  message : s'.message = s.message.drop a.moves
  remainingPath : s'.remainingPath = s.remainingPath - UInt64.ofNat a.counts
  configData : s'.configData = s.configData
  productionTrigger : s'.object.productionTrigger = s.object.productionTrigger
  transportClass : s'.object.transportClass = s.object.transportClass
  encodedPaths : encodedPaths s'.object = encodedPaths s.object
  keeps : a.keeps = none

variable {s}

theorem isKey_iff (m : Message) :
    m.isKey = true ↔ isLogicalSegment m .special = true ∧ m.byteAt 0 &&& 0x03 = 0 := by
  simp only [Message.isKey, Bool.and_eq_true, decide_eq_true_eq]

theorem getElectronicKeyFormat4_rest (m : Message) :
    (getElectronicKeyFormat4FromMessage m).2 = m.drop 10 := by
  simp [getElectronicKeyFormat4FromMessage, Message.getUint, Message.getUsint]

/-- The key is missing, of another format, or that of the device. -/
def keyAccepted (s : PathState) (cfg : Config) : Prop :=
  s.message.isKey = true → s.message.byteAt 1 = 0x04 →
    ¬s.remainingPath < 5 ∧ checkElectronicKeyData cfg.identity
      (getElectronicKeyFormat4FromMessage s.message).1 = .ok ()

theorem parseElectronicKey_ok {cfg : Config} (h : s.keyAccepted cfg) :
    ∃ s', s.parseElectronicKey cfg = .ok s' ∧ Consumes s s.keyAccess s' := by
  simp only [parseElectronicKey, keyAccess]
  by_cases hkey : s.message.isKey = true
  · by_cases hformat : s.message.byteAt 1 = 0x04
    · obtain ⟨hlong, hcheck⟩ := h hkey hformat
      have hsegment := (isKey_iff _).mp hkey
      rw [if_pos ⟨hsegment.1, hsegment.2, hformat⟩, if_neg hlong, if_pos hkey,
        if_pos ⟨hformat, hlong⟩]
      simp only [hcheck]
      refine ⟨_, rfl, ?_, rfl, rfl, rfl, rfl, rfl, rfl⟩
      exact getElectronicKeyFormat4_rest s.message
    · have hother : ¬(isLogicalSegment s.message .special = true ∧
          s.message.byteAt 0 &&& 0x03 = 0 ∧ s.message.byteAt 1 = 0x04) :=
        fun hall => hformat hall.2.2
      rw [if_neg hother, if_pos hkey, if_neg fun hboth => hformat hboth.1]
      exact ⟨s, rfl, rfl, by simp, rfl, rfl, rfl, rfl, rfl⟩
  · have hother : ¬(isLogicalSegment s.message .special = true ∧
        s.message.byteAt 0 &&& 0x03 = 0 ∧ s.message.byteAt 1 = 0x04) :=
      fun hall => hkey ((isKey_iff _).mpr ⟨hall.1, hall.2.1⟩)
    rw [if_neg hother, if_neg hkey]
    exact ⟨s, rfl, rfl, by simp, rfl, rfl, rfl, rfl, rfl⟩

theorem parseElectronicKey_error {cfg : Config} (h : ¬s.keyAccepted cfg) :
    ∃ failure, s.parseElectronicKey cfg = .error failure := by
  simp only [keyAccepted, Classical.not_imp] at h
  obtain ⟨hkey, hformat, hrefused⟩ := h
  have hsegment := (isKey_iff _).mp hkey
  simp only [parseElectronicKey]
  rw [if_pos ⟨hsegment.1, hsegment.2, hformat⟩]
  by_cases hshort : s.remainingPath < 5
  · rw [if_pos hshort]
    exact ⟨_, rfl⟩
  · rw [if_neg hshort]
    cases hcheck : checkElectronicKeyData cfg.identity
        (getElectronicKeyFormat4FromMessage s.message).1 with
    | ok _ => exact absurd ⟨hshort, hcheck⟩ hrefused
    | error extendedStatus => exact ⟨_, rfl⟩

theorem parseProductionInhibitTime_consumes :
    Consumes s s.inhibitAccess s.parseProductionInhibitTime := by
  rw [inhibitAccess, parseProductionInhibitTime]
  by_cases htriggered : s.object.productionTrigger ≠ .cyclic
  · by_cases hsegment : isProductionInhibitTimeSegment s.message = true
    · rw [if_pos htriggered, if_pos hsegment, if_pos ⟨htriggered, hsegment⟩]
      exact ⟨rfl, rfl, rfl, rfl, rfl, rfl, rfl⟩
    · rw [if_pos htriggered, if_neg hsegment, if_neg fun h => hsegment h.2]
      exact ⟨rfl, by simp, rfl, rfl, rfl, rfl, rfl⟩
  · rw [if_neg htriggered, if_neg fun h => htriggered h.1]
    exact ⟨rfl, by simp, rfl, rfl, rfl, rfl, rfl⟩

theorem parseClass_ok {cfg : Config} {instances : List UInt16}
    (hsegment : isLogicalSegment s.message .classId = true)
    (hclass : cfg.getCipClass s.message.logicalValue = some instances) :
    ∃ s', s.parseClass cfg = .ok (s.message.logicalValue, instances, s') ∧
      Consumes s (s.classAccess cfg) s' := by
  have haccess : s.classAccess cfg =
      { reads := s.message.logicalSize, moves := s.message.logicalSize, counts := 1 } := by
    rw [classAccess, if_pos hsegment, if_pos (Option.isSome_of_eq_some hclass)]
  simp only [parseClass, Message.cipEpathGetLogicalValue_eq, if_pos hsegment, hclass, haccess]
  exact ⟨_, rfl, rfl, rfl, rfl, rfl, rfl, rfl, rfl⟩

theorem parseClass_error {cfg : Config}
    (h : ¬(isLogicalSegment s.message .classId = true ∧
      (cfg.getCipClass s.message.logicalValue).isSome = true)) :
    ∃ failure, s.parseClass cfg = .error failure := by
  simp only [parseClass, Message.cipEpathGetLogicalValue_eq]
  by_cases hsegment : isLogicalSegment s.message .classId = true
  · rw [if_pos hsegment]
    cases hclass : cfg.getCipClass s.message.logicalValue with
    | some instances => exact absurd ⟨hsegment, Option.isSome_of_eq_some hclass⟩ h
    | none =>
        dsimp only
        split
        · exact ⟨_, rfl⟩
        · exact ⟨_, rfl⟩
  · rw [if_neg hsegment]
    exact ⟨_, rfl⟩

theorem refuses_iff (m : Message) (instances : List UInt16) :
    (m.logicalValue > 0xFFFF ∨
      Config.getCipInstance instances m.logicalValue.toUInt16 = none) ↔
      ¬m.namesInstance instances = true := by
  simp only [Message.namesInstance, Bool.and_eq_true, decide_eq_true_eq, not_and_or,
    Bool.not_eq_true, Option.isSome_eq_false_iff, Option.isNone_iff_eq_none, gt_iff_lt,
    UInt32.not_le]

theorem parseConfigurationInstance_ok {instances : List UInt16}
    (h : isLogicalSegment s.message .instanceId = true →
      s.message.namesInstance instances = true) :
    ∃ found, s.parseConfigurationInstance instances = .ok found ∧
      found.1 = s.configurationInstance ∧
      Consumes s (s.configurationAccess instances) found.2 := by
  simp only [parseConfigurationInstance, Message.cipEpathGetLogicalValue_eq, refuses_iff,
    configurationInstance, configurationAccess, instanceAccess]
  by_cases hsegment : isLogicalSegment s.message .instanceId = true
  · have hnames := h hsegment
    rw [if_pos hsegment, if_neg (not_not.mpr hnames), if_pos hsegment, if_pos hsegment,
      if_pos hnames]
    exact ⟨_, rfl, rfl, rfl, by simp, rfl, rfl, rfl, rfl, rfl⟩
  · rw [if_neg hsegment, if_neg hsegment, if_neg hsegment]
    exact ⟨_, rfl, rfl, rfl, by simp, rfl, rfl, rfl, rfl, rfl⟩

theorem parseConfigurationInstance_error {instances : List UInt16}
    (h : ¬(isLogicalSegment s.message .instanceId = true →
      s.message.namesInstance instances = true)) :
    ∃ failure, s.parseConfigurationInstance instances = .error failure := by
  simp only [parseConfigurationInstance, Message.cipEpathGetLogicalValue_eq, refuses_iff]
  obtain ⟨hsegment, hunknown⟩ := Classical.not_imp.mp h
  rw [if_pos hsegment, if_pos hunknown]
  exact ⟨_, rfl⟩

theorem setPath_consumes (path : EncodedPath) (epath : ConnectionPathEpath) (bytes : Message)
    (words : UInt64) (a : Access) (hbytes : bytes = s.message.drop a.moves)
    (hwords : words = s.remainingPath - UInt64.ofNat a.counts) (hkeeps : a.keeps = none) :
    Consumes s a { s.setPath path epath with message := bytes, remainingPath := words } := by
  cases path with
  | consumed => exact ⟨hbytes, hwords, rfl, rfl, rfl, rfl, hkeeps⟩
  | produced => exact ⟨hbytes, hwords, rfl, rfl, rfl, rfl, hkeeps⟩

theorem setPath_cursor (path : EncodedPath) (epath : ConnectionPathEpath) :
    (s.setPath path epath).remainingPath = s.remainingPath := by
  cases path with
  | consumed => rfl
  | produced => rfl

theorem isPoint_iff (m : Message) :
    m.isPoint = true ↔
      (isLogicalSegment m .instanceId = true ∨ isLogicalSegment m .connectionPoint = true) := by
  rw [Message.isPoint, Bool.or_eq_true]

theorem parseConnectionPoint_ok {classId : UInt32} {instances : List UInt16}
    {path : EncodedPath}
    (h : s.message.isPoint = true ∧ s.message.namesInstance instances = true) :
    ∃ s', s.parseConnectionPoint classId instances path = .ok s' ∧
      Consumes s (s.pointAccess instances) s' := by
  obtain ⟨hpoint, hnames⟩ := h
  have hknown := (not_congr (refuses_iff s.message instances)).mpr (not_not.mpr hnames)
  rw [not_or] at hknown
  simp only [parseConnectionPoint, Message.cipEpathGetLogicalValue_eq, pointAccess,
    instanceAccess]
  rw [if_pos ((isPoint_iff _).mp hpoint), if_neg hknown.1, if_neg hknown.2, if_pos hpoint,
    if_pos hnames]
  refine ⟨_, rfl, setPath_consumes path _ _ _ _ rfl ?_ rfl⟩
  rw [setPath_cursor]
  simp

theorem parseConnectionPoint_error {classId : UInt32} {instances : List UInt16}
    {path : EncodedPath}
    (h : ¬(s.message.isPoint = true ∧ s.message.namesInstance instances = true)) :
    ∃ failure, s.parseConnectionPoint classId instances path = .error failure := by
  simp only [parseConnectionPoint, Message.cipEpathGetLogicalValue_eq]
  by_cases hpoint : s.message.isPoint = true
  · have hunknown := (refuses_iff s.message instances).mpr fun hnames => h ⟨hpoint, hnames⟩
    rw [if_pos ((isPoint_iff _).mp hpoint)]
    split
    · exact ⟨_, rfl⟩
    · rename_i hsmall
      rw [if_pos (hunknown.resolve_left hsmall)]
      exact ⟨_, rfl⟩
  · rw [if_neg fun hsegment => hpoint ((isPoint_iff _).mpr hsegment)]
    exact ⟨_, rfl⟩

variable {connectionPathSize : UInt64} {fuel : Nat}

/-- The turns of the loop. -/
theorem parseConfigurationData_end (h : s.remainingPath = 0) :
    parseConfigurationData connectionPathSize fuel s = .ok s := by
  cases fuel with
  | zero => rw [parseConfigurationData, if_pos h]
  | succ fuel => rw [parseConfigurationData, if_pos h]

theorem parseConfigurationData_data (h : s.remainingPath ≠ 0)
    (hdata : s.message.isSimpleData = true) :
    parseConfigurationData connectionPathSize (fuel + 1) s =
      parseConfigurationData connectionPathSize fuel s.takeData := by
  simp only [Message.isSimpleData, Bool.and_eq_true, decide_eq_true_eq] at hdata
  rw [parseConfigurationData]
  simp only [if_neg h, hdata.1, if_pos hdata.2]
  rfl

theorem inhibits_iff : s.inhibits = true ↔
    (getPathSegmentType s.message = .networkSegment ∧ s.message.byteAt 0 &&& 0x1F = 0x03) ∧
      s.object.productionTrigger ≠ .cyclic := by
  simp only [inhibits, isProductionInhibitTimeSegment, Bool.and_eq_true, decide_eq_true_eq]

theorem parseConfigurationData_inhibits (h : s.remainingPath ≠ 0)
    (hinhibits : s.inhibits = true) :
    parseConfigurationData connectionPathSize (fuel + 1) s =
      parseConfigurationData connectionPathSize fuel s.takeInhibitTime := by
  obtain ⟨⟨htype, hsubtype⟩, htriggered⟩ := inhibits_iff.mp hinhibits
  rw [parseConfigurationData]
  simp only [if_neg h, htype, if_pos hsubtype, if_pos htriggered]
  rfl

theorem parseConfigurationData_refused (h : s.remainingPath ≠ 0)
    (hdata : ¬s.message.isSimpleData = true) (hinhibits : ¬s.inhibits = true) :
    ∃ extendedStatus, ∀ fuel, parseConfigurationData connectionPathSize (fuel + 1) s =
      s.fail GeneralStatus.pathSegmentError extendedStatus := by
  cases htype : getPathSegmentType s.message with
  | dataSegment =>
      have hsubtype : ¬s.message.byteAt 0 &&& 0x1F = 0x00 := by
        intro hsimple
        exact hdata (by simp only [Message.isSimpleData, htype, hsimple, decide_true,
          Bool.and_self])
      refine ⟨0, fun fuel => ?_⟩
      rw [parseConfigurationData]
      simp only [if_neg h, htype, if_neg hsubtype]
  | networkSegment =>
      by_cases hsubtype : s.message.byteAt 0 &&& 0x1F = 0x03
      · have hcyclic : ¬s.object.productionTrigger ≠ .cyclic :=
          fun htriggered => hinhibits (inhibits_iff.mpr ⟨⟨htype, hsubtype⟩, htriggered⟩)
        refine ⟨(connectionPathSize - s.remainingPath).toUInt16, fun fuel => ?_⟩
        rw [parseConfigurationData]
        simp only [if_neg h, htype, if_pos hsubtype, if_neg hcyclic]
      · refine ⟨0, fun fuel => ?_⟩
        rw [parseConfigurationData]
        simp only [if_neg h, htype, if_neg hsubtype]
  | _ =>
      refine ⟨(connectionPathSize - s.remainingPath).toUInt16, fun fuel => ?_⟩
      rw [parseConfigurationData]
      simp only [if_neg h, htype]

/-- The zero bytes behind the message are no segment that the loop takes. -/
theorem message_ne_nil (h : s.message.isSimpleData = true ∨ s.inhibits = true) :
    s.message ≠ [] := by
  intro hnil
  rw [inhibits, hnil] at h
  revert h
  simp [Message.isSimpleData, isProductionInhibitTimeSegment, getPathSegmentType,
    Message.byteAt]

/-- The loop ends, whatever the path. -/
theorem parseConfigurationData_terminates {fuel' : Nat} (h : s.message.length < fuel)
    (h' : s.message.length < fuel') :
    parseConfigurationData connectionPathSize fuel s =
      parseConfigurationData connectionPathSize fuel' s := by
  induction fuel generalizing fuel' s with
  | zero => cases h
  | succ fuel ih =>
      cases fuel' with
      | zero => cases h'
      | succ fuel' =>
          by_cases hend : s.remainingPath = 0
          · rw [parseConfigurationData_end hend, parseConfigurationData_end hend]
          · by_cases hdata : s.message.isSimpleData = true
            · have hpositive := List.length_pos_of_ne_nil (message_ne_nil (.inl hdata))
              have hshorter : s.takeData.message.length < s.message.length := by
                simp only [takeData, List.length_drop]
                omega
              rw [parseConfigurationData_data hend hdata, parseConfigurationData_data hend hdata]
              exact ih (by omega) (by omega)
            · by_cases hinhibits : s.inhibits = true
              · have hpositive := List.length_pos_of_ne_nil (message_ne_nil (.inr hinhibits))
                have hshorter : s.takeInhibitTime.message.length < s.message.length := by
                  simp only [takeInhibitTime, List.length_drop]
                  omega
                rw [parseConfigurationData_inhibits hend hinhibits,
                  parseConfigurationData_inhibits hend hinhibits]
                exact ih (by omega) (by omega)
              · obtain ⟨failure, hrefused⟩ :=
                  parseConfigurationData_refused hend hdata hinhibits
                rw [hrefused, hrefused]

variable {cfg : Config} {words : Nat}
variable {classId : UInt32} {instances : List UInt16} {instanceId : UInt16}

/-- The parse from each of the places on. -/
def parseEndPoint (connectionPathSize : UInt64) (classId : UInt32) (instances : List UInt16)
    (instanceId : UInt16) (s : PathState) : Except PathFailure PathState :=
  if s.object.transportClass = .class3 then s.parseClass3EndPoint classId instanceId
  else s.parseIoEndPoints connectionPathSize classId instanceId instances

def parseFromInstance (connectionPathSize : UInt64) (classId : UInt32)
    (instances : List UInt16) (s : PathState) : Except PathFailure PathState :=
  (s.parseConfigurationInstance instances).bind
    fun found => parseEndPoint connectionPathSize classId instances found.1 found.2

def parseFromClass (cfg : Config) (connectionPathSize : UInt64) (s : PathState) :
    Except PathFailure PathState :=
  (s.parseClass cfg).bind
    fun found => parseFromInstance connectionPathSize found.1 found.2.1 found.2.2

def parseFromInhibitTime (cfg : Config) (connectionPathSize : UInt64) (s : PathState) :
    Except PathFailure PathState :=
  (Except.ok s.parseProductionInhibitTime).bind (parseFromClass cfg connectionPathSize)

theorem parseSegments_eq (cfg : Config) (connectionPathSize : UInt64) (s : PathState) :
    s.parseSegments cfg connectionPathSize =
      (s.parseElectronicKey cfg).bind (parseFromInhibitTime cfg connectionPathSize) := by
  rw [parseSegments]
  cases s.parseElectronicKey cfg with
  | error failure => rfl
  | ok s =>
      simp only [Except.bind, parseFromInhibitTime, parseFromClass]
      cases s.parseProductionInhibitTime.parseClass cfg with
      | error failure => rfl
      | ok found =>
          simp only [parseFromInstance]
          cases found.2.2.parseConfigurationInstance found.2.1 with
          | error failure => rfl
          | ok found => rfl

theorem remainingPath_pos_iff (hwords : s.remainingPath.toNat = words) :
    s.remainingPath > 0 ↔ ¬words = 0 := by
  rw [gt_iff_lt, UInt64.lt_iff_toNat_lt, hwords]
  exact Nat.pos_iff_ne_zero

/-- An accepted parse from one state to another: the accesses account for the cursor, for
the count, which has come to zero, and for the configuration data. -/
structure Walked (base : Option (List UInt8)) (s : PathState) (accesses : List Access)
    (s' : PathState) : Prop where
  message : s'.message = s.message.drop (moved accesses)
  remainingPath : s'.remainingPath = s.remainingPath - UInt64.ofNat (counted accesses)
  finished : s'.remainingPath = 0
  keeps : ∀ a ∈ accesses, ∀ slice, a.keeps = some slice → slice.1 + slice.2 ≤ a.moves
  explicit : s.object.transportClass = .class3 → ∀ position, kept position accesses = none
  configData : ∀ (path : Message) (position : Nat), s.message = path.drop position →
    s'.configData = match kept position accesses with
      | some slice => some (Message.takeBytes (path.drop slice.1) slice.2)
      | none => base

variable {base : Option (List UInt8)} {accesses : List Access} {s₁ s' : PathState}

theorem Walked.refl (h : s.remainingPath = 0) : Walked s.configData s [] s :=
  ⟨rfl, by simp [counted], h, nofun, fun _ _ => rfl, fun _ _ _ => rfl⟩

theorem remainingPath_counted {a : Access}
    (h : s₁.remainingPath = s.remainingPath - UInt64.ofNat a.counts)
    (h' : s'.remainingPath = s₁.remainingPath - UInt64.ofNat (counted accesses)) :
    s'.remainingPath = s.remainingPath - UInt64.ofNat (counted (a :: accesses)) := by
  rw [h', h, counted, UInt64.ofNat_add]
  grind

theorem Walked.consumes {a : Access} (h : Walked base s₁ accesses s')
    (hconsumes : Consumes s a s₁) : Walked base s (a :: accesses) s' := by
  refine ⟨?_, remainingPath_counted hconsumes.remainingPath h.remainingPath, h.finished, ?_, ?_,
    ?_⟩
  · rw [h.message, hconsumes.message, List.drop_drop, moved]
  · intro b hb slice hslice
    cases List.mem_cons.mp hb with
    | inl hhead =>
        rw [hhead, hconsumes.keeps] at hslice
        cases hslice
    | inr htail => exact h.keeps b htail slice hslice
  · intro hclass3 position
    rw [kept, h.explicit (hconsumes.transportClass.trans hclass3), hconsumes.keeps]
    rfl
  · intro path position hpath
    have hpath₁ : s₁.message = path.drop (position + a.moves) := by
      rw [hconsumes.message, hpath, List.drop_drop]
    rw [h.configData path _ hpath₁, kept, hconsumes.keeps]
    cases kept (position + a.moves) accesses with
    | some slice => rfl
    | none => rfl

theorem Walked.keeps_slice {a : Access} {slice : Nat × Nat}
    (h : Walked s₁.configData s₁ accesses s') (hio : s.object.transportClass ≠ .class3)
    (hmessage : s₁.message = s.message.drop a.moves)
    (hremaining : s₁.remainingPath = s.remainingPath - UInt64.ofNat a.counts)
    (hkeeps : a.keeps = some slice) (hinside : slice.1 + slice.2 ≤ a.moves)
    (hdata : s₁.configData = some (Message.takeBytes (s.message.drop slice.1) slice.2)) :
    Walked base s (a :: accesses) s' := by
  refine ⟨?_, remainingPath_counted hremaining h.remainingPath, h.finished, ?_,
    fun hclass3 => absurd hclass3 hio, ?_⟩
  · rw [h.message, hmessage, List.drop_drop, moved]
  · intro b hb own hown
    cases List.mem_cons.mp hb with
    | inl hhead =>
        rw [hhead, hkeeps, Option.some.injEq] at hown
        rw [hhead, ← hown]
        exact hinside
    | inr htail => exact h.keeps b htail own hown
  · intro path position hpath
    have hpath₁ : s₁.message = path.drop (position + a.moves) := by
      rw [hmessage, hpath, List.drop_drop]
    rw [h.configData path _ hpath₁, kept, hkeeps, hdata, hpath, List.drop_drop]
    cases kept (position + a.moves) accesses with
    | some later => rfl
    | none => rfl

theorem walked_configurationData {connectionPathSize : UInt64} {fuel : Nat}
    (h : parseConfigurationData connectionPathSize fuel s = .ok s')
    (hfuel : s.message.length < fuel) (hio : s.object.transportClass ≠ .class3) :
    Walked s.configData s (traceConfigurationData fuel s) s' := by
  induction fuel generalizing s with
  | zero => cases hfuel
  | succ fuel ih =>
      rw [traceConfigurationData]
      by_cases hend : s.remainingPath = 0
      · rw [parseConfigurationData_end hend] at h
        cases h
        rw [if_pos hend]
        exact .refl hend
      · rw [if_neg hend]
        by_cases hdata : s.message.isSimpleData = true
        · have hlength := List.length_pos_of_ne_nil (message_ne_nil (.inl hdata))
          have hshorter : s.takeData.message.length < fuel := by
            simp only [takeData, List.length_drop]
            omega
          rw [parseConfigurationData_data hend hdata] at h
          have hrest := ih h hshorter hio
          rw [if_pos hdata]
          refine hrest.keeps_slice hio rfl rfl rfl ?_ rfl
          dsimp only
          omega
        · rw [if_neg hdata]
          by_cases hinhibits : s.inhibits = true
          · have hlength := List.length_pos_of_ne_nil (message_ne_nil (.inr hinhibits))
            have hshorter : s.takeInhibitTime.message.length < fuel := by
              simp only [takeInhibitTime, List.length_drop]
              omega
            rw [parseConfigurationData_inhibits hend hinhibits] at h
            rw [if_pos hinhibits]
            exact (ih h hshorter hio).consumes ⟨rfl, rfl, rfl, rfl, rfl, rfl, rfl⟩
          · obtain ⟨extendedStatus, hrefused⟩ :=
              parseConfigurationData_refused hend hdata hinhibits
            rw [hrefused] at h
            cases h

theorem walked_connectionPoints {classId : UInt32} {instances : List UInt16}
    {next : PathState → List Access} (paths : List EncodedPath)
    (h : parseConnectionPoints classId instances paths s = .ok s₁)
    (hnext : Walked base s₁ (next s₁) s') :
    Walked base s (traceConnectionPoints classId instances next paths s) s' := by
  induction paths generalizing s with
  | nil =>
      cases h
      exact hnext
  | cons path paths ih =>
      rw [parseConnectionPoints] at h
      cases hpoint : s.parseConnectionPoint classId instances path with
      | error failure => simp [hpoint] at h
      | ok s₂ =>
          simp only [hpoint] at h
          have hconsumes := of_ok parseConnectionPoint_ok parseConnectionPoint_error hpoint
          rw [traceConnectionPoints, hpoint]
          exact (ih h).consumes hconsumes

/-- What an accepted parse leaves of the configuration data that it finds. -/
def initialConfigData (s : PathState) : Option (List UInt8) :=
  if s.object.transportClass = .class3 then s.configData else none

theorem Consumes.initialConfigData {a : Access} (h : Consumes s a s₁) :
    s₁.initialConfigData = s.initialConfigData := by
  rw [PathState.initialConfigData, PathState.initialConfigData, h.transportClass, h.configData]

theorem parseConnectionPoints_transportClass (paths : List EncodedPath)
    (h : parseConnectionPoints classId instances paths s = .ok s₁) :
    s₁.object.transportClass = s.object.transportClass := by
  induction paths generalizing s with
  | nil =>
      cases h
      rfl
  | cons path paths ih =>
      rw [parseConnectionPoints] at h
      cases hpoint : s.parseConnectionPoint classId instances path with
      | error failure => simp [hpoint] at h
      | ok s₂ =>
          simp only [hpoint] at h
          have hconsumes := of_ok parseConnectionPoint_ok parseConnectionPoint_error hpoint
          exact (ih h).trans hconsumes.transportClass

theorem walked_ioEndPoints {connectionPathSize : UInt64}
    (hio : s.object.transportClass ≠ .class3)
    (h : s.parseIoEndPoints connectionPathSize classId instanceId instances = .ok s') :
    Walked none s (s.traceIoEndPoints classId instanceId instances) s' := by
  simp only [parseIoEndPoints] at h
  split at h
  · cases h
  · rename_i s₁ hpoints
    have hio₁ : s₁.object.transportClass ≠ .class3 := by
      rw [parseConnectionPoints_transportClass _ hpoints]
      exact hio
    have hdata := walked_configurationData h (Nat.lt_succ_self _) hio₁
    have hnext : Walked none s₁ (traceConfigurationData (s₁.message.length + 1)
        { s₁ with configData := none }) s' :=
      ⟨hdata.message, hdata.remainingPath, hdata.finished, hdata.keeps, hdata.explicit,
        hdata.configData⟩
    have hwalked : Walked none _ (traceConnectionPoints classId instances
        (fun s => traceConfigurationData (s.message.length + 1) { s with configData := none })
        _ _) s' := walked_connectionPoints _ hpoints hnext
    exact ⟨hwalked.message, hwalked.remainingPath, hwalked.finished, hwalked.keeps,
      hwalked.explicit, hwalked.configData⟩

theorem walked_endPoint {connectionPathSize : UInt64}
    (h : parseEndPoint connectionPathSize classId instances instanceId s = .ok s') :
    Walked s.initialConfigData s (s.traceEndPoint classId instances instanceId) s' := by
  rw [parseEndPoint] at h
  rw [traceEndPoint, initialConfigData]
  by_cases hclass3 : s.object.transportClass = .class3
  · rw [if_pos hclass3] at h
    rw [if_pos hclass3, if_pos hclass3]
    simp only [parseClass3EndPoint] at h
    split at h
    · cases h
    · rename_i hleft
      have hzero : s.remainingPath = 0 := by
        have hend := (not_congr (remainingPath_pos_iff rfl)).mp hleft
        exact UInt64.toNat_inj.mp (not_not.mp hend)
      split at h
      · cases h
      · cases h
        exact ⟨rfl, by simp [counted], hzero, nofun, fun _ _ => rfl, fun _ _ _ => rfl⟩
  · rw [if_neg hclass3] at h
    rw [if_neg hclass3, if_neg hclass3]
    exact walked_ioEndPoints hclass3 h

theorem walked_instance {connectionPathSize : UInt64}
    (h : parseFromInstance connectionPathSize classId instances s = .ok s') :
    Walked s.initialConfigData s (s.traceInstance classId instances) s' := by
  obtain ⟨found, hfound, hrest⟩ := bind_ok h
  have hconsumes :=
    (of_ok parseConfigurationInstance_ok parseConfigurationInstance_error hfound).2
  rw [traceInstance, hfound, ← hconsumes.initialConfigData]
  exact (walked_endPoint hrest).consumes hconsumes

theorem parseClass_consumes {found : UInt32 × List UInt16 × PathState}
    (h : s.parseClass cfg = .ok found) : Consumes s (s.classAccess cfg) found.2.2 := by
  have hsome : isLogicalSegment s.message .classId = true ∧
      (cfg.getCipClass s.message.logicalValue).isSome = true := by
    by_contra hnone
    obtain ⟨failure, herror⟩ := parseClass_error hnone
    cases h.symm.trans herror
  obtain ⟨instances, hclass⟩ := Option.isSome_iff_exists.mp hsome.2
  obtain ⟨s₁, hok, hconsumes⟩ := parseClass_ok hsome.1 hclass
  cases h.symm.trans hok
  exact hconsumes

theorem walked_class {connectionPathSize : UInt64}
    (h : parseFromClass cfg connectionPathSize s = .ok s') :
    Walked s.initialConfigData s (s.traceClass cfg) s' := by
  obtain ⟨found, hfound, hrest⟩ := bind_ok h
  have hconsumes := parseClass_consumes hfound
  rw [traceClass, hfound, ← hconsumes.initialConfigData]
  exact (walked_instance hrest).consumes hconsumes

theorem walked_inhibitTime {connectionPathSize : UInt64}
    (h : parseFromInhibitTime cfg connectionPathSize s = .ok s') :
    Walked s.initialConfigData s (s.traceInhibitTime cfg) s' := by
  have hconsumes : Consumes s s.inhibitAccess s.parseProductionInhibitTime :=
    parseProductionInhibitTime_consumes
  rw [traceInhibitTime, ← hconsumes.initialConfigData]
  exact (walked_class h).consumes hconsumes

theorem walked_segments {connectionPathSize : UInt64}
    (h : s.parseSegments cfg connectionPathSize = .ok s') :
    Walked s.initialConfigData s (s.traceSegments cfg) s' := by
  rw [parseSegments_eq] at h
  obtain ⟨s₁, hkey, hrest⟩ := bind_ok h
  have hconsumes := of_ok parseElectronicKey_ok parseElectronicKey_error hkey
  rw [traceSegments, hkey, ← hconsumes.initialConfigData]
  exact (walked_inhibitTime hrest).consumes hconsumes

end PathState

end Opener

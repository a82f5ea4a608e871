import Opener.Core.SampleApplication
import Opener.Metatheory.PathTrace

/-!
The cursor and the count of `ParseConnectionPath`. A path is counted when the two agree
on every segment that the parser comes to and no segment reaches over the end of the
path; then the parser stays inside, and an accepted path is used up.
-/

namespace Opener

open CursorAccounts

/-- The rest of a path of so many words, from the loop on, is counted: every data segment
lies inside and no production inhibit time, counted with two words, is taken. -/
inductive DataCounted (triggered : Bool) : Nat → Message → Prop where
  | finished {m : Message} : DataCounted triggered 0 m
  | refused {words : Nat} {m : Message} : 0 < words → m.isSimpleData = false →
      (isProductionInhibitTimeSegment m && triggered) = false → DataCounted triggered words m
  | data {words : Nat} {m : Message} : m.isSimpleData = true → m.dataWords + 1 ≤ words →
      DataCounted triggered (words - (m.dataWords + 1)) (m.drop (m.dataWords * 2 + 2)) →
      DataCounted triggered words m

/-- A place where an instance is looked for: the path goes on, and an instance that is
there lies inside and, if it exists, is counted with its size. -/
def InstanceCounted (present : Bool) (instances : List UInt16)
    (next : Nat → Message → Prop) (absent : Prop) (words : Nat) (m : Message) : Prop :=
  0 < words ∧
    if present = true then
      m.logicalSize ≤ 2 * words ∧ (m.namesInstance instances = true →
        m.countsItself = true ∧ next (words - m.logicalSize / 2) (m.drop m.logicalSize))
    else absent

theorem InstanceCounted.intro {present : Bool} {instances : List UInt16}
    {next : Nat → Message → Prop} {absent : Prop} {words : Nat} {m : Message}
    (hwords : 0 < words) (hpresent : present = true) (hinside : m.logicalSize ≤ 2 * words)
    (hcounts : m.countsItself = true)
    (hnext : next (words - m.logicalSize / 2) (m.drop m.logicalSize)) :
    InstanceCounted present instances next absent words m := by
  refine ⟨hwords, ?_⟩
  rw [if_pos hpresent]
  exact ⟨hinside, fun _ => ⟨hcounts, hnext⟩⟩

def PointsCounted (instances : List UInt16) (next : Nat → Message → Prop) :
    Nat → Nat → Message → Prop
  | 0, words, m => next words m
  | points + 1, words, m =>
      InstanceCounted m.isPoint instances (PointsCounted instances next points) True words m

section Counted

variable (cfg : Config) (object : CipConnectionObject) (configData : Option (List UInt8))

/-- Behind the configuration instance. A class 3 connection that is accepted leaves the
configuration data of an earlier request. -/
def EndCounted (classId : UInt32) (instances : List UInt16) (instanceId : UInt16)
    (words : Nat) (m : Message) : Prop :=
  if object.transportClass = .class3 then
    words = 0 → classId = messageRouterClassCode → instanceId = 1 → configData.getD [] = []
  else PointsCounted instances (DataCounted (object.productionTrigger ≠ .cyclic))
    (PathState.encodedPaths object).length words m

/-- From the class on, which is counted with one word. -/
def ClassCounted (words : Nat) (m : Message) : Prop :=
  0 < words ∧ (isLogicalSegment m .classId = true → m.logicalSize ≤ 2 * words ∧
    ∀ instances, cfg.getCipClass m.logicalValue = some instances → m.logicalSize = 2 ∧
      InstanceCounted (isLogicalSegment (m.drop 2) .instanceId) instances
        (EndCounted object configData m.logicalValue instances
          (Message.logicalValue (m.drop 2)).toUInt16)
        (EndCounted object configData m.logicalValue instances 0 (words - 1) (m.drop 2))
        (words - 1) (m.drop 2))

def InhibitCounted (words : Nat) (m : Message) : Prop :=
  if object.productionTrigger ≠ .cyclic ∧ isProductionInhibitTimeSegment m = true then
    0 < words ∧ ClassCounted cfg object configData (words - 1) (m.drop 2)
  else ClassCounted cfg object configData words m

/-- The cursor and the count agree on the path. -/
def PathCounted (words : Nat) (m : Message) : Prop :=
  if m.isKey = true ∧ m.byteAt 1 = 0x04 then
    5 ≤ words → checkElectronicKeyData cfg.identity (getElectronicKeyFormat4FromMessage m).1 =
      .ok () → InhibitCounted cfg object configData (words - 5) (m.drop 10)
  else InhibitCounted cfg object configData words m

end Counted

namespace PathState

variable {s : PathState} {words : Nat}

theorem toNat_sub_ofNat {remaining : UInt64} {n : Nat} (h : n ≤ remaining.toNat) :
    (remaining - UInt64.ofNat n).toNat = remaining.toNat - n := by
  have hnat : (UInt64.ofNat n).toNat = n := by
    rw [UInt64.toNat_ofNat']
    exact Nat.mod_eq_of_lt (Nat.lt_of_le_of_lt h remaining.toNat_lt)
  have hle : UInt64.ofNat n ≤ remaining := by
    rw [UInt64.le_iff_toNat_le, hnat]
    exact h
  rw [UInt64.toNat_sub_of_le _ _ hle, hnat]

theorem Consumes.toNat {a : Access} {s' : PathState} (h : Consumes s a s')
    (hwords : s.remainingPath.toNat = words) (hcounts : a.counts ≤ words) :
    s'.remainingPath.toNat = words - a.counts := by
  rw [← hwords] at hcounts ⊢
  rw [h.remainingPath, toNat_sub_ofNat hcounts]

theorem instanceWords_toNat (instanceId : UInt16) :
    (instanceWords instanceId).toNat = if 255 < instanceId.toNat then 2 else 1 := by
  have hiff : instanceId > 0xFF ↔ 255 < instanceId.toNat := UInt16.lt_iff_toNat_lt
  rw [instanceWords]
  by_cases hlarge : 255 < instanceId.toNat
  · rw [if_pos hlarge, if_pos (hiff.mpr hlarge)]
    rfl
  · rw [if_neg hlarge, if_neg fun h => hlarge (hiff.mp h)]
    rfl

theorem countsItself_iff {m : Message} {instances : List UInt16}
    (h : m.namesInstance instances = true) :
    m.logicalSize = 2 * (instanceWords m.logicalValue.toUInt16).toNat ↔
      m.countsItself = true := by
  have hsmall : m.logicalValue.toUInt16.toNat = m.logicalValue.toNat := by
    simp only [Message.namesInstance, Bool.and_eq_true, decide_eq_true_eq] at h
    have hle := UInt32.le_iff_toNat_le.mp h.1
    rw [UInt32.toNat_toUInt16]
    exact Nat.mod_eq_of_lt (Nat.lt_of_le_of_lt hle (by decide))
  have hlarge : 0xFF < m.logicalValue ↔ 255 < m.logicalValue.toNat := UInt32.lt_iff_toNat_lt
  rw [instanceWords_toNat, hsmall, Message.countsItself, Bool.or_eq_true, Bool.and_eq_true,
    decide_eq_true_eq, decide_eq_true_eq, decide_eq_true_eq, hlarge, Message.logicalSize]
  by_cases height : m.byteAt 0 &&& 0x03 = 0
  · have hbyte : m.logicalValue.toNat ≤ 255 := by
      simp only [Message.logicalValue, cipEpathGetLogicalValue, height, Message.getUsint,
        if_pos]
      have hlt := (Message.byteAt (m.drop 1) 0).toNat_lt
      rw [UInt8.toNat_toUInt32]
      omega
    rw [if_pos height, if_neg (by omega)]
    simp [height]
  · rw [if_neg height]
    by_cases hsixteen : m.byteAt 0 &&& 0x03 = 1
    · rw [if_pos hsixteen]
      split
      · simp_all
      · simp_all
    · rw [if_neg hsixteen]
      split <;> split <;> simp_all

theorem dataCounted_data {triggered : Bool} {m : Message} (hwords : 0 < words)
    (hdata : m.isSimpleData = true) :
    DataCounted triggered words m ↔ m.dataWords + 1 ≤ words ∧
      DataCounted triggered (words - (m.dataWords + 1)) (m.drop (m.dataWords * 2 + 2)) := by
  constructor
  · intro h
    cases h with
    | finished => cases hwords
    | refused _ hother _ => cases hdata.symm.trans hother
    | data _ hinside hrest => exact ⟨hinside, hrest⟩
  · intro h
    exact .data hdata h.1 h.2

theorem dataCounted_other {triggered : Bool} {m : Message} (hwords : 0 < words)
    (hdata : ¬m.isSimpleData = true) :
    DataCounted triggered words m ↔ (isProductionInhibitTimeSegment m && triggered) = false := by
  constructor
  · intro h
    cases h with
    | finished => cases hwords
    | refused _ _ hrefused => exact hrefused
    | data hsimple _ _ => exact absurd hsimple hdata
  · intro h
    exact .refused hwords (Bool.eq_false_iff.mpr hdata) h

theorem fit_configurationData {fuel : Nat} (hfuel : s.message.length < fuel)
    (hwords : s.remainingPath.toNat = words) :
    Fit 2 words (traceConfigurationData fuel s) ↔
      DataCounted (s.object.productionTrigger ≠ .cyclic) words s.message := by
  induction fuel generalizing s words with
  | zero => cases hfuel
  | succ fuel ih =>
      rw [traceConfigurationData]
      by_cases hend : s.remainingPath = 0
      · have hzero : words = 0 := by
          rw [← hwords, hend]
          rfl
        rw [if_pos hend, hzero]
        exact ⟨fun _ => .finished, fun _ => trivial⟩
      · have hpositive : 0 < words := by
          rw [← hwords]
          exact Nat.pos_of_ne_zero fun hzero => hend (UInt64.toNat_inj.mp hzero)
        rw [if_neg hend]
        by_cases hdata : s.message.isSimpleData = true
        · have hlength := List.length_pos_of_ne_nil (message_ne_nil (.inl hdata))
          have hrest : s.message.dataWords + 1 ≤ words →
              (Fit 2 (words - (s.message.dataWords + 1)) (traceConfigurationData fuel s.takeData) ↔
                DataCounted (s.object.productionTrigger ≠ .cyclic)
                  (words - (s.message.dataWords + 1))
                  (s.message.drop (s.message.dataWords * 2 + 2))) := by
            intro hinside
            have hleft : s.takeData.remainingPath.toNat =
                words - (s.message.dataWords + 1) := by
              rw [← hwords] at hinside ⊢
              exact toNat_sub_ofNat hinside
            refine ih ?_ hleft
            simp only [takeData, List.length_drop]
            omega
          rw [if_pos hdata, dataCounted_data hpositive hdata, Fit]
          constructor
          · rintro ⟨hfits, hfit⟩
            exact ⟨hfits.counts_le, (hrest hfits.counts_le).mp hfit⟩
          · rintro ⟨hinside, hcounted⟩
            refine ⟨⟨?_, hinside, ?_⟩, (hrest hinside).mpr hcounted⟩
            · dsimp only
              omega
            · dsimp only
              omega
        · rw [if_neg hdata, dataCounted_other hpositive hdata]
          have hsame : (isProductionInhibitTimeSegment s.message &&
              decide (s.object.productionTrigger ≠ .cyclic)) = s.inhibits := rfl
          rw [hsame]
          by_cases hinhibits : s.inhibits = true
          · rw [if_pos hinhibits, hinhibits]
            refine ⟨fun h => ?_, fun h => ?_⟩
            · exact absurd h.1.moves_eq (by decide)
            · cases h
          · rw [if_neg hinhibits]
            refine ⟨fun _ => Bool.eq_false_iff.mpr hinhibits, fun _ => ?_⟩
            exact ⟨⟨by dsimp only; omega, Nat.zero_le _, rfl⟩, trivial⟩

theorem instanceAccess_moves {present : Bool} {instances : List UInt16}
    (hpresent : present = true) (hnames : s.message.namesInstance instances = true) :
    (s.instanceAccess present instances).moves = s.message.logicalSize := by
  rw [instanceAccess, if_pos hpresent, if_pos hnames]

theorem logicalSize_pos (m : Message) : 0 < m.logicalSize := by
  rw [Message.logicalSize]
  split
  · decide
  · split
    · decide
    · split
      · decide
      · decide

theorem fit_instance {present : Bool} {instances : List UInt16} {accepts C absent : Prop}
    {next : Nat → Message → Prop}
    (haccepts : present = true → (accepts ↔ s.message.namesInstance instances = true))
    (habsent : present = false → ((accepts → C) ↔ absent))
    (hnext : present = true → s.message.namesInstance instances = true →
      (s.instanceAccess present instances).counts ≤ words →
      (C ↔ next (words - (s.instanceAccess present instances).counts)
        (s.message.drop s.message.logicalSize))) :
    ((s.instanceAccess present instances).Fits 2 words ∧ (accepts → C)) ↔
      InstanceCounted present instances next absent words s.message := by
  have hsize := logicalSize_pos s.message
  cases present with
  | false =>
      rw [habsent rfl, InstanceCounted, if_neg Bool.false_ne_true]
      refine and_congr_left fun _ => ?_
      rw [instanceAccess, if_neg Bool.false_ne_true, fits_look]
      omega
  | true =>
      rw [InstanceCounted, if_pos rfl, haccepts rfl]
      by_cases hnames : s.message.namesInstance instances = true
      · have haccess : s.instanceAccess true instances =
            { reads := s.message.logicalSize
              moves := s.message.logicalSize
              counts := (instanceWords s.message.logicalValue.toUInt16).toNat } := by
          rw [instanceAccess, if_pos rfl, if_pos hnames]
        have hnext := hnext rfl hnames
        rw [haccess] at hnext ⊢
        dsimp only at hnext
        simp only [hnames, forall_const]
        rw [← countsItself_iff hnames]
        generalize (instanceWords s.message.logicalValue.toUInt16).toNat = counts at hnext ⊢
        constructor
        · rintro ⟨hfits, hC⟩
          have hread : s.message.logicalSize ≤ 2 * words := hfits.reads_le
          have hmoves : s.message.logicalSize = 2 * counts := hfits.moves_eq
          have hhalf : s.message.logicalSize / 2 = counts := by omega
          rw [hhalf]
          exact ⟨by omega, hread, hmoves, (hnext hfits.counts_le).mp hC⟩
        · rintro ⟨hwords, hread, hmoves, hrest⟩
          have hhalf : s.message.logicalSize / 2 = counts := by omega
          have hcounts : counts ≤ words := by omega
          rw [hhalf] at hrest
          exact ⟨⟨hread, hcounts, hmoves⟩, (hnext hcounts).mpr hrest⟩
      · have haccess : s.instanceAccess true instances = { reads := s.message.logicalSize } := by
          rw [instanceAccess, if_pos rfl, if_neg hnames]
        rw [haccess, fits_look]
        simp only [hnames, Bool.false_eq_true, false_implies, and_true]
        omega

theorem fit_connectionPoints {classId : UInt32} {instances : List UInt16}
    {next : PathState → List Access} {Next : Nat → Message → Prop}
    {trigger : ProductionTrigger}
    (hnext : ∀ {s : PathState} {words : Nat}, s.remainingPath.toNat = words →
      s.object.productionTrigger = trigger → (Fit 2 words (next s) ↔ Next words s.message))
    (paths : List EncodedPath) (hwords : s.remainingPath.toNat = words)
    (htrigger : s.object.productionTrigger = trigger) :
    Fit 2 words (traceConnectionPoints classId instances next paths s) ↔
      PointsCounted instances Next paths.length words s.message := by
  induction paths generalizing s words with
  | nil => exact hnext hwords htrigger
  | cons path paths ih =>
      rw [traceConnectionPoints, fit_andThen, List.length_cons, PointsCounted]
      have hsteps : ∀ {s' : PathState}, (s.pointAccess instances).Fits 2 words →
          Consumes s (s.pointAccess instances) s' →
          (Fit 2 (words - (s.pointAccess instances).counts)
              (traceConnectionPoints classId instances next paths s') ↔
            PointsCounted instances Next paths.length
              (words - (s.pointAccess instances).counts)
              (s.message.drop (s.pointAccess instances).moves)) := by
        intro s' hfits hconsumes
        rw [← hconsumes.message]
        exact ih (hconsumes.toNat hwords hfits.counts_le)
          (hconsumes.productionTrigger.trans htrigger)
      rw [and_congr_right fun hfits => forall_ok_iff parseConnectionPoint_ok
        parseConnectionPoint_error fun _ s' hconsumes => hsteps hfits hconsumes]
      refine fit_instance ?_ ?_ ?_
      · intro hpoint
        exact ⟨fun h => h.2, fun h => ⟨hpoint, h⟩⟩
      · intro hnone
        exact ⟨fun _ => trivial, fun _ h => absurd h.1 (Bool.eq_false_iff.mp hnone)⟩
      · intro hpoint hnames _
        rw [pointAccess, instanceAccess_moves hpoint hnames]

/-- The terms of the request that the parse depends on are those of the object, and the
configuration data is as it was. -/
structure Follows (object : CipConnectionObject) (configData : Option (List UInt8))
    (s : PathState) : Prop where
  transportClass : s.object.transportClass = object.transportClass
  productionTrigger : s.object.productionTrigger = object.productionTrigger
  encodedPaths : encodedPaths s.object = encodedPaths object
  configData : s.configData = configData

variable {cfg : Config} {object : CipConnectionObject} {configData : Option (List UInt8)}
variable {classId : UInt32} {instances : List UInt16} {instanceId : UInt16}

theorem Follows.consumes {a : Access} {s' : PathState} (h : Follows object configData s)
    (hconsumes : Consumes s a s') : Follows object configData s' :=
  ⟨hconsumes.transportClass.trans h.transportClass,
    hconsumes.productionTrigger.trans h.productionTrigger,
    hconsumes.encodedPaths.trans h.encodedPaths, hconsumes.configData.trans h.configData⟩

/-- A class 3 connection ends without configuration data. -/
def LeavesNone (object : CipConnectionObject) (s : PathState) : Prop :=
  object.transportClass = .class3 → s.configData.getD [] = []

theorem fit_ioEndPoints (hfollows : Follows object configData s)
    (hwords : s.remainingPath.toNat = words) :
    Fit 2 words (s.traceIoEndPoints classId instanceId instances) ↔
      PointsCounted instances (DataCounted (object.productionTrigger ≠ .cyclic))
        (encodedPaths object).length words s.message := by
  rw [traceIoEndPoints, ← hfollows.encodedPaths]
  refine fit_connectionPoints ?_ _ hwords hfollows.productionTrigger
  intro s words hwords htrigger
  rw [← htrigger]
  exact fit_configurationData (Nat.lt_succ_self _) hwords

/-- The end point of a class 3 connection behind a path that was used up. -/
def isRouterEndPoint (classId : UInt32) (instanceId : UInt16) (words : Nat) : Prop :=
  words = 0 ∧ classId = messageRouterClassCode ∧ instanceId = 1

theorem parseClass3EndPoint_ok (hwords : s.remainingPath.toNat = words)
    (h : isRouterEndPoint classId instanceId words) :
    ∃ s', s.parseClass3EndPoint classId instanceId = .ok s' ∧ s'.configData = s.configData := by
  obtain ⟨hend, hclass, hinstance⟩ := h
  have hleft : ¬s.remainingPath > 0 := fun hmore => (remainingPath_pos_iff hwords).mp hmore hend
  have hrouter : ¬(classId ≠ messageRouterClassCode ∨ instanceId ≠ 1) :=
    fun hother => hother.elim (fun hne => hne hclass) fun hne => hne hinstance
  rw [parseClass3EndPoint, if_neg hleft, if_neg hrouter]
  exact ⟨_, rfl, rfl⟩

theorem parseClass3EndPoint_error (hwords : s.remainingPath.toNat = words)
    (h : ¬isRouterEndPoint classId instanceId words) :
    ∃ failure, s.parseClass3EndPoint classId instanceId = .error failure := by
  rw [parseClass3EndPoint]
  by_cases hleft : s.remainingPath > 0
  · rw [if_pos hleft]
    exact ⟨_, rfl⟩
  · have hend : words = 0 := not_not.mp ((not_congr (remainingPath_pos_iff hwords)).mp hleft)
    have hrouter : classId ≠ messageRouterClassCode ∨ instanceId ≠ 1 := by
      by_contra hboth
      rw [not_or, not_not, not_not] at hboth
      exact h ⟨hend, hboth⟩
    rw [if_neg hleft, if_pos hrouter]
    exact ⟨_, rfl⟩

theorem ends_endPoint (hfollows : Follows object configData s)
    (hwords : s.remainingPath.toNat = words) (connectionPathSize : UInt64) :
    Ends 2 words (LeavesNone object) (s.traceEndPoint classId instances instanceId)
        (parseEndPoint connectionPathSize classId instances instanceId s) ↔
      EndCounted object configData classId instances instanceId words s.message := by
  rw [traceEndPoint, parseEndPoint, EndCounted, hfollows.transportClass]
  by_cases hclass3 : object.transportClass = .class3
  · rw [if_pos hclass3, if_pos hclass3, if_pos hclass3]
    have hleaves : (∀ s', s.parseClass3EndPoint classId instanceId = .ok s' →
        LeavesNone object s') ↔
        (isRouterEndPoint classId instanceId words → configData.getD [] = []) := by
      refine forall_ok_iff (parseClass3EndPoint_ok hwords) (parseClass3EndPoint_error hwords) ?_
      intro _ s' hsame
      rw [LeavesNone, hsame, hfollows.configData]
      exact ⟨fun h => h hclass3, fun h _ => h⟩
    rw [Ends, hleaves]
    exact ⟨fun h hend hclass hinstance => h.2 ⟨hend, hclass, hinstance⟩,
      fun h => ⟨trivial, fun hrouter => h hrouter.1 hrouter.2.1 hrouter.2.2⟩⟩
  · rw [if_neg hclass3, if_neg hclass3, if_neg hclass3, ← fit_ioEndPoints hfollows hwords]
    exact ⟨fun h => h.1, fun h => ⟨h, fun _ _ hclass => absurd hclass hclass3⟩⟩

theorem ends_instance (hfollows : Follows object configData s)
    (hwords : s.remainingPath.toNat = words) (connectionPathSize : UInt64) :
    Ends 2 words (LeavesNone object) (s.traceInstance classId instances)
        (parseFromInstance connectionPathSize classId instances s) ↔
      InstanceCounted (isLogicalSegment s.message .instanceId) instances
        (EndCounted object configData classId instances s.message.logicalValue.toUInt16)
        (EndCounted object configData classId instances 0 words s.message) words s.message := by
  have hsteps : ∀ {found : UInt16 × PathState}, (s.configurationAccess instances).Fits 2 words →
      found.1 = s.configurationInstance ∧
        Consumes s (s.configurationAccess instances) found.2 →
      (Ends 2 (words - (s.configurationAccess instances).counts) (LeavesNone object)
          (traceEndPoint found.2 classId instances found.1)
          (parseEndPoint connectionPathSize classId instances found.1 found.2) ↔
        EndCounted object configData classId instances s.configurationInstance
          (words - (s.configurationAccess instances).counts)
          (s.message.drop (s.configurationAccess instances).moves)) := by
    intro found hfits hfound
    rw [← hfound.2.message, ← hfound.1]
    exact ends_endPoint (hfollows.consumes hfound.2)
      (hfound.2.toNat hwords hfits.counts_le) connectionPathSize
  rw [traceInstance, parseFromInstance, ends_andThen,
    and_congr_right fun hfits => forall_ok_iff parseConfigurationInstance_ok
    parseConfigurationInstance_error fun _ found hfound => hsteps hfits hfound]
  refine fit_instance ?_ ?_ ?_
  · intro hsegment
    exact ⟨fun h => h hsegment, fun h _ => h⟩
  · intro hnone
    have hother : ¬isLogicalSegment s.message .instanceId = true := Bool.eq_false_iff.mp hnone
    rw [configurationInstance, configurationAccess, instanceAccess, if_neg hother, if_neg hother]
    exact ⟨fun h => h fun hsegment => absurd hsegment hother, fun h _ => h⟩
  · intro hsegment hnames _
    rw [configurationInstance, if_pos hsegment, configurationAccess,
      instanceAccess_moves hsegment hnames]

theorem ends_class (hfollows : Follows object configData s)
    (hwords : s.remainingPath.toNat = words) (connectionPathSize : UInt64) :
    Ends 2 words (LeavesNone object) (s.traceClass cfg)
        (parseFromClass cfg connectionPathSize s) ↔
      ClassCounted cfg object configData words s.message := by
  have hsize := logicalSize_pos s.message
  rw [traceClass, parseFromClass, ends_andThen, ClassCounted]
  by_cases hsegment : isLogicalSegment s.message .classId = true
  · cases hclass : cfg.getCipClass s.message.logicalValue with
    | none =>
        have haccess : s.classAccess cfg = { reads := s.message.logicalSize } := by
          rw [classAccess, if_pos hsegment, hclass]
          rfl
        have hrefused : ¬(isLogicalSegment s.message .classId = true ∧
            (cfg.getCipClass s.message.logicalValue).isSome = true) := by
          simp [hclass]
        obtain ⟨failure, herror⟩ := parseClass_error hrefused
        simp only [haccess, fits_look, herror, reduceCtorEq, false_implies, implies_true,
          and_true, hsegment, forall_const]
        omega
    | some instances =>
        have haccess : s.classAccess cfg =
            { reads := s.message.logicalSize, moves := s.message.logicalSize, counts := 1 } := by
          rw [classAccess, if_pos hsegment, hclass]
          rfl
        obtain ⟨s', hok, hconsumes⟩ := parseClass_ok hsegment hclass
        have hrest : 1 ≤ words → s.message.logicalSize = 2 →
            (Ends 2 (words - 1) (LeavesNone object)
                (s'.traceInstance s.message.logicalValue instances)
                (parseFromInstance connectionPathSize s.message.logicalValue instances s') ↔
              InstanceCounted (isLogicalSegment (s.message.drop 2) .instanceId) instances
                (EndCounted object configData s.message.logicalValue instances
                  (Message.logicalValue (s.message.drop 2)).toUInt16)
                (EndCounted object configData s.message.logicalValue instances 0 (words - 1)
                  (s.message.drop 2))
                (words - 1) (s.message.drop 2)) := by
          intro hcounts htwo
          have hmessage : s'.message = s.message.drop 2 := by
            rw [hconsumes.message, haccess, htwo]
          have hleft : s'.remainingPath.toNat = words - 1 := by
            rw [hconsumes.toNat hwords (by rw [haccess]; exact hcounts), haccess]
          rw [← hmessage]
          exact ends_instance (hfollows.consumes hconsumes) hleft connectionPathSize
        simp only [haccess, hok, Except.ok.injEq, forall_eq', hsegment, forall_const,
          Option.some.injEq]
        constructor
        · rintro ⟨hfits, hends⟩
          have hread : s.message.logicalSize ≤ 2 * words := hfits.reads_le
          have htwo : s.message.logicalSize = 2 := hfits.moves_eq
          exact ⟨hfits.counts_le, hread, htwo, (hrest hfits.counts_le htwo).mp hends⟩
        · rintro ⟨hpositive, hread, htwo, hcounted⟩
          exact ⟨⟨hread, hpositive, htwo⟩, (hrest hpositive htwo).mpr hcounted⟩
  · have haccess : s.classAccess cfg = { reads := 1 } := by
      rw [classAccess, if_neg hsegment]
    obtain ⟨failure, herror⟩ := parseClass_error fun (hboth :
      isLogicalSegment s.message .classId = true ∧
        (cfg.getCipClass s.message.logicalValue).isSome = true) => hsegment hboth.1
    simp only [haccess, fits_look, herror, reduceCtorEq, false_implies, implies_true, and_true,
      hsegment]
    omega

theorem ends_inhibitTime (hfollows : Follows object configData s)
    (hwords : s.remainingPath.toNat = words) (connectionPathSize : UInt64) :
    Ends 2 words (LeavesNone object) (s.traceInhibitTime cfg)
        (parseFromInhibitTime cfg connectionPathSize s) ↔
      InhibitCounted cfg object configData words s.message := by
  have hconsumes := parseProductionInhibitTime_consumes (s := s)
  have hrest : s.inhibitAccess.Fits 2 words →
      (Ends 2 (words - s.inhibitAccess.counts) (LeavesNone object)
          (s.parseProductionInhibitTime.traceClass cfg)
          (parseFromClass cfg connectionPathSize s.parseProductionInhibitTime) ↔
        ClassCounted cfg object configData (words - s.inhibitAccess.counts)
          (s.message.drop s.inhibitAccess.moves)) := by
    intro hfits
    rw [← hconsumes.message]
    exact ends_class (hfollows.consumes hconsumes)
      (hconsumes.toNat hwords hfits.counts_le) connectionPathSize
  rw [traceInhibitTime, parseFromInhibitTime, ends_andThen]
  simp only [Except.ok.injEq, forall_eq']
  rw [and_congr_right hrest, InhibitCounted, ← hfollows.productionTrigger]
  by_cases hboth : s.object.productionTrigger ≠ .cyclic ∧
      isProductionInhibitTimeSegment s.message = true
  · have haccess : s.inhibitAccess = { reads := 2, moves := 2, counts := 1 } := by
      rw [inhibitAccess, if_pos hboth.1, if_pos hboth.2]
    rw [if_pos hboth, haccess]
    refine and_congr_left fun _ => ⟨fun hfits => hfits.counts_le, fun hpositive => ?_⟩
    refine ⟨?_, hpositive, rfl⟩
    dsimp only
    omega
  · rw [if_neg hboth]
    have haccess : ∃ reads, reads ≤ 1 ∧ s.inhibitAccess = { reads } := by
      rw [inhibitAccess]
      by_cases htriggered : s.object.productionTrigger ≠ .cyclic
      · rw [if_pos htriggered, if_neg fun hsegment => hboth ⟨htriggered, hsegment⟩]
        exact ⟨1, Nat.le_refl 1, rfl⟩
      · rw [if_neg htriggered]
        exact ⟨0, Nat.zero_le 1, rfl⟩
    obtain ⟨reads, hreads, haccess⟩ := haccess
    rw [haccess, fits_look]
    refine ⟨fun h => h.2, fun h => ⟨?_, h⟩⟩
    have hpositive := h.1
    omega

theorem ends_segments (hfollows : Follows object configData s)
    (hwords : s.remainingPath.toNat = words) (hpositive : 0 < words)
    (connectionPathSize : UInt64) :
    Ends 2 words (LeavesNone object) (s.traceSegments cfg)
        (s.parseSegments cfg connectionPathSize) ↔
      PathCounted cfg object configData words s.message := by
  have hrest : ∀ {s' : PathState}, s.keyAccess.Fits 2 words → Consumes s s.keyAccess s' →
      (Ends 2 (words - s.keyAccess.counts) (LeavesNone object) (s'.traceInhibitTime cfg)
          (parseFromInhibitTime cfg connectionPathSize s') ↔
        InhibitCounted cfg object configData (words - s.keyAccess.counts)
          (s.message.drop s.keyAccess.moves)) := by
    intro s' hfits hconsumes
    rw [← hconsumes.message]
    exact ends_inhibitTime (hfollows.consumes hconsumes)
      (hconsumes.toNat hwords hfits.counts_le) connectionPathSize
  have hfive : ¬s.remainingPath < 5 ↔ 5 ≤ words := by
    rw [UInt64.not_lt, UInt64.le_iff_toNat_le, hwords]
    rfl
  rw [traceSegments, parseSegments_eq, ends_andThen,
    and_congr_right fun hfits => forall_ok_iff parseElectronicKey_ok parseElectronicKey_error
      fun _ s' hconsumes => hrest hfits hconsumes, PathCounted, keyAccepted, hfive]
  by_cases hkey : s.message.isKey = true ∧ s.message.byteAt 1 = 0x04
  · rw [if_pos hkey]
    simp only [hkey.1, hkey.2, forall_const]
    by_cases hlong : 5 ≤ words
    · have haccess : s.keyAccess = { reads := 10, moves := 10, counts := 5 } := by
        rw [keyAccess, if_pos hkey.1, if_pos ⟨hkey.2, hfive.mpr hlong⟩]
      have hfits : Access.Fits 2 words { reads := 10, moves := 10, counts := 5 } :=
        ⟨by dsimp only; omega, hlong, rfl⟩
      rw [haccess]
      exact ⟨fun h _ hcheck => h.2 ⟨hlong, hcheck⟩, fun h => ⟨hfits, fun hboth => h hlong hboth.2⟩⟩
    · have haccess : s.keyAccess = { reads := 2 } := by
        rw [keyAccess, if_pos hkey.1, if_neg fun hboth => hlong (hfive.mp hboth.2)]
      rw [haccess, fits_look]
      exact ⟨fun _ hlonger => absurd hlonger hlong,
        fun _ => ⟨by omega, fun hboth => absurd hboth.1 hlong⟩⟩
  · rw [if_neg hkey]
    have haccess : ∃ reads, reads ≤ 2 ∧ s.keyAccess = { reads } := by
      rw [keyAccess]
      by_cases hisKey : s.message.isKey = true
      · rw [if_pos hisKey, if_neg fun hboth => hkey ⟨hisKey, hboth.1⟩]
        exact ⟨2, Nat.le_refl 2, rfl⟩
      · rw [if_neg hisKey]
        exact ⟨1, by decide, rfl⟩
    obtain ⟨reads, hreads, haccess⟩ := haccess
    rw [haccess, fits_look]
    refine ⟨fun h => h.2 fun hisKey hformat => absurd ⟨hisKey, hformat⟩ hkey,
      fun h => ⟨by omega, fun _ => h⟩⟩

end PathState

/-- A parse of a path of so many words that stays inside: no byte behind the path is read
and the count never falls below zero, and an accepted path is used up, with the
configuration data inside. -/
structure Accounted (words : Nat) (path : Message) (accesses : List Access)
    (result : Except PathFailure PathState) : Prop where
  inside : stays (2 * words) 0 words accesses = true
  usedUp : ∀ s, result = .ok s → moved accesses = 2 * words ∧ s.message = path.drop (2 * words)
  config : ∀ s data, result = .ok s → s.configData = some data → data ≠ [] → ∃ offset,
    kept 0 accesses = some (offset, data.length) ∧ offset + data.length ≤ 2 * words ∧
    data = Message.takeBytes (path.drop offset) data.length

theorem accounted_unread (words : Nat) (path : Message) (failure : PathFailure) :
    Accounted words path [] (.error failure) := by
  refine ⟨rfl, ?_, ?_⟩
  · intro s hok
    cases hok
  · intro s data hok
    cases hok

namespace PathState

variable {cfg : Config} {s : PathState} {words : Nat}

theorem Walked.counted_eq {base : Option (List UInt8)} {accesses : List Access} {s' : PathState}
    (h : Walked base s accesses s') (hwords : s.remainingPath.toNat = words)
    (hfit : Fit 2 words accesses) : counted accesses = words := by
  have hle : counted accesses ≤ s.remainingPath.toNat := by
    rw [hwords]
    exact hfit.counted_le
  have hzero : s.remainingPath.toNat - counted accesses = 0 := by
    rw [← toNat_sub_ofNat hle, ← h.remainingPath, h.finished]
    rfl
  omega

theorem accounted_iff_ends {object : CipConnectionObject} {configData : Option (List UInt8)}
    (hfollows : Follows object configData s) (hwords : s.remainingPath.toNat = words)
    (connectionPathSize : UInt64) :
    (Accounted words s.message (s.traceSegments cfg) (s.parseSegments cfg connectionPathSize) ∧
        InStep 2 (s.traceSegments cfg)) ↔
      Ends 2 words (LeavesNone object) (s.traceSegments cfg)
        (s.parseSegments cfg connectionPathSize) := by
  have hfit : (stays (2 * words) 0 words (s.traceSegments cfg) = true ∧
      InStep 2 (s.traceSegments cfg)) ↔ Fit 2 words (s.traceSegments cfg) :=
    stays_inStep_iff (Nat.zero_add _)
  constructor
  · rintro ⟨haccounted, hinStep⟩
    refine ⟨hfit.mp ⟨haccounted.inside, hinStep⟩, fun s' hok hclass3 => ?_⟩
    have hnone :=
      (walked_segments hok).explicit (hfollows.transportClass.trans hclass3) 0
    cases hdata : s'.configData with
    | none => rfl
    | some data =>
        by_contra hsome
        obtain ⟨offset, hkept, -⟩ := haccounted.config s' data hok hdata hsome
        cases hnone.symm.trans hkept
  · rintro ⟨hfits, hleaves⟩
    obtain ⟨hstays, hinStep⟩ := hfit.mpr hfits
    refine ⟨⟨hstays, fun s' hok => ?_, fun s' data hok hdata hsome => ?_⟩, hinStep⟩
    · have hwalked := walked_segments hok
      have hmoved : moved (s.traceSegments cfg) = 2 * words := by
        rw [hfits.moved_eq, hwalked.counted_eq hwords hfits]
      exact ⟨hmoved, hmoved ▸ hwalked.message⟩
    · have hwalked := walked_segments hok
      have hconfig := hwalked.configData s.message 0 rfl
      rw [hdata] at hconfig
      cases hkept : kept 0 (s.traceSegments cfg) with
      | some slice =>
          simp only [hkept, Option.some.injEq] at hconfig
          have hinside := hfits.kept_le hwalked.keeps hkept
          have hlength : data.length = slice.2 := by
            rw [hconfig, Message.takeBytes, List.length_map, List.length_range]
          rw [hlength]
          rw [Nat.zero_add] at hinside
          exact ⟨slice.1, rfl, hinside, hconfig⟩
      | none =>
          simp only [hkept, initialConfigData] at hconfig
          split at hconfig
          · rename_i hclass3
            have hempty := hleaves s' hok (hfollows.transportClass.symm.trans hclass3)
            rw [hdata] at hempty
            exact absurd hempty hsome
          · cases hconfig

end PathState

section Request

variable (cfg : Config) (message : Message) (object : CipConnectionObject)
  (configData : Option (List UInt8))

/-- The state behind the length checks. -/
def pathStart : PathState :=
  { message := message.drop 1
    remainingPath := (message.byteAt 0).toUInt64
    object := { object with productionInhibitTime := 256 }
    configData }

/-- The accesses of `ParseConnectionPath`. -/
def traceConnectionPath (requestDataSize : UInt64) : List Access :=
  let headerLength : UInt64 := if object.isLargeForwardOpen then 40 else 36
  if (message.byteAt 0).toUInt64 = 0 ∨
      headerLength + (message.byteAt 0).toUInt64 * 2 ≠ requestDataSize then []
  else (pathStart message object configData).traceSegments cfg

theorem parseConnectionPath_eq {requestDataSize : UInt64}
    (hsize : requestDataSize = (if object.isLargeForwardOpen then 40 else 36) +
      (message.byteAt 0).toUInt64 * 2) (hwords : (message.byteAt 0).toUInt64 ≠ 0) :
    parseConnectionPath cfg message requestDataSize object configData =
        (pathStart message object configData).parseSegments cfg (message.byteAt 0).toUInt64 ∧
      traceConnectionPath cfg message object configData requestDataSize =
        (pathStart message object configData).traceSegments cfg := by
  have hheader : ¬((message.byteAt 0).toUInt64 = 0 ∨
      (if object.isLargeForwardOpen then (40 : UInt64) else 36) +
        (message.byteAt 0).toUInt64 * 2 ≠ requestDataSize) :=
    fun h => h.elim hwords fun hother => hother hsize.symm
  have hnotLess : ¬requestDataSize < requestDataSize := UInt64.lt_irrefl requestDataSize
  constructor
  · simp only [parseConnectionPath, Message.getUsint, if_neg hwords, ← hsize, gt_iff_lt,
      if_neg hnotLess]
    rfl
  · rw [traceConnectionPath]
    exact if_neg hheader

/-- `ParseConnectionPath` ends. It stays inside a path, with the cursor and the count in
step, exactly if the path is counted. -/
theorem accounted_iff_counted {requestDataSize : UInt64}
    (hsize : requestDataSize = (if object.isLargeForwardOpen then 40 else 36) +
      (message.byteAt 0).toUInt64 * 2) :
    (∀ (s : PathState) (fuel : Nat), s.message.length < fuel →
      s.parseConfigurationData (message.byteAt 0).toUInt64 fuel =
        s.parseConfigurationData (message.byteAt 0).toUInt64 (s.message.length + 1)) ∧
    ((Accounted (message.byteAt 0).toNat (message.drop 1)
        (traceConnectionPath cfg message object configData requestDataSize)
        (parseConnectionPath cfg message requestDataSize object configData) ∧
      InStep 2 (traceConnectionPath cfg message object configData requestDataSize)) ↔
    (message.byteAt 0 = 0 ∨
      PathCounted cfg object configData (message.byteAt 0).toNat (message.drop 1))) := by
  refine ⟨fun s fuel hfuel =>
    PathState.parseConfigurationData_terminates hfuel (Nat.lt_succ_self _), ?_⟩
  by_cases hzero : message.byteAt 0 = 0
  · have hnone : traceConnectionPath cfg message object configData requestDataSize = [] := by
      rw [traceConnectionPath, hzero]
      exact if_pos (.inl rfl)
    have hrefused : ∃ failure, parseConnectionPath cfg message requestDataSize object configData =
        .error failure := by
      simp only [parseConnectionPath, Message.getUsint, hzero]
      exact ⟨_, rfl⟩
    obtain ⟨failure, hrefused⟩ := hrefused
    have hinStep : InStep 2 [] := List.forall_mem_nil _
    rw [hnone, hrefused]
    exact ⟨fun _ => .inl hzero, fun _ => ⟨accounted_unread _ _ failure, hinStep⟩⟩
  · have hwords : (message.byteAt 0).toUInt64 ≠ 0 := by
      intro hnone
      have hnat := congrArg UInt64.toNat hnone
      rw [UInt8.toNat_toUInt64] at hnat
      exact hzero (UInt8.toNat_inj.mp hnat)
    have hnat : (pathStart message object configData).remainingPath.toNat =
        (message.byteAt 0).toNat := UInt8.toNat_toUInt64 _
    have hpositive : 0 < (message.byteAt 0).toNat :=
      Nat.pos_of_ne_zero fun h => hzero (UInt8.toNat_inj.mp h)
    obtain ⟨hparse, htrace⟩ := parseConnectionPath_eq cfg message object configData hsize hwords
    have hfollows : PathState.Follows object configData (pathStart message object configData) :=
      ⟨rfl, rfl, rfl, rfl⟩
    rw [hparse, htrace, or_iff_right hzero]
    exact (PathState.accounted_iff_ends hfollows hnat _).trans
      (PathState.ends_segments hfollows hnat hpositive _)

end Request

section Sample

open SampleApplication

/-- The request for an exclusive owner, cyclic or triggered by the application. -/
def ownerRequest (transportClassTrigger : UInt8) : CipConnectionObject :=
  { transportClassTrigger
    oToTNetworkConnectionParameters := 0x4026
    tToONetworkConnectionParameters := 0x2022 }

/-- Class, configuration instance and two connection points. -/
def ownerPath : Message := [4, 0x20, 4, 0x24, 151, 0x2C, 150, 0x2C, 100]

theorem accounted_owner :
    Accounted 4 (ownerPath.drop 1)
        (traceConnectionPath config ownerPath (ownerRequest 0x01) none 44)
        (parseConnectionPath config ownerPath 44 (ownerRequest 0x01) none) ∧
      InStep 2 (traceConnectionPath config ownerPath (ownerRequest 0x01) none 44) := by
  have hcounted : PathCounted config (ownerRequest 0x01) none 4 (ownerPath.drop 1) := by
    rw [PathCounted, if_neg (by decide), InhibitCounted, if_neg (by decide)]
    refine ⟨by decide, fun _ => ⟨by decide, fun instances _ => ⟨by decide, ?_⟩⟩⟩
    refine .intro (by decide) (by decide) (by decide) (by decide) ?_
    rw [EndCounted, if_neg (by decide)]
    refine InstanceCounted.intro (by decide) (by decide) (by decide) (by decide) ?_
    refine InstanceCounted.intro (by decide) (by decide) (by decide) (by decide) ?_
    exact DataCounted.finished
  exact (accounted_iff_counted config ownerPath (ownerRequest 0x01) none rfl).2.mpr (.inr hcounted)

/-- A class in the 16-bit format is counted with a word too few and a production inhibit
time behind the points with one too many; together the count comes out. -/
example :
    let accesses := traceConnectionPath config
      [6, 0x21, 0, 4, 0, 0x24, 151, 0x2C, 150, 0x2C, 100, 0x43, 5] (ownerRequest 0x21) none 48
    stays 12 0 6 accesses = true ∧ moved accesses = 12 := by
  decide +kernel

/-- With a production inhibit time behind the connection points the count falls below
zero: the loop counts two words for the segment of one. -/
theorem inhibit_time_underflows :
    ¬Accounted 5 [0x20, 4, 0x24, 151, 0x2C, 150, 0x2C, 100, 0x43, 5]
      (traceConnectionPath config [5, 0x20, 4, 0x24, 151, 0x2C, 150, 0x2C, 100, 0x43, 5]
        (ownerRequest 0x21) none 46)
      (parseConnectionPath config [5, 0x20, 4, 0x24, 151, 0x2C, 150, 0x2C, 100, 0x43, 5] 46
        (ownerRequest 0x21) none) := by
  intro h
  have hinside := h.inside
  revert hinside
  decide +kernel

end Sample

end Opener

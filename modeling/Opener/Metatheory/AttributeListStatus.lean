import Opener.Core.EthernetLink
import Opener.Metatheory.AttributeLists

/-!
What `SetAttributeList` reports. The status of a record is written before its value is
decoded, and every attribute overwrites the general status of those before it.
-/

namespace Opener

open PartialRuns (run)

variable {σ : Type}

namespace ListState

variable (cipClass : CipClass σ) (inst : CipInstance σ) (buffer : Message)
  (request : MessageRouterRequest) (s : ListState σ)

/-- The attribute is known, and its class lets it be set. -/
def Settable : Prop :=
  ∃ attr, s.listed inst buffer = some attr ∧
    BitTable.test cipClass.setBitMask (s.attributeNumber buffer).toNat = true

/-- What the decode function of a settable attribute makes of the value behind its number. -/
def decoded : Option (Decoded σ) :=
  match s.listed inst buffer with
  | some attr =>
      if BitTable.test cipClass.setBitMask (s.attributeNumber buffer).toNat then
        attr.decode.map fun decode =>
          decode s.state { request with data := buffer.drop s.advance.cursor.toNat }
      else none
  | none => none

/-- The value is decoded and stored. -/
def Accepted : Prop :=
  ∃ decoded, s.decoded cipClass inst buffer request = some decoded ∧
    decoded.generalStatus = GeneralStatus.success

variable {cipClass inst buffer request s}

theorem Accepted.settable (h : s.Accepted cipClass inst buffer request) :
    s.Settable cipClass inst buffer := by
  obtain ⟨result, hdecoded, -⟩ := h
  rw [decoded] at hdecoded
  split at hdecoded
  · rename_i attr hlisted
    split at hdecoded
    · rename_i htest
      exact ⟨attr, hlisted, htest⟩
    · cases hdecoded
  · cases hdecoded

end ListState

section Answers

variable {cipClass : CipClass σ} {inst : CipInstance σ} {buffer : Message}
  {request : MessageRouterRequest} {s s' : ListState σ} {record : AttributeRecord}
  {returns : Bool}

/-- The record does not depend on what is decoded, and the general status does not depend on
what it was. -/
theorem answer_setListed_cases
    (h : answer (setListedAttribute cipClass buffer request) inst buffer s =
      .ok (record, s', returns)) :
    (∃ result, s.Settable cipClass inst buffer ∧
        s.decoded cipClass inst buffer request = some result ∧
        record.attributeStatus = GeneralStatus.success ∧
        s'.generalStatus = result.generalStatus ∧ returns = false) ∨
      ¬s.Settable cipClass inst buffer ∧ record.attributeStatus ≠ GeneralStatus.success ∧
        s'.generalStatus ≠ GeneralStatus.success := by
  obtain ⟨hunknown, -, rfl, rfl⟩ | ⟨attr, s₁, hlisted, hserve, rfl⟩ := answer_ok h
  · have hrecord : GeneralStatus.attributeNotSupported ≠ GeneralStatus.success := by decide
    have herror : GeneralStatus.attributeListError ≠ GeneralStatus.success := by decide
    refine .inr ⟨?_, hrecord, herror⟩
    rintro ⟨attr, hlisted, -⟩
    cases hunknown.symm.trans hlisted
  · obtain ⟨-, hcases⟩ := setListedAttribute_ok hserve
    split at hcases
    · rename_i htest
      obtain ⟨decode, hdecode, hreturns, hrecord, hstatus⟩ := hcases
      refine .inl ⟨_, ⟨attr, hlisted, htest⟩, ?_, hrecord, hstatus, hreturns⟩
      rw [ListState.decoded, hlisted]
      simp only [htest, if_true, hdecode, Option.map_some]
      rfl
    · rename_i htest
      refine .inr ⟨?_, hcases.1, hcases.2⟩
      rintro ⟨attr, -, hsettable⟩
      exact htest hsettable

theorem answer_setListed_record_iff
    (h : answer (setListedAttribute cipClass buffer request) inst buffer s =
      .ok (record, s', returns)) :
    record.attributeStatus = GeneralStatus.success ↔ s.Settable cipClass inst buffer := by
  obtain ⟨_, hsettable, -, hstatus, -⟩ | ⟨hrefused, hstatus, -⟩ := answer_setListed_cases h
  · exact iff_of_true hstatus hsettable
  · exact iff_of_false hstatus hrefused

theorem answer_setListed_generalStatus_iff
    (h : answer (setListedAttribute cipClass buffer request) inst buffer s =
      .ok (record, s', returns)) :
    s'.generalStatus = GeneralStatus.success ↔ s.Accepted cipClass inst buffer request := by
  obtain ⟨result, -, hdecoded, -, hstatus, -⟩ | ⟨hrefused, -, hstatus⟩ := answer_setListed_cases h
  · rw [hstatus]
    refine ⟨fun hsuccess => ⟨result, hdecoded, hsuccess⟩, ?_⟩
    rintro ⟨result', hdecoded', hsuccess⟩
    cases hdecoded.symm.trans hdecoded'
    exact hsuccess
  · exact iff_of_false hstatus fun haccepted => hrefused haccepted.settable

end Answers

theorem ListState.refuse_generalStatus (s : ListState σ) :
    s.refuse.generalStatus ≠ GeneralStatus.success := by
  change (if s.generalStatus ≠ GeneralStatus.attributeListError then _ else _) ≠ _
  split
  · decide
  · rename_i herror
    rw [not_not.mp herror]
    decide

section Exits

variable {cipClass : CipClass σ} {inst : CipInstance σ} {buffer : Message}
  {request : MessageRouterRequest} {start s : ListState σ} {count : Nat}
  {records : List AttributeRecord} {exit : ListExit}

/-- Only the last listed attribute decides whether the general status is success. -/
theorem Leaves.generalStatus_iff
    (h : Leaves (setListedAttribute cipClass buffer request) inst buffer start (count + 1)
      records s exit) :
    s.generalStatus = GeneralStatus.success ↔
      exit = .complete ∧ ∃ log s₁,
        run (nextTurn (setListedAttribute cipClass buffer request) inst buffer) count start =
          some (log, s₁) ∧ s₁.Accepted cipClass inst buffer request := by
  cases h with
  | complete hrun =>
      obtain ⟨log, s₁, record, hlog, hnext, -⟩ := PartialRuns.run_last hrun
      obtain ⟨-, hanswer⟩ := nextTurn_eq_some.mp hnext
      rw [answer_setListed_generalStatus_iff hanswer]
      refine ⟨fun haccepted => ⟨rfl, log, s₁, hlog, haccepted⟩, ?_⟩
      rintro ⟨-, log', s₁', hlog', haccepted⟩
      cases hlog.symm.trans hlog'
      exact haccepted
  | partialTransfer hk hrun hfits => exact iff_of_false (ListState.refuse_generalStatus _) nofun
  | earlyReturn hk hrun hfits hanswer =>
      refine iff_of_false ?_ nofun
      obtain ⟨_, -, -, -, -, hreturns⟩ | ⟨-, -, hstatus⟩ := answer_setListed_cases hanswer
      · cases hreturns
      · exact hstatus

end Exits

section Replies

variable (cipClass : CipClass σ) (inst : CipInstance σ) (front : List UInt8)
  (request : MessageRouterRequest) (state : σ)

/-- `SetAttributeList` comes to the `k`-th listed attribute, and it fits. -/
def Answers (k : Nat) (s : ListState σ) : Prop :=
  s.Fits inst (front ++ request.data) ∧
    ∃ log, ComesTo (setListedAttribute cipClass (front ++ request.data) request) inst front
      request state k log s

/-- Every failure is reported: what is not stored or left out shows in the general status,
and the record of an attribute says whether it was stored. -/
structure ReportsFailures (reply : ListReply σ) : Prop where
  failed : ∀ k s, Answers cipClass inst front request state k s →
    ¬s.Accepted cipClass inst (front ++ request.data) request →
    reply.response.generalStatus ≠ GeneralStatus.success
  leftOut : reply.records.length < (attributeCount request).toNat →
    reply.response.generalStatus ≠ GeneralStatus.success
  recorded : ∀ k s, Answers cipClass inst front request state k s →
    ∃ record, reply.records[k]? = some record ∧
      (record.attributeStatus = GeneralStatus.success ↔
        s.Accepted cipClass inst (front ++ request.data) request)

/-- No listed attribute makes `SetAttributeList` leave its loop. -/
def Completes : Prop :=
  ∀ k log s, ComesTo (setListedAttribute cipClass (front ++ request.data) request) inst front
      request state k log s →
    s.Fits inst (front ++ request.data) ∧ s.Skippable cipClass inst (front ++ request.data)

variable {cipClass inst front request state} {reply : ListReply σ}

theorem Answers.lt {k : Nat} {s : ListState σ}
    (h : Answers cipClass inst front request state k s) :
    k < (attributeCount request).toNat := by
  obtain ⟨-, log, hk, -⟩ := h
  exact hk

theorem Answers.unique {k : Nat} {s s' : ListState σ}
    (h : Answers cipClass inst front request state k s)
    (h' : Answers cipClass inst front request state k s') : s = s' := by
  obtain ⟨-, log, -, hrun⟩ := h
  obtain ⟨-, log', -, hrun'⟩ := h'
  cases hrun.symm.trans hrun'
  rfl

theorem setAttributeList_recorded (hcount : attributeCount request ≠ 0)
    (h : setAttributeList cipClass inst front request state = .ok reply) {k : Nat}
    {s : ListState σ} (hanswers : Answers cipClass inst front request state k s) :
    ∃ record, reply.records[k]? = some record ∧
      (record.attributeStatus = GeneralStatus.success ↔
        s.Settable cipClass inst (front ++ request.data)) := by
  obtain ⟨s₁, exit, hleaves, -⟩ := attributeList_leaves hcount h
  obtain ⟨hfits, log, hk, hrun⟩ := hanswers
  obtain ⟨record, s₂, returns, hanswer, rest, hrecords⟩ := hleaves.answered hk hrun hfits
  refine ⟨record, ?_, answer_setListed_record_iff hanswer⟩
  rw [← hrecords, ← PartialRuns.run_length hrun]
  simp

theorem Leaves.completes_iff {s : ListState σ} {records : List AttributeRecord} {exit : ListExit}
    (h : Leaves (setListedAttribute cipClass (front ++ request.data) request) inst
      (front ++ request.data) (listStart front state) (attributeCount request).toNat records s
      exit) :
    exit = .complete ↔ Completes cipClass inst front request state := by
  refine h.complete_iff.trans ?_
  simp only [answer_setListed_returns_iff]
  exact ⟨fun hall k log s hk => hall k hk.1 log s hk.2,
    fun hall k hk log s hrun => hall k log s ⟨hk, hrun⟩⟩

/-- A complete reply has a record for every listed attribute, down to the last. -/
theorem setAttributeList_complete {n : Nat} (hn : (attributeCount request).toNat = n + 1)
    (hcount : attributeCount request ≠ 0)
    (h : setAttributeList cipClass inst front request state = .ok reply)
    (hcompletes : Completes cipClass inst front request state) :
    reply.records.length = n + 1 ∧ ∃ s, Answers cipClass inst front request state n s := by
  obtain ⟨s, exit, hleaves, -⟩ := attributeList_leaves hcount h
  obtain rfl := hleaves.completes_iff.mpr hcompletes
  generalize reply.records = records at hleaves
  rw [hn] at hleaves
  cases hleaves with
  | complete hrun =>
      obtain ⟨log, s₁, record, hlog, hnext, -⟩ := PartialRuns.run_last hrun
      refine ⟨PartialRuns.run_length hrun, s₁, (nextTurn_eq_some.mp hnext).1, log, ?_, hlog⟩
      rw [hn]
      exact Nat.lt_succ_self n

theorem setAttributeList_success_iff {n : Nat} (hn : (attributeCount request).toNat = n + 1)
    (hcount : attributeCount request ≠ 0)
    (h : setAttributeList cipClass inst front request state = .ok reply) :
    reply.response.generalStatus = GeneralStatus.success ↔
      Completes cipClass inst front request state ∧
        ∃ s, Answers cipClass inst front request state n s ∧
          s.Accepted cipClass inst (front ++ request.data) request := by
  obtain ⟨s, exit, hleaves, hstatus, -⟩ := attributeList_leaves hcount h
  have hcompletes := hleaves.completes_iff
  rw [hn] at hleaves
  rw [hstatus, hleaves.generalStatus_iff, hcompletes]
  refine and_congr_right fun hall => ?_
  have hlt : n < (attributeCount request).toNat := by omega
  constructor
  · rintro ⟨log, s₁, hrun, haccepted⟩
    exact ⟨s₁, ⟨(hall n log s₁ ⟨hlt, hrun⟩).1, log, hlt, hrun⟩, haccepted⟩
  · rintro ⟨s₁, ⟨-, log, -, hrun⟩, haccepted⟩
    exact ⟨log, s₁, hrun, haccepted⟩

/-- `SetAttributeList` reports every failure exactly when no settable attribute is rejected
and an attribute that cannot be set is not followed by the last one that can. -/
theorem setAttributeList_reports_iff
    (h : setAttributeList cipClass inst front request state = .ok reply) :
    ReportsFailures cipClass inst front request state reply ↔
      (∀ k s, Answers cipClass inst front request state k s →
          s.Settable cipClass inst (front ++ request.data) →
          s.Accepted cipClass inst (front ++ request.data) request) ∧
        ((∀ k s, Answers cipClass inst front request state k s →
            s.Settable cipClass inst (front ++ request.data)) ∨
          ¬Completes cipClass inst front request state ∨
          ∃ k s, k + 1 = (attributeCount request).toNat ∧
            Answers cipClass inst front request state k s ∧
            ¬s.Settable cipClass inst (front ++ request.data)) := by
  by_cases hcount : attributeCount request = 0
  · have hnone : ∀ k s, ¬Answers cipClass inst front request state k s := by
      intro k s hanswers
      have hlt := hanswers.lt
      rw [hcount] at hlt
      exact Nat.not_lt_zero k hlt
    refine iff_of_true ⟨fun k s hk => absurd hk (hnone k s), ?_, fun k s hk =>
      absurd hk (hnone k s)⟩ ⟨fun k s hk => absurd hk (hnone k s), .inl fun k s hk =>
        absurd hk (hnone k s)⟩
    rw [hcount]
    exact fun hlt => absurd hlt (Nat.not_lt_zero _)
  obtain ⟨n, hn⟩ : ∃ n, (attributeCount request).toNat = n + 1 :=
    Nat.exists_eq_succ_of_ne_zero fun hzero => hcount (UInt16.toNat_inj.mp hzero)
  have hsuccess := setAttributeList_success_iff hn hcount h
  constructor
  · intro hreports
    have haccepted : ∀ k s, Answers cipClass inst front request state k s →
        s.Settable cipClass inst (front ++ request.data) →
        s.Accepted cipClass inst (front ++ request.data) request := by
      intro k s hanswers hset
      obtain ⟨record, hrecord, hiff⟩ := hreports.recorded k s hanswers
      obtain ⟨record', hrecord', hiff'⟩ := setAttributeList_recorded hcount h hanswers
      cases hrecord.symm.trans hrecord'
      exact hiff.mp (hiff'.mpr hset)
    refine ⟨haccepted, ?_⟩
    by_cases hall : ∀ k s, Answers cipClass inst front request state k s →
        s.Settable cipClass inst (front ++ request.data)
    · exact .inl hall
    refine .inr ?_
    push Not at hall
    obtain ⟨k, s, hanswers, hrefused⟩ := hall
    have hfailed := hreports.failed k s hanswers fun haccepted => hrefused haccepted.settable
    by_cases hcompletes : Completes cipClass inst front request state
    · obtain ⟨-, s', hlast⟩ := setAttributeList_complete hn hcount h hcompletes
      refine .inr ⟨n, s', hn.symm, hlast, fun hset => hfailed ?_⟩
      exact hsuccess.mpr ⟨hcompletes, s', hlast, haccepted n s' hlast hset⟩
    · exact .inl hcompletes
  · rintro ⟨haccepted, hend⟩
    refine ⟨?_, ?_, ?_⟩
    · intro k s hanswers hnot hgeneral
      obtain ⟨hcompletes, s', hlast, hstored⟩ := hsuccess.mp hgeneral
      obtain hall | hleaves | ⟨k', s'', hk', hlast', hrefused⟩ := hend
      · exact hnot (haccepted k s hanswers (hall k s hanswers))
      · exact hleaves hcompletes
      · obtain rfl : k' = n := by omega
        cases hlast.unique hlast'
        exact hrefused hstored.settable
    · intro hless hgeneral
      have hrecords := (setAttributeList_complete hn hcount h (hsuccess.mp hgeneral).1).1
      omega
    · intro k s hanswers
      obtain ⟨record, hrecord, hiff⟩ := setAttributeList_recorded hcount h hanswers
      refine ⟨record, hrecord, hiff.trans ⟨haccepted k s hanswers, ?_⟩⟩
      exact ListState.Accepted.settable

end Replies

/-- A class with the interface control of one port as its only attribute. -/
def portInstance : CipInstance (List CipEthernetLinkInterfaceControl) :=
  { instanceNumber := 1, attributes := [interfaceControlAttribute 0] }

def portClass : CipClass (List CipEthernetLinkInterfaceControl) :=
  { createCipClass 1 6 [1] with
    getSingleBitMask := [0x40]
    setBitMask := [0x40]
    getAllBitMask := [0x40]
    instances := [portInstance] }

example : setUpClass (createCipClass 1 6 [1]) (insertInterfaceControl 1) = .ok portClass := rfl

/-- Automatic negotiation. -/
def port : List CipEthernetLinkInterfaceControl := [⟨1, 0⟩]

/-- A value that is accepted, before an unknown attribute. -/
def setThenUnknown : MessageRouterRequest := ⟨0x04, 10, [2, 0, 6, 0, 1, 0, 0, 0, 9, 0]⟩

theorem setAttributeList_reports_port :
    ∃ reply, setAttributeList portClass portInstance [] setThenUnknown port = .ok reply ∧
      reply.response.generalStatus = GeneralStatus.attributeListError ∧
      ReportsFailures portClass portInstance [] setThenUnknown port reply := by
  obtain ⟨reply, h, hstatus⟩ : ∃ reply, setAttributeList portClass portInstance []
      setThenUnknown port = .ok reply ∧
      reply.response.generalStatus = GeneralStatus.attributeListError := ⟨_, rfl, rfl⟩
  refine ⟨reply, h, hstatus, (setAttributeList_reports_iff h).mpr ⟨?_, .inr (.inr ?_)⟩⟩
  · rintro k s ⟨-, log, hk, hrun⟩ hsettable
    obtain rfl | rfl := Nat.le_one_iff_eq_zero_or_eq_one.mp (Nat.le_of_lt_succ hk)
    · cases hrun
      exact ⟨_, rfl, rfl⟩
    · cases hrun
      obtain ⟨attr, hlisted, -⟩ := hsettable
      cases hlisted
  · refine ⟨1, _, rfl, ⟨by decide, _, by decide, rfl⟩, ?_⟩
    rintro ⟨attr, hlisted, -⟩
    cases hlisted

/-- A settable `USINT`, the only attribute of a class of the application. -/
def levelAttribute : CipAttributeStruct CipData :=
  { attributeNumber := 1
    type := .usint
    encode := some encodeCipUsint
    decode := some decodeCipUsint
    attributeFlags := CIPAttributeFlag.setAndGetAble
    data := some CipData.memory }

def levelInstance : CipInstance CipData := { instanceNumber := 1, attributes := [levelAttribute] }

def levelClass : CipClass CipData :=
  { createCipClass 1 1 [1] with
    getSingleBitMask := [0x02]
    setBitMask := [0x02]
    getAllBitMask := [0x02]
    instances := [levelInstance] }

example : setUpClass (createCipClass 1 1 [1]) [.insertAttribute 1 levelAttribute] =
    .ok levelClass := rfl

/-- An unknown attribute, before a value that is accepted. -/
def setUnknown : MessageRouterRequest := ⟨0x04, 7, [2, 0, 9, 0, 1, 0, 7]⟩

/-- A value that is rejected, before one that is accepted. -/
def setTwice : MessageRouterRequest :=
  ⟨0x04, 14, [2, 0, 6, 0, 4, 0, 0, 0, 6, 0, 1, 0, 0, 0]⟩

/-- The reply says success although an attribute is unknown, and so do both records and the
reply when a value is rejected. -/
theorem setAttributeList_misreports :
    (∃ reply, setAttributeList levelClass levelInstance [] setUnknown ⟨[0], []⟩ = .ok reply ∧
      reply.response.generalStatus = GeneralStatus.success ∧
      reply.records.map AttributeRecord.attributeStatus =
        [GeneralStatus.attributeNotSupported, GeneralStatus.success] ∧
      ¬ReportsFailures levelClass levelInstance [] setUnknown ⟨[0], []⟩ reply) ∧
    ∃ reply, setAttributeList portClass portInstance [] setTwice port = .ok reply ∧
      reply.response.generalStatus = GeneralStatus.success ∧
      reply.records.map AttributeRecord.attributeStatus =
        [GeneralStatus.success, GeneralStatus.success] ∧
      ¬ReportsFailures portClass portInstance [] setTwice port reply := by
  refine ⟨⟨_, rfl, rfl, rfl, fun hreports => ?_⟩, _, rfl, rfl, rfl, fun hreports => ?_⟩
  · refine hreports.failed 0 (listStart [] _) ⟨by decide, [], by decide, rfl⟩ ?_ rfl
    rintro ⟨result, hdecoded, -⟩
    cases hdecoded
  · refine hreports.failed 0 (listStart [] port) ⟨by decide, [], by decide, rfl⟩ ?_ rfl
    rintro ⟨result, hdecoded, hsuccess⟩
    cases hdecoded
    exact absurd hsuccess (by decide)

end Opener

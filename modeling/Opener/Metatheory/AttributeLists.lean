import Opener.Library.PartialRuns
import Opener.Core.Attributes
import Opener.Metatheory.EncapsulationReplies

/-!
The list services. Both run the same loop, which leaves early when the next attribute does
not fit into the message or, when attributes are set, cannot be skipped. The message is
followed as if its buffer had no end; when it stays within the 512 bytes is the subject of
the sizes of these lists.
-/

namespace Opener

open PartialRuns (run)

variable {σ : Type}

/-- A place in the request where a listed attribute begins, with the objects as they are
then. -/
structure ListPlace (σ : Type) where
  cursor : UInt64
  state : σ

namespace ListPlace

variable (inst : CipInstance σ) (buffer : Message) (p : ListPlace σ)

def attributeNumber : UInt16 := (Message.getUint (buffer.drop p.cursor.toNat)).1

def listed : Option (CipAttributeStruct σ) := getCipAttribute inst (p.attributeNumber buffer)

/-- What follows the number. -/
def data : Message := buffer.drop (p.cursor + 2).toNat

/-- The length of the attribute passes the space check behind so many bytes. -/
def Fits (usedMessageLength : Nat) : Prop :=
  neededMessageSpace (p.listed inst buffer) p.state ≤ remainingMessageSpace usedMessageLength

instance (usedMessageLength : Nat) : Decidable (p.Fits inst buffer usedMessageLength) :=
  inferInstanceAs (Decidable (_ ≤ _))

/-- An attribute that is found but cannot be set has a length on the wire. -/
def Skippable (cipClass : CipClass σ) : Prop :=
  ∀ attr, p.listed inst buffer = some attr →
    BitTable.test cipClass.setBitMask (p.attributeNumber buffer).toNat = false →
    getCipDataTypeLength attr.type (some (p.data buffer)) ≠ 0

end ListPlace

namespace ListState

/-- Where the next attribute is read. -/
def place (s : ListState σ) : ListPlace σ := { cursor := s.cursor, state := s.state }

/-- The number that is read next. -/
def attributeNumber (buffer : Message) (s : ListState σ) : UInt16 :=
  (Message.getUint (buffer.drop s.cursor.toNat)).1

/-- Behind the number. -/
def advance (s : ListState σ) : ListState σ := { s with cursor := s.cursor + 2 }

def listed (inst : CipInstance σ) (buffer : Message) (s : ListState σ) :
    Option (CipAttributeStruct σ) :=
  getCipAttribute inst (s.attributeNumber buffer)

/-- The attribute passes the space check. -/
def Fits (inst : CipInstance σ) (buffer : Message) (s : ListState σ) : Prop :=
  neededMessageSpace (s.listed inst buffer) s.state ≤ remainingMessageSpace s.usedMessageLength

/-- After a record. -/
def append (record : AttributeRecord) (s : ListState σ) : ListState σ :=
  { s with usedMessageLength := s.usedMessageLength + record.bytes.length }

/-- After an attribute that did not fit. -/
def refuse (s : ListState σ) : ListState σ :=
  { s.advance with
    generalStatus :=
      if s.generalStatus ≠ GeneralStatus.attributeListError then GeneralStatus.partialTransfer
      else s.generalStatus }

end ListState

@[simp]
theorem AttributeRecord.bytes_length (record : AttributeRecord) :
    record.bytes.length = 4 + record.attributeData.length := by
  rw [AttributeRecord.bytes, List.length_append]
  rfl

section Loop

variable (serve : ListService σ) (inst : CipInstance σ) (buffer : Message)

instance (s : ListState σ) : Decidable (s.Fits inst buffer) :=
  inferInstanceAs (Decidable (_ ≤ _))

/-- What a service answers for the next attribute, without the space check. -/
def answer (s : ListState σ) : Except Fault (AttributeRecord × ListState σ × Bool) :=
  (serveAttribute serve inst (s.attributeNumber buffer) s.advance).map fun turn =>
    (turn.1, turn.2.1.append turn.1, turn.2.2)

/-- One turn of the loop that does not leave it. -/
def nextTurn (s : ListState σ) : Option (AttributeRecord × ListState σ) :=
  if s.Fits inst buffer then
    match answer serve inst buffer s with
    | .ok (record, s', false) => some (record, s')
    | _ => none
  else none

/-- How the loop was left, and what was answered before. -/
inductive Leaves (start : ListState σ) (count : Nat) :
    List AttributeRecord → ListState σ → ListExit → Prop
  | complete {records : List AttributeRecord} {s : ListState σ}
      (hrun : run (nextTurn serve inst buffer) count start = some (records, s)) :
      Leaves start count records s .complete
  | partialTransfer {k : Nat} {records : List AttributeRecord} {s : ListState σ}
      (hk : k < count) (hrun : run (nextTurn serve inst buffer) k start = some (records, s))
      (hfits : ¬s.Fits inst buffer) :
      Leaves start count records s.refuse .partialTransfer
  | earlyReturn {k : Nat} {records : List AttributeRecord} {s s' : ListState σ}
      {record : AttributeRecord} (hk : k < count)
      (hrun : run (nextTurn serve inst buffer) k start = some (records, s))
      (hfits : s.Fits inst buffer)
      (hanswer : answer serve inst buffer s = .ok (record, s', true)) :
      Leaves start count (records ++ [record]) s' .earlyReturn

variable {serve inst buffer}

theorem answer_ok {s s' : ListState σ} {record : AttributeRecord} {returns : Bool}
    (h : answer serve inst buffer s = .ok (record, s', returns)) :
    (s.listed inst buffer = none ∧ returns = false ∧
        record = { attributeNumber := s.attributeNumber buffer
                   attributeStatus := GeneralStatus.attributeNotSupported } ∧
        s' = ListState.append record
          { s.advance with generalStatus := GeneralStatus.attributeListError }) ∨
      ∃ attr s₁, s.listed inst buffer = some attr ∧
        serve attr (s.attributeNumber buffer) s.advance = .ok (record, s₁, returns) ∧
        s' = s₁.append record := by
  rw [answer, serveAttribute] at h
  cases hattr : getCipAttribute inst (s.attributeNumber buffer) with
  | none =>
      rw [hattr] at h
      cases h
      exact .inl ⟨hattr, rfl, rfl, rfl⟩
  | some attr =>
      simp only [hattr] at h
      cases hserve : serve attr (s.attributeNumber buffer) s.advance with
      | error fault =>
          rw [hserve] at h
          cases h
      | ok turn =>
          rw [hserve] at h
          cases h
          exact .inr ⟨attr, turn.2.1, hattr, hserve, rfl⟩

theorem nextTurn_eq_some {s s' : ListState σ} {record : AttributeRecord} :
    nextTurn serve inst buffer s = some (record, s') ↔
      s.Fits inst buffer ∧ answer serve inst buffer s = .ok (record, s', false) := by
  rw [nextTurn]
  split
  · rename_i hfits
    rw [and_iff_right hfits]
    split
    · rename_i hanswer
      rw [hanswer]
      simp
    · rename_i hother
      refine iff_of_false nofun fun hanswer => ?_
      exact hother _ _ hanswer
  · rename_i hfits
    exact iff_of_false nofun fun h => hfits h.1

theorem Leaves.cons {start s₁ s : ListState σ} {count : Nat} {record : AttributeRecord}
    {records : List AttributeRecord} {exit : ListExit}
    (hnext : nextTurn serve inst buffer start = some (record, s₁))
    (h : Leaves serve inst buffer s₁ count records s exit) :
    Leaves serve inst buffer start (count + 1) (record :: records) s exit := by
  cases h with
  | complete hrun => exact .complete (PartialRuns.run_cons hnext hrun)
  | partialTransfer hk hrun hfits =>
      exact .partialTransfer (Nat.succ_lt_succ hk) (PartialRuns.run_cons hnext hrun) hfits
  | earlyReturn hk hrun hfits hanswer =>
      exact .earlyReturn (Nat.succ_lt_succ hk) (PartialRuns.run_cons hnext hrun) hfits hanswer

theorem attributeListLoop_succ (count : Nat) (s : ListState σ) :
    attributeListLoop serve inst buffer (count + 1) s =
      if s.Fits inst buffer then
        (answer serve inst buffer s).bind fun turn =>
          if turn.2.2 then .ok ([turn.1], turn.2.1, .earlyReturn)
          else (attributeListLoop serve inst buffer count turn.2.1).map fun rest =>
            (turn.1 :: rest.1, rest.2)
      else .ok ([], s.refuse, .partialTransfer) := by
  have hfits : s.Fits inst buffer ↔ ¬neededMessageSpace (s.listed inst buffer) s.state >
      remainingMessageSpace s.usedMessageLength := not_lt.symm
  by_cases h : s.Fits inst buffer
  · rw [if_pos h, attributeListLoop, answer]
    refine (if_neg (hfits.mp h)).trans ?_
    cases hserve : serveAttribute serve inst (s.attributeNumber buffer) s.advance with
    | error fault => exact congrArg (Except.bind · _) hserve
    | ok turn =>
        refine (congrArg (Except.bind · _) hserve).trans ?_
        obtain ⟨record, s', returns⟩ := turn
        cases returns with
        | true => rfl
        | false =>
            change Except.bind (attributeListLoop serve inst buffer count (s'.append record)) _ =
              Except.map _ (attributeListLoop serve inst buffer count (s'.append record))
            cases attributeListLoop serve inst buffer count (s'.append record) <;> rfl
  · rw [if_neg h, attributeListLoop]
    exact if_pos (not_not.mp (mt hfits.mpr h))

theorem attributeListLoop_leaves {count : Nat} {start s : ListState σ}
    {records : List AttributeRecord} {exit : ListExit}
    (h : attributeListLoop serve inst buffer count start = .ok (records, s, exit)) :
    Leaves serve inst buffer start count records s exit := by
  induction count generalizing start records s with
  | zero =>
      cases h
      exact .complete rfl
  | succ count ih =>
      rw [attributeListLoop_succ] at h
      split at h
      · rename_i hfits
        cases hanswer : answer serve inst buffer start with
        | error fault =>
            rw [hanswer] at h
            cases h
        | ok turn =>
            obtain ⟨record, s₁, returns⟩ := turn
            rw [hanswer] at h
            cases returns with
            | true =>
                cases h
                exact .earlyReturn (Nat.succ_pos count) rfl hfits hanswer
            | false =>
                change (attributeListLoop serve inst buffer count s₁).map _ = _ at h
                cases hrest : attributeListLoop serve inst buffer count s₁ with
                | error fault =>
                    rw [hrest] at h
                    cases h
                | ok rest =>
                    obtain ⟨others, s₂, exit₂⟩ := rest
                    rw [hrest] at h
                    cases h
                    exact (ih hrest).cons (nextTurn_eq_some.mpr ⟨hfits, hanswer⟩)
      · rename_i hfits
        cases h
        exact .partialTransfer (Nat.succ_pos count) rfl hfits

/-- The loop runs to its end when every attribute that it comes to is answered without
leaving it. -/
theorem Leaves.complete_iff {count : Nat} {start s : ListState σ}
    {records : List AttributeRecord} {exit : ListExit}
    (h : Leaves serve inst buffer start count records s exit) :
    exit = .complete ↔
      ∀ k < count, ∀ log s₁, run (nextTurn serve inst buffer) k start = some (log, s₁) →
        s₁.Fits inst buffer ∧
          ∀ record s', answer serve inst buffer s₁ ≠ .ok (record, s', true) := by
  cases h with
  | complete hrun =>
      refine iff_of_true rfl fun k hk log s₁ hlog => ?_
      obtain ⟨s₂, record, s₃, hbefore, hnext, -⟩ := PartialRuns.run_at hrun hk
      cases hbefore.symm.trans hlog
      obtain ⟨hfits, hanswer⟩ := nextTurn_eq_some.mp hnext
      refine ⟨hfits, fun record' s' hreturns => ?_⟩
      cases hanswer.symm.trans hreturns
  | partialTransfer hk hrun hfits =>
      exact iff_of_false nofun fun hall => hfits (hall _ hk _ _ hrun).1
  | earlyReturn hk hrun hfits hanswer =>
      exact iff_of_false nofun fun hall => (hall _ hk _ _ hrun).2 _ _ hanswer

theorem Leaves.answered {count k : Nat} {start s s₁ : ListState σ}
    {records log : List AttributeRecord} {exit : ListExit}
    (h : Leaves serve inst buffer start count records s exit) (hk : k < count)
    (hlog : run (nextTurn serve inst buffer) k start = some (log, s₁))
    (hfits₁ : s₁.Fits inst buffer) :
    ∃ record s₂ returns, answer serve inst buffer s₁ = .ok (record, s₂, returns) ∧
      log ++ [record] <+: records := by
  -- the steps before the end, of which this is one
  have hbefore : ∀ {n : Nat} {done : List AttributeRecord} {s₀ : ListState σ},
      run (nextTurn serve inst buffer) n start = some (done, s₀) → k < n →
      ∃ record s₂, answer serve inst buffer s₁ = .ok (record, s₂, false) ∧
        log ++ [record] <+: done := by
    intro n done s₀ hrun hlt
    obtain ⟨s₂, record, s₃, hreached, hnext, htake⟩ := PartialRuns.run_at hrun hlt
    cases hreached.symm.trans hlog
    refine ⟨record, s₃, (nextTurn_eq_some.mp hnext).2, ?_⟩
    rw [← htake]
    exact List.take_prefix (k + 1) done
  cases h with
  | complete hrun =>
      obtain ⟨record, s₂, hanswer, hbegins⟩ := hbefore hrun hk
      exact ⟨record, s₂, false, hanswer, hbegins⟩
  | @partialTransfer n done s₀ hn hrun hfits =>
      obtain hlt | rfl | hgt := Nat.lt_trichotomy k n
      · obtain ⟨record, s₂, hanswer, hbegins⟩ := hbefore hrun hlt
        exact ⟨record, s₂, false, hanswer, hbegins⟩
      · cases hrun.symm.trans hlog
        exact absurd hfits₁ hfits
      · obtain ⟨s₂, record, s₃, hreached, hnext, -⟩ := PartialRuns.run_at hlog hgt
        cases hreached.symm.trans hrun
        exact absurd (nextTurn_eq_some.mp hnext).1 hfits
  | @earlyReturn n done s₀ _ last hn hrun hfits hanswer =>
      obtain hlt | rfl | hgt := Nat.lt_trichotomy k n
      · obtain ⟨record, s₂, hanswer, hbegins⟩ := hbefore hrun hlt
        exact ⟨record, s₂, false, hanswer, hbegins.trans (List.prefix_append done [last])⟩
      · cases hrun.symm.trans hlog
        exact ⟨last, _, true, hanswer, List.prefix_rfl⟩
      · obtain ⟨s₂, record, s₃, hreached, hnext, -⟩ := PartialRuns.run_at hlog hgt
        cases hreached.symm.trans hrun
        cases hanswer.symm.trans (nextTurn_eq_some.mp hnext).2

theorem Leaves.last {count : Nat} {start s : ListState σ} {records : List AttributeRecord}
    {exit : ListExit} (h : Leaves serve inst buffer start count records s exit) :
    records = [] ∨ ∃ k log s₁ record s₂ returns, k < count ∧
      run (nextTurn serve inst buffer) k start = some (log, s₁) ∧ s₁.Fits inst buffer ∧
      answer serve inst buffer s₁ = .ok (record, s₂, returns) ∧ records = log ++ [record] := by
  have hlast : ∀ {n : Nat} {done : List AttributeRecord} {s₀ : ListState σ}, n ≤ count →
      run (nextTurn serve inst buffer) n start = some (done, s₀) →
      done = [] ∨ ∃ k log s₁ record s₂ returns, k < count ∧
        run (nextTurn serve inst buffer) k start = some (log, s₁) ∧ s₁.Fits inst buffer ∧
        answer serve inst buffer s₁ = .ok (record, s₂, returns) ∧ done = log ++ [record] := by
    intro n done s₀ hn hrun
    cases n with
    | zero =>
        cases hrun
        exact .inl rfl
    | succ n =>
        obtain ⟨log, s₁, record, hlog, hnext, rfl⟩ := PartialRuns.run_last hrun
        obtain ⟨hfits, hanswer⟩ := nextTurn_eq_some.mp hnext
        exact .inr ⟨n, log, s₁, record, s₀, false, hn, hlog, hfits, hanswer, rfl⟩
  cases h with
  | complete hrun => exact hlast (Nat.le_refl count) hrun
  | partialTransfer hk hrun hfits => exact hlast (Nat.le_of_lt hk) hrun
  | earlyReturn hk hrun hfits hanswer =>
      exact .inr ⟨_, _, _, _, _, true, hk, hrun, hfits, hanswer, rfl⟩

end Loop

section Replies

variable {serve : ListService σ} {inst : CipInstance σ} {front : List UInt8}
  {request : MessageRouterRequest} {state : σ} {reply : ListReply σ}

/-- Where the loop starts, behind the count. -/
def listStart (front : List UInt8) (state : σ) : ListState σ :=
  { cursor := UInt64.ofNat (front.length + 2)
    state
    usedMessageLength := 2
    generalStatus := GeneralStatus.success }

/-- The attribute numbers of the request. -/
def attributeCount (request : MessageRouterRequest) : UInt16 := request.data.getUint.1

theorem attributeList_leaves (hcount : attributeCount request ≠ 0)
    (h : attributeList serve inst front request state = .ok reply) :
    ∃ s exit, Leaves serve inst (front ++ request.data) (listStart front state)
        (attributeCount request).toNat reply.records s exit ∧
      reply.response.generalStatus = s.generalStatus ∧
      reply.response.message =
        intBytes (if exit = .earlyReturn then 0 else attributeCount request) ++
          reply.records.flatMap AttributeRecord.bytes ∧
      reply.response.additionalStatus = [] := by
  have hok := (if_pos hcount).symm.trans h
  cases hloop : attributeListLoop serve inst (front ++ request.data)
      (attributeCount request).toNat (listStart front state) with
  | error fault =>
      cases (congrArg (Except.bind · _) hloop).symm.trans hok
  | ok result =>
      obtain ⟨records, s, exit⟩ := result
      cases (congrArg (Except.bind · _) hloop).symm.trans hok
      exact ⟨s, exit, attributeListLoop_leaves hloop, rfl, rfl, rfl⟩

/-- The count in front of the records is their number. -/
def ListReply.Announces (reply : ListReply σ) : Prop :=
  (Message.getUint reply.response.message).1.toNat = reply.records.length

/-- The loop comes to the `k`-th listed attribute, after the records of those before it. -/
def ComesTo (serve : ListService σ) (inst : CipInstance σ) (front : List UInt8)
    (request : MessageRouterRequest) (state : σ) (k : Nat) (records : List AttributeRecord)
    (s : ListState σ) : Prop :=
  k < (attributeCount request).toNat ∧
    run (nextTurn serve inst (front ++ request.data)) k (listStart front state) =
      some (records, s)

end Replies

section Places

variable {serve : ListService σ} {inst : CipInstance σ} {front : List UInt8}
  {request : MessageRouterRequest} {state : σ} {places : Nat → ListPlace σ}
  {recordLength : ListPlace σ → Nat → Nat} {stays : ListPlace σ → Prop}

/-- The length of the message with the records of the first `k` listed attributes. -/
def listMessageLength (places : Nat → ListPlace σ) (recordLength : ListPlace σ → Nat → Nat) :
    Nat → Nat
  | 0 => 2
  | k + 1 =>
      let usedMessageLength := listMessageLength places recordLength k
      usedMessageLength + recordLength (places k) usedMessageLength

/-- The service reads the listed attributes at these places, adds records of these lengths and
returns early where an attribute does not let it stay. -/
structure Reads (serve : ListService σ) (inst : CipInstance σ) (front : List UInt8)
    (request : MessageRouterRequest) (state : σ) (places : Nat → ListPlace σ)
    (recordLength : ListPlace σ → Nat → Nat) (stays : ListPlace σ → Prop) : Prop where
  start : places 0 = (listStart front state).place
  next : ∀ k s record s', s.place = places k →
    answer serve inst (front ++ request.data) s = .ok (record, s', false) →
    s'.place = places (k + 1)
  length : ∀ s record s' returns,
    answer serve inst (front ++ request.data) s = .ok (record, s', returns) →
    record.bytes.length = recordLength s.place s.usedMessageLength ∧
      s'.usedMessageLength = s.usedMessageLength + record.bytes.length
  stays : ∀ s, (∀ record s', answer serve inst (front ++ request.data) s ≠
    .ok (record, s', true)) ↔ stays s.place

namespace Reads

variable (hreads : Reads serve inst front request state places recordLength stays)
include hreads

theorem reached {k : Nat} {log : List AttributeRecord} {s : ListState σ}
    (h : run (nextTurn serve inst (front ++ request.data)) k
      (listStart front state) = some (log, s)) :
    s.place = places k ∧ s.usedMessageLength = listMessageLength places recordLength k := by
  induction k generalizing log s with
  | zero =>
      cases h
      exact ⟨hreads.start.symm, rfl⟩
  | succ k ih =>
      obtain ⟨before, s₁, record, hrun, hnext, -⟩ := PartialRuns.run_last h
      obtain ⟨hplace, hused⟩ := ih hrun
      obtain ⟨-, hanswer⟩ := nextTurn_eq_some.mp hnext
      obtain ⟨hrecord, hadded⟩ := hreads.length _ _ _ _ hanswer
      refine ⟨hreads.next k s₁ record s hplace hanswer, ?_⟩
      rw [hadded, hrecord, hplace, hused, listMessageLength]

theorem fits_iff {k : Nat} {log : List AttributeRecord} {s : ListState σ}
    (h : run (nextTurn serve inst (front ++ request.data)) k
      (listStart front state) = some (log, s)) :
    s.Fits inst (front ++ request.data) ↔
      (places k).Fits inst (front ++ request.data) (listMessageLength places recordLength k) := by
  obtain ⟨hplace, hused⟩ := hreads.reached h
  rw [← hplace, ← hused]
  exact Iff.rfl

/-- A service that returns has come to every listed attribute whose predecessors all fit and
let it stay. -/
theorem comesTo {count k : Nat} {s : ListState σ} {records : List AttributeRecord}
    {exit : ListExit}
    (h : Leaves serve inst (front ++ request.data) (listStart front state) count records s exit)
    (hk : k < count)
    (hbefore : ∀ j < k,
      (places j).Fits inst (front ++ request.data) (listMessageLength places recordLength j) ∧
        stays (places j)) :
    ∃ log s₁, run (nextTurn serve inst (front ++ request.data)) k
      (listStart front state) = some (log, s₁) := by
  have hprefix : ∀ {n log s}, run (nextTurn serve inst (front ++ request.data)) n
      (listStart front state) = some (log, s) → k ≤ n →
      ∃ log s₁, run (nextTurn serve inst (front ++ request.data)) k
        (listStart front state) = some (log, s₁) := by
    intro n log s hrun hle
    obtain hlt | rfl := Nat.lt_or_eq_of_le hle
    · obtain ⟨s₁, record, s₂, hreached, -, -⟩ := PartialRuns.run_at hrun hlt
      exact ⟨_, s₁, hreached⟩
    · exact ⟨log, s, hrun⟩
  cases h with
  | complete hrun => exact hprefix hrun (Nat.le_of_lt hk)
  | @partialTransfer n log s₁ hn hrun hfits =>
      obtain hlt | hle := Nat.lt_or_ge n k
      · exact absurd ((hreads.fits_iff hrun).mpr (hbefore n hlt).1) hfits
      · exact hprefix hrun hle
  | @earlyReturn n log s₁ s₂ record hn hrun hfits hanswer =>
      obtain hlt | hle := Nat.lt_or_ge n k
      · have hstays := (hbefore n hlt).2
        rw [← (hreads.reached hrun).1] at hstays
        exact absurd hanswer ((hreads.stays s₁).mpr hstays _ _)
      · exact hprefix hrun hle

/-- The loop runs to its end when every listed attribute fits behind the records of those
before it and lets it stay. -/
theorem complete_iff {count : Nat} {s : ListState σ} {records : List AttributeRecord}
    {exit : ListExit}
    (h : Leaves serve inst (front ++ request.data) (listStart front state) count records s
      exit) :
    exit = .complete ↔
      ∀ k < count,
        (places k).Fits inst (front ++ request.data) (listMessageLength places recordLength k) ∧
          stays (places k) := by
  refine h.complete_iff.trans ⟨fun hall k => ?_, fun hall k hk log s₁ hrun => ?_⟩
  · induction k using Nat.strong_induction_on with
    | _ k ih =>
        intro hk
        obtain ⟨log, s₁, hrun⟩ :=
          hreads.comesTo h hk fun j hj => ih j hj (Nat.lt_trans hj hk)
        obtain ⟨hfits, hanswer⟩ := hall k hk log s₁ hrun
        refine ⟨(hreads.fits_iff hrun).mp hfits, ?_⟩
        rw [← (hreads.reached hrun).1]
        exact (hreads.stays s₁).mp hanswer
  · obtain ⟨hfits, hstays⟩ := hall k hk
    rw [← (hreads.reached hrun).1] at hstays
    exact ⟨(hreads.fits_iff hrun).mpr hfits, (hreads.stays s₁).mpr hstays⟩

end Reads

theorem attributeList_announces_iff
    (hreads : Reads serve inst front request state places recordLength stays)
    {reply : ListReply σ} (hcount : attributeCount request ≠ 0)
    (h : attributeList serve inst front request state = .ok reply) :
    reply.Announces ↔
      ∀ k < (attributeCount request).toNat,
        (places k).Fits inst (front ++ request.data) (listMessageLength places recordLength k) ∧
          stays (places k) := by
  obtain ⟨s, exit, hleaves, -, hmessage, -⟩ := attributeList_leaves hcount h
  rw [← hreads.complete_iff hleaves, ListReply.Announces, hmessage, Message.getUint_intBytes]
  generalize reply.records = records at hleaves
  cases hleaves with
  | complete hrun => exact iff_of_true (PartialRuns.run_length hrun).symm rfl
  | partialTransfer hk hrun hfits =>
      refine iff_of_false (fun hequal => ?_) nofun
      change (attributeCount request).toNat = _ at hequal
      rw [PartialRuns.run_length hrun] at hequal
      omega
  | earlyReturn hk hrun hfits hanswer =>
      refine iff_of_false (fun hequal => ?_) nofun
      change 0 = _ at hequal
      rw [List.length_append] at hequal
      exact absurd hequal (Nat.succ_ne_zero _).symm

end Places

/-- The attribute can be skipped where it is read. -/
def ListState.Skippable (cipClass : CipClass σ) (inst : CipInstance σ) (buffer : Message)
    (s : ListState σ) : Prop :=
  s.place.Skippable inst buffer cipClass

section Services

variable {cipClass : CipClass σ} {buffer : Message} {request : MessageRouterRequest}
variable {attr : CipAttributeStruct σ} {attributeNumber : UInt16} {s s' : ListState σ}
variable {record : AttributeRecord} {returns : Bool}

/-- What `GetAttributeList` does for an attribute that it found. -/
theorem getListedAttribute_ok
    (h : getListedAttribute cipClass attr attributeNumber s = .ok (record, s', returns)) :
    (returns = false ∧ s'.place = s.place ∧ s'.usedMessageLength = s.usedMessageLength) ∧
      if BitTable.test cipClass.getSingleBitMask attributeNumber.toNat = true then
        ∃ encode, attr.encode = some encode ∧
          record.attributeData = encode s.state (s.usedMessageLength + 4)
      else record.attributeData = [] := by
  simp only [getListedAttribute] at h
  split at h
  · rename_i htest
    rw [if_pos htest]
    split at h
    · cases h
    · rename_i encode hencode
      cases h
      exact ⟨⟨rfl, rfl, rfl⟩, encode, hencode, rfl⟩
  · rename_i htest
    rw [if_neg htest]
    cases h
    exact ⟨⟨rfl, rfl, rfl⟩, rfl⟩

/-- What `SetAttributeList` does for an attribute that it found. No record has data. -/
theorem setListedAttribute_ok
    (h : setListedAttribute cipClass buffer request attr attributeNumber s =
      .ok (record, s', returns)) :
    (s'.usedMessageLength = s.usedMessageLength ∧ record.attributeData = []) ∧
      if BitTable.test cipClass.setBitMask attributeNumber.toNat = true then
        ∃ decode, attr.decode = some decode ∧ returns = false ∧
          record.attributeStatus = GeneralStatus.success ∧
          s'.generalStatus =
            (decode s.state { request with data := buffer.drop s.cursor.toNat }).generalStatus
      else
        record.attributeStatus ≠ GeneralStatus.success ∧
          s'.generalStatus ≠ GeneralStatus.success := by
  have hrefused : GeneralStatus.attributeNotSetable ≠ GeneralStatus.success := by decide
  simp only [setListedAttribute] at h
  split at h
  · rename_i htest
    rw [if_pos htest]
    split at h
    · cases h
    · rename_i decode hdecode
      cases h
      exact ⟨⟨rfl, rfl⟩, decode, hdecode, rfl, rfl, rfl⟩
  · rename_i htest
    rw [if_neg htest]
    split at h
    · cases h
      have herror : GeneralStatus.attributeListError ≠ GeneralStatus.success := by decide
      exact ⟨⟨rfl, rfl⟩, hrefused, herror⟩
    · cases h
      have hpartial : GeneralStatus.partialTransfer ≠ GeneralStatus.success := by decide
      exact ⟨⟨rfl, rfl⟩, hrefused, hpartial⟩

end Services

section Answers

variable {cipClass : CipClass σ} {inst : CipInstance σ} {buffer : Message}
  {request : MessageRouterRequest} {s s' : ListState σ} {record : AttributeRecord}

theorem answer_getListed_returns :
    answer (getListedAttribute cipClass) inst buffer s ≠ .ok (record, s', true) := by
  intro h
  obtain ⟨-, hreturns, -⟩ | ⟨attr, s₁, -, hserve, -⟩ := answer_ok h
  · cases hreturns
  · cases (getListedAttribute_ok hserve).1.1

theorem answer_setListed_returns_iff :
    (∀ record s', answer (setListedAttribute cipClass buffer request) inst buffer s ≠
      .ok (record, s', true)) ↔ s.Skippable cipClass inst buffer := by
  change _ ↔ ∀ attr, getCipAttribute inst (s.attributeNumber buffer) = some attr →
    BitTable.test cipClass.setBitMask (s.attributeNumber buffer).toNat = false →
    getCipDataTypeLength attr.type (some (buffer.drop s.advance.cursor.toNat)) ≠ 0
  simp only [answer, serveAttribute, setListedAttribute]
  cases getCipAttribute inst (s.attributeNumber buffer) with
  | none => simp [Except.map]
  | some attr =>
      cases BitTable.test cipClass.setBitMask (s.attributeNumber buffer).toNat with
      | true =>
          cases hdecode : attr.decode <;> simp [Except.map, hdecode]
      | false =>
          by_cases hlength : getCipDataTypeLength attr.type
              (some (buffer.drop s.advance.cursor.toNat)) = 0
          · simp [Except.map, hlength]
          · simp [Except.map, hlength]

end Answers

section Get

variable {cipClass : CipClass σ} {inst : CipInstance σ} {front : List UInt8}
  {request : MessageRouterRequest} {state : σ}

/-- The `k`-th listed attribute of a Get_Attribute_List request: the numbers stand next to each
other. -/
def getPlace (front : List UInt8) (state : σ) (k : Nat) : ListPlace σ :=
  { cursor := UInt64.ofNat (front.length + 2) + 2 * UInt64.ofNat k, state }

/-- The record of `GetAttributeList`: number and status, and the value when it can be read. It
may be aligned, so its length depends on where it begins. -/
def ListPlace.getRecordLength (cipClass : CipClass σ) (inst : CipInstance σ) (buffer : Message)
    (p : ListPlace σ) (usedMessageLength : Nat) : Nat :=
  match p.listed inst buffer with
  | some attr =>
      if BitTable.test cipClass.getSingleBitMask (p.attributeNumber buffer).toNat then
        match attr.encode with
        | some encode => 4 + (encode p.state (usedMessageLength + 4)).length
        | none => 4
      else 4
  | none => 4

/-- The length of the message of `GetAttributeList` with its first `k` records. -/
def getMessageLength (cipClass : CipClass σ) (inst : CipInstance σ) (front : List UInt8)
    (request : MessageRouterRequest) (state : σ) : Nat → Nat :=
  listMessageLength (getPlace front state)
    (ListPlace.getRecordLength cipClass inst (front ++ request.data))

theorem getListed_reads : Reads (getListedAttribute cipClass) inst front request state
    (getPlace front state) (ListPlace.getRecordLength cipClass inst (front ++ request.data))
    fun _ => True where
  start := by
    have hzero : 2 * UInt64.ofNat 0 = 0 := rfl
    rw [getPlace, hzero, UInt64.add_zero]
    rfl
  next k s record s' hplace h := by
    have hnext : s.advance.place = getPlace front state (k + 1) := by
      have hcursor : s.cursor = UInt64.ofNat (front.length + 2) + 2 * UInt64.ofNat k :=
        congrArg ListPlace.cursor hplace
      have hstate : s.state = state := congrArg ListPlace.state hplace
      simp only [ListState.place, ListState.advance, getPlace, hcursor, hstate, UInt64.ofNat_add,
        UInt64.mul_add, UInt64.add_assoc]
      rfl
    obtain ⟨-, -, -, rfl⟩ | ⟨attr, s₁, -, hserve, rfl⟩ := answer_ok h
    · exact hnext
    · exact (getListedAttribute_ok hserve).1.2.1.trans hnext
  length s record s' returns h := by
    obtain ⟨hunknown, -, rfl, rfl⟩ | ⟨attr, s₁, hlisted, hserve, rfl⟩ := answer_ok h
    · refine ⟨?_, rfl⟩
      have hplace : s.place.listed inst (front ++ request.data) = none := hunknown
      rw [ListPlace.getRecordLength, hplace]
      rfl
    · obtain ⟨⟨-, -, hused⟩, hdata⟩ := getListedAttribute_ok hserve
      have hplace : s.place.listed inst (front ++ request.data) = some attr := hlisted
      refine ⟨?_, congrArg (· + record.bytes.length) hused⟩
      simp only [ListPlace.getRecordLength, hplace, AttributeRecord.bytes_length]
      change _ = if BitTable.test cipClass.getSingleBitMask
        (s.attributeNumber (front ++ request.data)).toNat then _ else _
      split at hdata
      · rename_i htest
        obtain ⟨encode, hencode, hdata⟩ := hdata
        rw [if_pos htest, hencode, hdata]
        rfl
      · rename_i htest
        rw [if_neg htest, hdata]
        rfl
  stays s := iff_of_true (fun _ _ => answer_getListed_returns) trivial

end Get

section Set

variable {cipClass : CipClass σ} {inst : CipInstance σ} {front : List UInt8}
  {request : MessageRouterRequest} {state : σ}

/-- Behind a listed attribute of a Set_Attribute_List request: its value is decoded or
skipped. -/
def ListPlace.next (cipClass : CipClass σ) (inst : CipInstance σ) (buffer : Message)
    (request : MessageRouterRequest) (p : ListPlace σ) : ListPlace σ :=
  match p.listed inst buffer with
  | none => { p with cursor := p.cursor + 2 }
  | some attr =>
      if BitTable.test cipClass.setBitMask (p.attributeNumber buffer).toNat then
        match attr.decode with
        | none => { p with cursor := p.cursor + 2 }
        | some decode =>
            let decoded := decode p.state { request with data := p.data buffer }
            { cursor := p.cursor + 2 + UInt64.ofNat decoded.moved, state := decoded.data }
      else
        { p with
          cursor := p.cursor + 2 + getCipDataTypeLength attr.type (some (p.data buffer)) }

/-- The `k`-th listed attribute of a Set_Attribute_List request. -/
def setPlace (cipClass : CipClass σ) (inst : CipInstance σ) (front : List UInt8)
    (request : MessageRouterRequest) (state : σ) : Nat → ListPlace σ
  | 0 => { cursor := UInt64.ofNat (front.length + 2), state }
  | k + 1 =>
      (setPlace cipClass inst front request state k).next cipClass inst (front ++ request.data)
        request

theorem answer_setListed_place {buffer : Message} {s s' : ListState σ} {record : AttributeRecord}
    (h : answer (setListedAttribute cipClass buffer request) inst buffer s =
      .ok (record, s', false)) : s'.place = s.place.next cipClass inst buffer request := by
  obtain ⟨hunknown, -, -, rfl⟩ | ⟨attr, s₁, hlisted, hserve, rfl⟩ := answer_ok h
  · have hplace : s.place.listed inst buffer = none := hunknown
    rw [ListPlace.next, hplace]
    rfl
  · have hplace : s.place.listed inst buffer = some attr := hlisted
    change s₁.place = _
    simp only [ListPlace.next, hplace]
    change _ = if BitTable.test cipClass.setBitMask (s.attributeNumber buffer).toNat then _ else _
    simp only [setListedAttribute] at hserve
    split at hserve
    · rename_i htest
      rw [if_pos htest]
      cases hdecode : attr.decode with
      | none =>
          rw [hdecode] at hserve
          cases hserve
      | some decode =>
          rw [hdecode] at hserve
          cases hserve
          rfl
    · rename_i htest
      rw [if_neg htest]
      split at hserve
      · cases hserve
        rfl
      · cases hserve

theorem setListed_reads : Reads (setListedAttribute cipClass (front ++ request.data) request) inst
    front request state (setPlace cipClass inst front request state) (fun _ _ => 4)
    fun p => p.Skippable inst (front ++ request.data) cipClass where
  start := rfl
  next k s record s' hplace h := by
    rw [answer_setListed_place h, hplace]
    rfl
  length s record s' returns h := by
    obtain ⟨-, -, rfl, rfl⟩ | ⟨attr, s₁, -, hserve, rfl⟩ := answer_ok h
    · exact ⟨rfl, rfl⟩
    · obtain ⟨⟨hused, hdata⟩, -⟩ := setListedAttribute_ok hserve
      refine ⟨?_, congrArg (· + record.bytes.length) hused⟩
      rw [AttributeRecord.bytes_length, hdata]
      rfl
  stays s := answer_setListed_returns_iff

/-- Every record of `SetAttributeList` has four bytes. -/
theorem setMessageLength (places : Nat → ListPlace σ) (k : Nat) :
    listMessageLength places (fun _ _ => 4) k = 2 + 4 * k := by
  induction k with
  | zero => rfl
  | succ k ih =>
      rw [listMessageLength, ih]
      omega

end Set

/-- Replies announce the records they contain exactly when every listed attribute fits behind
the records of those before it and, when attributes are set, can be skipped where it cannot be
set. -/
theorem attributeLists_announce_iff (cipClass : CipClass σ) (inst : CipInstance σ)
    (front : List UInt8) {request : MessageRouterRequest} (state : σ)
    (hcount : attributeCount request ≠ 0) :
    (∀ reply, getAttributeList cipClass inst front request state = .ok reply →
      (reply.Announces ↔
        ∀ k < (attributeCount request).toNat,
          (getPlace front state k).Fits inst (front ++ request.data)
            (getMessageLength cipClass inst front request state k))) ∧
    ∀ reply, setAttributeList cipClass inst front request state = .ok reply →
      (reply.Announces ↔
        ∀ k < (attributeCount request).toNat,
          (setPlace cipClass inst front request state k).Fits inst (front ++ request.data)
              (2 + 4 * k) ∧
            (setPlace cipClass inst front request state k).Skippable inst
              (front ++ request.data) cipClass) := by
  constructor
  · intro reply h
    refine (attributeList_announces_iff getListed_reads hcount h).trans ?_
    exact forall₂_congr fun k _ => and_iff_left trivial
  · intro reply h
    refine (attributeList_announces_iff setListed_reads hcount h).trans ?_
    simp only [setMessageLength]

/-- A getable `SHORT_STRING`, the only attribute of a class with one instance. -/
def labelAttribute : CipAttributeStruct CipData :=
  { attributeNumber := 1
    type := .shortString
    encode := some encodeCipShortString
    attributeFlags := CIPAttributeFlag.getableSingleAndAll
    data := some CipData.memory }

def labelInstance : CipInstance CipData :=
  { instanceNumber := 1, attributes := [labelAttribute] }

def labelClass : CipClass CipData :=
  { createCipClass 1 1 [1] with
    getSingleBitMask := [0x02]
    getAllBitMask := [0x02]
    instances := [labelInstance] }

example : setUpClass (createCipClass 1 1 [1]) [.insertAttribute 1 labelAttribute] =
    .ok labelClass := rfl

def label (length : UInt8) : CipData := ⟨[length], List.replicate length.toNat 0x61⟩

/-- The string twice and an unknown attribute. -/
def labelTwice : MessageRouterRequest := ⟨0x03, 8, [3, 0, 1, 0, 1, 0, 9, 0]⟩

theorem attributeLists_announce_label :
    ∃ reply, getAttributeList labelClass labelInstance [] labelTwice (label 3) = .ok reply ∧
      reply.records.length = 3 ∧ reply.Announces := by
  have hcount : attributeCount labelTwice ≠ 0 := by decide
  obtain ⟨reply, h, hrecords⟩ : ∃ reply, getAttributeList labelClass labelInstance [] labelTwice
      (label 3) = .ok reply ∧ reply.records.length = 3 := ⟨_, rfl, rfl⟩
  refine ⟨reply, h, hrecords, ?_⟩
  refine ((attributeLists_announce_iff labelClass labelInstance [] (label 3) hcount).1 reply
    h).mpr ?_
  decide

set_option maxRecDepth 4000 in
/-- Four times a string of 120 characters: three records are announced as four. -/
theorem attributeList_overannounces :
    ∃ reply, getAttributeList labelClass labelInstance []
        ⟨0x03, 10, [4, 0, 1, 0, 1, 0, 1, 0, 1, 0]⟩ (label 120) = .ok reply ∧
      reply.records.length = 3 ∧ ¬reply.Announces := by
  refine ⟨_, rfl, rfl, fun h => ?_⟩
  exact absurd (show (4 : UInt16).toNat = 3 from h) (by decide)

end Opener

import Opener.Core.SampleApplication
import Opener.Library.Records
import Opener.Metatheory.Consuming
import Opener.Metatheory.Lifetimes

/-!
The order in which a connection consumes. From its opening on, the packets of its
originator with sequenced address items are logged with whether they were passed to
the receive function. Within a window of half the sequence numbers a packet is
passed exactly when its number is above all that arrived before it.
-/

namespace Opener

/-- In a window of half the numbers the comparison is the order of the offsets. -/
theorem seqGt32_iff {a b base : UInt32} (ha : (a - base).toNat < 2 ^ 31)
    (hb : (b - base).toNat < 2 ^ 31) :
    seqGt32 a b = true ↔ (b - base).toNat < (a - base).toNat := by
  have hbounds := And.intro a.toNat_lt (And.intro b.toNat_lt base.toNat_lt)
  simp only [seqGt32, Bool.and_eq_true, decide_eq_true_eq, UInt32.toNat_sub] at ha hb ⊢
  omega

namespace CipConnectionObject

/-- The last number that was taken. -/
def lastTaken (c : CipConnectionObject) : Option UInt32 :=
  if c.eipFirstLevelSequenceCountReceived then some c.eipLevelSequenceCountConsuming else none

/-- What decides about the packets of a connection that is found. -/
def hearing (c : CipConnectionObject) :
    UInt32 × Bool × UInt32 × Option ConnectionReceiveDataFunction :=
  (c.eipLevelSequenceCountConsuming, c.eipFirstLevelSequenceCountReceived,
    c.originatorAddress.sinAddr, c.connectionReceiveDataFunction)

/-- Within the window the test of the number is that of a reader who remembers the
last number that it took. -/
theorem takesNumber_eq {c : CipConnectionObject} {base sequenceNumber : UInt32}
    (hnumber : (sequenceNumber - base).toNat < 2 ^ 31)
    (hlast : ∀ last, c.lastTaken = some last → (last - base).toNat < 2 ^ 31) :
    c.takesNumber sequenceNumber =
      Records.takes (fun n : UInt32 => (n - base).toNat) c.lastTaken sequenceNumber := by
  cases hflag : c.eipFirstLevelSequenceCountReceived with
  | false => simp [takesNumber, lastTaken, Records.takes, hflag]
  | true =>
      have hlastTaken : c.lastTaken = some c.eipLevelSequenceCountConsuming := by
        simp [lastTaken, hflag]
      have hiff := seqGt32_iff hnumber (hlast _ hlastTaken)
      rw [hlastTaken, takesNumber, hflag, Bool.eq_iff_iff]
      simpa [Records.takes] using hiff

theorem lastTaken_heard (sequenceNumber : UInt32) (c : CipConnectionObject) :
    (c.heard sequenceNumber).lastTaken =
      if c.takesNumber sequenceNumber then some sequenceNumber else c.lastTaken := by
  rw [heard]
  split
  · rfl
  · rfl

end CipConnectionObject

namespace StackState

variable {cfg : Config} {st st' start : StackState} {r : ConnRef}
  {connectionId : UInt32} {log : List (UInt32 × Bool)} {result : Except Fault StackState}

/-- Nothing else happened to what the connection hears. -/
structure Undisturbed (cfg : Config) (connectionId : UInt32) (r : ConnRef)
    (st st' : StackState) : Prop where
  found : st'.getConnectedObject cfg connectionId = st.getConnectedObject cfg connectionId
  hearing : (st'.conn r).hearing = (st.conn r).hearing

/-- The packets that the originator of a connection sends it, each with its number and
whether `HandleReceivedConnectedData` passes it on; anything else may happen between
them that leaves the connection alone. -/
inductive Arrives (cfg : Config) (connectionId : UInt32) (r : ConnRef) (start : StackState) :
    List (UInt32 × Bool) → Except Fault StackState → Prop
  | start : Arrives cfg connectionId r start [] (.ok start)
  | elsewhere {log : List (UInt32 × Bool)} {st st' : StackState}
      (before : Arrives cfg connectionId r start log (.ok st))
      (undisturbed : Undisturbed cfg connectionId r st st') :
      Arrives cfg connectionId r start log (.ok st')
  | packet {log : List (UInt32 × Bool)} {st : StackState} {data : Message}
      {sequenceNumber fromAddress : UInt32}
      (before : Arrives cfg connectionId r start log (.ok st))
      (carries : SequencedPacket data connectionId sequenceNumber)
      (sender : fromAddress = (st.conn r).originatorAddress.sinAddr) (env : Environment) :
      Arrives cfg connectionId r start
        (log ++ [(sequenceNumber, (st.acceptConnectedData cfg data fromAddress).1.isSome)])
        ((st.handleReceivedConnectedData cfg env data fromAddress).map Prod.snd)

/-- The connection is found by its id and has a receive function. -/
structure Attends (cfg : Config) (connectionId : UInt32) (r : ConnRef) (st : StackState) :
    Prop where
  found : st.getConnectedObject cfg connectionId = some r
  receives : (st.conn r).connectionReceiveDataFunction.isSome = true

theorem Attends.undisturbed (h : Attends cfg connectionId r st)
    (hundisturbed : Undisturbed cfg connectionId r st st') :
    Attends cfg connectionId r st' ∧ (st'.conn r).lastTaken = (st.conn r).lastTaken := by
  refine ⟨⟨hundisturbed.found.trans h.found, ?_⟩, ?_⟩
  · have hfunction : (st'.conn r).connectionReceiveDataFunction =
        (st.conn r).connectionReceiveDataFunction := congrArg (·.2.2.2) hundisturbed.hearing
    rw [hfunction]
    exact h.receives
  · exact congrArg (fun hearing => if hearing.2.1 then some hearing.1 else none)
      hundisturbed.hearing

/-- A packet is passed when its number is taken, and the connection remembers it. -/
theorem Attends.packet (h : Attends cfg connectionId r st) (env : Environment)
    {data : Message} {sequenceNumber : UInt32}
    (hpacket : SequencedPacket data connectionId sequenceNumber) :
    (st.acceptConnectedData cfg data (st.conn r).originatorAddress.sinAddr).1.isSome =
        (st.conn r).takesNumber sequenceNumber ∧
      ∀ status st', st.handleReceivedConnectedData cfg env data
          (st.conn r).originatorAddress.sinAddr = .ok (status, st') →
        Attends cfg connectionId r st' ∧ (st'.conn r).lastTaken =
          if (st.conn r).takesNumber sequenceNumber then some sequenceNumber
          else (st.conn r).lastTaken := by
  obtain ⟨cpf, haccept⟩ := acceptConnectedData_sequenced hpacket h.found h.receives
  have hheard : (conn { st.modifyConn r fun c => c.heard sequenceNumber with cpf := cpf } r) =
      (st.conn r).heard sequenceNumber := conn_modifyConn_self _ r _
  have hfunction : ∀ c : CipConnectionObject,
      (c.heard sequenceNumber).connectionReceiveDataFunction =
        c.connectionReceiveDataFunction := by
    intro c
    rw [CipConnectionObject.heard]
    split
    · rfl
    · rfl
  have hlast := CipConnectionObject.lastTaken_heard sequenceNumber (st.conn r)
  refine ⟨?_, ?_⟩
  · rw [haccept]
    split
    · rename_i htakes
      exact htakes.symm
    · rename_i htakes
      exact (Bool.eq_false_of_not_eq_true htakes).symm
  · intro status st' hcall
    have hfound := (handleReceivedConnectedData_touched hcall).getConnectedObject cfg
      connectionId
    suffices hfields : (st'.conn r).connectionReceiveDataFunction =
        ((st.conn r).heard sequenceNumber).connectionReceiveDataFunction ∧
        (st'.conn r).lastTaken = ((st.conn r).heard sequenceNumber).lastTaken by
      refine ⟨⟨hfound.trans h.found, ?_⟩, hfields.2.trans hlast⟩
      rw [hfields.1, hfunction]
      exact h.receives
    rw [handleReceivedConnectedData_eq, haccept] at hcall
    rw [← hheard]
    by_cases htakes : (st.conn r).takesNumber sequenceNumber = true
    · simp only [if_pos htakes] at hcall
      exact ⟨handleReceivedIoConnectionData_field (·.connectionReceiveDataFunction)
          (fun _ _ => rfl) hcall r,
        handleReceivedIoConnectionData_field (·.lastTaken) (fun _ _ => rfl) hcall r⟩
    · simp only [if_neg htakes] at hcall
      cases hcall
      exact ⟨rfl, rfl⟩

/-- A connection to assemblies that was just opened is an I/O connection with a receive
function. -/
theorem NewlyOpened.io (h : NewlyOpened cfg assemblyClassCode r st) :
    r.isIo = true ∧ (st.conn r).connectionReceiveDataFunction.isSome = true := by
  obtain ⟨-, hhead, st₁, env, hclassId, hanswered⟩ := h.answered
  generalize hview : st.view cfg = V at hanswered
  cases hanswered with
  | unchanged failed =>
      have hzero := failed rfl
      rw [hclassId] at hzero
      exact absurd hzero (by decide)
  | class3 unlisted explicit kind established granted router =>
      rw [hclassId] at router
      exact absurd router (by decide)
  | io assembly established =>
      cases established with
      | nothing failed => exact absurd rfl failed
      | refused failed => exact absurd rfl failed
      | @opened s V₁ _ chosen finds instanceType vacated opens granted points =>
          have hmembers : st.connectionList cfg = s :: V₁.members := by
            rw [← view_members, hview, opens.members_eq]
          rw [hmembers] at hhead
          cases hhead
          have hreceives := opens.admitted.receives
          rw [← hview, view_object] at hreceives
          rw [hreceives]
          exact ⟨chosen.io, rfl⟩

/-- An I/O connection that was just opened is found by its id and has taken nothing. -/
theorem NewlyOpened.attends (h : NewlyOpened cfg assemblyClassCode r st) :
    Attends cfg (st.conn r).cipConsumedConnectionId r st ∧ (st.conn r).lastTaken = none := by
  obtain ⟨hfound, hunheard, -⟩ := h.found (by decide)
  have hlast : (st.conn r).lastTaken = none := by
    rw [CipConnectionObject.lastTaken, hunheard]
    rfl
  exact ⟨⟨hfound, h.io.2⟩, hlast⟩

theorem Arrives.tracked (hrun : Arrives cfg connectionId r start log result)
    (hattends : Attends cfg connectionId r start)
    (hunheard : (start.conn r).lastTaken = none) {base : UInt32}
    (hwindow : ∀ entry ∈ log, (entry.1 - base).toNat < 2 ^ 31) :
    Records.Marked (fun n : UInt32 => (n - base).toNat) log ∧
      ∀ st, result = .ok st → Attends cfg connectionId r st ∧
        Records.Tracks (fun n : UInt32 => (n - base).toNat) log (st.conn r).lastTaken := by
  induction hrun with
  | start =>
      refine ⟨Records.tracks_nil.marked, fun st hst => ?_⟩
      cases hst
      rw [hunheard]
      exact ⟨hattends, Records.tracks_nil⟩
  | elsewhere before undisturbed ih =>
      obtain ⟨hmarked, htracks⟩ := ih hwindow
      refine ⟨hmarked, fun st hst => ?_⟩
      cases hst
      obtain ⟨hattends, htracks⟩ := htracks _ rfl
      obtain ⟨hattends', hlast⟩ := hattends.undisturbed undisturbed
      rw [hlast]
      exact ⟨hattends', htracks⟩
  | @packet log st data sequenceNumber fromAddress before carries sender env ih =>
      have hbefore : ∀ entry ∈ log, (entry.1 - base).toNat < 2 ^ 31 :=
        fun entry hentry => hwindow entry (List.mem_append_left _ hentry)
      have hnumber : (sequenceNumber - base).toNat < 2 ^ 31 :=
        hwindow _ (List.mem_append_right _ (List.mem_singleton.mpr rfl))
      obtain ⟨-, htracks⟩ := ih hbefore
      obtain ⟨hattends, htracks⟩ := htracks _ rfl
      have htakes := CipConnectionObject.takesNumber_eq hnumber fun last hlast => by
        obtain ⟨⟨taken, hmem⟩, -⟩ := htracks.highest last hlast
        exact hbefore _ hmem
      obtain ⟨hpassed, hafter⟩ := hattends.packet env carries
      have happended := htracks.append sequenceNumber
      rw [← htakes] at happended
      rw [sender, hpassed]
      refine ⟨happended.marked, fun st' hst' => ?_⟩
      cases hcall : st.handleReceivedConnectedData cfg env data
          (st.conn r).originatorAddress.sinAddr with
      | error fault =>
          rw [hcall] at hst'
          cases hst'
      | ok handled =>
          rw [hcall] at hst'
          cases hst'
          obtain ⟨hattends', hlast⟩ := hafter handled.1 handled.2 hcall
          rw [hlast]
          exact ⟨hattends', happended⟩

/-- A connection consumes in order and at most once: the first packet is passed, a
packet is passed exactly when its number is above all that arrived before it, and the
numbers that are passed go up. -/
theorem consumed_in_order (hopened : NewlyOpened cfg assemblyClassCode r start)
    (hrun : Arrives cfg (start.conn r).cipConsumedConnectionId r start log result)
    {base : UInt32} (hwindow : ∀ entry ∈ log, (entry.1 - base).toNat < 2 ^ 31) :
    ((log.filter fun entry => entry.2).Pairwise fun a b =>
        (a.1 - base).toNat < (b.1 - base).toNat) ∧
      (∀ first after, log = first :: after → first.2 = true) ∧
      ∀ before sequenceNumber passed after, log = before ++ (sequenceNumber, passed) :: after →
        (passed = true ↔ ∀ entry ∈ before,
          (entry.1 - base).toNat < (sequenceNumber - base).toNat) := by
  obtain ⟨hattends, hunheard⟩ := hopened.attends
  obtain ⟨hmarked, -⟩ := hrun.tracked hattends hunheard hwindow
  refine ⟨hmarked.pairwise, ?_, hmarked⟩
  intro first after hlog
  exact (hmarked [] first.1 first.2 after hlog).mpr nofun

open SampleApplication (sequencedPacket) in
theorem sequencedPacket_carries (connectionId sequenceNumber : UInt32) {payload : List UInt8}
    (h : payload.length < 65536) :
    SequencedPacket (sequencedPacket connectionId sequenceNumber payload) connectionId
      sequenceNumber := by
  have hlength : (sequencedPacket connectionId sequenceNumber payload).length =
      18 + payload.length := by
    simp [sequencedPacket, intBytes, dintBytes]
    omega
  have hcount : (sequencedPacket connectionId sequenceNumber payload).word 0 = 2 :=
    congrArg Prod.fst (Message.getUint_intBytes 2 _)
  have haddress : (sequencedPacket connectionId sequenceNumber payload).word 2 =
      ItemId.sequencedAddressItem := congrArg Prod.fst (Message.getUint_intBytes _ _)
  have haddressLength : (sequencedPacket connectionId sequenceNumber payload).word 4 = 8 :=
    congrArg Prod.fst (Message.getUint_intBytes 8 _)
  have hdata : (sequencedPacket connectionId sequenceNumber payload).word 14 =
      ItemId.connectedDataItem := congrArg Prod.fst (Message.getUint_intBytes _ _)
  refine ⟨by rw [hcount]; decide, haddress, haddressLength, ?_, ?_, hdata, ?_⟩
  · exact congrArg Prod.fst (Message.getUdint_dintBytes connectionId _)
  · exact congrArg Prod.fst (Message.getUdint_dintBytes sequenceNumber _)
  · have hend : (sequencedPacket connectionId sequenceNumber payload).word 16 =
        UInt16.ofNat payload.length :=
      congrArg Prod.fst (Message.getUint_intBytes (UInt16.ofNat payload.length) payload)
    have hfourteen : CommonPacketFormatData.addressItemEnd 8 = 14 := rfl
    rw [if_pos hcount, hlength, CommonPacketFormatData.dataItemEnd, haddressLength, hfourteen,
      hend, UInt16.toNat_ofNat', Nat.mod_eq_of_lt h]

section Sample

open SampleApplication

/-- A packet for the exclusive owner of the sample application. -/
def ownerPacket (st : StackState) (sequenceNumber : UInt32) : Message :=
  sequencedPacket (st.conn (.exclusiveOwner 0)).cipConsumedConnectionId sequenceNumber
    (List.replicate 38 0)

def ownerAddress (st : StackState) : UInt32 :=
  (st.conn (.exclusiveOwner 0)).originatorAddress.sinAddr

/-- An exclusive owner is opened and two packets arrive, of which the first is passed. -/
def passesFirst (first second : UInt32) (label : Environment × Action) (st : StackState) :
    Bool :=
  match openEntry config label st with
  | none => false
  | some st₁ =>
      st₁.dummy.configurationPath.classId = assemblyClassCode &&
      match st₁.openConnection config label.1 with
      | .error _ => false
      | .ok (status, start) =>
          status = {} && (start.connectionList config).head? = some (.exclusiveOwner 0) &&
          (start.acceptConnectedData config (ownerPacket start first)
            (ownerAddress start)).1.isSome &&
          match start.handleReceivedConnectedData config label.1 (ownerPacket start first)
              (ownerAddress start) with
          | .error _ => false
          | .ok (_, st) =>
              (st.acceptConnectedData config (ownerPacket start second)
                (ownerAddress st)).1.isNone

theorem arrives_of_passesFirst {first second : UInt32} {label : Environment × Action}
    (hreachable : Reachable config st) (h : passesFirst first second label st = true) :
    ∃ start result, NewlyOpened config assemblyClassCode (.exclusiveOwner 0) start ∧
      Arrives config (start.conn (.exclusiveOwner 0)).cipConsumedConnectionId
        (.exclusiveOwner 0) start [(first, true), (second, false)] result := by
  simp only [passesFirst] at h
  split at h
  · cases h
  · rename_i st₁ hentry
    rw [Bool.and_eq_true, decide_eq_true_eq] at h
    obtain ⟨hassembly, h⟩ := h
    split at h
    · cases h
    · rename_i status start hopen
      simp only [Bool.and_eq_true, decide_eq_true_eq] at h
      obtain ⟨⟨⟨rfl, hhead⟩, hfirst⟩, h⟩ := h
      split at h
      · cases h
      · rename_i status st₂ hhandled
        have hpacket : ∀ sequenceNumber, SequencedPacket (ownerPacket start sequenceNumber)
            (start.conn (.exclusiveOwner 0)).cipConsumedConnectionId sequenceNumber :=
          fun sequenceNumber => sequencedPacket_carries _ _ (by decide)
        have hstart : Arrives config (start.conn (.exclusiveOwner 0)).cipConsumedConnectionId
          (.exclusiveOwner 0) start [] (.ok start) := .start
        have hone := hstart.packet (hpacket first) rfl label.1
        have hpassed : (start.acceptConnectedData config (ownerPacket start first)
          (start.conn (.exclusiveOwner 0)).originatorAddress.sinAddr).1.isSome = true := hfirst
        have hafter : start.handleReceivedConnectedData config label.1 (ownerPacket start first)
          (start.conn (.exclusiveOwner 0)).originatorAddress.sinAddr = .ok (status, st₂) :=
          hhandled
        rw [hpassed, hafter] at hone
        have htwo := Arrives.packet hone (hpacket second) rfl label.1
        have hkept : (st₂.acceptConnectedData config (ownerPacket start second)
            (st₂.conn (.exclusiveOwner 0)).originatorAddress.sinAddr).1.isSome = false := by
          rw [Option.isSome_eq_false_iff]
          exact h
        rw [hkept] at htwo
        exact ⟨start, _, ⟨st, label, st₁, hreachable, hentry, hassembly, hopen, hhead⟩, htwo⟩

/-- Number 2 arrives before 4294967295, which is three numbers below it. -/
theorem consumed_in_order_sample :
    ∃ start result, NewlyOpened config assemblyClassCode (.exclusiveOwner 0) start ∧
      Arrives config (start.conn (.exclusiveOwner 0)).cipConsumedConnectionId
        (.exclusiveOwner 0) start [(2, true), (4294967295, false)] result ∧
      ∀ before sequenceNumber passed after,
        [((2 : UInt32), true), (4294967295, false)] =
          before ++ (sequenceNumber, passed) :: after →
        (passed = true ↔ ∀ entry ∈ before,
          (entry.1 - 4294967290).toNat < (sequenceNumber - 4294967290).toNat) := by
  obtain ⟨st, hreachable, hpasses⟩ := reachable_of_ends config []
    (passesFirst 2 4294967295 (request (exclusiveOwner 1 1 multicast))) (by decide +kernel)
  obtain ⟨start, result, hopened, hrun⟩ := arrives_of_passesFirst hreachable hpasses
  have hwindow : ∀ entry ∈ [((2 : UInt32), true), (4294967295, false)],
      (entry.1 - 4294967290).toNat < 2 ^ 31 := by
    intro entry hentry
    cases hentry with
    | head => decide
    | tail _ hentry =>
        cases hentry with
        | head => decide
        | tail _ hnone => cases hnone
  exact ⟨start, result, hopened, hrun, (consumed_in_order hopened hrun hwindow).2.2⟩

end Sample

end StackState

end Opener

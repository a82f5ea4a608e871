import Opener.Metatheory.Rounds

/-!
One turn of `ManageConnections` as a function of the connection object. A connection
that does not expire has its watchdogs lowered, and if it has a packet rate and a
producing socket its production timers are served; nobody else is touched.
-/

namespace Opener

namespace CipConnectionObject

variable (cfg : Config) (elapsedTime : UInt64) (c : CipConnectionObject)

/-- The connection has watchdogs. -/
def isWatched : Bool :=
  c.consumingInstance.isSome || c.transportClassTriggerDirection = .server

/-- The connection has a packet rate and the socket to produce on. -/
def isPaced : Bool := c.expectedPacketRate ≠ 0 && c.producingSocket ≠ eipInvalidSocket

/-- The connection produces in its turn. -/
def produces : Bool := c.isPaced && c.transmissionTriggerTimer ≤ elapsedTime

/-- The transmission trigger timer after the production part of a turn. -/
def timerAfter : UInt64 :=
  if c.transmissionTriggerTimer ≤ elapsedTime then
    if c.transmissionTriggerTimer + (c.requestedPacketInterval cfg).toUInt64 > elapsedTime then
      c.transmissionTriggerTimer + (c.requestedPacketInterval cfg).toUInt64 - elapsedTime
    else 0
  else c.transmissionTriggerTimer - elapsedTime

/-- The production inhibit timer after the production part of a turn. -/
def inhibitTimerAfter : UInt64 :=
  if c.productionTrigger = .cyclic then c.productionInhibitTimer
  else if c.transmissionTriggerTimer ≤ elapsedTime then c.productionInhibitTime.toUInt64
  else if elapsedTime ≤ c.productionInhibitTimer then c.productionInhibitTimer
  else c.productionInhibitTimer - elapsedTime

/-- The connection after a turn in which it does not expire, with the counts that a
packet takes. -/
def managed (count : UInt32) (dataCount : UInt16) : CipConnectionObject :=
  { c with
    inactivityWatchdogTimer :=
      if c.isWatched then c.inactivityWatchdogTimer - elapsedTime
      else c.inactivityWatchdogTimer
    lastPackageWatchdogTimer :=
      if c.isWatched then c.lastPackageWatchdogTimer - elapsedTime
      else c.lastPackageWatchdogTimer
    transmissionTriggerTimer :=
      if c.isPaced then c.timerAfter cfg elapsedTime else c.transmissionTriggerTimer
    productionInhibitTimer :=
      if c.isPaced then c.inhibitTimerAfter elapsedTime else c.productionInhibitTimer
    eipLevelSequenceCountProducing := count
    sequenceCountProducing := dataCount }

variable {cfg elapsedTime c}

theorem isWatched_iff : c.isWatched = true ↔
    c.consumingInstance.isSome = true ∨ c.transportClassTriggerDirection = .server := by
  simp only [isWatched, Bool.or_eq_true, decide_eq_true_eq]

theorem expires_iff : c.expires elapsedTime = true ↔
    c.state = .established ∧ c.isWatched = true ∧
      c.inactivityWatchdogTimer ≤ elapsedTime := by
  simp only [expires, isWatched, Bool.and_eq_true, decide_eq_true_eq, ge_iff_le, and_assoc]

theorem isPaced_iff : c.isPaced = true ↔
    c.expectedPacketRate ≠ 0 ∧ c.producingSocket ≠ eipInvalidSocket := by
  simp only [isPaced, Bool.and_eq_true, decide_eq_true_eq]

theorem produces_iff : c.produces elapsedTime = true ↔
    c.isPaced = true ∧ c.transmissionTriggerTimer ≤ elapsedTime := by
  simp only [produces, Bool.and_eq_true, decide_eq_true_eq]

end CipConnectionObject

/-- A packet was sent. -/
def Event.isSent : Event → Bool
  | .sent _ => true
  | _ => false

open CipConnectionObject

namespace StackState

variable {cfg : Config} {env : Environment} {st st₁ st' : StackState} {elapsedTime : UInt64}
variable {r : ConnRef}

/-- The packets that were sent so far. -/
def packets (st : StackState) : Nat := st.events.countP Event.isSent

/-- A turn of an established connection that does not expire. -/
structure Managed (cfg : Config) (elapsedTime : UInt64) (r : ConnRef) (st st' : StackState) :
    Prop where
  list : st'.store.connectionList = st.store.connectionList
  object : ∃ count dataCount,
    st'.conn r = (st.conn r).managed cfg elapsedTime count dataCount
  others : ∀ s, s ≠ r → st'.conn s = st.conn s
  packets : st'.packets =
    st.packets + if (st.conn r).produces elapsedTime then 1 else 0
  dummy : st'.dummy = st.dummy

theorem inhibitAfter_eq (elapsedTime : UInt64) (c : CipConnectionObject) :
    inhibitAfter elapsedTime c = { c with productionInhibitTimer :=
      if c.productionTrigger = .cyclic then c.productionInhibitTimer
      else if elapsedTime ≤ c.productionInhibitTimer then c.productionInhibitTimer
      else c.productionInhibitTimer - elapsedTime } := by
  rw [inhibitAfter]
  by_cases hcyclic : c.productionTrigger = .cyclic
  · rw [if_neg fun h => h.1 hcyclic, if_pos hcyclic]
  · rw [if_neg hcyclic]
    by_cases helapsed : elapsedTime ≤ c.productionInhibitTimer
    · rw [if_neg fun h => h.2 helapsed, if_pos helapsed]
    · rw [if_pos ⟨hcyclic, helapsed⟩, if_neg helapsed]

theorem countPacket_countData (c : CipConnectionObject) (changed : Bool) :
    c.countPacket.countData changed = { c with
      eipLevelSequenceCountProducing := c.eipLevelSequenceCountProducing + 1
      sequenceCountProducing :=
        if changed then c.sequenceCountProducing + 1 else c.sequenceCountProducing } := by
  cases changed with
  | false => rfl
  | true => rfl

theorem rearmAfter_eq (elapsedTime : UInt64) (c : CipConnectionObject) :
    rearmAfter cfg elapsedTime c = { c with
      transmissionTriggerTimer :=
        if c.transmissionTriggerTimer + (c.requestedPacketInterval cfg).toUInt64 >
            elapsedTime then
          c.transmissionTriggerTimer + (c.requestedPacketInterval cfg).toUInt64 - elapsedTime
        else 0
      productionInhibitTimer :=
        if c.productionTrigger = .cyclic then c.productionInhibitTimer
        else c.productionInhibitTime.toUInt64 } := by
  have hsame : ∀ timer,
      ({ c with transmissionTriggerTimer := timer } : CipConnectionObject).productionTrigger =
        c.productionTrigger := fun _ => rfl
  simp only [rearmAfter, hsame]
  by_cases hcyclic : c.productionTrigger = .cyclic
  · rw [if_neg (not_not.mpr hcyclic), if_pos hcyclic]
  · rw [if_pos hcyclic, if_neg hcyclic]
    rfl

theorem rearmAfter_countPacket {c : CipConnectionObject} (changed : Bool)
    (hdue : c.transmissionTriggerTimer ≤ elapsedTime) :
    ∃ count dataCount,
      rearmAfter cfg elapsedTime ((inhibitAfter elapsedTime c).countPacket.countData changed) =
        { c with
          transmissionTriggerTimer :=
            if c.transmissionTriggerTimer + (c.requestedPacketInterval cfg).toUInt64 >
                elapsedTime then
              c.transmissionTriggerTimer + (c.requestedPacketInterval cfg).toUInt64 - elapsedTime
            else 0
          productionInhibitTimer := c.inhibitTimerAfter elapsedTime
          eipLevelSequenceCountProducing := count
          sequenceCountProducing := dataCount } := by
  have htimer : (if c.productionTrigger = .cyclic then
        if c.productionTrigger = .cyclic then c.productionInhibitTimer
        else if elapsedTime ≤ c.productionInhibitTimer then c.productionInhibitTimer
        else c.productionInhibitTimer - elapsedTime
      else c.productionInhibitTime.toUInt64) = c.inhibitTimerAfter elapsedTime := by
    rw [inhibitTimerAfter, if_pos hdue]
    by_cases hcyclic : c.productionTrigger = .cyclic
    · rw [if_pos hcyclic, if_pos hcyclic, if_pos hcyclic]
    · rw [if_neg hcyclic, if_neg hcyclic]
  refine ⟨c.eipLevelSequenceCountProducing + 1,
    if changed then c.sequenceCountProducing + 1 else c.sequenceCountProducing, ?_⟩
  rw [inhibitAfter_eq, countPacket_countData, rearmAfter_eq, ← htimer]
  rfl

theorem inhibitAfter_timer {c : CipConnectionObject}
    (hdue : ¬c.transmissionTriggerTimer ≤ elapsedTime) :
    { inhibitAfter elapsedTime c with
        transmissionTriggerTimer :=
          (inhibitAfter elapsedTime c).transmissionTriggerTimer - elapsedTime } =
      { c with
        transmissionTriggerTimer := c.transmissionTriggerTimer - elapsedTime
        productionInhibitTimer := c.inhibitTimerAfter elapsedTime } := by
  rw [inhibitAfter_eq, inhibitTimerAfter, if_neg hdue]

theorem produceConnection_managed (hcall : st.produceConnection cfg env elapsedTime r = .ok st') :
    st'.store.connectionList = st.store.connectionList ∧
      (∃ count dataCount, st'.conn r = { st.conn r with
        transmissionTriggerTimer :=
          if (st.conn r).isPaced then (st.conn r).timerAfter cfg elapsedTime
          else (st.conn r).transmissionTriggerTimer
        productionInhibitTimer :=
          if (st.conn r).isPaced then (st.conn r).inhibitTimerAfter elapsedTime
          else (st.conn r).productionInhibitTimer
        eipLevelSequenceCountProducing := count
        sequenceCountProducing := dataCount }) ∧
      (∀ s, s ≠ r → st'.conn s = st.conn s) ∧
      st'.packets = st.packets + (if (st.conn r).produces elapsedTime then 1 else 0) ∧
      st'.dummy = st.dummy := by
  have hothers := fun s hs => produceConnection_others (s := s) hcall hs
  rw [produceConnection] at hcall
  by_cases hpaced : (st.conn r).isPaced = true
  · rw [if_pos (isPaced_iff.mp hpaced)] at hcall
    simp only at hcall
    have hinhibit := conn_modifyConn_self st r (inhibitAfter elapsedTime)
    have hsame : (inhibitAfter elapsedTime (st.conn r)).transmissionTriggerTimer =
        (st.conn r).transmissionTriggerTimer := by
      rw [inhibitAfter]
      split
      · rfl
      · rfl
    by_cases hdue : (st.conn r).transmissionTriggerTimer ≤ elapsedTime
    · have hproduces : (st.conn r).produces elapsedTime = true := produces_iff.mpr ⟨hpaced, hdue⟩
      rw [hinhibit, hsame, if_pos hdue] at hcall
      split at hcall
      · cases hcall
      · split at hcall
        · cases hcall
        · rename_i st₁ hsend
          cases hcall
          obtain ⟨packet, changed, hlist, -, hself, hevents, -, hdummy, -⟩ :=
            sendConnectedData_ok hsend
          refine ⟨hlist, ?_, hothers, ?_, hdummy⟩
          · rw [conn_modifyConn_self, hself, hinhibit, if_pos hpaced, if_pos hpaced, timerAfter,
              if_pos hdue]
            exact rearmAfter_countPacket changed hdue
          · rw [if_pos hproduces]
            change List.countP Event.isSent st₁.events = _
            rw [hevents, List.countP_append]
            rfl
    · have hsilent : ¬(st.conn r).produces elapsedTime = true :=
        fun h => hdue (produces_iff.mp h).2
      rw [hinhibit, hsame, if_neg hdue] at hcall
      cases hcall
      refine ⟨rfl, ⟨(st.conn r).eipLevelSequenceCountProducing,
        (st.conn r).sequenceCountProducing, ?_⟩, hothers, ?_, rfl⟩
      · rw [conn_modifyConn_self, hinhibit, if_pos hpaced, if_pos hpaced, timerAfter,
          if_neg hdue]
        exact inhibitAfter_timer hdue
      · rw [if_neg hsilent]
        rfl
  · rw [if_neg fun h => hpaced (isPaced_iff.mpr h)] at hcall
    cases hcall
    have hsilent : ¬(st.conn r).produces elapsedTime = true := fun h => hpaced (produces_iff.mp h).1
    refine ⟨rfl, ⟨(st.conn r).eipLevelSequenceCountProducing,
      (st.conn r).sequenceCountProducing, ?_⟩, hothers, ?_, rfl⟩
    · rw [if_neg hpaced, if_neg hpaced]
    · rw [if_neg hsilent]
      rfl

/-- How a turn goes. -/
inductive Turned (cfg : Config) (elapsedTime : UInt64) (r : ConnRef) (st st' : StackState) :
    Prop
  | idle (state : (st.conn r).state ≠ .established) (same : st' = st) :
      Turned cfg elapsedTime r st st'
  | expired (expires : (st.conn r).expires elapsedTime = true)
      (gone : (st'.conn r).state ≠ .established)
      (departs : Departs (st.view cfg) (st'.view cfg)) (dummy : st'.dummy = st.dummy) :
      Turned cfg elapsedTime r st st'
  | managed (established : (st.conn r).state = .established)
      (lives : (st.conn r).expires elapsedTime = false)
      (managed : Managed cfg elapsedTime r st st') : Turned cfg elapsedTime r st st'

theorem connectionTimeoutFunction_expired (hsound : st.Sound cfg)
    (hestablished : (st.conn r).state = .established)
    (hcall : st.connectionTimeoutFunction cfg env r = .ok st') :
    Departs (st.view cfg) (st'.view cfg) ∧ st'.dummy = st.dummy ∧
      (st'.conn r).state ≠ .established := by
  obtain ⟨ns, hlisted⟩ := hsound.wellFormed
  have hr := mem_of_established hsound.regular hestablished
  obtain ⟨ns', hdeparted⟩ :=
    connectionTimeoutFunction_departed hlisted hsound.regular hr hestablished hcall
  refine ⟨hdeparted.departs, hdeparted.frame.dummy, ?_⟩
  rw [connectionTimeoutFunction_eq hsound.regular hr] at hcall
  cases hio : r.isIo with
  | false =>
      rw [hio, if_neg Bool.false_ne_true] at hcall
      obtain ⟨ns₁, hdiscarded, hgone⟩ := class3Timeout_discarded hlisted hr hio hcall
      have hstate := ((hdiscarded.regular hsound.regular).idle r hgone).state
      rw [view_object] at hstate
      simp [hstate]
  | true =>
      rw [hio, if_pos rfl] at hcall
      obtain ⟨-, -, hstate⟩ :=
        handleIoConnectionTimeOut_departed hlisted hsound.regular hr hio hestablished hcall
      simp [hstate]

theorem superviseConnection_lives (hestablished : (st.conn r).state = .established)
    (hlives : (st.conn r).expires elapsedTime = false)
    (hcall : st.superviseConnection cfg env elapsedTime r = .ok st') :
    st'.store.connectionList = st.store.connectionList ∧
      st'.conn r = { st.conn r with
        inactivityWatchdogTimer :=
          if (st.conn r).isWatched then (st.conn r).inactivityWatchdogTimer - elapsedTime
          else (st.conn r).inactivityWatchdogTimer
        lastPackageWatchdogTimer :=
          if (st.conn r).isWatched then (st.conn r).lastPackageWatchdogTimer - elapsedTime
          else (st.conn r).lastPackageWatchdogTimer } ∧
      (∀ s, s ≠ r → st'.conn s = st.conn s) ∧ st'.packets = st.packets ∧
      st'.dummy = st.dummy := by
  rw [superviseConnection] at hcall
  by_cases hwatched : (st.conn r).isWatched = true
  · rw [if_pos (isWatched_iff.mp hwatched)] at hcall
    have hlate : ¬elapsedTime ≥ (st.conn r).inactivityWatchdogTimer := by
      intro hdue
      rw [expires_iff.mpr ⟨hestablished, hwatched, hdue⟩] at hlives
      cases hlives
    rw [if_neg hlate] at hcall
    cases hcall
    refine ⟨rfl, ?_, fun s hs => conn_modifyConn_of_ne _ hs _, rfl, rfl⟩
    rw [conn_modifyConn_self, if_pos hwatched, if_pos hwatched]
  · rw [if_neg fun h => hwatched (isWatched_iff.mpr h)] at hcall
    cases hcall
    refine ⟨rfl, ?_, fun _ _ => rfl, rfl, rfl⟩
    rw [if_neg hwatched, if_neg hwatched]

/-- A turn in which the connection times out is its time-out function. -/
theorem manageConnection_timesOut (hsound : st.Sound cfg)
    (hexpires : (st.conn r).expires elapsedTime = true)
    (hcall : st.manageConnection cfg env elapsedTime r = .ok st') :
    st.connectionTimeoutFunction cfg env r = .ok st' := by
  obtain ⟨hestablished, hwatched, hdue⟩ := expires_iff.mp hexpires
  rw [manageConnection, if_pos hestablished, superviseConnection,
    if_pos (isWatched_iff.mp hwatched), if_pos hdue] at hcall
  split at hcall
  · cases hcall
  · rename_i s htimeout
    rw [if_neg (connectionTimeoutFunction_expired hsound hestablished htimeout).2.2] at hcall
    cases hcall
    exact htimeout

theorem manageConnection_turned (hsound : st.Sound cfg)
    (hcall : st.manageConnection cfg env elapsedTime r = .ok st') :
    Turned cfg elapsedTime r st st' := by
  by_cases hexpires : (st.conn r).expires elapsedTime = true
  · obtain ⟨hdeparts, hdummy, hgone⟩ := connectionTimeoutFunction_expired hsound
      (expires_iff.mp hexpires).1 (manageConnection_timesOut hsound hexpires hcall)
    exact .expired hexpires hgone hdeparts hdummy
  · have hlives := Bool.eq_false_iff.mpr hexpires
    rw [manageConnection] at hcall
    split at hcall
    · rename_i hestablished
      split at hcall
      · cases hcall
      · rename_i st₁ hsupervise
        obtain ⟨hlist₁, hobject₁, hothers₁, hpackets₁, hdummy₁⟩ :=
          superviseConnection_lives hestablished hlives hsupervise
        have hestablished₁ : (st₁.conn r).state = .established := by
          rw [hobject₁]
          exact hestablished
        rw [if_pos hestablished₁] at hcall
        obtain ⟨hlist, ⟨count, dataCount, hobject⟩, hothers, hpackets, hdummy⟩ :=
          produceConnection_managed hcall
        refine .managed hestablished hlives ⟨hlist.trans hlist₁, ⟨count, dataCount, ?_⟩,
          fun s hs => (hothers s hs).trans (hothers₁ s hs), ?_, hdummy.trans hdummy₁⟩
        · rw [hobject, hobject₁]
          rfl
        · rw [hpackets, hpackets₁, hobject₁]
          rfl
    · rename_i hstate
      cases hcall
      exact .idle hstate rfl

end StackState

end Opener

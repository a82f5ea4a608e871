import Opener.Metatheory.Inactivity
import Opener.Metatheory.Triads

/-!
The sessions of explicit connections. Closing a session closes one class 3
connection of it, so a session with a second explicit connection leaves that one
behind with a handle that is free or soon somebody else's. As long as this is kept
from happening every explicit connection has the session of the socket it was
opened on, and its time-out closes a valid socket.
-/

namespace Opener

open LinkedCells

namespace StackState

variable {cfg : Config} {env : Environment} {st : StackState}

/-- Every explicit connection has the session that its owner has registered. -/
def Anchored (cfg : Config) (owner : ConnRef → Int) (st : StackState) : Prop :=
  ∀ r ∈ st.connectionList cfg, r.isIo = false →
    0 < (st.conn r).associatedEncapsulationSession ∧
      st.registeredSessions[((st.conn r).associatedEncapsulationSession - 1).toNat]? =
        some (owner r) ∧ owner r ≠ eipInvalidSocket

/-- The explicit connections of a session are one class 3 connection at most. -/
def lone (cfg : Config) (sessionHandle : UInt32) (st : StackState) : Bool :=
  let connections := (st.connectionList cfg).filter fun r =>
    !r.isIo && (st.conn r).associatedEncapsulationSession = sessionHandle
  connections.length ≤ 1 && connections.all fun r => (st.conn r).transportClass = .class3

structure Lone (cfg : Config) (sessionHandle : UInt32) (st : StackState) : Prop where
  unique : ∀ r ∈ st.connectionList cfg, ∀ s ∈ st.connectionList cfg, r.isIo = false →
    s.isIo = false → (st.conn r).associatedEncapsulationSession = sessionHandle →
    (st.conn s).associatedEncapsulationSession = sessionHandle → r = s
  class3 : ∀ r ∈ st.connectionList cfg, r.isIo = false →
    (st.conn r).associatedEncapsulationSession = sessionHandle →
    (st.conn r).transportClass = .class3

theorem lone_of_eq_true {sessionHandle : UInt32} (h : st.lone cfg sessionHandle = true) :
    st.Lone cfg sessionHandle := by
  simp only [lone, Bool.and_eq_true, decide_eq_true_eq, List.all_eq_true] at h
  obtain ⟨hlength, hclass3⟩ := h
  have hmem : ∀ r ∈ st.connectionList cfg, r.isIo = false →
      (st.conn r).associatedEncapsulationSession = sessionHandle →
      r ∈ (st.connectionList cfg).filter fun r =>
        !r.isIo && (st.conn r).associatedEncapsulationSession = sessionHandle := by
    intro r hr hio hsession
    exact List.mem_filter.mpr ⟨hr, by simp [hio, hsession]⟩
  refine ⟨?_, fun r hr hio hsession => hclass3 r (hmem r hr hio hsession)⟩
  intro r hr s hs hrio hsio hrsession hssession
  have hrmem := hmem r hr hrio hrsession
  have hsmem := hmem s hs hsio hssession
  generalize (st.connectionList cfg).filter _ = connections at hlength hrmem hsmem
  cases connections with
  | nil => cases hrmem
  | cons a rest =>
      rw [List.length_cons] at hlength
      have hrest : rest = [] := List.length_eq_zero_iff.mp (by omega)
      rw [hrest, List.mem_singleton] at hrmem hsmem
      rw [hrmem, hsmem]

theorem session_of_persists {st' : StackState}
    (hpersists : Persists (st.view cfg) (st'.view cfg)) {r : ConnRef}
    (hr : r ∈ st'.connectionList cfg) :
    r ∈ st.connectionList cfg ∧
      (st'.conn r).associatedEncapsulationSession =
        (st.conn r).associatedEncapsulationSession ∧
      (st'.conn r).transportClass = (st.conn r).transportClass := by
  have hlasting := hpersists.lasting r hr
  refine ⟨hpersists.sublist.subset hr, ?_, ?_⟩
  · exact CipConnectionObject.lasting_field hlasting (·.associatedEncapsulationSession)
      fun _ => rfl
  · exact CipConnectionObject.lasting_field hlasting (·.transportClass) fun _ => rfl

theorem Lone.persists {st' : StackState} {sessionHandle : UInt32}
    (h : st.Lone cfg sessionHandle) (hpersists : Persists (st.view cfg) (st'.view cfg)) :
    st'.Lone cfg sessionHandle := by
  refine ⟨?_, ?_⟩
  · intro r hr s hs hrio hsio hrsession hssession
    obtain ⟨hr', hrsame, -⟩ := session_of_persists hpersists hr
    obtain ⟨hs', hssame, -⟩ := session_of_persists hpersists hs
    exact h.unique r hr' s hs' hrio hsio (hrsame ▸ hrsession) (hssame ▸ hssession)
  · intro r hr hio hsession
    obtain ⟨hr', hsame, hclass⟩ := session_of_persists hpersists hr
    rw [hclass]
    exact h.class3 r hr' hio (hsame ▸ hsession)

namespace Anchored

variable {owner : ConnRef → Int} {st' : StackState}

theorem kept (h : st.Anchored cfg owner)
    (hsessions : st'.registeredSessions = st.registeredSessions)
    (hpersists : Persists (st.view cfg) (st'.view cfg)) : st'.Anchored cfg owner := by
  intro r hr hio
  obtain ⟨hr', hsession, -⟩ := session_of_persists hpersists hr
  rw [hsession, hsessions]
  exact h r hr' hio

/-- A session is freed together with the explicit connections that have it. -/
theorem freed (h : st.Anchored cfg owner)
    (hpersists : Persists (st.view cfg) (st'.view cfg)) {i : Nat}
    (hsessions : st'.registeredSessions = st.registeredSessions.set i eipInvalidSocket)
    (hgone : ∀ r ∈ st'.connectionList cfg, r.isIo = false →
      ((st'.conn r).associatedEncapsulationSession - 1).toNat ≠ i) :
    st'.Anchored cfg owner := by
  intro r hr hio
  obtain ⟨hr', hsession, -⟩ := session_of_persists hpersists hr
  have hindex := hgone r hr hio
  rw [hsession] at hindex ⊢
  rw [hsessions, List.getElem?_set_ne (Ne.symm hindex)]
  exact h r hr' hio

end Anchored

/-- `CloseClass3ConnectionBasedOnSession` only takes connections off the list. -/
theorem closeClass3_persists (hsound : st.Sound cfg) (sessionHandle : UInt32) :
    ∃ st', st.closeClass3ConnectionBasedOnSession cfg sessionHandle = .ok st' ∧
      st'.Sound cfg ∧ SessionsKept st st' ∧ Persists (st.view cfg) (st'.view cfg) ∧
      (st.Lone cfg sessionHandle → ∀ r ∈ st'.connectionList cfg, r.isIo = false →
        (st'.conn r).associatedEncapsulationSession ≠ sessionHandle) := by
  obtain ⟨ns, hlisted⟩ := hsound.wellFormed
  obtain ⟨st', ns', hcall, hshrunk⟩ := closeClass3_spec hlisted hsound.regular sessionHandle
  have hkept := (closeClass3_reserved cfg sessionHandle st).aloof
  rw [hcall] at hkept
  have hpersists : Persists (st.view cfg) (st'.view cfg) := by
    rw [hshrunk.view_eq]
    exact .without _ _
  refine ⟨st', hcall, hshrunk.sound (hsound.regular.without _) hsound, hkept, hpersists, ?_⟩
  intro hlone r hr hio hsession
  obtain ⟨hr', hsame, -⟩ := session_of_persists hpersists hr
  rw [hsame] at hsession
  have hclass3 := hlone.class3 r hr' hio hsession
  have hdropped : (st.connectionList cfg).find? (st.ofSession sessionHandle) ≠ some r := by
    rw [← view_members, hshrunk.view_eq] at hr
    exact of_decide_eq_false ((st.view cfg).mem_without.mp hr).2
  cases hfind : (st.connectionList cfg).find? (st.ofSession sessionHandle) with
  | none =>
      have hnone := List.find?_eq_none.mp hfind r hr'
      simp [ofSession, hclass3, hsession] at hnone
  | some s =>
      have hs : s ∈ st.connectionList cfg := List.mem_of_find?_eq_some hfind
      have hfound := List.find?_some hfind
      simp only [ofSession, Bool.and_eq_true, decide_eq_true_eq] at hfound
      have hsio := (hsound.regular.kind s hs).explicit_of_class3 hfound.1
      rw [hlone.unique s hs r hr' hsio hio hfound.2 hsession] at hfind
      exact hdropped hfind

/-- Sessions are only freed. -/
def SessionsFreed (st st' : StackState) : Prop :=
  ∀ (i : Nat) (socket : Int), st'.registeredSessions[i]? = some socket →
    socket ≠ eipInvalidSocket → st.registeredSessions[i]? = some socket

namespace SessionsFreed

variable {st' st'' : StackState}

theorem trans (h : SessionsFreed st st') (h' : SessionsFreed st' st'') :
    SessionsFreed st st'' :=
  fun i socket hi hsocket => h i socket (h' i socket hi hsocket) hsocket

theorem of_eq (h : st'.registeredSessions = st.registeredSessions) : SessionsFreed st st' := by
  intro i socket hi _
  rwa [h] at hi

theorem clearSession (st : StackState) (index : Nat) :
    SessionsFreed st (st.clearSession index) := by
  intro i socket hi hsocket
  rw [StackState.clearSession] at hi
  by_cases heq : index = i
  · subst heq
    obtain ⟨hlt, hfreed⟩ := List.getElem?_eq_some_iff.mp hi
    rw [List.getElem_set_self] at hfreed
    exact absurd hfreed.symm hsocket
  · rwa [List.getElem?_set_ne heq] at hi

end SessionsFreed

/-- The call returns, connections only leave, sessions are only freed, and explicit
connections keep their session. -/
structure Retains (cfg : Config) (owner : ConnRef → Int) (st st' : StackState) : Prop where
  sound : st'.Sound cfg
  persists : Persists (st.view cfg) (st'.view cfg)
  sessions : SessionsFreed st st'
  anchored : st'.Anchored cfg owner

/-- The session of the socket has one class 3 connection at most. -/
def LoneSocket (cfg : Config) (socket : Int) (st : StackState) : Prop :=
  ∀ i, st.registeredSessions[i]? = some socket → st.Lone cfg (UInt32.ofNat (i + 1))

theorem LoneSocket.after {owner : ConnRef → Int} {socket : Int} {st' : StackState}
    (h : st.LoneSocket cfg socket) (hsocket : socket ≠ eipInvalidSocket)
    (hretains : Retains cfg owner st st') : st'.LoneSocket cfg socket := by
  intro i hi
  exact (h i (hretains.sessions i socket hi hsocket)).persists hretains.persists

def KeepsAnchors (cfg : Config) (owner : ConnRef → Int) (st : StackState)
    (result : Except Fault StackState) : Prop :=
  ∃ st', result = .ok st' ∧ Retains cfg owner st st'

section Anchors

variable {owner : ConnRef → Int}

theorem KeepsAnchors.refl (hsound : st.Sound cfg) (hanchored : st.Anchored cfg owner) :
    KeepsAnchors cfg owner st (.ok st) :=
  ⟨st, rfl, hsound, .refl _, .of_eq rfl, hanchored⟩

theorem KeepsAnchors.after {st₁ : StackState} {result : Except Fault StackState}
    (h : KeepsAnchors cfg owner st₁ result) (hretains : Retains cfg owner st st₁) :
    KeepsAnchors cfg owner st result := by
  obtain ⟨st', hcall, hretains'⟩ := h
  exact ⟨st', hcall, hretains'.sound, hretains.persists.trans hretains'.persists,
    hretains.sessions.trans hretains'.sessions, hretains'.anchored⟩

/-- Freeing a session slot and closing the connection of its handle. -/
theorem clearSession_anchored (hsound : st.Sound cfg) (hanchored : st.Anchored cfg owner)
    {i : Nat} {sessionHandle : UInt32}
    (hindex : ∀ other : UInt32, (other - 1).toNat = i → other = sessionHandle)
    (hlone : st.Lone cfg sessionHandle) :
    KeepsAnchors cfg owner st
      ((st.clearSession i).closeClass3ConnectionBasedOnSession cfg sessionHandle) := by
  obtain ⟨ns, hlisted⟩ := hsound.wellFormed
  have hclear := shrunk_clearSession hlisted i
  have hsound₁ := hclear.sound hsound.regular hsound
  have hpersists₁ : Persists (st.view cfg) ((st.clearSession i).view cfg) := by
    rw [hclear.view_eq]
    exact .refl _
  obtain ⟨st', hcall, hsound', hkept, hpersists, hgone⟩ :=
    closeClass3_persists hsound₁ sessionHandle
  have hpersists' := hpersists₁.trans hpersists
  refine ⟨st', hcall, hsound', hpersists',
    (SessionsFreed.clearSession st i).trans (.of_eq hkept.registeredSessions),
    hanchored.freed hpersists' hkept.registeredSessions ?_⟩
  intro r hr hio heq
  exact hgone (hlone.persists hpersists₁) r hr hio (hindex _ heq)

theorem index_injective {i : Nat} {other : UInt32} (h : (other - 1).toNat = i) :
    other = UInt32.ofNat (i + 1) := by
  subst h
  rw [UInt32.ofNat_add, UInt32.ofNat_toNat]
  exact (UInt32.sub_add_cancel other 1).symm

theorem closeTcpSocket_anchored (hsound : st.Sound cfg) (hanchored : st.Anchored cfg owner)
    {socket : Int} (hsocket : socket ≠ eipInvalidSocket) :
    ∃ st', st.closeTcpSocket socket = .ok st' ∧ Retains cfg owner st st' ∧
      TimersReleased socket st st' := by
  obtain ⟨ns, hlisted⟩ := hsound.wellFormed
  obtain ⟨st', hcall, hreleased⟩ := closeTcpSocket_released hsocket st
  have hshrunk := shrunk_closeTcpSocket hlisted hcall
  have hpersists : Persists (st.view cfg) (st'.view cfg) := by
    rw [hshrunk.view_eq]
    exact .refl _
  exact ⟨st', hcall, ⟨hshrunk.sound hsound.regular hsound, hpersists,
    .of_eq hreleased.registeredSessions,
    hanchored.kept hreleased.registeredSessions hpersists⟩, hreleased⟩

theorem removeSession_anchored (hsound : st.Sound cfg) (hanchored : st.Anchored cfg owner)
    {socket : Int} (hlone : st.LoneSocket cfg socket) :
    KeepsAnchors cfg owner st (st.removeSession cfg socket) := by
  rw [removeSession]
  cases hindex : st.sessionOfSocket socket with
  | none => exact .refl hsound hanchored
  | some i =>
      exact clearSession_anchored hsound hanchored (fun _ => index_injective)
        (hlone i (sessionOfSocket_eq_some hindex))

/-- The socket is closed, then its session removed. -/
theorem disconnect_anchored (hsound : st.Sound cfg) (hanchored : st.Anchored cfg owner)
    {socket : Int} (hsocket : socket ≠ eipInvalidSocket) (hlone : st.LoneSocket cfg socket) :
    ∃ st₁, st.closeTcpSocket socket = .ok st₁ ∧
      KeepsAnchors cfg owner st (st₁.removeSession cfg socket) := by
  obtain ⟨st₁, hcall, hretains, -⟩ := closeTcpSocket_anchored hsound hanchored hsocket
  exact ⟨st₁, hcall, (removeSession_anchored hretains.sound hretains.anchored
    (hlone.after hsocket hretains)).after hretains⟩

theorem closeSession_anchored (hsound : st.Sound cfg) (hanchored : st.Anchored cfg owner)
    {socket : Int} (hsocket : socket ≠ eipInvalidSocket) (hlone : st.LoneSocket cfg socket) :
    KeepsAnchors cfg owner st (st.closeSession cfg socket) := by
  rw [closeSession]
  cases hindex : st.sessionOfSocket socket with
  | none => exact .refl hsound hanchored
  | some i =>
      obtain ⟨st₁, hcall, hretains, -⟩ := closeTcpSocket_anchored hsound hanchored hsocket
      simp only [hcall]
      exact (clearSession_anchored hretains.sound hretains.anchored (fun _ => index_injective)
        ((hlone i (sessionOfSocket_eq_some hindex)).persists hretains.persists)).after hretains

theorem unregisterSession_anchored (hsound : st.Sound cfg) (hanchored : st.Anchored cfg owner)
    {sessionHandle : UInt32} (hlone : st.Lone cfg sessionHandle) :
    KeepsAnchors cfg owner st (st.unregisterSession cfg sessionHandle) := by
  rw [unregisterSession]
  split
  · rename_i hregistered
    simp only [checkRegisteredSessions, Bool.and_eq_true, decide_eq_true_eq] at hregistered
    obtain ⟨st₁, hcall, hretains, -⟩ :=
      closeTcpSocket_anchored hsound hanchored hregistered.2
    simp only [hcall]
    refine (clearSession_anchored hretains.sound hretains.anchored ?_
      (hlone.persists hretains.persists)).after hretains
    intro other heq
    rw [index_injective heq, ← index_injective rfl]
  · exact .refl hsound hanchored

end Anchors

/-- What a tick preserves when the sessions it may free have one explicit connection
at most. -/
structure Steady (cfg : Config) (env : Environment) (due : ConnRef → Prop)
    (peer : UInt32 → Prop) (owner : ConnRef → Int) (st : StackState) : Prop where
  sound : st.Sound cfg
  tabled : st.Tabled cfg.numberOfSupportedSessions
  anchored : st.Anchored cfg owner
  expiring : ∀ r ∈ st.connectionList cfg, r.isIo = false → due r →
    st.Lone cfg (st.conn r).associatedEncapsulationSession
  peers : ∀ socket, socket ≠ eipInvalidSocket → peer (env.peerName socket) →
    st.LoneSocket cfg socket

namespace Steady

variable {due : ConnRef → Prop} {peer : UInt32 → Prop} {owner : ConnRef → Int}

/-- The sessions of an unfreed table and of persisting connections. -/
theorem after (h : st.Steady cfg env due peer owner) {st' : StackState}
    (hretains : Retains cfg owner st st') (htabled : st'.Tabled cfg.numberOfSupportedSessions) :
    st'.Steady cfg env due peer owner := by
  refine ⟨hretains.sound, htabled, hretains.anchored, ?_, ?_⟩
  · intro r hr hio hdue
    obtain ⟨hr', hsession, -⟩ := session_of_persists hretains.persists hr
    rw [hsession]
    exact (h.expiring r hr' hio hdue).persists hretains.persists
  · intro socket hsocket hpeer
    exact (h.peers socket hsocket hpeer).after hsocket hretains

theorem kept (h : st.Steady cfg env due peer owner) {st' : StackState}
    (hsound : st'.Sound cfg) (hkept : SessionsKept st st')
    (hpersists : Persists (st.view cfg) (st'.view cfg)) :
    st'.Steady cfg env due peer owner :=
  h.after ⟨hsound, hpersists, .of_eq hkept.registeredSessions,
    h.anchored.kept hkept.registeredSessions hpersists⟩ (h.tabled.kept hkept)

theorem closeSession (h : st.Steady cfg env due peer owner) {socket : Int}
    (hpeer : peer (env.peerName socket)) (hsocket : socket ≠ eipInvalidSocket)
    {E : Fault → Prop} :
    Outcome E (Steady cfg env due peer owner) (st.closeSession cfg socket) := by
  have htabled := h.tabled.closeSession cfg hsocket
  obtain ⟨st', hcall, hretains⟩ :=
    closeSession_anchored h.sound h.anchored hsocket (h.peers socket hsocket hpeer)
  rw [hcall] at htabled ⊢
  exact h.after hretains htabled

/-- The handle of an explicit connection names a registered session. -/
theorem closeSessionBySessionHandle (h : st.Steady cfg env due peer owner) {r : ConnRef}
    (hr : r ∈ st.connectionList cfg) (hio : r.isIo = false) :
    ∃ st', st.closeSessionBySessionHandle (st.conn r) = .ok st' ∧
      st'.view cfg = st.view cfg ∧ st'.Sound cfg ∧
      st'.Tabled cfg.numberOfSupportedSessions ∧ SessionsFreed st st' ∧
      st'.registeredSessions = st.registeredSessions.set
        ((st.conn r).associatedEncapsulationSession - 1).toNat eipInvalidSocket := by
  obtain ⟨ns, hlisted⟩ := h.sound.wellFormed
  obtain ⟨-, hsession, howner⟩ := h.anchored r hr hio
  obtain ⟨st₁, hclose, hreleased⟩ := closeTcpSocket_released howner st
  have h₁ := shrunk_closeTcpSocket hlisted hclose
  have h₂ := shrunk_clearSession h₁.listed
    ((st.conn r).associatedEncapsulationSession - 1).toNat
  rw [h₁.view_eq] at h₂
  refine ⟨st₁.clearSession ((st.conn r).associatedEncapsulationSession - 1).toNat, ?_,
    h₂.view_eq, h₂.sound h.sound.regular (h₁.sound h.sound.regular h.sound), ?_, ?_, ?_⟩
  · simp only [StackState.closeSessionBySessionHandle, hsession, hclose]
  · exact h.tabled.freed hsession howner hreleased
  · exact .trans (.of_eq hreleased.registeredSessions) (.clearSession st₁ _)
  · rw [clearSession, hreleased.registeredSessions]

/-- An explicit connection is taken off the list. -/
theorem closeConnection {st₁ : StackState} (hsound : st₁.Sound cfg) (r : ConnRef) :
    (st₁.closeConnection cfg r).Sound cfg ∧ SessionsKept st₁ (st₁.closeConnection cfg r) ∧
      Persists (st₁.view cfg) ((st₁.closeConnection cfg r).view cfg) ∧
      r ∉ (st₁.closeConnection cfg r).connectionList cfg := by
  obtain ⟨ns, hlisted⟩ := hsound.wellFormed
  obtain ⟨ns', hshrunk⟩ := shrunk_closeConnection hlisted r
  refine ⟨hshrunk.sound (hsound.regular.without _) hsound,
    (closeConnection_untouched cfg r st₁).toSessionsKept, ?_, ?_⟩
  · rw [hshrunk.view_eq]
    exact .without _ _
  · rw [← view_members, hshrunk.view_eq]
    simp [View.without]

/-- The time-out of an explicit connection closes a registered session. -/
theorem class3Timeout (h : st.Steady cfg env due peer owner) {r : ConnRef} (hdue : due r)
    (hr : r ∈ st.connectionList cfg) (hio : r.isIo = false) {E : Fault → Prop} :
    Outcome E (Steady cfg env due peer owner) (st.class3ConnectionTimeoutHandler cfg r) := by
  rw [class3ConnectionTimeoutHandler, checkForTimedOutConnectionsAndCloseTCPConnections]
  by_cases hfound : (st.findConnection cfg fun s c =>
      (st.conn r).equalOriginator c && s ≠ r && c.state ≠ .timedOut).isSome = true
  · rw [if_pos hfound]
    obtain ⟨hsound, hkept, hpersists, -⟩ := closeConnection h.sound r
    exact h.kept hsound hkept hpersists
  · rw [if_neg hfound]
    obtain ⟨st₁, hcall, hview, hsound₁, htabled₁, hfreed, hsessions⟩ :=
      h.closeSessionBySessionHandle hr hio
    obtain ⟨hsound', hkept, hpersists, hgone⟩ := closeConnection hsound₁ r
    rw [hview] at hpersists
    rw [hcall]
    refine h.after ⟨hsound', hpersists, hfreed.trans (.of_eq hkept.registeredSessions), ?_⟩
      (htabled₁.kept hkept)
    refine h.anchored.freed hpersists (hkept.registeredSessions.trans hsessions) ?_
    intro s hs hsio heq
    obtain ⟨hs', hsame, -⟩ := session_of_persists hpersists hs
    rw [hsame] at heq
    have hsession : (st.conn s).associatedEncapsulationSession =
        (st.conn r).associatedEncapsulationSession :=
      (index_injective heq).trans (index_injective rfl).symm
    have hsr := (h.expiring r hr hio hdue).unique s hs' r hr hsio hio hsession rfl
    exact hgone (hsr ▸ hs)

/-- The sessions that a tick frees are registered, so closing them never fails. -/
theorem tickInvariant (cfg : Config) (env : Environment) (due : ConnRef → Prop)
    (peer : UInt32 → Prop) (E : Fault → Prop) (owner : ConnRef → Int) :
    TickInvariant cfg env due peer E (Steady cfg env due peer owner) :=
  ⟨fun _ h => h.sound,
    fun _ _ h hsound hkept hpersists => h.kept hsound hkept.toSessionsKept hpersists,
    fun _ _ h hpeer hsocket => h.closeSession hpeer hsocket,
    fun _ _ h hdue hr hio => h.class3Timeout hdue hr hio⟩

end Steady

end StackState

end Opener

import Opener.Core.DelayedMessages
import Opener.Core.SampleApplication

/-!
Delayed answers to List Identity. Every reply of a run is marked with the position of the
request that its slot holds; a request that gets a slot keeps it until the first tick at
which its delay has passed, and there is one reply with its mark, sent at that tick.
-/

namespace Opener

/-- A reply of a run with the positions of its request and of the tick that sends it. -/
structure DelayedReply where
  request : Nat
  tick : Nat
  datagram : Datagram
deriving DecidableEq, Repr

/-- A slot that a step has taken holds the request of this step. -/
def heldRequest (position : Nat) (messages messages' : DelayedEncapsulationMessages)
    (held : DelayedSlot → Nat) (i : DelayedSlot) : Nat :=
  if (messages i).socket = eipInvalidSocket ∧ (messages' i).socket ≠ eipInvalidSocket then
    position
  else held i

/-- The replies of a run from a position on. The marks only watch the slots. -/
def repliesFrom (cfg : Config) (listener : UdpListener) :
    Nat → List DelayedAction → (DelayedSlot → Nat) → DelayedEncapsulationMessages →
      List DelayedReply
  | _, [], _, _ => []
  | position, action :: actions, held, messages =>
      let (sent, messages') := delayedStep cfg listener action messages
      sent.map (fun s => ⟨held s.1, position, s.2⟩) ++
        repliesFrom cfg listener (position + 1) actions
          (heldRequest position messages messages' held) messages'

def delayedReplies (cfg : Config) (listener : UdpListener) (actions : List DelayedAction) :
    List DelayedReply :=
  repliesFrom cfg listener 0 actions (fun _ => 0) fun _ => {}

namespace DelayedAction

def elapsed : DelayedAction → Nat
  | .broadcast .. => 0
  | .manageEncapsulationMessages elapsedTime => elapsedTime.toNat

def isTick : DelayedAction → Bool
  | .broadcast .. => false
  | .manageEncapsulationMessages _ => true

end DelayedAction

def elapsedTime (actions : List DelayedAction) : Nat :=
  (actions.map DelayedAction.elapsed).sum

/-- The action at the position is a tick, and the time up to it has reached the delay. -/
def isDue (delay : Int) (actions : List DelayedAction) (k : Nat) : Bool :=
  (actions[k]?.any DelayedAction.isTick) && delay ≤ elapsedTime (actions.take (k + 1))

/-- The first tick at which the time since the start has reached the delay. -/
def dueTick (delay : Int) (actions : List DelayedAction) : Option Nat :=
  (List.range actions.length).find? (isDue delay actions)

theorem elapsedTime_cons (action : DelayedAction) (actions : List DelayedAction) :
    elapsedTime (action :: actions) = action.elapsed + elapsedTime actions := rfl

theorem isDue_zero (delay : Int) (action : DelayedAction) (actions : List DelayedAction) :
    isDue delay (action :: actions) 0 =
      decide (action.isTick = true ∧ delay ≤ action.elapsed) := by
  simp [isDue, elapsedTime]

theorem isDue_succ (delay : Int) (action : DelayedAction) (actions : List DelayedAction)
    (k : Nat) :
    isDue delay (action :: actions) (k + 1) = isDue (delay - action.elapsed) actions k := by
  have htime : delay ≤ (elapsedTime ((action :: actions).take (k + 1 + 1)) : Nat) ↔
      delay - action.elapsed ≤ (elapsedTime (actions.take (k + 1)) : Nat) := by
    rw [List.take_succ_cons, elapsedTime_cons]
    omega
  rw [isDue, isDue, List.getElem?_cons_succ, decide_eq_decide.mpr htime]

theorem dueTick_cons (delay : Int) (action : DelayedAction) (actions : List DelayedAction) :
    dueTick delay (action :: actions) =
      if action.isTick ∧ delay ≤ action.elapsed then some 0
      else (dueTick (delay - action.elapsed) actions).map (· + 1) := by
  have hshift : isDue delay (action :: actions) ∘ Nat.succ =
      isDue (delay - action.elapsed) actions :=
    funext fun k => isDue_succ delay action actions k
  simp only [dueTick, List.length_cons, List.range_succ_eq_map, List.find?_cons, isDue_zero,
    List.find?_map, hshift]
  by_cases hdue : action.isTick = true ∧ delay ≤ action.elapsed
  · rw [if_pos hdue, decide_eq_true hdue]
  · rw [if_neg hdue, decide_eq_false hdue]

/-- Ticks are shorter than the signed count-down can hold. -/
def DelayedAction.Brief (action : DelayedAction) : Prop := action.elapsed < 2 ^ 31

instance (action : DelayedAction) : Decidable action.Brief :=
  inferInstanceAs (Decidable (_ < _))

theorem toNat_maximumDelayTime (requested : UInt16) :
    (maximumDelayTime requested).toNat =
      if requested.toNat = 0 then 2000
      else if requested.toNat < 500 then 500 else requested.toNat := by
  have hzero : 0 = requested ↔ requested.toNat = 0 := by
    rw [eq_comm, ← UInt16.toNat_inj]
    rfl
  have hshort : listIdentityMinimumDelayTime > requested ↔ requested.toNat < 500 :=
    UInt16.lt_iff_toNat_lt
  rw [maximumDelayTime, apply_ite UInt16.toNat, apply_ite UInt16.toNat]
  simp only [hzero, hshort]
  rfl

theorem maximumDelayTime_pos (requested : UInt16) : 0 < (maximumDelayTime requested).toNat := by
  rw [toNat_maximumDelayTime]
  split
  · decide
  · split
    · decide
    · rename_i hzero _
      exact Nat.pos_of_ne_zero hzero

theorem determineDelayTime_bounds (buffer : Message) (rand : Nat) :
    0 ≤ determineDelayTime buffer rand ∧
      determineDelayTime buffer rand < (maximumDelayTime (requestedDelayTime buffer)).toNat :=
  ⟨Int.natCast_nonneg _, Int.ofNat_lt.mpr (Nat.mod_lt _ (maximumDelayTime_pos _))⟩

namespace DelayedEncapsulationMessage

variable {m : DelayedEncapsulationMessage}

/-- A slot in use counts down from less than 2^16. -/
structure Waiting (m : DelayedEncapsulationMessage) : Prop where
  inUse : m.socket ≠ eipInvalidSocket
  nonneg : 0 ≤ m.timeOut
  bounded : m.timeOut < 2 ^ 16

theorem Waiting.countDown (h : m.Waiting) {elapsedTime : UInt64} (he : elapsedTime.toNat < 2 ^ 31) :
    m.countDown elapsedTime = { m with timeOut := m.timeOut - elapsedTime.toNat } := by
  have hlow := h.nonneg
  have hhigh := h.bounded
  rw [DelayedEncapsulationMessage.countDown, Int.bmod_eq_of_le (by omega) (by omega)]

theorem Waiting.manage (h : m.Waiting) {elapsedTime : UInt64} (he : elapsedTime.toNat < 2 ^ 31) :
    m.manage elapsedTime =
      if m.timeOut ≤ elapsedTime.toNat then
        (some m.datagram, { m with
          timeOut := m.timeOut - elapsedTime.toNat
          socket := eipInvalidSocket })
      else (none, { m with timeOut := m.timeOut - elapsedTime.toNat }) := by
  simp only [DelayedEncapsulationMessage.manage, if_pos h.inUse, h.countDown he]
  by_cases hdue : m.timeOut ≤ elapsedTime.toNat
  · rw [if_pos hdue, if_pos (by omega)]
    rfl
  · rw [if_neg hdue, if_neg (by omega)]

theorem Waiting.stays (h : m.Waiting) {action : DelayedAction}
    (hlate : ¬(action.isTick = true ∧ m.timeOut ≤ action.elapsed)) :
    Waiting { m with timeOut := m.timeOut - action.elapsed } := by
  have hlow := h.nonneg
  have hhigh := h.bounded
  have hleft : (action.elapsed : Int) ≤ m.timeOut := by
    cases action with
    | broadcast => exact hlow
    | manageEncapsulationMessages elapsedTime =>
        have hless : ¬m.timeOut ≤ elapsedTime.toNat := fun hle => hlate ⟨rfl, hle⟩
        simp only [DelayedAction.elapsed]
        omega
  exact ⟨h.inUse, by simp only; omega, by simp only; omega⟩

theorem manage_of_free (h : m.socket = eipInvalidSocket) (elapsedTime : UInt64) :
    m.manage elapsedTime = (none, m) := by
  rw [DelayedEncapsulationMessage.manage, if_neg (not_not.mpr h)]

end DelayedEncapsulationMessage

section Steps

variable {cfg : Config} {listener : UdpListener} {messages : DelayedEncapsulationMessages}

theorem findDelayedMessageBuffer_free {i : DelayedSlot}
    (h : findDelayedMessageBuffer messages = some i) :
    (messages i).socket = eipInvalidSocket := by
  have hfound := List.find?_some h
  exact of_decide_eq_true hfound

/-- The slot of a request that was not dropped. -/
def delayedMessage (cfg : Config) (attributes : IdentityAttributes) (listener : UdpListener)
    (fromAddress : SockaddrIn) (buffer : Message) (rand : Nat) : DelayedEncapsulationMessage :=
  { timeOut := determineDelayTime buffer rand
    socket := listener.socket
    receiver := fromAddress
    outgoingMessage := encapsulateListIdentityResponseMessage cfg attributes
      (createEncapsulationStructure buffer).2 }

theorem delayedMessage_waiting (attributes : IdentityAttributes) (fromAddress : SockaddrIn)
    (buffer : Message) (rand : Nat) :
    (delayedMessage cfg attributes listener fromAddress buffer rand).Waiting := by
  have hbounds := determineDelayTime_bounds buffer rand
  have hmaximum := (maximumDelayTime (requestedDelayTime buffer)).toNat_lt
  refine ⟨listener.isOpen, hbounds.1, ?_⟩
  simp only [delayedMessage]
  omega

theorem receiveBroadcast_taken {attributes : IdentityAttributes} {fromAddress : SockaddrIn}
    {buffer : Message} {rand : Nat} {i : DelayedSlot} (hrequest : isListIdentityRequest buffer)
    (hfree : findDelayedMessageBuffer messages = some i) :
    receiveBroadcast cfg attributes listener fromAddress buffer rand messages =
      Function.update messages i
        (delayedMessage cfg attributes listener fromAddress buffer rand) := by
  simp only [receiveBroadcast, if_pos hrequest, handleReceivedListIdentityCommandUdp, hfree,
    delayedMessage]

/-- A request is dropped or takes a free slot. -/
theorem receiveBroadcast_cases (cfg : Config) (listener : UdpListener)
    (messages : DelayedEncapsulationMessages) (attributes : IdentityAttributes)
    (fromAddress : SockaddrIn) (buffer : Message) (rand : Nat) :
    receiveBroadcast cfg attributes listener fromAddress buffer rand messages = messages ∨
      ∃ i m, (messages i).socket = eipInvalidSocket ∧ m.Waiting ∧
        receiveBroadcast cfg attributes listener fromAddress buffer rand messages =
          Function.update messages i m := by
  by_cases hrequest : isListIdentityRequest buffer = true
  · cases hfree : findDelayedMessageBuffer messages with
    | none =>
        left
        simp only [receiveBroadcast, if_pos hrequest, handleReceivedListIdentityCommandUdp, hfree]
    | some i =>
        exact .inr ⟨i, _, findDelayedMessageBuffer_free hfree,
          delayedMessage_waiting attributes fromAddress buffer rand,
          receiveBroadcast_taken hrequest hfree⟩
  · left
    rw [receiveBroadcast, if_neg hrequest]

/-- A slot in use is only changed by the ticks, which free it when it is due. -/
theorem delayedStep_waiting {i : DelayedSlot} (hi : (messages i).Waiting) {action : DelayedAction}
    (hbrief : action.Brief) :
    (delayedStep cfg listener action messages).2 i =
      if action.isTick ∧ (messages i).timeOut ≤ action.elapsed then
        { messages i with
          timeOut := (messages i).timeOut - action.elapsed
          socket := eipInvalidSocket }
      else { messages i with timeOut := (messages i).timeOut - action.elapsed } := by
  cases action with
  | broadcast attributes fromAddress buffer rand =>
      simp only [DelayedAction.isTick, DelayedAction.elapsed, Bool.false_eq_true, false_and,
        if_false, Nat.cast_zero, Int.sub_zero, delayedStep]
      obtain hsame | ⟨j, m, hj, -, htaken⟩ :=
        receiveBroadcast_cases cfg listener messages attributes fromAddress buffer rand
      · rw [hsame]
      · rw [htaken, Function.update_of_ne]
        rintro rfl
        exact hi.inUse hj
  | manageEncapsulationMessages elapsedTime =>
      have hmanage := hi.manage hbrief
      simp only [delayedStep, manageEncapsulationMessages, hmanage, DelayedAction.isTick,
        DelayedAction.elapsed, true_and, apply_ite Prod.snd]

/-- Between two steps: the slots in use hold different requests from before the
position. -/
structure Marked (position : Nat) (held : DelayedSlot → Nat)
    (messages : DelayedEncapsulationMessages) : Prop where
  waiting : ∀ i, (messages i).socket ≠ eipInvalidSocket → (messages i).Waiting
  earlier : ∀ i, (messages i).socket ≠ eipInvalidSocket → held i < position
  distinct : ∀ i j, (messages i).socket ≠ eipInvalidSocket →
    (messages j).socket ≠ eipInvalidSocket → held i = held j → i = j

variable {position : Nat} {held : DelayedSlot → Nat}

theorem marked_initial : Marked 0 (fun _ => 0) fun _ => {} where
  waiting _ h := absurd rfl h
  earlier _ h := absurd rfl h
  distinct _ _ h := absurd rfl h

theorem heldRequest_of_inUse {messages' : DelayedEncapsulationMessages} {i : DelayedSlot}
    (hi : (messages i).socket ≠ eipInvalidSocket) :
    heldRequest position messages messages' held i = held i :=
  if_neg fun h => hi h.1

/-- Without a new slot in use the marks stay. -/
theorem Marked.of_freed (h : Marked position held messages)
    {messages' : DelayedEncapsulationMessages}
    (hkept : ∀ i, (messages' i).socket ≠ eipInvalidSocket →
      (messages i).socket ≠ eipInvalidSocket ∧ (messages' i).Waiting) :
    Marked (position + 1) (heldRequest position messages messages' held) messages' where
  waiting i hi := (hkept i hi).2
  earlier i hi := by
    rw [heldRequest_of_inUse (hkept i hi).1]
    exact Nat.lt_succ_of_lt (h.earlier i (hkept i hi).1)
  distinct i j hi hj hsame := by
    rw [heldRequest_of_inUse (hkept i hi).1, heldRequest_of_inUse (hkept j hj).1] at hsame
    exact h.distinct i j (hkept i hi).1 (hkept j hj).1 hsame

theorem Marked.taken (h : Marked position held messages) {i : DelayedSlot}
    {m : DelayedEncapsulationMessage} (hi : (messages i).socket = eipInvalidSocket)
    (hm : m.Waiting) :
    heldRequest position messages (Function.update messages i m) held i = position ∧
      Marked (position + 1) (heldRequest position messages (Function.update messages i m) held)
        (Function.update messages i m) := by
  have hnew : heldRequest position messages (Function.update messages i m) held i = position := by
    rw [heldRequest, Function.update_self, if_pos ⟨hi, hm.inUse⟩]
  have hold {j : DelayedSlot} (hj : (Function.update messages i m j).socket ≠ eipInvalidSocket)
      (hne : j ≠ i) : (messages j).socket ≠ eipInvalidSocket ∧
        heldRequest position messages (Function.update messages i m) held j = held j := by
    rw [Function.update_of_ne hne] at hj
    exact ⟨hj, heldRequest_of_inUse hj⟩
  refine ⟨hnew, fun j hj => ?_, fun j hj => ?_, fun j k hj hk hsame => ?_⟩
  · by_cases hne : j = i
    · rw [hne, Function.update_self]
      exact hm
    · rw [Function.update_of_ne hne]
      exact h.waiting j (hold hj hne).1
  · by_cases hne : j = i
    · rw [hne, hnew]
      exact Nat.lt_succ_self position
    · rw [(hold hj hne).2]
      exact Nat.lt_succ_of_lt (h.earlier j (hold hj hne).1)
  · by_cases hji : j = i
    · by_cases hki : k = i
      · rw [hji, hki]
      · rw [hji, hnew, (hold hk hki).2] at hsame
        exact absurd (h.earlier k (hold hk hki).1) (by omega)
    · by_cases hki : k = i
      · rw [hki, hnew, (hold hj hji).2] at hsame
        exact absurd (h.earlier j (hold hj hji).1) (by omega)
      · rw [(hold hj hji).2, (hold hk hki).2] at hsame
        exact h.distinct j k (hold hj hji).1 (hold hk hki).1 hsame

theorem Marked.step (h : Marked position held messages) {action : DelayedAction}
    (hbrief : action.Brief) :
    Marked (position + 1)
      (heldRequest position messages (delayedStep cfg listener action messages).2 held)
      (delayedStep cfg listener action messages).2 := by
  cases action with
  | broadcast attributes fromAddress buffer rand =>
      simp only [delayedStep]
      obtain hsame | ⟨i, m, hi, hm, htaken⟩ :=
        receiveBroadcast_cases cfg listener messages attributes fromAddress buffer rand
      · rw [hsame]
        exact h.of_freed fun i hi => ⟨hi, h.waiting i hi⟩
      · rw [htaken]
        exact (h.taken hi hm).2
  | manageEncapsulationMessages elapsedTime =>
      refine h.of_freed fun i hi => ?_
      have hinUse : (messages i).socket ≠ eipInvalidSocket := by
        intro hfree
        simp only [delayedStep, manageEncapsulationMessages,
          DelayedEncapsulationMessage.manage_of_free hfree] at hi
        exact hi hfree
      have hwaiting := h.waiting i hinUse
      rw [delayedStep_waiting hwaiting hbrief] at hi ⊢
      split at hi
      · exact absurd rfl hi
      · rename_i hlate
        rw [if_neg hlate]
        exact ⟨hinUse, hwaiting.stays hlate⟩

/-- The replies of one step. -/
def stepReplies (position : Nat) (held : DelayedSlot → Nat)
    (sent : List (DelayedSlot × Datagram)) : List DelayedReply :=
  sent.map fun s => ⟨held s.1, position, s.2⟩

theorem mem_stepReplies {action : DelayedAction} {reply : DelayedReply}
    (h : reply ∈ stepReplies position held (delayedStep cfg listener action messages).1) :
    ∃ i, (messages i).socket ≠ eipInvalidSocket ∧ held i = reply.request := by
  cases action with
  | broadcast => cases h
  | manageEncapsulationMessages elapsedTime =>
      simp only [stepReplies, delayedStep, manageEncapsulationMessages, List.mem_map,
        List.mem_filterMap, Option.map_eq_some_iff] at h
      obtain ⟨s, ⟨i, -, datagram, hsent, rfl⟩, rfl⟩ := h
      refine ⟨i, fun hfree => ?_, rfl⟩
      rw [DelayedEncapsulationMessage.manage_of_free hfree] at hsent
      cases hsent

/-- Only a slot that is due sends, and it sends its own reply. -/
theorem Marked.stepReplies (h : Marked position held messages) {action : DelayedAction}
    (hbrief : action.Brief) {i : DelayedSlot} (hi : (messages i).socket ≠ eipInvalidSocket) :
    (stepReplies position held (delayedStep cfg listener action messages).1).filter
        (fun reply => reply.request = held i) =
      if action.isTick ∧ (messages i).timeOut ≤ action.elapsed then
        [⟨held i, position, (messages i).datagram⟩]
      else [] := by
  cases action with
  | broadcast => rfl
  | manageEncapsulationMessages elapsedTime =>
      have hother (j : DelayedSlot) :
          Option.filter (fun reply : DelayedReply => decide (reply.request = held i))
              (((messages j).manage elapsedTime).1.map
                fun datagram => ⟨held j, position, datagram⟩) =
            if decide (j = i) = true then
              ((messages j).manage elapsedTime).1.map fun datagram => ⟨held j, position, datagram⟩
            else none := by
        by_cases hj : (messages j).socket = eipInvalidSocket
        · simp [DelayedEncapsulationMessage.manage_of_free hj]
        · by_cases hji : j = i
          · rw [if_pos (decide_eq_true hji), hji]
            cases ((messages i).manage elapsedTime).1 <;> simp
          · have hne : held j ≠ held i := fun hsame => hji (h.distinct j i hj hi hsame)
            rw [if_neg (by simpa using hji)]
            cases ((messages j).manage elapsedTime).1 <;> simp [hne]
      simp only [Opener.stepReplies, delayedStep, manageEncapsulationMessages, List.map_filterMap,
        Option.map_map, Function.comp_def, List.filter_filterMap, hother]
      rw [← List.filterMap_filter (p := fun j => decide (j = i)), List.filter_eq,
        List.count_eq_one_of_mem (List.nodup_finRange _) (List.mem_finRange i)]
      have hmanage := (h.waiting i hi).manage (show elapsedTime.toNat < 2 ^ 31 from hbrief)
      simp only [List.replicate_one, List.filterMap_cons, List.filterMap_nil, hmanage,
        DelayedAction.isTick, DelayedAction.elapsed, true_and]
      by_cases hdue : (messages i).timeOut ≤ elapsedTime.toNat
      · simp [hdue]
      · simp [hdue]

theorem Marked.stepReplies_of_unheld {action : DelayedAction} {request : Nat}
    (hunheld : ∀ i, (messages i).socket ≠ eipInvalidSocket → held i ≠ request) :
    (Opener.stepReplies position held (delayedStep cfg listener action messages).1).filter
        (fun reply => reply.request = request) = [] := by
  refine List.filter_eq_nil_iff.mpr fun reply hreply hrequest => ?_
  obtain ⟨i, hi, hheld⟩ := mem_stepReplies hreply
  exact hunheld i hi (hheld.trans (of_decide_eq_true hrequest))

theorem repliesFrom_cons (action : DelayedAction) (actions : List DelayedAction) :
    repliesFrom cfg listener position (action :: actions) held messages =
      Opener.stepReplies position held (delayedStep cfg listener action messages).1 ++
        repliesFrom cfg listener (position + 1) actions
          (heldRequest position messages (delayedStep cfg listener action messages).2 held)
          (delayedStep cfg listener action messages).2 := rfl

/-- A request of the past that no slot holds gets no reply any more. -/
theorem Marked.repliesFrom_of_unheld (h : Marked position held messages)
    {actions : List DelayedAction} (hbrief : ∀ action ∈ actions, action.Brief) {request : Nat}
    (hrequest : request < position)
    (hunheld : ∀ i, (messages i).socket ≠ eipInvalidSocket → held i ≠ request) :
    (repliesFrom cfg listener position actions held messages).filter
        (fun reply => reply.request = request) = [] := by
  induction actions generalizing position held messages with
  | nil => rfl
  | cons action actions ih =>
      have hfirst := hbrief action List.mem_cons_self
      rw [repliesFrom_cons, List.filter_append, Marked.stepReplies_of_unheld hunheld,
        List.nil_append]
      refine ih (h.step hfirst) (fun a ha => hbrief a (List.mem_cons_of_mem _ ha))
        (Nat.lt_succ_of_lt hrequest) fun i hi => ?_
      rw [heldRequest]
      split
      · exact (ne_of_lt hrequest).symm
      · rename_i hkept
        exact hunheld i fun hfree => hkept ⟨hfree, hi⟩

/-- A request in a slot gets its reply at the first tick that is due, and no other. -/
theorem Marked.repliesFrom (h : Marked position held messages) {actions : List DelayedAction}
    (hbrief : ∀ action ∈ actions, action.Brief) {i : DelayedSlot}
    (hi : (messages i).socket ≠ eipInvalidSocket) :
    (Opener.repliesFrom cfg listener position actions held messages).filter
        (fun reply => reply.request = held i) =
      ((dueTick (messages i).timeOut actions).map fun k =>
        (⟨held i, position + k, (messages i).datagram⟩ : DelayedReply)).toList := by
  induction actions generalizing position held messages with
  | nil => rfl
  | cons action actions ih =>
      have hfirst := hbrief action List.mem_cons_self
      have hrest := fun a ha => hbrief a (List.mem_cons_of_mem action ha)
      have hstep : Marked (position + 1)
          (heldRequest position messages (delayedStep cfg listener action messages).2 held)
          (delayedStep cfg listener action messages).2 := h.step hfirst
      have hslot := @delayedStep_waiting cfg listener messages i (h.waiting i hi) action hfirst
      have hheld : heldRequest position messages
          (delayedStep cfg listener action messages).2 held i = held i :=
        heldRequest_of_inUse hi
      rw [repliesFrom_cons, List.filter_append, h.stepReplies hfirst hi, dueTick_cons]
      by_cases hdue : action.isTick = true ∧ (messages i).timeOut ≤ action.elapsed
      · rw [if_pos hdue, if_pos hdue]
        rw [if_pos hdue] at hslot
        rw [hstep.repliesFrom_of_unheld hrest (Nat.lt_succ_of_lt (h.earlier i hi))]
        · rfl
        · intro j hj hsame
          rw [heldRequest] at hsame
          split at hsame
          · exact absurd (h.earlier i hi) (by omega)
          · rename_i hkept
            have hold : (messages j).socket ≠ eipInvalidSocket := fun hfree => hkept ⟨hfree, hj⟩
            rw [h.distinct j i hold hi hsame, hslot] at hj
            exact hj rfl
      · rw [if_neg hdue, if_neg hdue]
        rw [if_neg hdue] at hslot
        have hinUse : ((delayedStep cfg listener action messages).2 i).socket ≠
            eipInvalidSocket := by
          rw [hslot]
          exact hi
        have hlater := ih hstep hrest hinUse
        rw [hheld, hslot] at hlater
        rw [List.nil_append, hlater, Option.map_map]
        simp only [Function.comp_def, Nat.add_assoc, Nat.add_comm 1]
        rfl

/-- The slots after some more actions. -/
def messagesAfter (cfg : Config) (listener : UdpListener) (actions : List DelayedAction)
    (messages : DelayedEncapsulationMessages) : DelayedEncapsulationMessages :=
  actions.foldl (fun messages action => (delayedStep cfg listener action messages).2) messages

theorem messagesAfter_cons (action : DelayedAction) (actions : List DelayedAction) :
    messagesAfter cfg listener (action :: actions) messages =
      messagesAfter cfg listener actions (delayedStep cfg listener action messages).2 := rfl

/-- A slot in use only counts down until its tick. -/
theorem messagesAfter_waiting {i : DelayedSlot} (hi : (messages i).Waiting)
    {actions : List DelayedAction} (hbrief : ∀ action ∈ actions, action.Brief)
    (hdue : dueTick (messages i).timeOut actions = none) :
    messagesAfter cfg listener actions messages i =
      { messages i with timeOut := (messages i).timeOut - elapsedTime actions } := by
  induction actions generalizing messages with
  | nil => simp [messagesAfter, elapsedTime]
  | cons action actions ih =>
      have hslot := @delayedStep_waiting cfg listener messages i hi action
        (hbrief action List.mem_cons_self)
      rw [dueTick_cons] at hdue
      by_cases hnow : action.isTick = true ∧ (messages i).timeOut ≤ action.elapsed
      · rw [if_pos hnow] at hdue
        cases hdue
      · rw [if_neg hnow] at hdue hslot
        have hlater := hi.stays hnow
        rw [← hslot] at hlater
        rw [messagesAfter_cons, ih hlater (fun a ha => hbrief a (List.mem_cons_of_mem _ ha)), hslot,
          elapsedTime_cons]
        · simp only [Nat.cast_add, Int.sub_sub]
        · rw [hslot]
          exact Option.map_eq_none_iff.mp hdue

/-- At its tick the slot is freed. -/
theorem messagesAfter_due {i : DelayedSlot} (hi : (messages i).Waiting)
    {actions : List DelayedAction} (hbrief : ∀ action ∈ actions, action.Brief) {k : Nat}
    (hdue : dueTick (messages i).timeOut actions = some k) :
    (messagesAfter cfg listener (actions.take (k + 1)) messages i).socket = eipInvalidSocket := by
  induction actions generalizing messages k with
  | nil => cases hdue
  | cons action actions ih =>
      have hslot := @delayedStep_waiting cfg listener messages i hi action
        (hbrief action List.mem_cons_self)
      rw [dueTick_cons] at hdue
      rw [List.take_succ_cons, messagesAfter_cons]
      by_cases hnow : action.isTick = true ∧ (messages i).timeOut ≤ action.elapsed
      · rw [if_pos hnow] at hdue hslot
        cases hdue
        simp only [List.take_zero, messagesAfter, List.foldl_nil, hslot]
      · rw [if_neg hnow] at hdue hslot
        obtain ⟨k, hk, rfl⟩ := Option.map_eq_some_iff.mp hdue
        have hlater := hi.stays hnow
        rw [← hslot] at hlater
        refine ih hlater (fun a ha => hbrief a (List.mem_cons_of_mem _ ha)) ?_
        rw [hslot]
        exact hk

/-- A run is cut at a position; the replies before it are to requests before it. -/
theorem Marked.split (h : Marked position held messages) {before : List DelayedAction}
    (hbrief : ∀ action ∈ before, action.Brief) (after : List DelayedAction) :
    ∃ held' earlier,
      Marked (position + before.length) held' (messagesAfter cfg listener before messages) ∧
      Opener.repliesFrom cfg listener position (before ++ after) held messages =
        earlier ++ Opener.repliesFrom cfg listener (position + before.length) after held'
          (messagesAfter cfg listener before messages) ∧
      ∀ reply ∈ earlier, reply.request < position + before.length := by
  induction before generalizing position held messages with
  | nil => exact ⟨held, [], h, rfl, fun _ hreply => absurd hreply List.not_mem_nil⟩
  | cons action before ih =>
      obtain ⟨held', earlier, hmarked, hreplies, hearlier⟩ :=
        ih (h.step (hbrief action List.mem_cons_self))
          fun a ha => hbrief a (List.mem_cons_of_mem _ ha)
      have hlength : position + (action :: before).length = position + 1 + before.length := by
        rw [List.length_cons]
        omega
      refine ⟨held', Opener.stepReplies position held
        (delayedStep cfg listener action messages).1 ++ earlier, ?_, ?_, fun reply hreply => ?_⟩
      · rw [hlength]
        exact hmarked
      · rw [hlength, List.cons_append, repliesFrom_cons, hreplies, List.append_assoc,
          messagesAfter_cons]
      · rw [hlength]
        obtain hreply | hreply := List.mem_append.mp hreply
        · obtain ⟨i, hi, hheld⟩ := mem_stepReplies hreply
          have hpast := h.earlier i hi
          omega
        · exact hearlier reply hreply

end Steps

/-- The answer carries the sender context of its request. -/
theorem listIdentityResponse_senderContext (cfg : Config) (attributes : IdentityAttributes)
    (buffer : Message) :
    ((encapsulateListIdentityResponseMessage cfg attributes
        (createEncapsulationStructure buffer).2).bytes.drop 12).take senderContextSize =
      Message.takeBytes (buffer.drop 12) senderContextSize := by
  have hcontext : (createEncapsulationStructure buffer).2.senderContext =
      Message.takeBytes (buffer.drop 12) senderContextSize := by
    simp only [createEncapsulationStructure, Message.getUint, Message.getUdint, List.drop_drop]
  simp only [encapsulateListIdentityResponseMessage, ENIPMessage.written, ENIPMessage.bytes,
    List.take_length, generateEncapsulationHeader, hcontext, intBytes, dintBytes,
    List.cons_append, List.nil_append, List.drop_succ_cons, List.drop_zero, List.append_assoc]
  exact List.take_left' (by simp [Message.takeBytes])

/-- A broadcast List Identity request that finds a free slot, anywhere in a run: its delay is
below the effective maximum, it has exactly one reply, sent to its sender with its context at
the first tick at which the delay has passed, its slot is left alone until then and free
again after it. -/
theorem delayedReplies_once (cfg : Config) (listener : UdpListener)
    (before after : List DelayedAction) (attributes : IdentityAttributes)
    (fromAddress : SockaddrIn) (buffer : Message) (rand : Nat) (i : DelayedSlot)
    (hbrief : ∀ action ∈ before ++ after, action.Brief)
    (hrequest : isListIdentityRequest buffer = true)
    (hfree : findDelayedMessageBuffer (delayedMessages cfg listener before) = some i) :
    let request := DelayedAction.broadcast attributes fromAddress buffer rand
    let delay := determineDelayTime buffer rand
    let message := encapsulateListIdentityResponseMessage cfg attributes
      (createEncapsulationStructure buffer).2
    (0 ≤ delay ∧ delay < (maximumDelayTime (requestedDelayTime buffer)).toNat) ∧
      (message.bytes.drop 12).take senderContextSize =
        Message.takeBytes (buffer.drop 12) senderContextSize ∧
      (delayedReplies cfg listener (before ++ request :: after)).filter
          (fun reply => reply.request = before.length) =
        ((dueTick delay after).map fun k => (
          { request := before.length
            tick := before.length + 1 + k
            datagram :=
              { socket := listener.socket, receiver := fromAddress, bytes := message.bytes } } :
          DelayedReply)).toList ∧
      (∀ n, dueTick delay (after.take n) = none →
        delayedMessages cfg listener (before ++ request :: after.take n) i =
          { timeOut := delay - elapsedTime (after.take n)
            socket := listener.socket
            receiver := fromAddress
            outgoingMessage := message }) ∧
      ∀ k, dueTick delay after = some k →
        (delayedMessages cfg listener (before ++ request :: after.take (k + 1)) i).socket =
          eipInvalidSocket := by
  intro request delay message
  have hbefore := fun action h => hbrief action (List.mem_append_left after h)
  have hafter := fun action h => hbrief action (List.mem_append_right before h)
  obtain ⟨held, earlier, hmarked, hreplies, hearlier⟩ :=
    @Marked.split cfg listener (fun _ => {}) 0 (fun _ => 0) marked_initial before hbefore
      (request :: after)
  rw [Nat.zero_add] at hmarked hreplies hearlier
  replace hmarked : Marked before.length held (delayedMessages cfg listener before) := hmarked
  -- The request takes the slot that was found free.
  have hslot := findDelayedMessageBuffer_free hfree
  have hwaiting := @delayedMessage_waiting cfg listener attributes fromAddress buffer rand
  have hstep : (delayedStep cfg listener request (delayedMessages cfg listener before)).2 =
      Function.update (delayedMessages cfg listener before) i
        (delayedMessage cfg attributes listener fromAddress buffer rand) :=
    receiveBroadcast_taken hrequest hfree
  obtain ⟨hheld, htaken⟩ := hmarked.taken hslot hwaiting
  have hself : Function.update (delayedMessages cfg listener before) i
      (delayedMessage cfg attributes listener fromAddress buffer rand) i =
        delayedMessage cfg attributes listener fromAddress buffer rand := Function.update_self ..
  have hrun (actions : List DelayedAction) :
      delayedMessages cfg listener (before ++ request :: actions) =
        messagesAfter cfg listener actions (Function.update (delayedMessages cfg listener before) i
          (delayedMessage cfg attributes listener fromAddress buffer rand)) := by
    rw [← hstep, delayedMessages, List.foldl_append, List.foldl_cons]
    rfl
  have hwaiting' := hself.symm ▸ hwaiting
  refine ⟨determineDelayTime_bounds buffer rand,
    listIdentityResponse_senderContext cfg attributes buffer, ?_, fun n hn => ?_, fun k hk => ?_⟩
  · have hpast : earlier.filter (fun reply => decide (reply.request = before.length)) = [] :=
      List.filter_eq_nil_iff.mpr fun reply hreply hsame =>
        absurd (hearlier reply hreply) (by rw [of_decide_eq_true hsame]; omega)
    have hnow := @Marked.repliesFrom cfg listener _ _ _ htaken after hafter i hwaiting'.inUse
    rw [hheld, hself] at hnow
    have hreplies' : delayedReplies cfg listener (before ++ request :: after) =
        earlier ++ repliesFrom cfg listener (before.length + 1) after
          (heldRequest before.length (delayedMessages cfg listener before)
            (delayedStep cfg listener request (delayedMessages cfg listener before)).2 held)
          (delayedStep cfg listener request (delayedMessages cfg listener before)).2 :=
      hreplies
    rw [hreplies', hstep, List.filter_append, hpast, List.nil_append]
    exact hnow
  · rw [hrun, messagesAfter_waiting hwaiting' (fun a ha => hafter a (List.mem_of_mem_take ha)),
      hself]
    · rfl
    · rw [hself]
      exact hn
  · rw [hrun]
    exact messagesAfter_due hwaiting' hafter (by rw [hself]; exact hk)

namespace SampleApplication

def identityAttributes : IdentityAttributes :=
  { status := 0
    serialNumber := 123456789
    productName := [79, 112, 69, 78, 101, 114, 32, 80, 67]
    state := 255
    name_length := by decide }

def listener : UdpListener := { socket := 5, isOpen := by decide }

/-- A List Identity request that allows a delay of one second. -/
def listIdentity : Message :=
  intBytes EncapsulationCommand.listIdentity ++ List.replicate 10 0 ++ intBytes 1000 ++
    List.replicate 10 0

def broadcast (address : UInt32) (rand : Nat) : DelayedAction :=
  .broadcast identityAttributes { sinFamily := htons afInet, sinAddr := address } listIdentity rand

end SampleApplication

open SampleApplication in
/-- The second of two requests is due at the second tick. -/
theorem delayedReplies_once_second :
    isListIdentityRequest listIdentity = true ∧
      findDelayedMessageBuffer (delayedMessages config listener [broadcast 1 5]) =
        some ⟨1, by decide⟩ ∧
      dueTick (determineDelayTime listIdentity 1400)
        [.manageEncapsulationMessages 300, .manageEncapsulationMessages 200] = some 1 ∧
      ((delayedReplies config listener ([broadcast 1 5] ++ broadcast 2 1400 ::
        [.manageEncapsulationMessages 300, .manageEncapsulationMessages 200])).filter
          fun reply => reply.request = 1).length = 1 := by
  have hdue : dueTick (determineDelayTime listIdentity 1400)
      [.manageEncapsulationMessages 300, .manageEncapsulationMessages 200] = some 1 := by decide
  have hbrief : ∀ action ∈ [broadcast 1 5] ++
      [.manageEncapsulationMessages 300, .manageEncapsulationMessages 200], action.Brief := by
    simp only [List.cons_append, List.nil_append, List.mem_cons, List.not_mem_nil, or_false,
      forall_eq_or_imp, forall_eq]
    decide
  have hreply := delayedReplies_once config listener [broadcast 1 5]
    [.manageEncapsulationMessages 300, .manageEncapsulationMessages 200] identityAttributes
    { sinFamily := htons afInet, sinAddr := 2 } listIdentity 1400 ⟨1, by decide⟩ hbrief
    (by decide) (by decide)
  refine ⟨by decide, by decide, hdue, ?_⟩
  have hfilter := hreply.2.2.1
  rw [hdue] at hfilter
  exact congrArg List.length hfilter

end Opener

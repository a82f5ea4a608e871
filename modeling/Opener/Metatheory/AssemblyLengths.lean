import Opener.Metatheory.FailedOpens
import Opener.Metatheory.Shutdown

/-!
The lengths of the assemblies. The stack writes an assembly only with as many bytes as
it holds, so that the lengths stay what they were when the application created the
assemblies, provided that its callbacks keep them.
-/

namespace Opener

open LinkedCells

/-- Assemblies of the lengths. -/
def HasLengths (length : UInt16 → Nat) (data : UInt16 → List UInt8) : Prop :=
  ∀ instanceNumber, (data instanceNumber).length = length instanceNumber

theorem HasLengths.update {length : UInt16 → Nat} {data : UInt16 → List UInt8}
    (h : HasLengths length data) {instanceNumber : UInt16} {bytes : List UInt8}
    (hbytes : (data instanceNumber).length = bytes.length) :
    HasLengths length (Function.update data instanceNumber bytes) := by
  intro n
  by_cases hn : n = instanceNumber
  · rw [hn, Function.update_self, ← hbytes]
    exact h instanceNumber
  · rw [Function.update_of_ne hn]
    exact h n

/-- The application's callbacks fill assemblies of the lengths without changing their
lengths. -/
structure Environment.KeepsLengths (length : UInt16 → Nat) (env : Environment) : Prop where
  handles : ∀ data, HasLengths length data → HasLengths length (env.handleApplication data)
  sends : ∀ sent data, HasLengths length data →
    HasLengths length (env.beforeAssemblyDataSend sent data).2
  receives : ∀ received data, HasLengths length data →
    HasLengths length (env.afterAssemblyDataReceived received data).2

namespace StackState

variable {cfg : Config} {env : Environment} {st st' : StackState} {ns : List Nat}
variable {length : UInt16 → Nat}

/-- The application keeps the lengths in a step: its callbacks do, and so does what it
writes by itself. -/
structure KeepsLengths (length : UInt16 → Nat) (label : Environment × Action) : Prop where
  callbacks : label.1.KeepsLengths length
  writes : ∀ data, label.2 = .writeAssemblies data → HasLengths length data

/-- Assemblies of the lengths stay so. -/
def RetainsLengths (length : UInt16 → Nat) (st st' : StackState) : Prop :=
  HasLengths length st.assemblyData → HasLengths length st'.assemblyData

namespace RetainsLengths

theorem refl (st : StackState) : RetainsLengths length st st := id

theorem trans {st₁ st₂ st₃ : StackState} (h : RetainsLengths length st₁ st₂)
    (h' : RetainsLengths length st₂ st₃) : RetainsLengths length st₁ st₃ :=
  fun hlengths => h' (h hlengths)

theorem of_eq (h : st'.assemblyData = st.assemblyData) : RetainsLengths length st st' := by
  intro hlengths
  rw [h]
  exact hlengths

theorem after {st₁ : StackState} (h : RetainsLengths length st₁ st')
    (hbefore : st₁.assemblyData = st.assemblyData) : RetainsLengths length st st' :=
  (of_eq hbefore).trans h

end RetainsLengths

theorem assemblyLength_congr (h : HasLengths length st.assemblyData)
    (h' : HasLengths length st'.assemblyData) :
    st'.assemblyLength cfg = st.assemblyLength cfg := by
  funext instanceNumber
  rw [assemblyLength, assemblyLength, h instanceNumber, h' instanceNumber]

section Steps

variable (henv : env.KeepsLengths length)
include henv

theorem notifyAssembly_lengths {instanceNumber : UInt16} {data : List UInt8}
    {status : EipStatus}
    (hcall : st.notifyAssemblyConnectedDataReceived env instanceNumber data =
      .ok (status, st')) : RetainsLengths length st st' := by
  have hdata := notifyAssembly_assemblyData hcall
  split at hdata
  · rename_i hfits
    intro hlengths
    rw [hdata]
    exact henv.receives _ _ (hlengths.update hfits.2)
  · exact .of_eq hdata

theorem handleReceivedIoConnectionData_lengths {r : ConnRef} {data : Message}
    {dataLength : UInt16} {status : EipStatus}
    (hcall : st.handleReceivedIoConnectionData cfg env r data dataLength =
      .ok (status, st')) : RetainsLengths length st st' := by
  simp only [handleReceivedIoConnectionData] at hcall
  have hcount : (st.receiveSequenceCount r data dataLength).2.2.2.assemblyData =
      st.assemblyData := by
    rw [receiveSequenceCount]
    split
    · rfl
    · rfl
  generalize st.receiveSequenceCount r data dataLength = counted at hcall hcount
  obtain ⟨noNewData, data, dataLength, st₁⟩ := counted
  dsimp only at hcall hcount
  have hrunIdle : ∀ {header : Message × UInt16 × StackState}, header =
      (if cfg.consumeRunIdle then
        (data.getUdint.2, dataLength - 4, { st₁ with runIdleState := data.getUdint.1 })
      else (data, dataLength, st₁)) → header.2.2.assemblyData = st.assemblyData := by
    intro header hheader
    rw [hheader, ← hcount]
    split
    · rfl
    · rfl
  split at hcall
  · have hheader := hrunIdle rfl
    generalize (if cfg.consumeRunIdle then
        (data.getUdint.2, dataLength - 4, { st₁ with runIdleState := data.getUdint.1 })
      else (data, dataLength, st₁)) = header at hcall hheader
    obtain ⟨data, dataLength, st₂⟩ := header
    dsimp only at hcall hheader
    split at hcall
    · cases hcall
      exact .of_eq hheader
    · split at hcall
      · cases hcall
      · rename_i instanceNumber hinstance
        have hfirst : RetainsLengths length st st₂ := .of_eq hheader
        cases hnotify : st₂.notifyAssemblyConnectedDataReceived env instanceNumber
            (data.takeBytes dataLength.toNat) with
        | error fault => simp [hnotify] at hcall
        | ok answer =>
            obtain ⟨status₁, st₃⟩ := answer
            have hsecond := notifyAssembly_lengths henv hnotify
            cases status₁ <;> simp only [hnotify] at hcall <;> cases hcall <;>
              exact hfirst.trans hsecond
  · cases hcall
    exact .of_eq hcount

theorem consumeConnectedData_lengths {r : ConnRef} {status : EipStatus}
    (hcall : st.consumeConnectedData cfg env r = .ok (status, st')) :
    RetainsLengths length st st' := by
  simp only [consumeConnectedData] at hcall
  split at hcall
  · split at hcall
    · cases hcall
      exact .of_eq rfl
    · exact (handleReceivedIoConnectionData_lengths henv hcall).after rfl
  · cases hcall
    exact .of_eq rfl

theorem handleReceivedConnectedData_lengths {data : Message} {fromAddress : UInt32}
    {status : EipStatus}
    (hcall : st.handleReceivedConnectedData cfg env data fromAddress = .ok (status, st')) :
    RetainsLengths length st st' := by
  simp only [handleReceivedConnectedData] at hcall
  generalize CommonPacketFormatData.createCommonPacketFormatStructure data data.length st.cpf =
    parsed at hcall
  obtain ⟨parsing, cpf⟩ := parsed
  dsimp only at hcall
  split at hcall
  · cases hcall
    exact .of_eq rfl
  · split at hcall
    · split at hcall
      · cases hcall
        exact .of_eq rfl
      · split at hcall
        · exact (consumeConnectedData_lengths henv hcall).after rfl
        · cases hcall
          exact .of_eq rfl
    · cases hcall
      exact .of_eq rfl

theorem sendConnectedData_lengths {r : ConnRef}
    (hcall : st.sendConnectedData cfg env r = .ok st') : RetainsLengths length st st' := by
  simp only [sendConnectedData] at hcall
  split at hcall
  · cases hcall
  · rename_i instanceNumber hinstance
    split at hcall
    · cases hcall
    · split at hcall
      · cases hcall
      · cases hcall
        exact henv.sends instanceNumber st.assemblyData

theorem produceConnection_lengths {elapsedTime : UInt64} {r : ConnRef}
    (hcall : st.produceConnection cfg env elapsedTime r = .ok st') :
    RetainsLengths length st st' := by
  simp only [produceConnection] at hcall
  split at hcall
  · split at hcall
    · split at hcall
      · cases hcall
      · cases hsend : (st.modifyConn r (inhibitAfter elapsedTime)).sendConnectedData cfg env r
          with
        | error fault => simp [hsend] at hcall
        | ok st₁ =>
            simp only [hsend] at hcall
            cases hcall
            have hsent : RetainsLengths length st st₁ :=
              (sendConnectedData_lengths henv hsend).after rfl
            exact hsent.trans (.of_eq rfl)
    · cases hcall
      exact .of_eq rfl
  · cases hcall
    exact .refl st

theorem manageConnection_lengths (h : st.Listed cfg ns) (hregular : Regular cfg (st.view cfg))
    {elapsedTime : UInt64} {r : ConnRef}
    (hcall : st.manageConnection cfg env elapsedTime r = .ok st') :
    RetainsLengths length st st' := by
  simp only [manageConnection] at hcall
  split at hcall
  · rename_i hestablished
    cases hsupervise : st.superviseConnection cfg env elapsedTime r with
    | error fault => simp [hsupervise] at hcall
    | ok st₁ =>
        simp only [hsupervise] at hcall
        have hfirst : RetainsLengths length st st₁ := by
          simp only [superviseConnection] at hsupervise
          split at hsupervise
          · split at hsupervise
            · obtain ⟨ns', hdeparted⟩ := connectionTimeoutFunction_departed h hregular
                (mem_of_established hregular hestablished) hestablished hsupervise
              exact .of_eq hdeparted.frame.assemblyData
            · cases hsupervise
              exact .of_eq rfl
          · cases hsupervise
            exact .refl st
        split at hcall
        · exact hfirst.trans (produceConnection_lengths henv hcall)
        · cases hcall
          exact hfirst
  · cases hcall
    exact .refl st

theorem manageConnectionList_lengths (h : st.Listed cfg ns)
    (hregular : Regular cfg (st.view cfg)) {elapsedTime : UInt64}
    (hcall : st.manageConnectionList cfg env elapsedTime = .ok st') :
    RetainsLengths length st st' := by
  have hstart : (∃ ns', Calm cfg st ns st ns') ∧ RetainsLengths length st st :=
    ⟨⟨ns, Calm.refl h⟩, .refl st⟩
  have hbody : ∀ s n r s', ((∃ ns', Calm cfg st ns s ns') ∧ RetainsLengths length st s) →
      (s.nodes n).data = some r → s.manageConnection cfg env elapsedTime r = .ok s' →
      (∃ ns', Calm cfg st ns s' ns') ∧ RetainsLengths length st s' := by
    rintro s n r s' ⟨⟨ns₁, h₁⟩, hlengths⟩ - hturn
    have hregular₁ := h₁.regular hregular
    obtain ⟨ns₂, h₂⟩ := manageConnection_calm h₁.listed hregular₁ hturn
    exact ⟨⟨ns₂, h₁.trans h₂⟩,
      hlengths.trans (manageConnection_lengths henv h₁.listed hregular₁ hturn)⟩
  rw [manageConnectionList] at hcall
  exact (liveWalk_invariant _ hbody hstart hcall).2

theorem manageConnections_lengths (h : st.Listed cfg ns) (hregular : Regular cfg (st.view cfg))
    {elapsedTime : UInt64} (hcall : st.manageConnections cfg env elapsedTime = .ok st') :
    RetainsLengths length st st' := by
  rw [manageConnections] at hcall
  have hhandled : RetainsLengths length st
      { st with assemblyData := env.handleApplication st.assemblyData } :=
    henv.handles st.assemblyData
  exact hhandled.trans (manageConnectionList_lengths henv h hregular hcall)

omit henv in
theorem connectionCloseFunction_lengths (h : st.Listed cfg ns)
    (hregular : Regular cfg (st.view cfg)) {r : ConnRef} (hr : r ∈ st.connectionList cfg)
    (hcall : st.connectionCloseFunction cfg r = .ok st') : RetainsLengths length st st' := by
  obtain ⟨st₁, ns', hok, -, hdeparted⟩ := connectionCloseFunction_departed h hregular hr
  rw [hcall, Except.ok.injEq] at hok
  exact .of_eq (hok ▸ hdeparted.frame.assemblyData)

theorem handleConsumingUdpSocket_lengths {r : ConnRef} {received : List Received}
    (h : st.Listed cfg ns) (hregular : Regular cfg (st.view cfg))
    (hr : r ∈ st.connectionList cfg) {turn : Turn (StackState × List Received)}
    (hcall : handleConsumingUdpSocket cfg env r (st, received) = .ok turn)
    {s : StackState × List Received} (hturn : turn = .continue s ∨ turn = .stop s) :
    RetainsLengths length st s.1 := by
  have hend : ∀ {st₁ : StackState} {received₁ : List Received}, RetainsLengths length st st₁ →
      (turn = .continue (st₁, received₁) ∨ turn = .stop (st₁, received₁)) →
      RetainsLengths length st s.1 := by
    rintro st₁ received₁ hlengths (rfl | rfl)
    · rcases hturn with hturn | hturn
      · cases hturn
        exact hlengths
      · cases hturn
    · rcases hturn with hturn | hturn
      · cases hturn
      · cases hturn
        exact hlengths
  simp only [handleConsumingUdpSocket] at hcall
  split at hcall
  · split at hcall
    · cases hcall
      exact hend (.refl st) (.inr rfl)
    · cases hcall
      exact hend (.refl st) (.inr rfl)
    · cases hclose : st.connectionCloseFunction cfg r with
      | error fault => simp [hclose] at hcall
      | ok st₁ =>
          simp only [hclose, Except.ok.injEq] at hcall
          have hclosed : RetainsLengths length st st₁ :=
            connectionCloseFunction_lengths h hregular hr hclose
          exact hend hclosed (.inl hcall.symm)
    · cases hclose : st.connectionCloseFunction cfg r with
      | error fault => simp [hclose] at hcall
      | ok st₁ =>
          simp only [hclose, Except.ok.injEq] at hcall
          have hclosed : RetainsLengths length st st₁ :=
            connectionCloseFunction_lengths h hregular hr hclose
          exact hend hclosed (.inl hcall.symm)
    · rename_i data fromAddress _
      cases hreceive : st.handleReceivedConnectedData cfg env data fromAddress with
      | error fault => simp [hreceive] at hcall
      | ok result =>
          obtain ⟨status, st₁⟩ := result
          simp only [hreceive, Except.ok.injEq] at hcall
          have hreceived : RetainsLengths length st st₁ :=
            handleReceivedConnectedData_lengths henv hreceive
          exact hend hreceived (.inl hcall.symm)
  · cases hcall
    exact hend (.refl st) (.inl rfl)

theorem checkAndHandleConsumingUdpSocket_lengths (h : st.Listed cfg ns)
    (hregular : Regular cfg (st.view cfg))
    (hcall : st.checkAndHandleConsumingUdpSocket cfg env = .ok st') :
    RetainsLengths length st st' := by
  have hbody : ∀ (s : StackState × List Received) n r turn s',
      ((∃ ns', Calm cfg st ns s.1 ns') ∧ RetainsLengths length st s.1) →
      (s.1.nodes n).data = some r →
      handleConsumingUdpSocket cfg env r s = .ok turn →
      (turn = .continue s' ∨ turn = .stop s') →
      (∃ ns', Calm cfg st ns s'.1 ns') ∧ RetainsLengths length st s'.1 := by
    rintro ⟨s, received⟩ n r turn s' ⟨⟨ns₁, h₁⟩, hlengths⟩ hdata hturn hkind
    have hregular₁ := h₁.regular hregular
    have hr := h₁.listed.mem.mpr ⟨n, h₁.listed.mem_of_data hdata, hdata⟩
    have hstep := handleConsumingUdpSocket_lengths henv h₁.listed hregular₁ hr hturn hkind
    obtain ⟨s₂, ns', hkind₂, h₂⟩ :=
      handleConsumingUdpSocket_calm h₁.listed hregular₁ hr hturn
    have hsame : s₂ = s' := by
      rcases hkind with rfl | rfl
      · rcases hkind₂ with hkind₂ | hkind₂
        · cases hkind₂
          rfl
        · cases hkind₂
      · rcases hkind₂ with hkind₂ | hkind₂
        · cases hkind₂
        · cases hkind₂
          rfl
    exact ⟨⟨ns', h₁.trans (hsame ▸ h₂)⟩, hlengths.trans hstep⟩
  simp only [checkAndHandleConsumingUdpSocket] at hcall
  split at hcall
  · cases hcall
  · rename_i s received hwalk
    cases hcall
    exact (savedWalk_invariant
      (fun s => (∃ ns', Calm cfg st ns s.1 ns') ∧ RetainsLengths length st s.1)
      (fun s n r s' hP hdata hturn => hbody s n r _ s' hP hdata hturn (.inl rfl))
      (fun s n r s' hP hdata hturn => hbody s n r _ s' hP hdata hturn (.inr rfl))
      ⟨⟨ns, Calm.refl h⟩, .refl st⟩ hwalk).2

omit henv in
theorem forwardClose_lengths (h : st.Listed cfg ns) (hregular : Regular cfg (st.view cfg))
    {request : MessageRouterRequest} {originatorAddress : SockaddrIn}
    {response : MessageRouterResponse}
    (hcall : st.forwardClose cfg request originatorAddress = .ok (response, st')) :
    RetainsLengths length st st' := by
  simp only [forwardClose] at hcall
  generalize CommonPacketFormatData.clearAddressInfoItem 1
    (CommonPacketFormatData.clearAddressInfoItem 0 st.cpf) = cpf at hcall
  split at hcall
  · cases hcall
    exact .of_eq rfl
  · rename_i r hfind
    have hr : r ∈ connectionList { st with cpf := cpf } cfg := List.mem_of_find?_eq_some hfind
    have hlisted : Listed cfg { st with cpf := cpf } ns := h
    split at hcall
    · split at hcall
      · cases hcall
      · rename_i st₁ hclose
        cases hcall
        have hclosed : RetainsLengths length st st₁ :=
          (connectionCloseFunction_lengths hlisted hregular hr hclose).after rfl
        exact hclosed.trans (.of_eq rfl)
    · cases hcall
      exact .of_eq rfl

theorem storedAssemblyData_lengths (hlengths : HasLengths length st.assemblyData)
    (configPoint : UInt16) (data : List UInt8) :
    HasLengths length (st.storedAssemblyData cfg env configPoint data) := by
  rw [storedAssemblyData]
  split
  · split
    · rename_i hfits
      exact henv.receives _ _ (hlengths.update hfits.2.2.2)
    · exact hlengths
  · exact hlengths

omit henv in
theorem addNewActiveConnection_lengths {r : ConnRef}
    (hcall : st.addNewActiveConnection cfg r = .ok st') : RetainsLengths length st st' := by
  simp only [addNewActiveConnection] at hcall
  split at hcall
  · cases hcall
  · cases hcall
    exact .of_eq rfl

theorem establishIoConnection_lengths (h : st.Listed cfg ns)
    (hregular : Regular cfg (st.view cfg)) {status : OpenStatus}
    (hcall : st.establishIoConnection cfg env = .ok (status, st')) :
    RetainsLengths length st st' := by
  simp only [establishIoConnection] at hcall
  cases hresolve : st.resolveIoConnection cfg with
  | error fault => simp [hresolve] at hcall
  | ok result =>
      obtain ⟨outcome, st₁⟩ := result
      obtain ⟨hframe, hnone | hsome⟩ := resolveIoConnection_spec h hregular hresolve
      · obtain ⟨extended, rfl, -⟩ := hnone
        simp only [hresolve] at hcall
        cases hcall
        exact .of_eq hframe.assemblyData
      · obtain ⟨r, ns₁, rfl, hchosen, htype, hlisted₁, hfinds, hvacated⟩ := hsome
        simp only [hresolve] at hcall
        have hr : r ∉ (st₁.deepCopyDummy cfg r).connectionList cfg := hvacated.not_mem
        cases hprepare : (st₁.deepCopyDummy cfg r).prepareIoConnection cfg env r with
        | error fault => simp [hprepare] at hcall
        | ok result =>
            obtain ⟨status₁, st₂⟩ := result
            simp only [hprepare] at hcall
            have hprepared : RetainsLengths length (st₁.deepCopyDummy cfg r) st₂ := by
              intro hlengths
              rw [prepareIoConnection_assemblyData hr hprepare]
              split
              · exact storedAssemblyData_lengths henv hlengths _ _
              · exact hlengths
            have hbefore : RetainsLengths length st st₂ := hprepared.after hframe.assemblyData
            split at hcall
            · cases hcall
              exact hbefore
            · simp only [activateIoConnection] at hcall
              cases hadd : st₂.addNewActiveConnection cfg r with
              | error fault => simp [hadd] at hcall
              | ok st₃ =>
                  simp only [hadd] at hcall
                  cases hcall
                  exact (hbefore.trans (addNewActiveConnection_lengths hadd)).trans (.of_eq rfl)

omit henv in
theorem establishClass3Connection_lengths {status : OpenStatus}
    (hcall : st.establishClass3Connection cfg = .ok (status, st')) :
    RetainsLengths length st st' := by
  simp only [establishClass3Connection] at hcall
  split at hcall
  · cases hcall
    exact .refl st
  · rename_i r hr
    have hprepared : Stores st ((st.deepCopyDummy cfg r).prepareClass3Connection cfg r) := by
      have hcopied : Stores st (st.deepCopyDummy cfg r) := ⟨rfl, rfl⟩
      rw [prepareClass3Connection]
      refine Stores.trans ?_ (stores_modifyConn r _ _)
      exact hcopied.trans (generalConfiguration_stores cfg r _)
    generalize (st.deepCopyDummy cfg r).prepareClass3Connection cfg r = st₁ at hcall hprepared
    split at hcall
    · cases hcall
    · rename_i st₂ hadd
      cases hcall
      exact (addNewActiveConnection_lengths hadd).after hprepared.assemblyData

theorem openConnection_lengths (h : st.Listed cfg ns) (hregular : Regular cfg (st.view cfg))
    {status : OpenStatus} (hcall : st.openConnection cfg env = .ok (status, st')) :
    RetainsLengths length st st' := by
  simp only [openConnection] at hcall
  split at hcall
  · cases hcall
    exact .refl st
  · cases hcall
    exact .refl st
  · exact establishClass3Connection_lengths hcall
  · exact establishIoConnection_lengths henv h hregular hcall

theorem forwardOpenRoutine_lengths (hsound : st.Sound cfg) {isLarge : Bool}
    {request : MessageRouterRequest} {originatorAddress : SockaddrIn}
    {encapsulationSession : UInt32} {response : MessageRouterResponse}
    (hcall : st.forwardOpenRoutine cfg env isLarge request originatorAddress
      encapsulationSession = .ok (response, st')) : RetainsLengths length st st' := by
  rw [forwardOpenRoutine_eq] at hcall
  have hreceived : ∀ {refusal st₁}, st.forwardOpenRequest cfg env isLarge request
      originatorAddress encapsulationSession = .ok (refusal, st₁) →
      st₁.assemblyData = st.assemblyData := by
    intro refusal st₁ hrequest
    rw [(forwardOpenRequest_receives hrequest).1.eq]
  split at hcall
  · cases hcall
  · rename_i status st₁ hrequest
    have hanswers := assembleForwardOpenResponse_answers st₁ st₁.dummy status
    rw [Except.ok.injEq, refuse] at hcall
    rw [hcall] at hanswers
    exact .of_eq (hanswers.assemblyData.trans (hreceived hrequest))
  · rename_i st₁ hrequest
    obtain ⟨hsound₁, -⟩ := (forwardOpenRequest_receives hrequest).1.requested hsound
    split at hcall
    · cases hcall
    · rename_i status st₂ hopen
      obtain ⟨ns, hlisted⟩ := hsound₁.wellFormed
      have hopened := openConnection_lengths henv hlisted hsound₁.regular hopen
      have hanswers := answerOpenConnection_answers hcall
      exact (hopened.after (hreceived hrequest)).trans (.of_eq hanswers.assemblyData)

theorem notifyMessageRouter_lengths (hsound : st.Sound cfg) {data : Message}
    {dataLength : UInt16} {originatorAddress : SockaddrIn} {encapsulationSession : UInt32}
    {response : Option MessageRouterResponse}
    (hcall : st.notifyMessageRouter cfg env data dataLength originatorAddress
      encapsulationSession = .ok (response, st')) : RetainsLengths length st st' := by
  simp only [notifyMessageRouter] at hcall
  cases hparse : createMessageRouterRequestStructure data dataLength with
  | error generalStatus =>
      simp only [hparse] at hcall
      cases hcall
      exact .refl st
  | ok parsed =>
      obtain ⟨epath, request⟩ := parsed
      simp only [hparse] at hcall
      split at hcall
      · split at hcall
        · cases hroutine : st.forwardOpenRoutine cfg env false request originatorAddress
              encapsulationSession with
          | error fault => simp [hroutine] at hcall
          | ok result =>
              simp only [hroutine] at hcall
              cases hcall
              exact forwardOpenRoutine_lengths henv hsound hroutine
        · split at hcall
          · cases hroutine : st.forwardOpenRoutine cfg env true request originatorAddress
                encapsulationSession with
            | error fault => simp [hroutine] at hcall
            | ok result =>
                simp only [hroutine] at hcall
                cases hcall
                exact forwardOpenRoutine_lengths henv hsound hroutine
          · split at hcall
            · cases hroutine : st.forwardClose cfg request originatorAddress with
              | error fault => simp [hroutine] at hcall
              | ok result =>
                  simp only [hroutine] at hcall
                  cases hcall
                  obtain ⟨ns, hlisted⟩ := hsound.wellFormed
                  exact forwardClose_lengths hlisted hsound.regular hroutine
            · cases hcall
              exact .refl st
      · cases hcall
        exact .refl st

theorem notifyCommonPacketFormat_lengths (hsound : st.Sound cfg) {data : Message}
    {originatorAddress : SockaddrIn} {encapsulationSession : UInt32}
    {reply : Option (List UInt8)}
    (hcall : st.notifyCommonPacketFormat cfg env data originatorAddress
      encapsulationSession = .ok (reply, st')) : RetainsLengths length st st' := by
  simp only [notifyCommonPacketFormat] at hcall
  generalize CommonPacketFormatData.createCommonPacketFormatStructure data data.length st.cpf =
    parsed at hcall
  obtain ⟨status, cpf⟩ := parsed
  dsimp only at hcall
  split at hcall
  · cases hcall
    exact .of_eq rfl
  · split at hcall
    · split at hcall
      · cases hcall
      · rename_i response st₁ hnotify
        cases hcall
        have hsound₁ := ((touched_cpf st cpf).sound hsound).1
        exact (notifyMessageRouter_lengths henv hsound₁ hnotify).after rfl
    · cases hcall
      exact .of_eq rfl

theorem notifyConnectedRequest_lengths (hsound : st.Sound cfg) {r : ConnRef}
    {sequence : UInt16} {buffer : Message} {bufferLength : UInt16}
    {originatorAddress : SockaddrIn} {encapsulationSession : UInt32}
    {reply : Option (List UInt8)}
    (hcall : st.notifyConnectedRequest cfg env r sequence buffer bufferLength originatorAddress
      encapsulationSession = .ok (reply, st')) : RetainsLengths length st st' := by
  simp only [notifyConnectedRequest] at hcall
  split at hcall
  · cases hcall
    exact .refl st
  · have htouched : Touched st (st.modifyConn r fun c =>
        { c with sequenceCountConsuming := sequence }) := touched_modifyConn st r rfl
    have hsound₁ := (htouched.sound hsound).1
    have hdata : (st.modifyConn r fun c =>
      { c with sequenceCountConsuming := sequence }).assemblyData = st.assemblyData := rfl
    generalize (st.modifyConn r fun c => { c with sequenceCountConsuming := sequence }) = st₁
      at hcall hsound₁ hdata
    cases hnotify : st₁.notifyMessageRouter cfg env buffer bufferLength originatorAddress
        encapsulationSession with
    | error fault => simp [hnotify] at hcall
    | ok result =>
        obtain ⟨response, st₂⟩ := result
        have hrouted := (notifyMessageRouter_lengths henv hsound₁ hnotify).after hdata
        cases response with
        | none =>
            simp only [hnotify] at hcall
            cases hcall
            exact hrouted
        | some response =>
            simp only [hnotify] at hcall
            cases hcall
            exact hrouted.trans (.of_eq rfl)

theorem notifyConnectedCommonPacketFormat_lengths (hsound : st.Sound cfg) {data : Message}
    {originatorAddress : SockaddrIn} {encapsulationSession : UInt32}
    {reply : Option (List UInt8)}
    (hcall : st.notifyConnectedCommonPacketFormat cfg env data originatorAddress
      encapsulationSession = .ok (reply, st')) : RetainsLengths length st st' := by
  simp only [notifyConnectedCommonPacketFormat] at hcall
  generalize CommonPacketFormatData.createCommonPacketFormatStructure data data.length st.cpf =
    parsed at hcall
  obtain ⟨status, cpf⟩ := parsed
  dsimp only at hcall
  split at hcall
  · cases hcall
    exact .of_eq rfl
  · split at hcall
    · cases hcall
      exact .of_eq rfl
    · rename_i r hr
      split at hcall
      · cases hcall
        exact .of_eq rfl
      · have htouched : Touched st (receiveConnectedRequest r
            (Message.getUint cpf.dataItem.data).1 { st with cpf := cpf }) :=
          (touched_cpf st cpf).trans (receiveConnectedRequest_touched r _ _)
        exact (notifyConnectedRequest_lengths henv (htouched.sound hsound).1 hcall).after rfl

end Steps

theorem registerSession_lengths {socket : Int}
    (hcall : st.registerSession env socket = .ok st') : RetainsLengths length st st' := by
  simp only [registerSession] at hcall
  split at hcall
  · cases hcall
    exact .refl st
  · split at hcall
    · cases hcall
      exact .refl st
    · split at hcall
      · cases hcall
      · cases hcall
        exact .of_eq rfl

/-- Closing sessions discards connections and leaves the assemblies alone. -/
theorem lengths_of_discarded (hsound : st.Sound cfg)
    (h : ∀ ns, st.Listed cfg ns → ∃ ns', Discarded cfg st ns st' ns') :
    RetainsLengths length st st' := by
  obtain ⟨ns, hlisted⟩ := hsound.wellFormed
  obtain ⟨ns', hdiscarded⟩ := h ns hlisted
  exact .of_eq hdiscarded.departed.frame.assemblyData

/-- A step keeps the lengths if the application does. -/
theorem step_lengths (hsound : st.Sound cfg) {label : Environment × Action}
    (hkeeps : KeepsLengths length label) (hstep : st.step cfg label = .ok st') :
    RetainsLengths length st st' := by
  obtain ⟨env, action⟩ := label
  have henv : env.KeepsLengths length := hkeeps.callbacks
  have hregular := hsound.regular
  obtain ⟨ns, hlisted⟩ := hsound.wellFormed
  cases action with
  | sendRRData session originatorAddress data =>
      simp only [step] at hstep
      split at hstep
      · split at hstep
        · cases hstep
        · rename_i reply st₁ hnotify
          cases hstep
          exact notifyCommonPacketFormat_lengths henv hsound hnotify
      · cases hstep
        exact .refl st
  | sendUnitData session originatorAddress data =>
      simp only [step] at hstep
      split at hstep
      · split at hstep
        · cases hstep
        · rename_i reply st₁ hnotify
          cases hstep
          exact notifyConnectedCommonPacketFormat_lengths henv hsound hnotify
      · cases hstep
        exact .refl st
  | manageConnections elapsedTime => exact manageConnections_lengths henv hlisted hregular hstep
  | checkAndHandleConsumingUdpSocket =>
      exact checkAndHandleConsumingUdpSocket_lengths henv hlisted hregular hstep
  | registerSession socket => exact registerSession_lengths hstep
  | unregisterSession sessionHandle =>
      exact lengths_of_discarded hsound fun _ h => unregisterSession_discarded h hregular hstep
  | closeSession socket =>
      exact lengths_of_discarded hsound fun _ h => closeSession_discarded h hregular hstep
  | removeSession socket =>
      exact lengths_of_discarded hsound fun _ h => removeSession_discarded h hregular hstep
  | disconnect socket =>
      simp only [step] at hstep
      cases hclose : st.closeTcpSocket socket with
      | error fault => simp [hclose] at hstep
      | ok st₁ =>
          simp only [hclose] at hstep
          exact lengths_of_discarded hsound fun _ h =>
            disconnect_discarded h hregular hclose hstep
  | checkEncapsulationInactivity socket =>
      exact lengths_of_discarded hsound fun _ h =>
        checkEncapsulationInactivity_discarded h hregular hstep
  | handleClosedTcpSocket socket =>
      exact lengths_of_discarded hsound fun _ h =>
        handleClosedTcpSocket_discarded h hregular hstep
  | setLastUpdate timer =>
      cases hstep
      exact .of_eq rfl
  | triggerConnections outputAssembly inputAssembly =>
      cases hstep
      refine .of_eq ?_
      simp only [triggerConnections]
      split
      · rfl
      · split <;> rfl
  | closeAllConnections =>
      obtain ⟨st₁, hclose, -, -, hframe⟩ :=
        closeFirstConnections_ok hlisted hregular hlisted.length_le
      cases hclose.symm.trans hstep
      exact .of_eq hframe.assemblyData
  | encapsulationShutDown =>
      exact lengths_of_discarded hsound fun _ h => shutDownSessions_discarded h hregular hstep
  | writeAssemblies data =>
      cases hstep
      exact fun _ => hkeeps.writes data rfl

end StackState

end Opener

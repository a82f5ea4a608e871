import Opener.Core.IoPackets
import Opener.Core.SampleApplication
import Opener.Metatheory.AssemblyLengths
import Opener.Metatheory.Lifetimes
import Opener.Metatheory.PacketGrammar

/-!
The sizes of a Forward Open and the sizes on the wire. Opening compares the size of a
direction with the length of its assembly, with two bytes for the sequence count of
class 1 and four for the run/idle header; sending adds the same bytes and receiving
takes them off again.
-/

namespace Opener

namespace CipConnectionObject

/-- The bytes in front of the data of an assembly of the length. -/
def headerSize (c : CipConnectionObject) (runIdle : Bool) (length : Nat) : Nat :=
  (if c.transportClass = .class1 then 2 else 0) +
    (if runIdle = true ∧ length ≠ 0 then 4 else 0)

/-- The size of a data item that carries an assembly of the length. -/
def wireSize (c : CipConnectionObject) (runIdle : Bool) (length : Nat) : Nat :=
  c.headerSize runIdle length + length

theorem connectionPointSize_iff (c : CipConnectionObject) (runIdle : Bool) (size : UInt32)
    (length : Nat) :
    (length : Int) = (connectionPointSize c runIdle size length).1 ↔
      size.toNat = c.wireSize runIdle length := by
  simp only [connectionPointSize, wireSize, headerSize]
  by_cases hclass : c.transportClass = .class1
  · simp only [if_pos hclass]
    split
    · rename_i hheader
      rw [if_pos ⟨hheader.1, hheader.2.2⟩]
      have hpositive := hheader.2.1
      dsimp only at hpositive ⊢
      omega
    · rename_i hheader
      dsimp only at hheader ⊢
      split
      · rename_i hcarries
        have hsmall : ¬(size.toNat : Int) - 2 > 0 :=
          fun hpositive => hheader ⟨hcarries.1, hpositive, hcarries.2⟩
        omega
      · omega
  · simp only [if_neg hclass]
    split
    · rename_i hheader
      rw [if_pos ⟨hheader.1, hheader.2.2⟩]
      have hpositive := hheader.2.1
      dsimp only at hpositive ⊢
      omega
    · rename_i hheader
      dsimp only at hheader ⊢
      split
      · rename_i hcarries
        have hsmall : ¬(size.toNat : Int) > 0 :=
          fun hpositive => hheader ⟨hcarries.1, hpositive, hcarries.2⟩
        omega
      · omega

theorem connectionSize_lt (parameters : UInt32) (isLfo : Bool) :
    (connectionSize parameters isLfo).toNat < 65536 := by
  rw [connectionSize]
  split
  · rw [UInt32.toNat_and]
    exact Nat.lt_of_le_of_lt Nat.and_le_right (by decide)
  · rw [UInt32.toNat_and]
    exact Nat.lt_of_le_of_lt Nat.and_le_right (by decide)

/-- The directions that are not null have their assembly instance, and its size. -/
structure Fits (cfg : Config) (length : UInt16 → Nat) (c : CipConnectionObject) : Prop where
  consuming : c.oToTConnectionType ≠ .null →
    c.consumingInstance = some c.consumedPath.instanceId ∧
      c.oToTConnectionSize.toNat =
        c.wireSize cfg.consumeRunIdle (length c.consumedPath.instanceId)
  producing : c.tToOConnectionType ≠ .null →
    c.producingInstance = some c.producedPath.instanceId ∧
      c.tToOConnectionSize.toNat =
        c.wireSize cfg.produceRunIdle (length c.producedPath.instanceId)

theorem fits_of_lasting {cfg : Config} {length : UInt16 → Nat} {c d : CipConnectionObject}
    (h : Fits cfg length c) (hlasting : d.lasting = c.lasting) : Fits cfg length d := by
  have hconsuming : (d.oToTConnectionType, d.consumingInstance, d.consumedPath.instanceId) =
      (c.oToTConnectionType, c.consumingInstance, c.consumedPath.instanceId) :=
    lasting_field hlasting
      (fun c => (c.oToTConnectionType, c.consumingInstance, c.consumedPath.instanceId))
      fun _ => rfl
  have hproducing : (d.tToOConnectionType, d.producingInstance, d.producedPath.instanceId) =
      (c.tToOConnectionType, c.producingInstance, c.producedPath.instanceId) :=
    lasting_field hlasting
      (fun c => (c.tToOConnectionType, c.producingInstance, c.producedPath.instanceId))
      fun _ => rfl
  have hsizes : (d.oToTConnectionSize, d.tToOConnectionSize) =
      (c.oToTConnectionSize, c.tToOConnectionSize) :=
    lasting_field hlasting (fun c => (c.oToTConnectionSize, c.tToOConnectionSize)) fun _ => rfl
  have hwire : d.wireSize = c.wireSize :=
    lasting_field hlasting (fun c => c.wireSize) fun _ => rfl
  simp only [Prod.mk.injEq] at hconsuming hproducing hsizes
  obtain ⟨hoToT, hconsumer, hconsumed⟩ := hconsuming
  obtain ⟨htToO, hproducer, hproduced⟩ := hproducing
  refine ⟨?_, ?_⟩
  · rw [hoToT, hconsumer, hconsumed, hsizes.1, hwire]
    exact h.consuming
  · rw [htToO, hproducer, hproduced, hsizes.2, hwire]
    exact h.producing

/-- What the setup of the connection points checked for the request holds of the object
that was opened for it. -/
theorem Points.fits {cfg : Config} {length : UInt16 → Nat} {d c : CipConnectionObject}
    (h : Points cfg length d c) (hterms : c.terms = d.terms) : Fits cfg length c := by
  have htypes : (c.oToTConnectionType, c.tToOConnectionType) =
      (d.oToTConnectionType, d.tToOConnectionType) :=
    terms_field hterms (fun c => (c.oToTConnectionType, c.tToOConnectionType)) fun _ => rfl
  have hpaths : (c.consumedPath.instanceId, c.producedPath.instanceId) =
      (d.consumedPath.instanceId, d.producedPath.instanceId) :=
    terms_field hterms (fun c => (c.consumedPath.instanceId, c.producedPath.instanceId))
      fun _ => rfl
  have hsizes : (c.oToTConnectionSize, c.tToOConnectionSize) =
      (d.oToTConnectionSize, d.tToOConnectionSize) :=
    terms_field hterms (fun c => (c.oToTConnectionSize, c.tToOConnectionSize)) fun _ => rfl
  have hwire : c.wireSize = d.wireSize :=
    terms_field hterms (fun c => c.wireSize) fun _ => rfl
  simp only [Prod.mk.injEq] at htypes hpaths hsizes
  refine ⟨fun hnotNull => ?_, fun hnotNull => ?_⟩
  · rw [htypes.1] at hnotNull
    rw [hpaths.1, hsizes.1, hwire]
    exact ⟨(h.consuming hnotNull).1,
      (connectionPointSize_iff d _ _ _).mp (h.consumedSize hnotNull)⟩
  · rw [htypes.2] at hnotNull
    rw [hpaths.2, hsizes.2, hwire]
    exact ⟨(h.producing hnotNull).1,
      (connectionPointSize_iff d _ _ _).mp (h.producedSize hnotNull)⟩

end CipConnectionObject

open CipConnectionObject (Fits fits_of_lasting)

/-- The listed I/O connections fit the assemblies of the lengths. -/
def View.Sized (cfg : Config) (length : UInt16 → Nat) (V : View) : Prop :=
  ∀ r ∈ V.members, r.isIo = true → Fits cfg length (V.object r)

section Datagram

open CommonPacketFormatData

theorem socketAddressInfoOfType_cleared {cpf : CommonPacketFormatData} {type : UInt16}
    (htype : type ≠ 0) (hfirst : cpf.addressInfoItem0.typeId = 0)
    (hsecond : cpf.addressInfoItem1.typeId = 0) : cpf.socketAddressInfoOfType type = [] := by
  have hnone : cpf.addressInfoItemOfType type = none := by
    rw [addressInfoItemOfType, hfirst, hsecond, if_neg htype.symm, if_neg htype.symm]
  rw [socketAddressInfoOfType, hnone]

/-- `AssembleIOMessage` without socket address items and with an empty data item. -/
theorem assembleIOMessage_empty {cpf : CommonPacketFormatData} {addressItem : List UInt8}
    (haddress : cpf.addressItemBytes = some addressItem)
    (htype : cpf.dataItem.typeId = ItemId.connectedDataItem) (hlength : cpf.dataItem.length = 0)
    (hfirst : cpf.addressInfoItem0.typeId = 0) (hsecond : cpf.addressInfoItem1.typeId = 0) :
    cpf.assembleIOMessage = intBytes cpf.itemCount ++ addressItem ++
      intBytes ItemId.connectedDataItem ++ intBytes 0 := by
  have hdata : cpf.ioDataItemBytes = intBytes ItemId.connectedDataItem ++ intBytes 0 := by
    rw [ioDataItemBytes, if_pos (.inr htype), htype, hlength]
    rfl
  rw [assembleIOMessage, haddress]
  dsimp only
  rw [hdata, socketAddressInfoOfType_cleared (by decide) hfirst hsecond,
    socketAddressInfoOfType_cleared (by decide) hfirst hsecond]
  simp only [List.append_nil, List.append_assoc]

theorem ioPacket_addressItemBytes (cfg : Config) (c : CipConnectionObject)
    (runIdleState : UInt32) (data : List UInt8) (cpf : CommonPacketFormatData) :
    (c.connectedDataFormat cfg data cpf).addressItemBytes =
      some (c.ioPacket cfg runIdleState data).addressItemBytes := by
  by_cases hclass : c.transportClass ≠ .class0
  · simp only [CipConnectionObject.connectedDataFormat, CipConnectionObject.ioPacket,
      IoPacket.addressItemBytes, addressItemBytes, if_pos hclass]
    rfl
  · simp only [CipConnectionObject.connectedDataFormat, CipConnectionObject.ioPacket,
      IoPacket.addressItemBytes, addressItemBytes, if_neg hclass]
    rfl

theorem ioPacket_payload (cfg : Config) (c : CipConnectionObject) (runIdleState : UInt32)
    (data : List UInt8) :
    (c.ioPacket cfg runIdleState data).payload =
      (if c.transportClass = .class1 then intBytes c.sequenceCountProducing else []) ++
        (if CipConnectionObject.sendsRunIdle cfg data then dintBytes runIdleState else []) ++
        data := by
  simp only [IoPacket.payload, CipConnectionObject.ioPacket]
  congr 1
  congr 1
  · split
    · rfl
    · rfl
  · split
    · rfl
    · rfl

/-- The message is the datagram of the packet that the stack records. -/
theorem outgoingMessage_eq (cfg : Config) (c : CipConnectionObject) (runIdleState : UInt32)
    (data : List UInt8) (cpf : CommonPacketFormatData) :
    c.outgoingMessage cfg runIdleState data cpf = (c.ioPacket cfg runIdleState data).bytes := by
  have hpayload := ioPacket_payload cfg c runIdleState data
  have haddress := ioPacket_addressItemBytes cfg c runIdleState data cpf
  have hlength : (c.connectedDataFormat cfg data cpf).dataItem.length =
      UInt16.ofNat (c.ioPacket cfg runIdleState data).payload.length := by
    rw [hpayload]
    simp only [CipConnectionObject.connectedDataFormat]
    congr 1
    split <;> split <;> simp [intBytes, dintBytes]
  generalize hformat : c.connectedDataFormat cfg data cpf = format at haddress hlength
  have hmessage : assembleIOMessage
      { format with dataItem := { format.dataItem with length := 0 } } =
        intBytes 2 ++ (c.ioPacket cfg runIdleState data).addressItemBytes ++
          intBytes ItemId.connectedDataItem ++ intBytes 0 := by
    subst hformat
    exact assembleIOMessage_empty haddress rfl rfl rfl rfl
  rw [CipConnectionObject.outgoingMessage, hformat]
  dsimp only
  rw [hmessage, hlength, hpayload, IoPacket.bytes, hpayload, List.take_left' (by simp [intBytes])]
  simp only [List.append_assoc]

/-- The bytes of the item count, of the address item, and of the type and length of the
data item. -/
def CipConnectionObject.itemHeaders (c : CipConnectionObject) : Nat :=
  if c.transportClass = .class0 then 14 else 18

theorem outgoingMessage_length (cfg : Config) (c : CipConnectionObject) (runIdleState : UInt32)
    (data : List UInt8) (cpf : CommonPacketFormatData) :
    (c.outgoingMessage cfg runIdleState data cpf).length =
      c.itemHeaders + c.wireSize cfg.produceRunIdle data.length := by
  have haddress : (c.ioPacket cfg runIdleState data).addressItemBytes.length + 6 =
      c.itemHeaders := by
    rw [IoPacket.addressItemBytes, CipConnectionObject.itemHeaders]
    by_cases hclass : c.transportClass = .class0
    · simp [CipConnectionObject.ioPacket, hclass, intBytes, dintBytes]
    · simp [CipConnectionObject.ioPacket, hclass, intBytes, dintBytes]
  have hpayload : (c.ioPacket cfg runIdleState data).payload.length =
      c.wireSize cfg.produceRunIdle data.length := by
    rw [ioPacket_payload, CipConnectionObject.wireSize, CipConnectionObject.headerSize]
    simp only [CipConnectionObject.sendsRunIdle, decide_eq_true_eq, List.length_append]
    congr 2
    · split <;> rfl
    · split <;> rfl
  have hint (value : UInt16) : (intBytes value).length = 2 := rfl
  rw [outgoingMessage_eq, IoPacket.bytes]
  simp only [List.length_append, hint, hpayload]
  omega

end Datagram

namespace StackState

variable {cfg : Config} {env : Environment} {st st' : StackState} {length : UInt16 → Nat}

theorem Sized.persists {V V' : View} (h : V.Sized cfg length)
    (hpersists : Persists V V') : V'.Sized cfg length := by
  intro r hr hio
  exact fits_of_lasting (h r (hpersists.sublist.subset hr) hio) (hpersists.lasting r hr)

theorem Answered.sized {status : OpenStatus} {V : View} (h : Answered cfg env st status V)
    (hbefore : (st.view cfg).Sized cfg (st.assemblyLength cfg)) :
    V.Sized cfg (st.assemblyLength cfg) := by
  cases h with
  | unchanged failed => exact hbefore
  | io assembly established =>
      cases established with
      | nothing failed lookup => exact hbefore
      | refused failed chosen finds instanceType vacated idle =>
          exact Sized.persists hbefore
            ((Persists.vacated vacated).trans (.scratch vacated.not_mem _ _))
      | @opened r V₁ _ chosen finds instanceType vacated opens granted points =>
          have hkept := Sized.persists hbefore (.vacated vacated)
          intro s hs hio
          rw [opens.members_eq] at hs
          cases List.mem_cons.mp hs with
          | inl hhead =>
              rw [hhead]
              exact points.fits granted.terms
          | inr hmember =>
              exact fits_of_lasting (hkept s hmember hio)
                (opens.others vacated.not_mem hmember).1
  | @class3 r c unlisted explicit kind established granted router =>
      intro s hs hio
      have hne : s ≠ r := (ConnRef.ne_of_isIo explicit hio).symm
      rw [View.insert_object_of_ne _ hne]
      exact hbefore s ((List.mem_cons.mp hs).resolve_left hne) hio

theorem messageEntry_assemblyData {data : Message} {dataLength : UInt16}
    {originatorAddress : SockaddrIn} {encapsulationSession : UInt32} {st₁ : StackState}
    (h : messageEntry cfg env data dataLength originatorAddress encapsulationSession st =
      some st₁) : st₁.assemblyData = st.assemblyData := by
  simp only [messageEntry] at h
  split at h
  · cases h
  · split at h
    · split at h
      · rename_i hrequest
        cases h
        rw [(forwardOpenRequest_receives hrequest).1.eq]
      · cases h
    · cases h

theorem openEntry_assemblyData {label : Environment × Action} {st₁ : StackState}
    (h : openEntry cfg label st = some st₁) : st₁.assemblyData = st.assemblyData := by
  obtain ⟨env, action⟩ := label
  cases action with
  | sendRRData session originatorAddress data =>
      simp only [openEntry] at h
      split at h
      · exact (messageEntry_assemblyData h).trans rfl
      · cases h
  | sendUnitData session originatorAddress data =>
      simp only [openEntry] at h
      split at h
      · split at h
        · cases h
        · split at h
          · cases h
          · exact (messageEntry_assemblyData h).trans rfl
      · cases h
  | _ => cases h

theorem step_sized (hsound : st.Sound cfg) (hlengths : HasLengths length st.assemblyData)
    (hsized : (st.view cfg).Sized cfg (st.assemblyLength cfg)) {label : Environment × Action}
    (hkeeps : KeepsLengths length label) (hstep : st.step cfg label = .ok st') :
    (st'.view cfg).Sized cfg (st'.assemblyLength cfg) := by
  rw [assemblyLength_congr hlengths (step_lengths hsound hkeeps hstep hlengths)]
  obtain ⟨-, htransition⟩ := step_spec hsound hstep
  generalize st'.view cfg = V' at htransition
  cases htransition with
  | quiet moves => exact Sized.persists hsized (.moves moves)
  | @opening st₁ status V _ entry before answered after =>
      have hentry : st₁.assemblyLength cfg = st.assemblyLength cfg :=
        assemblyLength_congr hlengths (RetainsLengths.of_eq (openEntry_assemblyData entry) hlengths)
      rw [← hentry] at hsized ⊢
      exact Sized.persists (answered.sized (Sized.persists hsized (.moves before)))
        (.moves after)

/-- The assemblies keep their lengths, and the sizes of every listed I/O connection are
those of its assemblies. -/
theorem sized_of_reaches {assemblyData : UInt16 → List UInt8}
    (hassemblies : HasLengths length assemblyData)
    (h : Runs.Reaches (step cfg) (fun label _ => KeepsLengths length label)
      (initialState cfg assemblyData) st) :
    HasLengths length st.assemblyData ∧ (st.view cfg).Sized cfg (st.assemblyLength cfg) := by
  have hinvariant : st.Sound cfg ∧ HasLengths length st.assemblyData ∧
      (st.view cfg).Sized cfg (st.assemblyLength cfg) := by
    refine h.invariant (fun st => st.Sound cfg ∧ HasLengths length st.assemblyData ∧
      (st.view cfg).Sized cfg (st.assemblyLength cfg))
      ⟨sound_initialState cfg assemblyData, hassemblies, ?_⟩ ?_
    · intro r hr
      rw [view_members, connectionList_initialState] at hr
      cases hr
    · rintro label s s' ⟨hsound, hlengths, hsized⟩ hkeeps hstep
      exact ⟨(step_spec hsound hstep).1, step_lengths hsound hkeeps hstep hlengths,
        step_sized hsound hlengths hsized hkeeps hstep⟩
  exact hinvariant.2

/-- The bytes of the data item of a packet. -/
def IoPacket.dataItemSize (packet : IoPacket) : Nat :=
  (if packet.sequenceCount.isSome then 2 else 0) + (if packet.runIdle.isSome then 4 else 0) +
    packet.data.length

theorem ioPacket_dataItemSize (c : CipConnectionObject) (runIdleState : UInt32)
    (data : List UInt8) :
    IoPacket.dataItemSize (c.ioPacket cfg runIdleState data) =
      c.wireSize cfg.produceRunIdle data.length := by
  simp only [IoPacket.dataItemSize, CipConnectionObject.ioPacket, CipConnectionObject.wireSize,
    CipConnectionObject.headerSize, CipConnectionObject.sendsRunIdle, decide_eq_true_eq]
  split <;> split <;> simp_all

theorem connectedDataFormat_length (c : CipConnectionObject) (data : List UInt8)
    (cpf : CommonPacketFormatData) :
    (c.connectedDataFormat cfg data cpf).dataItem.length =
      UInt16.ofNat (c.wireSize cfg.produceRunIdle data.length) := by
  simp only [CipConnectionObject.connectedDataFormat, CipConnectionObject.wireSize,
    CipConnectionObject.headerSize, CipConnectionObject.sendsRunIdle, decide_eq_true_eq]
  congr 1
  omega

theorem collectData_sizes (env : Environment) (instanceNumber : UInt16) (r : ConnRef)
    (st : StackState) :
    ((st.collectData env instanceNumber r).conn r).wireSize = (st.conn r).wireSize ∧
      ((st.collectData env instanceNumber r).conn r).itemHeaders = (st.conn r).itemHeaders := by
  obtain ⟨changed, assemblyData, hcall⟩ : ∃ changed assemblyData,
      env.beforeAssemblyDataSend instanceNumber st.assemblyData = (changed, assemblyData) :=
    ⟨_, _, rfl⟩
  have hconn : (st.collectData env instanceNumber r).conn r =
      (st.conn r).countData changed := by
    simp only [collectData, hcall]
    exact conn_modifyConn_self _ r _
  rw [hconn]
  cases changed with
  | false => exact ⟨rfl, rfl⟩
  | true => exact ⟨rfl, rfl⟩

theorem collectData_length {instanceNumber : UInt16} {r : ConnRef}
    (henv : env.KeepsLengths length) (hlengths : HasLengths length st.assemblyData) :
    ((st.collectData env instanceNumber r).assemblyData instanceNumber).length =
      length instanceNumber :=
  henv.sends instanceNumber st.assemblyData hlengths instanceNumber

theorem sendConnectedData_eq (cfg : Config) {r : ConnRef} {instanceNumber : UInt16}
    (hinstance : (st.conn r).producingInstance = some instanceNumber)
    (hpoint : instanceNumber ≠ 0) (henv : env.KeepsLengths length)
    (hlengths : HasLengths length st.assemblyData) :
    ∃ (st₁ : StackState) (data : List UInt8), data.length = length instanceNumber ∧
      st₁.events = st.events ∧ (st₁.conn r).wireSize = (st.conn r).wireSize ∧
      st.sendConnectedData cfg env r =
        if ethernetBufferSize < (st.conn r).itemHeaders +
            (st.conn r).wireSize cfg.produceRunIdle (length instanceNumber) then
          .error .messageOverrun
        else .ok (st₁.sendUdpData cfg (st₁.conn r) data) := by
  obtain ⟨hwire, hheaders⟩ := collectData_sizes env instanceNumber r
    (st.modifyConn r CipConnectionObject.countPacket)
  have hlength : (((st.modifyConn r CipConnectionObject.countPacket).collectData env
      instanceNumber r).assemblyData instanceNumber).length = length instanceNumber :=
    collectData_length henv hlengths
  rw [conn_modifyConn_self] at hwire hheaders
  refine ⟨(st.modifyConn r CipConnectionObject.countPacket).collectData env instanceNumber r,
    _, hlength, rfl, hwire, ?_⟩
  have hproducing :
      ((st.modifyConn r CipConnectionObject.countPacket).conn r).producingInstance =
        some instanceNumber := by
    rw [conn_modifyConn_self]
    exact hinstance
  rw [sendConnectedData]
  dsimp only
  rw [hproducing]
  dsimp only
  rw [if_neg hpoint, outgoingMessage_length, hlength, hwire, hheaders]
  rfl

/-- `SendConnectedData` on a connection that fits sends a packet of the T->O size, if
headers and data find room in the message. -/
theorem sendConnectedData_size {r : ConnRef} (henv : env.KeepsLengths length)
    (hlengths : HasLengths length st.assemblyData)
    (hfits : Fits cfg (st.assemblyLength cfg) (st.conn r))
    (htToO : (st.conn r).tToOConnectionType ≠ .null)
    (hpoint : (st.conn r).producedPath.instanceId ≠ 0) :
    (∃ st' packet, st.sendConnectedData cfg env r = .ok st' ∧
      st'.events = st.events ++ [.sent packet] ∧
      IoPacket.dataItemSize packet = (st.conn r).tToOConnectionSize.toNat ∧
      st'.cpf.dataItem.length.toNat = (st.conn r).tToOConnectionSize.toNat) ↔
    (st.conn r).itemHeaders + (st.conn r).tToOConnectionSize.toNat ≤ ethernetBufferSize := by
  obtain ⟨hinstance, hsize⟩ := hfits.producing htToO
  rw [assemblyLength, if_neg hpoint, hlengths] at hsize
  obtain ⟨st₁, data, hlength, hevents, hwire, hcall⟩ :=
    sendConnectedData_eq cfg hinstance hpoint henv hlengths
  rw [hcall, ← hsize]
  by_cases hroom : (st.conn r).itemHeaders + (st.conn r).tToOConnectionSize.toNat ≤
      ethernetBufferSize
  · refine iff_of_true ?_ hroom
    have hsame : (st₁.conn r).wireSize cfg.produceRunIdle data.length =
        (st.conn r).tToOConnectionSize.toNat := by
      rw [hwire, hlength, hsize]
    have hbound := CipConnectionObject.connectionSize_lt
      (st.conn r).tToONetworkConnectionParameters (st.conn r).isLargeForwardOpen
    rw [if_neg (Nat.not_lt.mpr hroom)]
    refine ⟨_, _, rfl, congrArg (· ++ _) hevents, ?_, ?_⟩
    · rw [ioPacket_dataItemSize, hsame]
    · refine (congrArg UInt16.toNat (connectedDataFormat_length _ _ _)).trans ?_
      rw [hsame, UInt16.toNat_ofNat']
      exact Nat.mod_eq_of_lt hbound
  · refine iff_of_false ?_ hroom
    rw [if_pos (Nat.lt_of_not_le hroom)]
    rintro ⟨st', packet, hok, -⟩
    cases hok

/-- Class 1 data that is not new. -/
def repeatsData (r : ConnRef) (data : Message) (st : StackState) : Bool :=
  (st.conn r).transportClass = .class1 &&
    seqLeq16 data.getUint.1 (st.conn r).sequenceCountConsuming

/-- The payload goes to the assembly and the application is told. -/
def deliver (env : Environment) (instanceNumber : UInt16) (payload : List UInt8)
    (st : StackState) : EipStatus × StackState :=
  let (status, assemblyData) := env.afterAssemblyDataReceived instanceNumber
    (Function.update st.assemblyData instanceNumber payload)
  (if status = .ok then .ok else .error, { st with assemblyData := assemblyData })

theorem receiveSequenceCount_takes (st : StackState) (r : ConnRef) (data : Message)
    {dataLength : UInt16}
    (hlength : (if (st.conn r).transportClass = .class1 then 2 else 0) ≤ dataLength.toNat) :
    ∃ dataLength' st₁, st.receiveSequenceCount r data dataLength =
        (st.repeatsData r data,
          data.drop (if (st.conn r).transportClass = .class1 then 2 else 0), dataLength', st₁) ∧
      dataLength'.toNat + (if (st.conn r).transportClass = .class1 then 2 else 0) =
        dataLength.toNat ∧
      st₁.assemblyData = st.assemblyData ∧
      (st₁.conn r).consumingInstance = (st.conn r).consumingInstance := by
  rw [receiveSequenceCount, repeatsData]
  by_cases hclass : (st.conn r).transportClass = .class1
  · rw [if_pos hclass] at hlength ⊢
    rw [if_pos hclass, decide_eq_true hclass, Bool.true_and]
    refine ⟨_, _, rfl, ?_, rfl, ?_⟩
    · have htwo : (2 : UInt16) ≤ dataLength := UInt16.le_iff_toNat_le.mpr hlength
      rw [UInt16.toNat_sub_of_le _ _ htwo]
      exact Nat.sub_add_cancel hlength
    · rw [conn_modifyConn_self]
  · rw [if_neg hclass, if_neg hclass, decide_eq_false hclass, Bool.false_and]
    exact ⟨_, _, rfl, rfl, rfl, rfl⟩

/-- The last part of `HandleReceivedIoConnectionData` with data of the assembly's
length. -/
theorem reported_eq_deliver {r : ConnRef} {instanceNumber : UInt16} {length : Nat}
    (hpoint : instanceNumber ≠ 0)
    (hinstance : (st.conn r).consumingInstance = some instanceNumber)
    (hlength : length = (st.assemblyData instanceNumber).length) (payload : Message)
    {dataLength : UInt16} (hdataLength : dataLength.toNat = length) :
    (match (st.conn r).consumingInstance with
      | none => .error .nullDereference
      | some instanceNumber =>
          match st.notifyAssemblyConnectedDataReceived env instanceNumber
              (payload.takeBytes dataLength.toNat) with
          | .error fault => .error fault
          | .ok (.ok, st) => .ok (.ok, st)
          | .ok (_, st) => .ok (.error, st) : Except Fault (EipStatus × StackState)) =
      .ok (deliver env instanceNumber (payload.takeBytes length) st) := by
  have hpayload : ¬(st.assemblyData instanceNumber).length ≠
      (payload.takeBytes length).length := by
    rw [Message.takeBytes, List.length_map, List.length_range, not_not]
    exact hlength.symm
  obtain ⟨status, assemblyData, htold⟩ : ∃ status assemblyData,
      env.afterAssemblyDataReceived instanceNumber
        (Function.update st.assemblyData instanceNumber (payload.takeBytes length)) =
        (status, assemblyData) := ⟨_, _, rfl⟩
  rw [hinstance, hdataLength]
  simp only [notifyAssemblyConnectedDataReceived, deliver, if_neg hpoint, if_neg hpayload, htold]
  cases status with
  | ok => rfl
  | okSend => rfl
  | error => rfl

theorem handleReceivedIoConnectionData_size {r : ConnRef}
    (hfits : Fits cfg (st.assemblyLength cfg) (st.conn r))
    (hoToT : (st.conn r).oToTConnectionType ≠ .null)
    (hpoint : (st.conn r).consumedPath.instanceId ≠ 0) (data : Message) {length : Nat}
    (hlength : length = (st.assemblyData (st.conn r).consumedPath.instanceId).length) :
    ∃ st₁, st₁.assemblyData = st.assemblyData ∧
      st.handleReceivedIoConnectionData cfg env r data
          (st.conn r).oToTConnectionSize.toUInt16 =
        .ok (if length = 0 ∨ st.repeatsData r data = true then (.ok, st₁)
          else deliver env (st.conn r).consumedPath.instanceId
            (Message.takeBytes
              (data.drop ((st.conn r).headerSize cfg.consumeRunIdle length)) length) st₁) := by
  obtain ⟨hinstance, hsize⟩ := hfits.consuming hoToT
  rw [assemblyLength, if_neg hpoint, ← hlength] at hsize
  generalize (st.conn r).consumedPath.instanceId = instanceNumber
    at hinstance hsize hpoint hlength ⊢
  have hbound := CipConnectionObject.connectionSize_lt
    (st.conn r).oToTNetworkConnectionParameters (st.conn r).isLargeForwardOpen
  have hnat : (st.conn r).oToTConnectionSize.toUInt16.toNat =
      (st.conn r).wireSize cfg.consumeRunIdle length := by
    rw [UInt32.toNat_toUInt16, ← hsize]
    exact Nat.mod_eq_of_lt hbound
  rw [CipConnectionObject.wireSize, CipConnectionObject.headerSize] at hnat
  have hcounted : (if (st.conn r).transportClass = .class1 then 2 else 0) ≤
      (st.conn r).oToTConnectionSize.toUInt16.toNat := by
    omega
  obtain ⟨dataLength, st₁, hcount, htaken, hdata₁, hconsuming⟩ :=
    receiveSequenceCount_takes st r data hcounted
  simp only [handleReceivedIoConnectionData, hcount, CipConnectionObject.headerSize]
  generalize (if (st.conn r).transportClass = .class1 then 2 else 0) = counted
    at hnat htaken ⊢
  generalize st.repeatsData r data = repeats
  have hrest : dataLength.toNat =
      (if cfg.consumeRunIdle = true ∧ length ≠ 0 then 4 else 0) + length := by
    omega
  have hlength₁ : length = (st₁.assemblyData instanceNumber).length := by
    rw [hdata₁]
    exact hlength
  by_cases hheartbeat : length = 0
  · have hzero : ¬dataLength > 0 := by
      rw [gt_iff_lt, UInt16.lt_iff_toNat_lt, hrest, if_neg fun hboth => hboth.2 hheartbeat,
        hheartbeat]
      exact Nat.lt_irrefl 0
    refine ⟨st₁, hdata₁, ?_⟩
    rw [if_neg hzero, if_pos (.inl hheartbeat)]
  · have hpositive : dataLength > 0 := by
      rw [gt_iff_lt, UInt16.lt_iff_toNat_lt, hrest]
      exact Nat.add_pos_right _ (Nat.pos_of_ne_zero hheartbeat)
    rw [if_pos hpositive]
    by_cases hrunIdle : cfg.consumeRunIdle = true
    · have hheader : cfg.consumeRunIdle = true ∧ length ≠ 0 := ⟨hrunIdle, hheartbeat⟩
      rw [if_pos hheader] at hrest ⊢
      have hfour : (4 : UInt16) ≤ dataLength := by
        refine UInt16.le_iff_toNat_le.mpr ?_
        rw [hrest]
        exact Nat.le_add_right 4 length
      have hshort : (dataLength - 4).toNat = length := by
        rw [UInt16.toNat_sub_of_le _ _ hfour, hrest]
        exact Nat.add_sub_cancel_left 4 length
      rw [if_pos hrunIdle]
      refine ⟨{ st₁ with runIdleState := (Message.getUdint (data.drop counted)).1 }, hdata₁, ?_⟩
      have hinstance₂ : (conn { st₁ with
        runIdleState := (Message.getUdint (data.drop counted)).1 } r).consumingInstance =
        some instanceNumber := hconsuming.trans hinstance
      have hlength₂ : length = (({ st₁ with
        runIdleState := (Message.getUdint (data.drop counted)).1 } : StackState).assemblyData
          instanceNumber).length := hlength₁
      dsimp only
      generalize ({ st₁ with
        runIdleState := (Message.getUdint (data.drop counted)).1 } : StackState) = st₂
        at hinstance₂ hlength₂ ⊢
      cases repeats with
      | true =>
          have hquiet : length = 0 ∨ true = true := .inr rfl
          rw [if_pos rfl, if_pos hquiet]
      | false =>
          have hnew : ¬(length = 0 ∨ false = true) :=
            not_or.mpr ⟨hheartbeat, Bool.false_ne_true⟩
          rw [if_neg Bool.false_ne_true, if_neg hnew, Message.getUdint_drop]
          exact reported_eq_deliver hpoint hinstance₂ hlength₂ _ hshort
    · have hheader : ¬(cfg.consumeRunIdle = true ∧ length ≠ 0) := fun hboth => hrunIdle hboth.1
      rw [if_neg hheader] at hrest ⊢
      rw [Nat.zero_add] at hrest
      rw [Nat.add_zero, if_neg hrunIdle]
      refine ⟨st₁, hdata₁, ?_⟩
      dsimp only
      cases repeats with
      | true =>
          have hquiet : length = 0 ∨ true = true := .inr rfl
          rw [if_pos rfl, if_pos hquiet]
      | false =>
          have hnew : ¬(length = 0 ∨ false = true) :=
            not_or.mpr ⟨hheartbeat, Bool.false_ne_true⟩
          rw [if_neg Bool.false_ne_true, if_neg hnew]
          exact reported_eq_deliver hpoint (hconsuming.trans hinstance) hlength₁ _ hrest

/-- The sizes of a Forward Open are the sizes on the wire, where the message has room for
them. In every state of a run in which the application keeps the lengths of the
assemblies, what is sent on an I/O connection is of its T->O size exactly if headers and
data fit in the message buffer, and a data item of its O->T size delivers as many bytes
as the assembly has, none to a heartbeat. Class 1 data that repeats its sequence count
is taken and dropped. -/
theorem negotiated_size_on_wire_iff {assemblyData : UInt16 → List UInt8}
    (hassemblies : HasLengths length assemblyData)
    (h : Runs.Reaches (step cfg) (fun label _ => KeepsLengths length label)
      (initialState cfg assemblyData) st)
    {r : ConnRef} (hr : r ∈ st.connectionList cfg) (hio : r.isIo = true) :
    ((st.conn r).tToOConnectionType ≠ .null → (st.conn r).producedPath.instanceId ≠ 0 →
      ∀ env : Environment, env.KeepsLengths length →
        ((∃ st' packet, st.sendConnectedData cfg env r = .ok st' ∧
          st'.events = st.events ++ [.sent packet] ∧
          IoPacket.dataItemSize packet = (st.conn r).tToOConnectionSize.toNat ∧
          st'.cpf.dataItem.length.toNat = (st.conn r).tToOConnectionSize.toNat) ↔
        (st.conn r).itemHeaders + (st.conn r).tToOConnectionSize.toNat ≤
          ethernetBufferSize)) ∧
    ((st.conn r).oToTConnectionType ≠ .null → (st.conn r).consumedPath.instanceId ≠ 0 →
      ∀ (env : Environment) (data : Message) (bytes : Nat),
        bytes = length (st.conn r).consumedPath.instanceId →
        ∃ st₁, st₁.assemblyData = st.assemblyData ∧
          st.handleReceivedIoConnectionData cfg env r data
              (st.conn r).oToTConnectionSize.toUInt16 =
            .ok (if bytes = 0 ∨ st.repeatsData r data = true then (.ok, st₁)
              else deliver env (st.conn r).consumedPath.instanceId
                (Message.takeBytes
                  (data.drop ((st.conn r).headerSize cfg.consumeRunIdle bytes)) bytes) st₁)) := by
  obtain ⟨hlengths, hsized⟩ := sized_of_reaches hassemblies h
  have hfits := hsized r hr hio
  refine ⟨fun htToO hpoint env henv => sendConnectedData_size henv hlengths hfits htToO hpoint,
    fun hoToT hpoint env data bytes hbytes => ?_⟩
  exact handleReceivedIoConnectionData_size hfits hoToT hpoint data
    (hbytes.trans (hlengths _).symm)

section Sample

open SampleApplication

/-- The lengths of the sample application's assemblies. -/
def sampleLength (instanceNumber : UInt16) : Nat :=
  (SampleApplication.assemblyData instanceNumber).length

/-- Mirroring the outputs fills the inputs with as many bytes as they have. -/
theorem environment_mirrors (rand : UInt16) (udpSocket : Int) (hmirrors : length 150 = length 100) :
    (environment rand udpSocket).KeepsLengths length := by
  refine ⟨fun _ h => h, fun _ _ h => h, fun received data h => ?_⟩
  have hreceived : (environment rand udpSocket).afterAssemblyDataReceived received data =
      SampleApplication.afterAssemblyDataReceived received data := rfl
  rw [hreceived, SampleApplication.afterAssemblyDataReceived]
  split
  · refine h.update ?_
    rw [h, h, hmirrors]
  · exact h

theorem environment_keepsLengths (rand : UInt16) (udpSocket : Int) :
    (environment rand udpSocket).KeepsLengths sampleLength :=
  environment_mirrors rand udpSocket rfl

theorem keepsLengths_request (parameters : OpenParameters) :
    KeepsLengths sampleLength (request parameters) :=
  ⟨environment_keepsLengths _ _, fun _ hwrites => by cases hwrites⟩

theorem reaches_of_run {labels : List (Environment × Action)} {st : StackState}
    (hlabels : ∀ label ∈ labels, KeepsLengths sampleLength label)
    (h : run config labels = .ok st) :
    HasLengths sampleLength SampleApplication.assemblyData ∧
      Runs.Reaches (step config) (fun label _ => KeepsLengths sampleLength label)
        (initialState config SampleApplication.assemblyData) st := by
  refine ⟨fun _ => rfl, Runs.reaches_of_runLabels_forall ?_ h⟩
  intro label hlabel
  cases hlabel with
  | head => exact ⟨environment_keepsLengths _ _, fun _ hwrites => by cases hwrites⟩
  | tail _ hlabel => exact hlabels label hlabel

theorem negotiated_size_on_wire_iff_sample : ∃ st : StackState,
    HasLengths sampleLength SampleApplication.assemblyData ∧
    Runs.Reaches (step config) (fun label _ => KeepsLengths sampleLength label)
      (initialState config SampleApplication.assemblyData) st ∧
    .exclusiveOwner 0 ∈ st.connectionList config ∧
    (st.conn (.exclusiveOwner 0)).tToOConnectionSize = 34 ∧
    (∃ st' packet,
      st.sendConnectedData config (environment 0 20) (.exclusiveOwner 0) = .ok st' ∧
      st'.events = st.events ++ [.sent packet] ∧ IoPacket.dataItemSize packet = 34) ∧
    (st.conn (.exclusiveOwner 0)).oToTConnectionSize = 38 ∧
    ∀ data : Message, ∃ st₁, st₁.assemblyData = st.assemblyData ∧
      st.handleReceivedIoConnectionData config (environment 0 20) (.exclusiveOwner 0) data 38 =
        .ok (if st.repeatsData (.exclusiveOwner 0) data = true then (.ok, st₁)
          else deliver (environment 0 20) 150 (Message.takeBytes (data.drop 6) 32) st₁) := by
  have hends : ends config [request (exclusiveOwner 1 1 multicast)] (fun st =>
      decide (.exclusiveOwner 0 ∈ st.connectionList config ∧
        (st.conn (.exclusiveOwner 0)).tToOConnectionSize = 34 ∧
        (st.conn (.exclusiveOwner 0)).oToTConnectionSize = 38 ∧
        (st.conn (.exclusiveOwner 0)).tToOConnectionType = .multicast ∧
        (st.conn (.exclusiveOwner 0)).oToTConnectionType = .pointToPoint ∧
        (st.conn (.exclusiveOwner 0)).producedPath.instanceId = 100 ∧
        (st.conn (.exclusiveOwner 0)).consumedPath.instanceId = 150 ∧
        (st.conn (.exclusiveOwner 0)).transportClass = .class1)) = true := by
    decide +kernel
  rw [ends] at hends
  cases hrun : run config [request (exclusiveOwner 1 1 multicast)] with
  | error fault => simp [hrun] at hends
  | ok st =>
      simp only [hrun, decide_eq_true_eq] at hends
      obtain ⟨hr, htToO, hoToT, hmulticast, hpointToPoint, hproduced, hconsumed, hclass⟩ := hends
      obtain ⟨hlengths, hreaches⟩ :=
        reaches_of_run (List.forall_mem_singleton.mpr (keepsLengths_request _)) hrun
      obtain ⟨hsends, hreceives⟩ := negotiated_size_on_wire_iff hlengths hreaches hr rfl
      refine ⟨st, hlengths, hreaches, hr, htToO, ?_, hoToT, fun data => ?_⟩
      · have hnotNull : (st.conn (.exclusiveOwner 0)).tToOConnectionType ≠ .null := by
          rw [hmulticast]
          decide
        have hpoint : (st.conn (.exclusiveOwner 0)).producedPath.instanceId ≠ 0 := by
          rw [hproduced]
          decide
        have hroom : (st.conn (.exclusiveOwner 0)).itemHeaders +
            (st.conn (.exclusiveOwner 0)).tToOConnectionSize.toNat ≤ ethernetBufferSize := by
          rw [CipConnectionObject.itemHeaders, htToO, hclass]
          decide
        obtain ⟨st', packet, hcall, hevents, hsize, -⟩ :=
          (hsends hnotNull hpoint _ (environment_keepsLengths 0 20)).mpr hroom
        rw [htToO] at hsize
        exact ⟨st', packet, hcall, hevents, hsize⟩
      · have hnotNull : (st.conn (.exclusiveOwner 0)).oToTConnectionType ≠ .null := by
          rw [hpointToPoint]
          decide
        have hpoint : (st.conn (.exclusiveOwner 0)).consumedPath.instanceId ≠ 0 := by
          rw [hconsumed]
          decide
        have hlength : 32 = sampleLength (st.conn (.exclusiveOwner 0)).consumedPath.instanceId := by
          rw [hconsumed]
          rfl
        have hheader :
            (st.conn (.exclusiveOwner 0)).headerSize config.consumeRunIdle 32 = 6 := by
          rw [CipConnectionObject.headerSize, if_pos hclass]
          rfl
        obtain ⟨st₁, hdata, hcall⟩ :=
          hreceives hnotNull hpoint (environment 0 20) data 32 hlength
        rw [hconsumed, hoToT, hheader] at hcall
        refine ⟨st₁, hdata, hcall.trans ?_⟩
        simp only [OfNat.ofNat_ne_zero, false_or]

/-- The sample application with mirrored assemblies of 501 bytes. -/
def wideAssemblyData : UInt16 → List UInt8 := fun instanceNumber =>
  if instanceNumber = 100 ∨ instanceNumber = 150 then List.replicate 501 0
  else SampleApplication.assemblyData instanceNumber

def wideRequest : Environment × Action :=
  request { inputOnly 1 1 multicast with tToOParameters := multicast + 503 }

/-- A T->O size of 503 bytes for an assembly of 501 is granted, and the packet does not
fit in the message. -/
theorem negotiated_size_overruns :
    let length := fun instanceNumber => (wideAssemblyData instanceNumber).length
    ∃ st : StackState, HasLengths length wideAssemblyData ∧
      Runs.Reaches (step config) (fun label _ => KeepsLengths length label)
        (initialState config wideAssemblyData) st ∧
      .inputOnly 0 0 ∈ st.connectionList config ∧
      (st.conn (.inputOnly 0 0)).tToOConnectionType ≠ .null ∧
      (st.conn (.inputOnly 0 0)).producedPath.instanceId = 100 ∧
      (st.conn (.inputOnly 0 0)).tToOConnectionSize = 503 ∧
      (environment 0 20).KeepsLengths length ∧
      ¬∃ st' packet, st.sendConnectedData config (environment 0 20) (.inputOnly 0 0) = .ok st' ∧
        st'.events = st.events ++ [.sent packet] ∧ IoPacket.dataItemSize packet = 503 := by
  intro length
  have henv (rand : UInt16) (udpSocket : Int) :
      (environment rand udpSocket).KeepsLengths length := environment_mirrors rand udpSocket rfl
  have hlabels : ∀ label ∈ [register, wideRequest], KeepsLengths length label := by
    rw [List.forall_mem_cons, List.forall_mem_singleton]
    exact ⟨⟨henv _ _, fun _ hwrites => by cases hwrites⟩,
      ⟨henv _ _, fun _ hwrites => by cases hwrites⟩⟩
  have hends : returns (Runs.runLabels (step config) [register, wideRequest]
        (initialState config wideAssemblyData)) (fun st =>
      decide (.inputOnly 0 0 ∈ st.connectionList config ∧
          (st.conn (.inputOnly 0 0)).tToOConnectionType ≠ .null ∧
          (st.conn (.inputOnly 0 0)).producedPath.instanceId = 100 ∧
          (st.conn (.inputOnly 0 0)).tToOConnectionSize = 503) &&
        !(returns (st.sendConnectedData config (environment 0 20) (.inputOnly 0 0))
          fun _ => true)) = true := by
    decide +kernel
  obtain ⟨st, hrun, hends⟩ := returns_iff.mp hends
  rw [Bool.and_eq_true, decide_eq_true_eq, Bool.not_eq_true'] at hends
  obtain ⟨⟨hr, htToO, hproduced, hsize⟩, hfault⟩ := hends
  refine ⟨st, fun _ => rfl, Runs.reaches_of_runLabels_forall hlabels hrun, hr, htToO,
    hproduced, hsize, henv 0 20, ?_⟩
  rintro ⟨st', packet, hcall, -⟩
  rw [hcall] at hfault
  cases hfault

end Sample

end StackState

end Opener

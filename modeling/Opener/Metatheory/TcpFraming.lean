import Opener.Core.TcpReceive
import Opener.Library.Runs
import Mathlib.Data.List.GetD

/-!
The frames of a TCP stream. A call that finds the four bytes it asks for first, and
meets no would-block once it has them, takes one encapsulation frame off the stream;
so the frames passed on are the frames of the stream that fit the buffer.
-/

namespace Opener

/-- The length field of a frame. -/
def announcedLength (bytes : List UInt8) : Nat :=
  (Message.getUint (bytes.drop 2)).1.toNat

/-- A header with as many bytes after it as it announces. -/
def IsFrame (bytes : List UInt8) : Prop :=
  bytes.length = encapsulationHeaderLength + announcedLength bytes

def fitsBuffer (bytes : List UInt8) : Bool := bytes.length ≤ ethernetBufferSize

theorem announcedLength_append {header : List UInt8} (rest : List UInt8)
    (h : header.length = 4) : announcedLength (header ++ rest) = announcedLength header := by
  obtain ⟨a, b, c, d, rfl⟩ : ∃ a b c d, header = [a, b, c, d] := by
    match header, h with
    | [a, b, c, d], _ => exact ⟨a, b, c, d, rfl⟩
  rfl

theorem takeBytes_length (bytes : List UInt8) :
    Message.takeBytes bytes bytes.length = bytes := by
  refine List.ext_getElem (by rw [Message.takeBytes, List.length_map, List.length_range]) ?_
  intro i hi hi'
  simp only [Message.takeBytes, List.getElem_map, List.getElem_range, Message.byteAt]
  exact List.getD_eq_getElem bytes 0 hi'

namespace TcpStream

variable {s s' : TcpStream}

/-- The rest of a packet arrives without a would-block in between, and no call
brings more than is left of it. -/
def arrives (remaining request : Nat) (s : TcpStream) : Bool :=
  match _ : s.recv request with
  | (.closed, _) => true
  | (.failed, _) => true
  | (.wouldBlock, _) => false
  | (.bytes data, s') =>
      data.length ≤ remaining &&
        (remaining - data.length = 0 ||
          s'.arrives (remaining - data.length)
            (min ethernetBufferSize (remaining - data.length)))
termination_by s.unread.length
decreasing_by
  rename_i hrecv
  obtain ⟨hunread, hpos, -⟩ := recv_bytes hrecv
  rw [hunread, List.length_append]
  omega

/-- The first four bytes arrive together, and what they announce without a
would-block. -/
def keepsFraming (s : TcpStream) : Bool :=
  match s.recv 4 with
  | (.bytes header, s) =>
      let dataSize := announcedLength header + encapsulationHeaderLength - 4
      header.length = 4 &&
        (if ethernetBufferSize - 4 < dataSize then s.arrives dataSize ethernetBufferSize
        else
          match s.recv dataSize with
          | (.wouldBlock, _) => false
          | _ => true)
  | _ => true

theorem dropPacket_end {dataSize dataSent : Nat} {result : RecvResult}
    (hrecv : s.recv dataSent = (result, s')) (h : result = .closed ∨ result = .failed) :
    s.dropPacket dataSize dataSent = (.error, s') := by
  rw [dropPacket]
  split <;> rename_i hr <;> rw [hrecv] at hr <;> cases hr
  · rfl
  · rfl
  · obtain h | h := h <;> cases h
  · obtain h | h := h <;> cases h

theorem dropPacket_bytes {dataSize dataSent : Nat} {data : List UInt8}
    (hrecv : s.recv dataSent = (.bytes data, s')) (hdata : data.length ≤ dataSize)
    (hsize : dataSize < sizeModulus) :
    s.dropPacket dataSize dataSent =
      if dataSize - data.length = 0 then (.ok, s')
      else
        s'.dropPacket (dataSize - data.length)
          (if dataSize - data.length < ethernetBufferSize then dataSize - data.length
          else dataSent) := by
  have hleft : (dataSize + sizeModulus - data.length) % sizeModulus = dataSize - data.length := by
    rw [Nat.sub_add_comm hdata, Nat.add_mod_right, Nat.mod_eq_of_lt (by omega)]
  rw [dropPacket]
  split <;> rename_i hr <;> rw [hrecv] at hr <;> cases hr
  simp only [hleft]
  by_cases hzero : dataSize - data.length = 0
  · rw [if_neg (by omega), if_pos hzero]
  · rw [if_pos (by omega), if_neg hzero]
    simp only [hzero, ne_eq, not_false_eq_true, and_true]

/-- The dropping loop ends in an error or has received what was left, all of it and
nothing more. -/
theorem dropPacket_spec (s : TcpStream) {remaining request : Nat}
    (hsize : remaining < sizeModulus)
    (hrequest : request = ethernetBufferSize ∨
      request ≤ ethernetBufferSize ∧ remaining ≤ request)
    (h : s.arrives remaining request = true) :
    (s.dropPacket remaining request).1 = .error ∨
      (s.dropPacket remaining request).1 = .ok ∧
        ∃ data, data.length = remaining ∧
          s.unread = data ++ (s.dropPacket remaining request).2.unread := by
  fun_induction arrives remaining request s with
  | case1 remaining request s s' hrecv =>
      rw [dropPacket_end hrecv (.inl rfl)]
      exact .inl rfl
  | case2 remaining request s s' hrecv =>
      rw [dropPacket_end hrecv (.inr rfl)]
      exact .inl rfl
  | case3 remaining request s s' hrecv => cases h
  | case4 remaining request s data s' hrecv ih =>
      obtain ⟨hunread, hpos, -⟩ := recv_bytes hrecv
      rw [Bool.and_eq_true, Bool.or_eq_true, decide_eq_true_eq, decide_eq_true_eq] at h
      obtain ⟨hdata, hrest⟩ := h
      rw [dropPacket_bytes hrecv hdata hsize]
      split
      · exact .inr ⟨rfl, data, by omega, hunread⟩
      · rename_i hleft
        have hnext : (if remaining - data.length < ethernetBufferSize
            then remaining - data.length else request) =
            min ethernetBufferSize (remaining - data.length) := by
          split <;> omega
        rw [hnext]
        refine (ih (by omega) (by omega) (hrest.resolve_left hleft)).imp_right ?_
        rintro ⟨hok, more, hmore, hunread'⟩
        refine ⟨hok, data ++ more, by rw [List.length_append]; omega, ?_⟩
        rw [List.append_assoc, ← hunread']
        exact hunread

theorem recv_wouldBlock {length : Nat} (h : s.recv length = (.wouldBlock, s')) :
    s'.unread = s.unread := by
  simp only [recv] at h
  split at h
  · cases h
    rfl
  · cases h
  · split at h <;> cases h

/-- One call ends in an error, finds nothing, or takes one frame off the stream and
passes it on if it fits. -/
inductive TakesFrame (s : TcpStream) : EipStatus × Option (List UInt8) × TcpStream → Prop
  | failed {s' : TcpStream} : TakesFrame s (.error, none, s')
  | nothing {s' : TcpStream} (unread : s'.unread = s.unread) : TakesFrame s (.ok, none, s')
  | frame {s' : TcpStream} (bytes : List UInt8) (isFrame : IsFrame bytes)
      (unread : s.unread = bytes ++ s'.unread) :
      TakesFrame s (.ok, if fitsBuffer bytes then some bytes else none, s')

theorem isFrame_append {header data : List UInt8} (hheader : header.length = 4)
    (hdata : data.length = announcedLength header + encapsulationHeaderLength - 4) :
    IsFrame (header ++ data) := by
  rw [IsFrame, announcedLength_append data hheader, List.length_append, hheader, hdata,
    encapsulationHeaderLength]
  omega

theorem announcedLength_lt (bytes : List UInt8) : announcedLength bytes < 65536 :=
  UInt16.toNat_lt _

theorem handleDataOnTcpSocket_takesFrame (h : s.keepsFraming = true) :
    s.TakesFrame s.handleDataOnTcpSocket := by
  rw [keepsFraming] at h
  rw [handleDataOnTcpSocket]
  split at h
  · rename_i header s₁ hfirst
    rw [hfirst]
    obtain ⟨hunread, -, -⟩ := recv_bytes hfirst
    simp only [Bool.and_eq_true, decide_eq_true_eq] at h
    obtain ⟨hheader, h⟩ := h
    have hmessage : Message.takeBytes header 4 = header := hheader ▸ takeBytes_length header
    have hlength := announcedLength_lt header
    have hdef : (Message.getUint (header.drop 2)).1.toNat = announcedLength header := rfl
    simp only [hmessage, hdef]
    split at h
    · rename_i hlarge
      rw [if_pos hlarge]
      obtain hstatus | ⟨hstatus, data, hdata, hunread'⟩ := s₁.dropPacket_spec
        (by rw [sizeModulus, encapsulationHeaderLength]; omega) (.inl rfl) h
      · rw [hstatus]
        exact .failed
      · rw [hstatus]
        have hfits : fitsBuffer (header ++ data) = false := by
          simp only [fitsBuffer, List.length_append, hheader, hdata, decide_eq_false_iff_not]
          omega
        have hframe := TakesFrame.frame (s := s) (header ++ data)
          (isFrame_append hheader hdata)
          (by rw [List.append_assoc, ← hunread', hunread])
        rw [hfits, if_neg Bool.false_ne_true] at hframe
        exact hframe
    · rename_i hsmall
      rw [if_neg hsmall]
      split
      · exact .failed
      · exact .failed
      · rename_i hsecond
        rw [hsecond] at h
        cases h
      · rename_i data s₂ hsecond
        obtain ⟨hunread', -, -⟩ := recv_bytes hsecond
        split
        · rename_i hdata
          have hfits : fitsBuffer (header ++ data) = true := by
            simp only [fitsBuffer, List.length_append, hheader, hdata, decide_eq_true_eq]
            rw [ethernetBufferSize] at hsmall ⊢
            omega
          have hframe := TakesFrame.frame (s := s) (header ++ data)
            (isFrame_append hheader hdata) (by rw [List.append_assoc, ← hunread', hunread])
          rw [if_pos hfits] at hframe
          exact hframe
        · exact .failed
  · rename_i hfirst
    split
    · exact .failed
    · exact .failed
    · rename_i hrecv
      exact .nothing (recv_wouldBlock hrecv)
    · rename_i data s' hrecv
      exact absurd hrecv (hfirst data s')

end TcpStream

namespace TcpReceiver

/-- The frames read so far are consecutive from the start of the stream, and those of
them that fit the buffer have been passed on. While the socket is open nothing else
has been read. -/
def Framed (sent : List UInt8) (r : TcpReceiver) : Prop :=
  ∃ frames : List (List UInt8), (∀ f ∈ frames, IsFrame f) ∧ frames.flatten <+: sent ∧
    r.passed = frames.filter fitsBuffer ∧
    (r.isOpen = true → sent = frames.flatten ++ r.stream.unread)

theorem framed_processSocket {sent : List UInt8} {r r' : TcpReceiver}
    (hframed : r.Framed sent) (hkeeps : r.stream.keepsFraming = true)
    (h : processSocket () r = .ok r') : r'.Framed sent := by
  obtain ⟨frames, hframes, hprefix, hpassed, hopen⟩ := hframed
  rw [processSocket] at h
  split at h
  · rename_i hisOpen
    have hsent := hopen hisOpen
    have htakes := TcpStream.handleDataOnTcpSocket_takesFrame hkeeps
    generalize r.stream.handleDataOnTcpSocket = result at h htakes
    cases htakes with
    | failed =>
        cases h
        exact ⟨frames, hframes, hprefix, by simpa using hpassed, by simp⟩
    | nothing unread =>
        cases h
        exact ⟨frames, hframes, hprefix, by simpa using hpassed, fun _ => unread ▸ hsent⟩
    | @frame s' bytes isFrame unread =>
        cases h
        rw [unread, ← List.append_assoc] at hsent
        have hflatten : (frames ++ [bytes]).flatten = frames.flatten ++ bytes := by
          rw [List.flatten_append, List.flatten_singleton]
        refine ⟨frames ++ [bytes], ?_, ?_, ?_, fun _ => hflatten ▸ hsent⟩
        · intro f hf
          obtain hf | hf := List.mem_append.mp hf
          · exact hframes f hf
          · exact List.mem_singleton.mp hf ▸ isFrame
        · rw [hflatten, hsent]
          exact List.prefix_append _ _
        · simp only [hpassed, List.filter_append, List.filter_cons, List.filter_nil]
          split <;> rfl
  · cases h

/-- However the stream is split: as long as the calls find the first four bytes
together and the rest of a packet without a would-block, the frames passed on are the
frames of the stream that fit the buffer, in order, and the others are skipped whole. -/
theorem frames_of_reaches {stream : TcpStream} {r : TcpReceiver}
    (h : Runs.Reaches processSocket (fun _ r => r.stream.keepsFraming = true)
      { stream := stream } r) : r.Framed stream.unread := by
  refine h.invariant (Framed stream.unread) ?_ ?_
  · exact ⟨[], by simp, List.nil_prefix, rfl, fun _ => rfl⟩
  · intro _ r r' hframed hkeeps hstep
    exact framed_processSocket hframed hkeeps hstep

/-- A ListIdentity request. -/
def listIdentityRequest : List UInt8 :=
  [0x63, 0, 0, 0, 0, 0, 0, 0, 0, 0, 0, 0, 1, 2, 3, 4, 5, 6, 7, 8, 0, 0, 0, 0]

/-- Two requests that arrive together are passed on one after the other. -/
theorem frames_of_reaches_two_requests :
    ∃ r : TcpReceiver,
      r.Framed (listIdentityRequest ++ listIdentityRequest) ∧
        r.passed = [listIdentityRequest, listIdentityRequest] := by
  let stream : TcpStream :=
    { unread := listIdentityRequest ++ listIdentityRequest, answers := fun _ => .chunk 99 }
  obtain ⟨r, hreaches, hpassed⟩ := Runs.reaches_of_accepts processSocket
    (fun _ r => r.stream.keepsFraming) () [(), ()] { stream := stream }
    (fun r => r.passed = [listIdentityRequest, listIdentityRequest]) (by decide)
  exact ⟨r, frames_of_reaches hreaches, of_decide_eq_true hpassed⟩

/-- The first two bytes of a request arrive alone: what is passed on is not a frame
of the stream. -/
theorem not_frames_of_short_read :
    ∃ (stream : TcpStream) (r : TcpReceiver),
      Runs.Reaches processSocket (fun _ _ => True) { stream := stream } r ∧
        r.isOpen = true ∧
        ¬ ∃ frames : List (List UInt8), (∀ f ∈ frames, IsFrame f) ∧
          frames.flatten <+: stream.unread ∧ r.passed = frames.filter fitsBuffer := by
  let stream : TcpStream :=
    { unread := listIdentityRequest, answers := fun n => if n = 0 then .chunk 1 else .chunk 99 }
  let passed : List UInt8 :=
    [0x63, 0, 0, 0, 0, 0, 0, 0, 0, 0, 0, 0, 0, 0, 1, 2, 3, 4, 5, 6, 7, 8, 0, 0]
  obtain ⟨r, hreaches, hr⟩ := Runs.reaches_of_accepts processSocket (fun _ _ => true) () [()]
    { stream := stream } (fun r => r.isOpen && r.passed = [passed]) (by decide)
  rw [Bool.and_eq_true, decide_eq_true_eq] at hr
  obtain ⟨hopen, hr⟩ := hr
  refine ⟨stream, r, hreaches.mono fun _ _ _ => trivial, hopen, ?_⟩
  rintro ⟨frames, -, hprefix, hpassed⟩
  have hmem : passed ∈ frames :=
    List.mem_of_mem_filter (hpassed ▸ hr ▸ List.mem_singleton.mpr rfl)
  have hinfix : passed <:+: listIdentityRequest :=
    (List.infix_of_mem_flatten hmem).trans hprefix.isInfix
  have heq : passed = listIdentityRequest := hinfix.eq_of_length rfl
  exact absurd heq (by decide)

end TcpReceiver

end Opener

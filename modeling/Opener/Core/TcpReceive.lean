import Opener.Core.ConnectionPath

/-!
`HandleDataOnTcpSocket` of `generic_networkhandler.c` up to the frame it hands on. A
stream is what the client has sent and the stack has not read; how much of it each
call of `recv` finds is up to the operating system. Nothing else is kept between
two calls.
-/

namespace Opener

def encapsulationHeaderLength : Nat := 24

/-- The values of a `size_t`. -/
def sizeModulus : Nat := 2 ^ 64

/-- What a call of `recv` finds: so many bytes after the first one, nothing yet, or
an error. -/
inductive RecvAnswer where
  | chunk (more : Nat)
  | wouldBlock
  | failed

inductive RecvResult where
  | bytes (data : List UInt8)
  | closed
  | wouldBlock
  | failed

structure TcpStream where
  unread : List UInt8
  answers : Nat → RecvAnswer
  calls : Nat := 0

namespace TcpStream

/-- The end of the stream is the client closing the connection. -/
def recv (length : Nat) (s : TcpStream) : RecvResult × TcpStream :=
  let next := { s with calls := s.calls + 1 }
  match s.answers s.calls with
  | .wouldBlock => (.wouldBlock, next)
  | .failed => (.failed, next)
  | .chunk more =>
      let count := min (more + 1) length
      if s.unread = [] ∨ count = 0 then (.closed, next)
      else (.bytes (s.unread.take count), { next with unread := s.unread.drop count })

/-- A call of `recv` that brings bytes brings at least one and at most so many. -/
theorem recv_bytes {length : Nat} {s s' : TcpStream} {data : List UInt8}
    (h : s.recv length = (.bytes data, s')) :
    s.unread = data ++ s'.unread ∧ 0 < data.length ∧ data.length ≤ length := by
  simp only [recv] at h
  split at h
  · cases h
  · cases h
  · split at h
    · cases h
    · rename_i more hcount
      rw [not_or] at hcount
      have hpos := List.length_pos_iff.mpr hcount.1
      cases h
      refine ⟨(List.take_append_drop _ _).symm, ?_, ?_⟩ <;> rw [List.length_take] <;> omega

/-- The loop that drops a packet too large for the buffer. The size that is left is
unsigned: receiving more than is left wraps it around. -/
def dropPacket (dataSize dataSent : Nat) (s : TcpStream) : EipStatus × TcpStream :=
  match _ : s.recv dataSent with
  | (.closed, s') => (.error, s')
  | (.failed, s') => (.error, s')
  | (.wouldBlock, s') => (.ok, s')
  | (.bytes data, s') =>
      let dataSize := (dataSize + sizeModulus - data.length) % sizeModulus
      if 0 < dataSize then
        dropPacket dataSize
          (if dataSize < ethernetBufferSize ∧ dataSize ≠ 0 then dataSize else dataSent) s'
      else (.ok, s')
termination_by s.unread.length
decreasing_by
  rename_i hrecv _
  obtain ⟨hunread, hpos, -⟩ := recv_bytes hrecv
  rw [hunread, List.length_append]
  omega

/-- The status, and the bytes passed to `HandleReceivedExplictTcpData`. The buffer is
zero where nothing has been received. -/
def handleDataOnTcpSocket (s : TcpStream) : EipStatus × Option (List UInt8) × TcpStream :=
  match s.recv 4 with
  | (.closed, s) => (.error, none, s)
  | (.failed, s) => (.error, none, s)
  | (.wouldBlock, s) => (.ok, none, s)
  | (.bytes data, s) =>
      let incomingMessage := Message.takeBytes data 4
      let dataSize :=
        (Message.getUint (incomingMessage.drop 2)).1.toNat + encapsulationHeaderLength - 4
      if ethernetBufferSize - 4 < dataSize then
        let (status, s) := s.dropPacket dataSize ethernetBufferSize
        (status, none, s)
      else
        match s.recv dataSize with
        | (.closed, s) => (.error, none, s)
        | (.failed, s) => (.error, none, s)
        | (.wouldBlock, s) => (.ok, none, s)
        | (.bytes data, s) =>
            if data.length = dataSize then (.ok, some (incomingMessage ++ data), s)
            else (.error, none, s)

end TcpStream

/-- A client's socket in the main loop with the frames passed on so far. -/
structure TcpReceiver where
  stream : TcpStream
  passed : List (List UInt8) := []
  isOpen : Bool := true

namespace TcpReceiver

/-- The socket is ready: `NetworkHandlerProcessCyclic` closes it after an error. -/
def processSocket (_ : Unit) (r : TcpReceiver) : Except Unit TcpReceiver :=
  if r.isOpen then
    let (status, frame, stream) := r.stream.handleDataOnTcpSocket
    .ok { stream := stream, passed := r.passed ++ frame.toList, isOpen := status ≠ .error }
  else .error ()

end TcpReceiver

end Opener

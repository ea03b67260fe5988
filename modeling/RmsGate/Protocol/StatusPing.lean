import RmsGate.Protocol.VarInt
import RmsGate.Go.Scan

/-!
# The status exchange of `MCPingConn`

On a connection whose writes succeed, `MCPingConn` writes the handshake packet (packet id 0,
protocol 767, the host as a length-prefixed string, the port big-endian, next state 1) and the
status request packet (packet id 0, no payload), each framed by `writePacket` with the VarInt of
`int32(len(data))`.  It then reads one framed reply with `readPacket` and accepts it when the
packet id reads 0 and the JSON length that follows reads positive; the JSON is not read.
The host is the byte string `net.SplitHostPort` returned and the port the text after the colon;
`SplitHostPort` itself is not modelled.  Every VarInt write runs with the same `fuel`.
-/

namespace RmsGate.Protocol

/-- `writeString` and `writePacket` alike: the VarInt of `int32(len(data))`, then the data. -/
def lengthPrefixed (fuel : Nat) (data : List (BitVec 8)) : Option (List (BitVec 8)) :=
  (writeVarInt fuel (BitVec.ofNat 32 data.length)).map (· ++ data)

def writeString (fuel : Nat) (s : List (BitVec 8)) : Option (List (BitVec 8)) :=
  lengthPrefixed fuel s

def writePacket (fuel : Nat) (data : List (BitVec 8)) : Option (List (BitVec 8)) :=
  lengthPrefixed fuel data

def bigEndian (port : BitVec 16) : List (BitVec 8) := [(port >>> 8).setWidth 8, port.setWidth 8]

/-- The port `MCPingConn` sends: 25565 unless `Sscanf` stores another. -/
def portOf (portStr : List Char) : BitVec 16 := (Go.scanUint16 portStr).getD 25565#16

theorem portOf_decimal {digits tail : List Char} (nonempty : digits ≠ [])
    (all : ∀ d ∈ digits, d.isDigit) (stops : ∀ c ∈ tail.head?, c.isDigit = false)
    (small : Go.digitsValue digits < 2 ^ 16) :
    portOf (digits ++ tail) = BitVec.ofNat 16 (Go.digitsValue digits) := by
  rw [portOf, Go.scanUint16_digits nonempty all stops small, Option.getD_some]

example : portOf "65536".toList = 25565#16 := by decide

def handshake (fuel : Nat) (host : List (BitVec 8)) (port : BitVec 16) :
    Option (List (BitVec 8)) := do
  let packetID ← writeVarInt fuel 0x00#32
  let version ← writeVarInt fuel 767#32
  let address ← writeString fuel host
  let nextState ← writeVarInt fuel 1#32
  pure (packetID ++ version ++ address ++ bigEndian port ++ nextState)

/-- The bytes `MCPingConn` writes before it reads. -/
def mcPingRequest (fuel : Nat) (host : List (BitVec 8)) (portStr : List Char) :
    Option (List (BitVec 8)) := do
  let handshakePacket ← writePacket fuel (← handshake fuel host (portOf portStr))
  let statusReq ← writeVarInt fuel 0x00#32
  let statusPacket ← writePacket fuel statusReq
  pure (handshakePacket ++ statusPacket)

/-- `readPacket`: the length, the packet's data and the bytes after it.  `io.ReadFull` fails
with `EOF` on a stream that has ended and `unexpected EOF` on one that ends inside the data. -/
def readPacket (stream : List (BitVec 8)) :
    Except String (BitVec 32 × List (BitVec 8) × List (BitVec 8)) :=
  match readVarInt stream with
  | .error e => .error e
  | .ok (length, rest) =>
      if length.toInt ≤ 0 ∨ 1024 * 1024 < length.toInt then
        .error ("invalid packet length: " ++ toString length.toInt)
      else if rest.length < length.toNat then
        .error (if rest = [] then "EOF" else "unexpected EOF")
      else .ok (length, rest.take length.toNat, rest.drop length.toNat)

/-- The reply side of `MCPingConn`: `readVarInt` returns 0 with its error, which is the value
the messages then print. -/
def mcPingReply (stream : List (BitVec 8)) : Except String Unit :=
  match readPacket stream with
  | .error e => .error ("failed to read status response: " ++ e)
  | .ok (_, packetData, _) =>
      match readVarInt packetData with
      | .error _ => .error "unexpected packet ID: 0"
      | .ok (packetID, afterID) =>
          if packetID ≠ 0x00#32 then .error ("unexpected packet ID: " ++ toString packetID.toInt)
          else
            match readVarInt afterID with
            | .error _ => .error "invalid JSON response length: 0"
            | .ok (jsonLen, _) =>
                if jsonLen.toInt ≤ 0 then
                  .error ("invalid JSON response length: " ++ toString jsonLen.toInt)
                else .ok ()

/-! ## The request -/

/-- The data of the handshake packet as the protocol lays it out: packet id 0, protocol 767, the
host after the VarInt of its length, the port, and next state 1. -/
def handshakeBody (host : List (BitVec 8)) (port : BitVec 16) : List (BitVec 8) :=
  varInt 0x00#32 ++ varInt 767#32 ++ varInt (BitVec.ofNat 32 host.length) ++ host ++
    bigEndian port ++ varInt 1#32

def statusRequestFrames (host : List (BitVec 8)) (port : BitVec 16) : List (BitVec 8) :=
  varInt (BitVec.ofNat 32 (handshakeBody host port).length) ++ handshakeBody host port ++
    varInt 1#32 ++ [0x00#8]

theorem msb_ofNat_of_lt {n : Nat} (small : n < 2 ^ 31) : (BitVec.ofNat 32 n).msb = false := by
  rw [BitVec.msb_eq_false_iff_two_mul_lt, BitVec.toNat_ofNat]
  omega

theorem lengthPrefixed_of_lt {fuel : Nat} (enough : 5 ≤ fuel) {data : List (BitVec 8)}
    (fits : data.length < 2 ^ 31) :
    lengthPrefixed fuel data = some (varInt (BitVec.ofNat 32 data.length) ++ data) := by
  rw [lengthPrefixed, writeVarInt_of_nonneg (msb_ofNat_of_lt fits) enough]
  rfl

theorem handshake_of_lt {fuel : Nat} (enough : 5 ≤ fuel) {host : List (BitVec 8)}
    (fits : host.length < 2 ^ 31) (port : BitVec 16) :
    handshake fuel host port = some (handshakeBody host port) := by
  simp [handshake, writeString, lengthPrefixed_of_lt enough fits, handshakeBody,
    writeVarInt_of_nonneg (by decide : (0x00#32).msb = false) enough,
    writeVarInt_of_nonneg (by decide : (767#32).msb = false) enough,
    writeVarInt_of_nonneg (by decide : (1#32).msb = false) enough]

/-- While the handshake's data stays below 2^31 bytes, `MCPingConn` writes the handshake frame
and the empty status request frame, each length the standard VarInt. -/
theorem mcPingRequest_frames (fuel : Nat) (enough : 5 ≤ fuel) (host : List (BitVec 8))
    (portStr : List Char) (fits : (handshakeBody host (portOf portStr)).length < 2 ^ 31) :
    mcPingRequest fuel host portStr = some (statusRequestFrames host (portOf portStr)) := by
  have host_fits : host.length < 2 ^ 31 := by
    simp only [handshakeBody, List.length_append] at fits
    omega
  have status : writeVarInt fuel 0x00#32 = some [0x00#8] :=
    writeVarInt_of_nonneg (by decide) enough
  simp [mcPingRequest, handshake_of_lt enough host_fits, writePacket, status,
    lengthPrefixed_of_lt enough fits,
    lengthPrefixed_of_lt enough (by decide : [0x00#8].length < 2 ^ 31), statusRequestFrames]

theorem mcPingRequest_frames_short_host :
    5 ≤ 5 ∧ (handshakeBody [0x61#8] (portOf "25565".toList)).length < 2 ^ 31 ∧
      mcPingRequest 5 [0x61#8] "25565".toList =
        some (statusRequestFrames [0x61#8] (portOf "25565".toList)) :=
  ⟨le_refl 5, by decide, mcPingRequest_frames 5 (le_refl 5) [0x61#8] "25565".toList (by decide)⟩

/-- A host of 2^31 bytes: `int32(len(host))` wraps to a negative value, which the arithmetic
shifts of `writeVarInt` never bring to 0, so the handshake is never framed and sent. -/
theorem mcPingRequest_never_ends_on_long_host :
    (List.replicate (2 ^ 31) 0x61#8).length = 2 ^ 31 ∧
      ∀ fuel, mcPingRequest fuel (List.replicate (2 ^ 31) 0x61#8) [] = none := by
  refine ⟨List.length_replicate _ _, fun fuel => ?_⟩
  have never := writeVarInt_of_msb_true (v := BitVec.ofNat 32 (2 ^ 31)) (by decide) fuel
  simp only [mcPingRequest, handshake, writeString, lengthPrefixed, List.length_replicate, never]
  cases writeVarInt fuel 0x00#32 <;> cases writeVarInt fuel 767#32 <;> rfl

/-! ## The reply -/

def groupsValue (bytes : List (BitVec 8)) : Nat :=
  bytes.foldr (fun b value => b.toNat % 128 + 128 * value) 0

/-- A length prefix whose fifth byte carries bits beyond 32: `readVarInt` keeps the low 32 bits,
2, and the two bytes after it pass as a status response with packet id 0 and JSON length 5. -/
theorem mcPingReply_accepts_length_beyond_int32 :
    groupsValue [0x82#8, 0x80#8, 0x80#8, 0x80#8, 0x10#8] = 2 ^ 32 + 2 ∧
      mcPingReply [0x82#8, 0x80#8, 0x80#8, 0x80#8, 0x10#8, 0x00#8, 0x05#8] = .ok () :=
  ⟨rfl, rfl⟩

theorem toInt_ofNat_of_lt {n : Nat} (small : n < 2 ^ 31) : (BitVec.ofNat 32 n).toInt = n := by
  rw [BitVec.toInt_eq_toNat_bmod, BitVec.toNat_ofNat, Nat.mod_eq_of_lt (by omega), Int.bmod_def]
  split <;> omega

/-- A reply framed as the protocol asks, with the standard VarInt of the frame's length, packet
id 0 and a positive JSON length, is accepted, whatever bytes follow the frame. -/
theorem mcPingReply_accepts_status_response (jsonLen : BitVec 32) (json rest : List (BitVec 8))
    (positive : 0 < jsonLen.toInt)
    (fits : (varInt 0x00#32 ++ varInt jsonLen ++ json).length ≤ 1024 * 1024) :
    mcPingReply (varInt (BitVec.ofNat 32 (varInt 0x00#32 ++ varInt jsonLen ++ json).length) ++
      (varInt 0x00#32 ++ varInt jsonLen ++ json) ++ rest) = .ok () := by
  generalize body_eq : varInt 0x00#32 ++ varInt jsonLen ++ json = body at fits ⊢
  have nonempty : 0 < body.length := by rw [← body_eq]; simp [varInt, varIntGroups]
  have length_toNat : (BitVec.ofNat 32 body.length).toNat = body.length :=
    Nat.mod_eq_of_lt (by omega)
  have packet : readPacket (varInt (BitVec.ofNat 32 body.length) ++ body ++ rest) =
      .ok (BitVec.ofNat 32 body.length, body, rest) := by
    simp only [readPacket, List.append_assoc, readVarInt_varInt, length_toNat,
      toInt_ofNat_of_lt (by omega : body.length < 2 ^ 31), List.take_left', List.drop_left',
      List.length_append]
    rw [if_neg (by omega), if_neg (by omega)]
  have fields : readVarInt body = .ok (0x00#32, varInt jsonLen ++ json) := by
    rw [← body_eq, List.append_assoc, readVarInt_varInt]
  simp only [mcPingReply, packet, fields, readVarInt_varInt, ne_eq, not_true_eq_false, if_false]
  rw [if_neg (by omega)]

theorem mcPingReply_accepts_empty_json :
    0 < (2#32).toInt ∧
      (varInt 0x00#32 ++ varInt 2#32 ++ [0x7B#8, 0x7D#8]).length ≤ 1024 * 1024 ∧
      mcPingReply
        (varInt (BitVec.ofNat 32 (varInt 0x00#32 ++ varInt 2#32 ++ [0x7B#8, 0x7D#8]).length) ++
          (varInt 0x00#32 ++ varInt 2#32 ++ [0x7B#8, 0x7D#8]) ++ []) = .ok () :=
  ⟨by decide, by decide,
    mcPingReply_accepts_status_response 2#32 [0x7B#8, 0x7D#8] [] (by decide) (by decide)⟩

end RmsGate.Protocol

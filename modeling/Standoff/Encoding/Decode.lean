import Standoff.Encoding.Basic

/-! How bytes are read as a text.

Bytes may arrive in pieces that cut a character in two. Decoding therefore
answers with the text of all finished characters and the bytes of the one that
was cut off, to be put in front of the next piece. -/

namespace Standoff

/-! ## Faults -/

inductive DecodingFault.Reason where
  | invalidStart
  | invalidContinuation
  | unexpectedEnd
  | outOfRange
  deriving DecidableEq, Repr

structure DecodingFault where
  encoding : Encoding
  position : Nat
  bytes : Bytes
  reason : DecodingFault.Reason
  deriving DecidableEq, Repr

namespace DecodingFault

def Reason.message (encoding : Encoding) : Reason → String
  | .invalidStart => "invalid start byte"
  | .invalidContinuation => "invalid continuation byte"
  | .unexpectedEnd => "unexpected end of data"
  | .outOfRange => "ordinal not in range(" ++ toString (encoding.limit?.getD 0) ++ ")"

def message (fault : DecodingFault) : String :=
  let place :=
    match fault.bytes with
    | [byte] =>
        "byte 0x" ++ String.ofList (Text.hexadecimal 2 byte.toNat) ++
          " in position " ++ toString fault.position
    | bytes =>
        "bytes in position " ++ toString fault.position ++ "-" ++
          toString (fault.position + bytes.length - 1)
  "'" ++ fault.encoding.name ++ "' codec can't decode " ++ place ++
    ": " ++ fault.reason.message fault.encoding

end DecodingFault

/-! ## UTF-8 -/

namespace Utf8

structure Unfinished where
  bytes : Bytes
  bits : Nat
  owed : Nat
  /-- The least and the greatest byte that may come next. The bounds are
  narrower after the first bytes that could otherwise begin a second way to
  write a character, half of a pair, or a number beyond all characters. -/
  least : Nat
  greatest : Nat
  deriving DecidableEq, Repr

inductive Start where
  | finished (character : Char)
  | unfinished (sequence : Unfinished)
  | invalid

def start (byte : UInt8) : Start :=
  let code := byte.toNat
  if code < 0x80 then .finished (Char.ofNat code)
  else if code < 0xC2 then .invalid
  else if code < 0xE0 then .unfinished ⟨[byte], code - 0xC0, 1, 0x80, 0xBF⟩
  else if code < 0xF0 then
    .unfinished ⟨[byte], code - 0xE0, 2,
      if code = 0xE0 then 0xA0 else 0x80, if code = 0xED then 0x9F else 0xBF⟩
  else if code < 0xF5 then
    .unfinished ⟨[byte], code - 0xF0, 3,
      if code = 0xF0 then 0x90 else 0x80, if code = 0xF4 then 0x8F else 0xBF⟩
  else .invalid

/-- Two bytes that begin half of a pair. No character begins like that, but it is
only found out when there is a third byte or can be none. -/
def beginsHalf : Bytes → Bool
  | [first, second] => first == 0xED && 0xA0 ≤ second.toNat && second.toNat ≤ 0xBF
  | _ => false

/-- Read bytes from `position` on, with the character that was begun before. -/
def decodeFrom (position : Nat) : Option Unfinished → Bytes → Except DecodingFault (Text × Bytes)
  | none, [] => .ok ([], [])
  | some sequence, [] => .ok ([], sequence.bytes)
  | none, byte :: rest =>
      match start byte with
      | .finished character =>
          (decodeFrom (position + 1) none rest).map fun read => (character :: read.1, read.2)
      | .unfinished sequence => decodeFrom (position + 1) (some sequence) rest
      | .invalid => .error ⟨.utf8, position, [byte], .invalidStart⟩
  | some sequence, byte :: rest =>
      if sequence.least ≤ byte.toNat && byte.toNat ≤ sequence.greatest then
        let bits := sequence.bits * 64 + (byte.toNat - 0x80)
        if sequence.owed = 1 then
          (decodeFrom (position + 1) none rest).map fun read =>
            (Char.ofNat bits :: read.1, read.2)
        else
          decodeFrom (position + 1)
            (some ⟨sequence.bytes ++ [byte], bits, sequence.owed - 1, 0x80, 0xBF⟩) rest
      else if rest.isEmpty && beginsHalf (sequence.bytes ++ [byte]) then
        .ok ([], sequence.bytes ++ [byte])
      else
        .error ⟨.utf8, position - sequence.bytes.length, sequence.bytes, .invalidContinuation⟩

end Utf8

/-! ## All encodings -/

namespace Encoding

/-- The text of the finished characters, and the bytes of the one cut off. -/
def decode (encoding : Encoding) (bytes : Bytes) : Except DecodingFault (Text × Bytes) :=
  match encoding with
  | .utf8 => Utf8.decodeFrom 0 none bytes
  | .latin1 => .ok (bytes.map fun byte => Char.ofNat byte.toNat, [])
  | .ascii =>
      match bytes.dropWhile (·.toNat < 0x80) with
      | [] => .ok (bytes.map fun byte => Char.ofNat byte.toNat, [])
      | byte :: rest =>
          .error ⟨.ascii, bytes.length - rest.length - 1, [byte], .outOfRange⟩

/-- The fault of a text that ends inside a character, or inside half of a pair. -/
def truncated (encoding : Encoding) (position : Nat) (bytes : Bytes) : DecodingFault :=
  if Utf8.beginsHalf bytes then ⟨encoding, position, bytes.take 1, .invalidContinuation⟩
  else ⟨encoding, position, bytes, .unexpectedEnd⟩

def decodeAll (encoding : Encoding) (bytes : Bytes) : Except DecodingFault Text :=
  match encoding.decode bytes with
  | .error fault => .error fault
  | .ok (text, []) => .ok text
  | .ok (_, rest) => .error (encoding.truncated (bytes.length - rest.length) rest)

example : utf8.decodeAll [0xE2, 0x82, 0xAC] = .ok ['€'] := by rfl

example : utf8.decode [0x61, 0xE2, 0x82] = .ok (['a'], [0xE2, 0x82]) := by rfl

example : utf8.decodeAll [0x61, 0xED, 0xA0, 0x80] =
      .error ⟨.utf8, 1, [0xED], .invalidContinuation⟩ ∧
    utf8.decode [0x61, 0xED, 0xA0] = .ok (['a'], [0xED, 0xA0]) ∧
    utf8.decodeAll [0x61, 0xED, 0xA0] =
      .error ⟨.utf8, 1, [0xED], .invalidContinuation⟩ := by
  refine ⟨?_, ?_, ?_⟩ <;> rfl

example : (⟨.utf8, 3, [0xFF], .invalidStart⟩ : DecodingFault).message =
    "'utf-8' codec can't decode byte 0xff in position 3: invalid start byte" := by
  decide +kernel

end Encoding

end Standoff

import Mathlib.Data.List.TakeWhile
import Standoff.Encoding.Decode

/-! What an encoding writes it reads back, and the byte that ends a line stands for
nothing else. -/

namespace Standoff

/-! ## UTF-8 -/

namespace Utf8

theorem toNat_ofNat {code : Nat} (bound : code < 256) : (UInt8.ofNat code).toNat = code := by
  rw [UInt8.toNat_ofNat', Nat.mod_eq_of_lt bound]

theorem decodeFrom_of_unfinished {byte : UInt8} {sequence : Unfinished}
    (begun : start byte = .unfinished sequence) (position : Nat) (rest : Bytes) :
    decodeFrom position none (byte :: rest) = decodeFrom (position + 1) (some sequence) rest := by
  rw [decodeFrom, begun]

theorem decodeFrom_more {position : Nat} {sequence : Unfinished} {code : Nat} {rest : Bytes}
    (within : sequence.least ≤ code ∧ code ≤ sequence.greatest) (byte : code < 256)
    (owed : sequence.owed ≠ 1) :
    decodeFrom position (some sequence) (UInt8.ofNat code :: rest) =
      decodeFrom (position + 1) (some ⟨sequence.bytes ++ [UInt8.ofNat code],
        sequence.bits * 64 + (code - 0x80), sequence.owed - 1, 0x80, 0xBF⟩) rest := by
  rw [decodeFrom, toNat_ofNat byte]
  simp [within, owed]

theorem decodeFrom_last {position : Nat} {sequence : Unfinished} {code : Nat} {rest : Bytes}
    (within : sequence.least ≤ code ∧ code ≤ sequence.greatest) (byte : code < 256)
    (owed : sequence.owed = 1) :
    decodeFrom position (some sequence) (UInt8.ofNat code :: rest) =
      (decodeFrom (position + 1) none rest).map fun read =>
        (Char.ofNat (sequence.bits * 64 + (code - 0x80)) :: read.1, read.2) := by
  rw [decodeFrom, toNat_ofNat byte]
  simp [within, owed]

/-- The bytes that complete a character, of which some may have been read before. -/
inductive Spells : Option Unfinished → Bytes → Char → Prop
  | finished {byte : UInt8} {character : Char} (begun : start byte = .finished character) :
      Spells none [byte] character
  | begun {byte : UInt8} {sequence : Unfinished} {bytes : Bytes} {character : Char}
      (begun : start byte = .unfinished sequence) (own : sequence.bytes = [byte])
      (later : Spells (some sequence) bytes character) : Spells none (byte :: bytes) character
  | more {sequence : Unfinished} {code : Nat} {bytes : Bytes} {character : Char}
      (within : sequence.least ≤ code ∧ code ≤ sequence.greatest) (byte : code < 256)
      (owed : sequence.owed ≠ 1)
      (later : Spells (some ⟨sequence.bytes ++ [UInt8.ofNat code],
        sequence.bits * 64 + (code - 0x80), sequence.owed - 1, 0x80, 0xBF⟩) bytes character) :
      Spells (some sequence) (UInt8.ofNat code :: bytes) character
  | last {sequence : Unfinished} {code value : Nat}
      (within : sequence.least ≤ code ∧ code ≤ sequence.greatest) (byte : code < 256)
      (owed : sequence.owed = 1) (bits : sequence.bits * 64 + (code - 0x80) = value) :
      Spells (some sequence) [UInt8.ofNat code] (Char.ofNat value)

/-- What is left of the bytes behind a character is read as if it came first, at some
later position. -/
theorem Spells.decodeFrom_append {state : Option Unfinished} {bytes : Bytes} {character : Char}
    (spells : Spells state bytes character) (position : Nat) (rest : Bytes) :
    ∃ next, decodeFrom position state (bytes ++ rest) =
      (decodeFrom next none rest).map fun read => (character :: read.1, read.2) := by
  induction spells generalizing position with
  | finished begun => exact ⟨position + 1, by rw [List.singleton_append, decodeFrom, begun]⟩
  | begun begun _ _ induction =>
      rw [List.cons_append, decodeFrom_of_unfinished begun]
      exact induction (position + 1)
  | more within byte owed _ induction =>
      rw [List.cons_append, decodeFrom_more within byte owed]
      exact induction (position + 1)
  | last within byte owed bits =>
      refine ⟨position + 1, ?_⟩
      rw [List.singleton_append, decodeFrom_last within byte owed, bits]

def bytesOf : Option Unfinished → Bytes
  | none => []
  | some sequence => sequence.bytes

theorem Spells.decodeFrom_front {state : Option Unfinished} {bytes front back : Bytes}
    {character : Char} (spells : Spells state bytes character) (whole : front ++ back = bytes)
    (missing : back ≠ []) (position : Nat) :
    decodeFrom position state front = .ok ([], bytesOf state ++ front) := by
  induction spells generalizing front position with
  | finished begun =>
      cases front with
      | nil => rfl
      | cons byte front =>
          exact absurd (List.append_eq_nil_iff.mp (List.cons.inj whole).2).2 missing
  | @begun _ sequence _ _ begun own _ induction =>
      cases front with
      | nil => rfl
      | cons byte front =>
          obtain ⟨rfl, later⟩ := List.cons.inj whole
          rw [decodeFrom_of_unfinished begun, induction later, bytesOf, bytesOf, own]
          rfl
  | @more sequence _ _ _ within byte owed _ induction =>
      cases front with
      | nil => rw [decodeFrom, bytesOf, List.append_nil]
      | cons _ front =>
          obtain ⟨rfl, later⟩ := List.cons.inj whole
          rw [decodeFrom_more within byte owed, induction later, bytesOf, bytesOf,
            List.append_assoc, List.singleton_append]
  | last within byte owed bits =>
      cases front with
      | nil => rw [decodeFrom, bytesOf, List.append_nil]
      | cons _ front =>
          exact absurd (List.append_eq_nil_iff.mp (List.cons.inj whole).2).2 missing

theorem spells_one {code : Nat} (bound : code < 0x80) :
    Spells none [UInt8.ofNat code] (Char.ofNat code) := by
  apply Spells.finished
  simp only [start, toNat_ofNat (show code < 256 by omega)]
  rw [if_pos bound]

theorem spells_two {code : Nat} (least : 0x80 ≤ code) (greatest : code < 0x800) :
    Spells none [UInt8.ofNat (code / 64 % 32 + 192), UInt8.ofNat (code % 64 + 128)]
      (Char.ofNat code) := by
  have begun : start (UInt8.ofNat (code / 64 % 32 + 192)) =
      .unfinished ⟨[UInt8.ofNat (code / 64 % 32 + 192)], code / 64 % 32, 1, 0x80, 0xBF⟩ := by
    simp only [start, toNat_ofNat (show code / 64 % 32 + 192 < 256 by omega)]
    rw [if_neg (by omega), if_neg (by omega), if_pos (by omega), Nat.add_sub_cancel]
  have bits : code / 64 % 32 * 64 + (code % 64 + 128 - 0x80) = code := by omega
  exact .begun begun rfl (.last ⟨by simp, by simp only; omega⟩ (by omega) rfl bits)

theorem spells_three {code : Nat} (least : 0x800 ≤ code) (greatest : code < 0x10000)
    (valid : code < 0xD800 ∨ 0xDFFF < code) :
    Spells none [UInt8.ofNat (code / 4096 % 16 + 224), UInt8.ofNat (code / 64 % 64 + 128),
      UInt8.ofNat (code % 64 + 128)] (Char.ofNat code) := by
  have begun : start (UInt8.ofNat (code / 4096 % 16 + 224)) =
      .unfinished ⟨[UInt8.ofNat (code / 4096 % 16 + 224)], code / 4096 % 16, 2,
        if code / 4096 % 16 + 224 = 0xE0 then 0xA0 else 0x80,
        if code / 4096 % 16 + 224 = 0xED then 0x9F else 0xBF⟩ := by
    simp only [start, toNat_ofNat (show code / 4096 % 16 + 224 < 256 by omega)]
    rw [if_neg (by omega), if_neg (by omega), if_neg (by omega), if_pos (by omega),
      Nat.add_sub_cancel]
  have bits : (code / 4096 % 16 * 64 + (code / 64 % 64 + 128 - 0x80)) * 64 +
      (code % 64 + 128 - 0x80) = code := by omega
  refine .begun begun rfl (.more ⟨?_, ?_⟩ (by omega) (by simp)
    (.last ⟨by simp, by simp only; omega⟩ (by omega) rfl bits))
  · simp only
    split <;> omega
  · simp only
    split <;> omega

theorem spells_four {code : Nat} (least : 0x10000 ≤ code) (greatest : code < 0x110000) :
    Spells none [UInt8.ofNat (code / 262144 % 8 + 240), UInt8.ofNat (code / 4096 % 64 + 128),
      UInt8.ofNat (code / 64 % 64 + 128), UInt8.ofNat (code % 64 + 128)] (Char.ofNat code) := by
  have begun : start (UInt8.ofNat (code / 262144 % 8 + 240)) =
      .unfinished ⟨[UInt8.ofNat (code / 262144 % 8 + 240)], code / 262144 % 8, 3,
        if code / 262144 % 8 + 240 = 0xF0 then 0x90 else 0x80,
        if code / 262144 % 8 + 240 = 0xF4 then 0x8F else 0xBF⟩ := by
    simp only [start, toNat_ofNat (show code / 262144 % 8 + 240 < 256 by omega)]
    rw [if_neg (by omega), if_neg (by omega), if_neg (by omega), if_neg (by omega),
      if_pos (by omega), Nat.add_sub_cancel]
  have bits : ((code / 262144 % 8 * 64 + (code / 4096 % 64 + 128 - 0x80)) * 64 +
      (code / 64 % 64 + 128 - 0x80)) * 64 + (code % 64 + 128 - 0x80) = code := by omega
  refine .begun begun rfl (.more ⟨?_, ?_⟩ (by omega) (by simp)
    (.more ⟨by simp, by simp only; omega⟩ (by omega) (by simp)
      (.last ⟨by simp, by simp only; omega⟩ (by omega) rfl bits)))
  · simp only
    split <;> omega
  · simp only
    split <;> omega

theorem spells_encode (character : Char) :
    Spells none (String.utf8EncodeChar character) character := by
  have valid : character.toNat < 0xD800 ∨
      (0xDFFF < character.toNat ∧ character.toNat < 0x110000) := character.valid
  have same : Char.ofNat character.toNat = character := Char.ofNat_toNat character
  have value : character.val.toNat = character.toNat := rfl
  simp only [String.utf8EncodeChar, value]
  generalize character.toNat = code at valid same
  subst same
  split
  · exact spells_one (by omega)
  · split
    · exact spells_two (by omega) (by omega)
    · split
      · exact spells_three (by omega) (by omega) (by omega)
      · exact spells_four (by omega) (by omega)

theorem decodeFrom_flatMap_encode (text : Text) (position : Nat) :
    decodeFrom position none (text.flatMap String.utf8EncodeChar) = .ok (text, []) := by
  induction text generalizing position with
  | nil => rfl
  | cons character rest induction =>
      rcases (spells_encode character).decodeFrom_append position
        (rest.flatMap String.utf8EncodeChar) with ⟨next, reads⟩
      rw [List.flatMap_cons, reads, induction, Except.map]

/-- A part of the bytes of a text gives the characters that it completes, and keeps the
bytes of the one that it leaves open. -/
theorem decodeFrom_front {text : Text} {front back : Bytes}
    (whole : front ++ back = text.flatMap String.utf8EncodeChar) (position : Nat) :
    ∃ decoded rest unfinished,
      decodeFrom position none front = .ok (decoded, unfinished) ∧ text = decoded ++ rest ∧
      unfinished ++ back = rest.flatMap String.utf8EncodeChar ∧ (back = [] → rest = []) := by
  induction text generalizing front position with
  | nil =>
      obtain ⟨rfl, rfl⟩ := List.append_eq_nil_iff.mp whole
      exact ⟨[], [], [], rfl, rfl, rfl, fun _ => rfl⟩
  | cons character later induction =>
      have spells := spells_encode character
      have completed (rest : Bytes) (same : front = String.utf8EncodeChar character ++ rest)
          (restWhole : rest ++ back = later.flatMap String.utf8EncodeChar) :
          ∃ decoded left unfinished,
            decodeFrom position none front = .ok (decoded, unfinished) ∧
            character :: later = decoded ++ left ∧
            unfinished ++ back = left.flatMap String.utf8EncodeChar ∧
            (back = [] → left = []) := by
        rcases spells.decodeFrom_append position rest with ⟨next, reads⟩
        rcases induction restWhole next with
          ⟨decoded, left, unfinished, decodes, rfl, unread, ended⟩
        refine ⟨character :: decoded, left, unfinished, ?_, rfl, unread, ended⟩
        rw [same, reads, decodes, Except.map]
      rw [List.flatMap_cons] at whole
      rcases List.append_eq_append_iff.mp whole with ⟨missing, bytes, same⟩ | ⟨rest, same, restWhole⟩
      · by_cases none : missing = []
        · subst none
          rw [List.append_nil] at bytes
          exact completed [] (by rw [bytes, List.append_nil]) same
        · refine ⟨[], character :: later, front,
            spells.decodeFrom_front bytes.symm none position, rfl, ?_, ?_⟩
          · rw [List.flatMap_cons, same, bytes, List.append_assoc]
          · intro ended
            exact absurd (List.append_eq_nil_iff.mp (same.symm.trans ended)).1 none
      · exact completed rest same restWhole.symm

end Utf8

/-! ## All encodings -/

namespace Encoding

/-- The encodings that write a character as the byte of its code. -/
theorem flatMap_encodeCharacter {encoding : Encoding} (other : encoding ≠ .utf8) (text : Text) :
    text.flatMap encoding.encodeCharacter =
      text.map fun character => UInt8.ofNat character.toNat := by
  rw [List.map_eq_flatMap]
  cases encoding with
  | utf8 => exact absurd rfl other
  | latin1 => rfl
  | ascii => rfl

section

variable {text : Text} {limit : Nat} (below : ∀ character ∈ text, character.toNat < limit)

include below

theorem ofNat_encoded (bound : limit ≤ 256) :
    ((text.map fun character => UInt8.ofNat character.toNat).map fun byte =>
      Char.ofNat byte.toNat) = text := by
  rw [List.map_map]
  conv => rhs; rw [← List.map_id text]
  apply List.map_congr_left
  intro character member
  have code := Utf8.toNat_ofNat (Nat.lt_of_lt_of_le (below character member) bound)
  simp only [Function.comp, code, Char.ofNat_toNat, id]

theorem dropWhile_encoded (bound : limit ≤ 0x80) :
    (text.map fun character => UInt8.ofNat character.toNat).dropWhile (·.toNat < 0x80) = [] := by
  rw [List.dropWhile_eq_nil_iff]
  intro byte member
  rcases List.mem_map.mp member with ⟨character, inText, rfl⟩
  have small := below character inText
  rw [Utf8.toNat_ofNat (by omega), decide_eq_true_eq]
  omega

end

theorem decode_encode {encoding : Encoding} {text : Text} {bytes : Bytes}
    (encoded : encoding.encode text = .ok bytes) : encoding.decode bytes = .ok (text, []) := by
  rcases encode_eq_ok_iff.mp encoded with ⟨writable, rfl⟩
  cases encoding with
  | utf8 => exact Utf8.decodeFrom_flatMap_encode text 0
  | latin1 =>
      have below : ∀ character ∈ text, character.toNat < 256 := by
        simpa [Encoding.writable, limit?] using writable
      rw [flatMap_encodeCharacter (by decide), decode, ofNat_encoded below (Nat.le_refl 256)]
  | ascii =>
      have below : ∀ character ∈ text, character.toNat < 128 := by
        simpa [Encoding.writable, limit?] using writable
      rw [flatMap_encodeCharacter (by decide), decode,
        dropWhile_encoded below (Nat.le_refl 128)]
      simp only [ofNat_encoded below (by decide)]

theorem decodeAll_encode {encoding : Encoding} {text : Text} {bytes : Bytes}
    (encoded : encoding.encode text = .ok bytes) : encoding.decodeAll bytes = .ok text := by
  rw [decodeAll, decode_encode encoded]

theorem decode_front {encoding : Encoding} {text : Text} {front back : Bytes}
    (writable : ∀ character ∈ text, encoding.writable character)
    (whole : front ++ back = text.flatMap encoding.encodeCharacter) :
    ∃ decoded rest unfinished,
      encoding.decode front = .ok (decoded, unfinished) ∧ text = decoded ++ rest ∧
      unfinished ++ back = rest.flatMap encoding.encodeCharacter ∧ (back = [] → rest = []) := by
  by_cases wide : encoding = .utf8
  · subst wide
    exact Utf8.decodeFrom_front whole 0
  · rw [flatMap_encodeCharacter wide] at whole
    rcases List.append_eq_map_iff.mp whole with ⟨decoded, rest, rfl, rfl, rfl⟩
    have encoded : encoding.encode decoded =
        .ok (decoded.map fun character => UInt8.ofNat character.toNat) :=
      encode_eq_ok_iff.mpr ⟨fun character member => writable character (by simp [member]),
        (flatMap_encodeCharacter wide decoded).symm⟩
    refine ⟨decoded, rest, [], decode_encode encoded, rfl, ?_, List.map_eq_nil_iff.mp⟩
    rw [flatMap_encodeCharacter wide, List.nil_append]

theorem lineFeed_not_mem_ofNat (codes : List Nat)
    (each : ∀ code ∈ codes, code < 256 ∧ code ≠ 10) : 0x0A ∉ codes.map UInt8.ofNat := by
  intro member
  rcases List.mem_map.mp member with ⟨code, inCodes, equal⟩
  have known := each code inCodes
  have value := Utf8.toNat_ofNat known.1
  rw [equal] at value
  exact known.2 value.symm

/-- Only the line feed has the byte of the line feed in it. -/
theorem lineFeed_not_mem_encodeCharacter {encoding : Encoding} {character : Char}
    (writable : encoding.writable character) (other : character ≠ '\n') :
    0x0A ∉ encoding.encodeCharacter character := by
  have different : character.toNat ≠ 10 := by
    intro equal
    apply other
    rw [← Char.ofNat_toNat character, equal]
  cases encoding with
  | latin1 =>
      have below : character.toNat < 256 := by simpa [Encoding.writable, limit?] using writable
      exact lineFeed_not_mem_ofNat [character.toNat] (by simp; omega)
  | ascii =>
      have below : character.toNat < 128 := by simpa [Encoding.writable, limit?] using writable
      exact lineFeed_not_mem_ofNat [character.toNat] (by simp; omega)
  | utf8 =>
      have value : character.val.toNat = character.toNat := rfl
      simp only [encodeCharacter, String.utf8EncodeChar, value]
      generalize character.toNat = code at different
      split
      · exact lineFeed_not_mem_ofNat [code] (by simp; omega)
      · split
        · exact lineFeed_not_mem_ofNat [code / 64 % 32 + 192, code % 64 + 128] (by simp; omega)
        · split
          · exact lineFeed_not_mem_ofNat
              [code / 4096 % 16 + 224, code / 64 % 64 + 128, code % 64 + 128] (by simp; omega)
          · exact lineFeed_not_mem_ofNat [code / 262144 % 8 + 240, code / 4096 % 64 + 128,
              code / 64 % 64 + 128, code % 64 + 128] (by simp; omega)

end Encoding

end Standoff

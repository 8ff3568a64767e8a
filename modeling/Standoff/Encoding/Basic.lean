import Standoff.Text.Quoted

/-! The encodings in which texts are stored and exchanged, and how a text is
written in them. There are three of them, and every other name is unknown. -/

namespace Standoff

abbrev Bytes := List UInt8

inductive Encoding where
  | utf8
  | latin1
  | ascii
  deriving DecidableEq, Repr

namespace Encoding

def name : Encoding → String
  | .utf8 => "utf-8"
  | .latin1 => "latin-1"
  | .ascii => "ascii"

/-- The number of characters that an encoding of one byte to a character can
write. UTF-8 writes all. -/
def limit? : Encoding → Option Nat
  | .utf8 => none
  | .latin1 => some 256
  | .ascii => some 128

/-! ## Names

Encodings are asked for by name. Case does not matter, and neither does what
stands between the letters and digits of a name. -/

/-- A name in lower case, with one underscore for each run of characters between
its letters, digits and dots. `started` says whether there is something before,
and `broken` whether such a run has just been passed. -/
def canonicalFrom (started broken : Bool) : Text → Text
  | [] => []
  | character :: rest =>
      if character.isAlphanum || character = '.' then
        let kept := character.toLower :: canonicalFrom true false rest
        if started && broken then '_' :: kept else kept
      else canonicalFrom started true rest

def canonicalName (asked : Text) : Text := canonicalFrom false false asked

example : canonicalName " ISO--8859-1 ".toList = "iso_8859_1".toList := by decide

def aliases : Encoding → List String
  | .utf8 => ["utf8", "u8", "utf", "utf8_ucs2", "utf8_ucs4", "cp65001"]
  | .latin1 =>
      ["latin1", "latin", "l1", "iso_8859_1", "iso8859_1", "iso8859", "8859",
        "iso_8859_1_1987", "iso_ir_100", "cp819", "csisolatin1", "ibm819"]
  | .ascii =>
      ["us_ascii", "us", "646", "iso646_us", "iso_646.irv_1991", "iso_ir_6",
        "ansi_x3_4_1968", "ansi_x3.4_1968", "ansi_x3.4_1986", "cp367", "csascii", "ibm367"]

/-- Whether a canonical name is one of an encoding. In an alias a dot may stand for
an underscore. -/
def answersTo (encoding : Encoding) (canonical : Text) : Bool :=
  let undotted := canonical.map fun character => if character = '.' then '_' else character
  canonical == canonicalName encoding.name.toList ||
    String.ofList canonical ∈ encoding.aliases || String.ofList undotted ∈ encoding.aliases

inductive NameError where
  | nullCharacter
  | unknown (name : Text)
  deriving DecidableEq, Repr

def NameError.message : NameError → String
  | .nullCharacter => "embedded null character"
  | .unknown name => "unknown encoding: " ++ String.ofList name

def standard : Text := "utf8".toList

/-- The name of whatever encoding the surroundings use. They use UTF-8. -/
def surrounding : Text := "locale".toList

def named (asked : Text) : Except NameError Encoding :=
  if '\x00' ∈ asked then .error .nullCharacter
  else if asked = surrounding then .ok .utf8
  else
    let canonical := canonicalName asked
    match [utf8, latin1, ascii].find? fun encoding => encoding.answersTo canonical with
    | some encoding => .ok encoding
    | none => .error (.unknown asked)

example : named "ISO-8859-1".toList = .ok .latin1 ∧ named " UTF_8".toList = .ok .utf8 ∧
    named "utf.8".toList = .error (.unknown "utf.8".toList) := by
  refine ⟨?_, ?_, ?_⟩ <;> rfl

end Encoding

/-! ## Writing -/

/-- The first run of neighbouring characters that an encoding cannot write. -/
structure EncodingFault where
  encoding : Encoding
  position : Nat
  characters : Text
  deriving DecidableEq, Repr

namespace EncodingFault

def message (fault : EncodingFault) : String :=
  let place :=
    match fault.characters with
    | [character] =>
        "character '" ++ String.ofList (Text.escapeCode character) ++
          "' in position " ++ toString fault.position
    | characters =>
        "characters in position " ++ toString fault.position ++ "-" ++
          toString (fault.position + characters.length - 1)
  "'" ++ fault.encoding.name ++ "' codec can't encode " ++ place ++
    ": ordinal not in range(" ++ toString (fault.encoding.limit?.getD 0) ++ ")"

end EncodingFault

namespace Encoding

def writable (encoding : Encoding) (character : Char) : Bool :=
  match encoding.limit? with
  | none => true
  | some limit => character.toNat < limit

/-- The bytes of one character. Only a writable character keeps its meaning. -/
def encodeCharacter (encoding : Encoding) (character : Char) : Bytes :=
  match encoding with
  | .utf8 => String.utf8EncodeChar character
  | .latin1 | .ascii => [UInt8.ofNat character.toNat]

def encode (encoding : Encoding) (text : Text) : Except EncodingFault Bytes :=
  if text.all encoding.writable then
    .ok (text.flatMap encoding.encodeCharacter)
  else
    let unwritten := text.dropWhile encoding.writable
    .error {
      encoding
      position := (text.takeWhile encoding.writable).length
      characters := unwritten.takeWhile fun character => !encoding.writable character }

example : latin1.encode "Zü".toList = .ok [0x5A, 0xFC] := by rfl

example : ascii.encode "Zürich 北京 .".toList = .error ⟨.ascii, 1, ['ü']⟩ := by rfl

example : (⟨.latin1, 3, "北京".toList⟩ : EncodingFault).message =
    "'latin-1' codec can't encode characters in position 3-4: ordinal not in range(256)" := by
  decide +kernel

theorem encode_eq_ok_iff {encoding : Encoding} {text : Text} {bytes : Bytes} :
    encoding.encode text = .ok bytes ↔
      (∀ character ∈ text, encoding.writable character) ∧
        bytes = text.flatMap encoding.encodeCharacter := by
  unfold encode
  split
  · rename_i writableText
    have all := List.all_eq_true.mp writableText
    exact ⟨fun equal => ⟨all, (Except.ok.inj equal).symm⟩, fun known => by rw [known.2]⟩
  · rename_i refused
    constructor
    · intro equal
      cases equal
    · intro known
      exact absurd (List.all_eq_true.mpr known.1) refused

end Encoding

end Standoff

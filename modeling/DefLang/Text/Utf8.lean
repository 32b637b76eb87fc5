/-!
# Bytes as text

`decodeText?` accepts exactly the bytes of a text.  `decodeLossy` accepts all
bytes: where they stop being text, the longest beginning of a character that
stands there, or a single byte, becomes one replacement character.
-/

namespace DefLang

abbrev Bytes := List UInt8

def encodeText (text : String) : Bytes := text.toUTF8.data.toList

def decodeText? (bytes : Bytes) : Option String :=
  String.fromUTF8? ⟨bytes.toArray⟩

theorem decodeText?_encodeText (text : String) :
    decodeText? (encodeText text) = some text := by
  have bytes :
      (⟨(encodeText text).toArray⟩ : ByteArray) = text.toByteArray := by
    simp [encodeText]
  rw [decodeText?, bytes, String.fromUTF8?, dif_pos text.isValidUTF8]
  rfl

def replacementCharacter : Char := '\ufffd'

/--
A character of which some bytes are still missing.  The next byte must lie
between `low` and `high`; `code` collects the bits read so far.
-/
structure PartialCharacter where
  missing : Nat
  low : Nat
  high : Nat
  code : Nat
  deriving DecidableEq, Repr

def startCharacter (byte : Nat) : List Char × Option PartialCharacter :=
  if byte < 0x80 then ([Char.ofNat byte], none)
  else if byte < 0xc2 then ([replacementCharacter], none)
  else if byte < 0xe0 then ([], some ⟨1, 0x80, 0xbf, byte - 0xc0⟩)
  else if byte = 0xe0 then ([], some ⟨2, 0xa0, 0xbf, 0⟩)
  else if byte = 0xed then ([], some ⟨2, 0x80, 0x9f, 0xd⟩)
  else if byte < 0xf0 then ([], some ⟨2, 0x80, 0xbf, byte - 0xe0⟩)
  else if byte = 0xf0 then ([], some ⟨3, 0x90, 0xbf, 0⟩)
  else if byte < 0xf4 then ([], some ⟨3, 0x80, 0xbf, byte - 0xf0⟩)
  else if byte = 0xf4 then ([], some ⟨3, 0x80, 0x8f, 4⟩)
  else ([replacementCharacter], none)

def continueCharacter (unfinished : PartialCharacter) (byte : Nat) :
    List Char × Option PartialCharacter :=
  if unfinished.low ≤ byte ∧ byte ≤ unfinished.high then
    let code := unfinished.code * 64 + (byte - 0x80)
    if unfinished.missing ≤ 1 then
      ([Char.ofNat code], none)
    else
      ([], some ⟨unfinished.missing - 1, 0x80, 0xbf, code⟩)
  else
    let (characters, next) := startCharacter byte
    (replacementCharacter :: characters, next)

def decodeLossyFrom : Option PartialCharacter → Bytes → List Char
  | none, [] => []
  | some _, [] => [replacementCharacter]
  | state, byte :: bytes =>
      let (characters, next) :=
        match state with
        | none => startCharacter byte.toNat
        | some unfinished => continueCharacter unfinished byte.toNat
      characters ++ decodeLossyFrom next bytes

def decodeLossy (bytes : Bytes) : String :=
  String.ofList (decodeLossyFrom none bytes)

end DefLang

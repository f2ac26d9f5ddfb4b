import SourceOutline.Text.Quoted

/-!
# Reading UTF-8

Bytes are read one character at a time. Where no character can be read, the bytes that are refused
are the longest start of a character that stands there, or the single byte that starts none. A
strict reading fails at the first refused bytes and says why; a lenient reading leaves refused bytes
out.
-/

namespace SourceOutline.Text.Utf8

/-- Why bytes cannot be read. -/
inductive Reason where
  /-- No character starts with this byte. -/
  | startByte
  /-- The byte after the refused ones cannot go on with their character. -/
  | continuation
  /-- The bytes end inside a character. -/
  | endOfData
  deriving DecidableEq, Repr

/-- The words of a message for the reason. -/
def Reason.text : Reason → String
  | .startByte => "invalid start byte"
  | .continuation => "invalid continuation byte"
  | .endOfData => "unexpected end of data"

/-- Bytes that are refused. -/
structure Flaw where
  /-- How many bytes stand before them. -/
  position : Nat
  /-- The refused bytes. -/
  refused : List UInt8
  /-- Why they are refused. -/
  reason : Reason
  deriving DecidableEq, Repr

/-- The message about refused bytes: a single byte is shown, of several the first and last position
are given. -/
def Flaw.message (f : Flaw) : String :=
  let place := match f.refused with
    | [b] => "byte 0x" ++ String.ofList (hexDigits 2 b.toNat) ++ " in position " ++
        toString f.position
    | bs => "bytes in position " ++ toString f.position ++ "-" ++
        toString (f.position + bs.length - 1)
  "'utf-8' codec can't decode " ++ place ++ ": " ++ f.reason.text

/-- What stands at the start of some bytes: a character or refused bytes, with their number. -/
inductive Step where
  /-- A character and the number of its bytes. -/
  | char (c : Char) (size : Nat)
  /-- The number of refused bytes and why they are refused. -/
  | flaw (reason : Reason) (size : Nat)

/-- Reads `needed` more bytes of a character of which `size` bytes gave `code`. -/
def readTails : (needed size code : Nat) → List UInt8 → Step
  | 0, size, code, _ => .char (Char.ofNat code) size
  | _ + 1, size, _, [] => .flaw .endOfData size
  | needed + 1, size, code, b :: rest =>
    if 0x80 ≤ b && b ≤ 0xbf then readTails needed (size + 1) (64 * code + b.toNat % 64) rest
    else .flaw .continuation size

/-- The least and the greatest second byte after a first byte. The narrower bounds leave out the
overlong forms, the surrogates and what lies beyond the last code point. -/
def secondBounds (lead : UInt8) : UInt8 × UInt8 :=
  if lead == 0xe0 then (0xa0, 0xbf)
  else if lead == 0xed then (0x80, 0x9f)
  else if lead == 0xf0 then (0x90, 0xbf)
  else if lead == 0xf4 then (0x80, 0x8f)
  else (0x80, 0xbf)

/-- Reads the second byte after `lead`, and `needed` bytes after that one. -/
def readSecond (lead : UInt8) (needed code : Nat) : List UInt8 → Step
  | [] => .flaw .endOfData 1
  | b :: rest =>
    if (secondBounds lead).1 ≤ b && b ≤ (secondBounds lead).2 then
      readTails needed 2 (64 * code + b.toNat % 64) rest
    else .flaw .continuation 1

/-- What stands at the start of the bytes `lead :: rest`. -/
def step (lead : UInt8) (rest : List UInt8) : Step :=
  if lead < 0x80 then .char (Char.ofNat lead.toNat) 1
  else if lead < 0xc2 || 0xf4 < lead then .flaw .startByte 1
  else if lead < 0xe0 then readSecond lead 0 (lead.toNat % 32) rest
  else if lead < 0xf0 then readSecond lead 1 (lead.toNat % 16) rest
  else readSecond lead 2 (lead.toNat % 8) rest

/-- The characters and the refused bytes of a byte sequence in their order, `position` being the
number of bytes before it. -/
def pieces (position : Nat) : List UInt8 → List (Char ⊕ Flaw)
  | [] => []
  | b :: rest =>
    match step b rest with
    | .char c size => .inl c :: pieces (position + size) (rest.drop (size - 1))
    | .flaw reason size =>
      .inr ⟨position, (b :: rest).take size, reason⟩ ::
        pieces (position + size) (rest.drop (size - 1))
  termination_by bytes => bytes.length
  decreasing_by all_goals simp only [List.length_drop, List.length_cons]; omega

/-- The characters that can be read, the refused bytes left out. -/
def lenient (bytes : ByteArray) : List Char :=
  (pieces 0 bytes.toList).filterMap Sum.getLeft?

/-- The first refused bytes. -/
def firstFlaw? (bytes : ByteArray) : Option Flaw :=
  (pieces 0 bytes.toList).findSome? Sum.getRight?

/-- The text that the bytes encode; fails when they are not UTF-8. -/
def decode (bytes : ByteArray) : Except Flaw String :=
  match String.fromUTF8? bytes with
  | some s => .ok s
  | none => .error ((firstFlaw? bytes).getD ⟨0, [], .startByte⟩)

end SourceOutline.Text.Utf8

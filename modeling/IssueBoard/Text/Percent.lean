import IssueBoard.Text.Hex

/-!
# Percent encoding

A component of an address keeps ASCII letters, digits and the marks `- _ . ! ~ * ' ( )`. Every other
character becomes its UTF-8 bytes, each written as a percent sign and two upper-case hexadecimal
digits. Decoding reads such escapes back.
-/

namespace IssueBoard.Text.Percent

/-- Whether an address component keeps a character as it is. -/
def isUnreserved (c : Char) : Bool :=
  c.isAlphanum || "-_.!~*\x27()".toList.contains c

/-- The UTF-8 bytes of a character. -/
def bytesOf (c : Char) : List UInt8 := String.utf8EncodeChar c

/-- A byte as a percent escape. -/
def escape (byte : UInt8) : List Char := '%' :: hexDigits true 2 byte.toNat

/-- A character in an address component. -/
def encodeChar (c : Char) : List Char :=
  if isUnreserved c then [c] else (bytesOf c).flatMap escape

/-- A text as an address component. -/
def encode (s : String) : String := String.ofList (s.toList.flatMap encodeChar)

/-- The bytes that an encoded component stands for; a percent sign must be followed by two
hexadecimal digits. -/
def decodeBytes : List Char → Option (List UInt8)
  | [] => some []
  | '%' :: high :: low :: rest => do
    let value ← hexNumber? [high, low]
    return UInt8.ofNat value :: (← decodeBytes rest)
  | '%' :: _ => none
  | c :: rest => do return bytesOf c ++ (← decodeBytes rest)

/-- Reads an encoded component back, provided that its bytes are UTF-8. -/
def decode (s : String) : Option String := do
  String.fromUTF8? ⟨(← decodeBytes s.toList).toArray⟩

end IssueBoard.Text.Percent

import CallWatch.Text.Hex

/-! Percent escapes: bytes of a text written as a percent sign and two hexadecimal digits. -/

namespace CallWatch.Url

/-- Characters that are escaped in every part of a URL. -/
def isEscaped (c : Char) : Bool :=
  c ≤ ' ' || '~' < c || c = '"' || c = '<' || c = '>'

/-- A character as percent escapes of its bytes. -/
def escape (c : Char) : List Char :=
  (String.utf8EncodeChar c).flatMap fun b => '%' :: (Hex.ofByte b).map Char.toUpper

/-- A part in which `also` are escaped too. -/
def escapeAll (also : List Char) (part : List Char) : List Char :=
  part.flatMap fun c => if isEscaped c || also.contains c then escape c else [c]

/-- The bytes of a text with its escapes carried out. A percent sign that begins no escape stands
for itself. -/
def unescape : List Char → List UInt8
  | '%' :: high :: low :: rest =>
    match Hex.digit? high, Hex.digit? low with
    | some h, some l => UInt8.ofNat (16 * h + l) :: unescape rest
    | _, _ => 0x25 :: unescape (high :: low :: rest)
  | c :: rest => String.utf8EncodeChar c ++ unescape rest
  | [] => []

end CallWatch.Url

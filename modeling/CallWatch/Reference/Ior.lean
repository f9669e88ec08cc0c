import CallWatch.Reference.Cdr
import CallWatch.Text.Blank
import CallWatch.Text.Cut
import CallWatch.Text.Hex

/-! Stringified interoperable object references. The text is a prefix and the hexadecimal digits of
an encapsulation that holds a type id and tagged profiles. Only the profiles of the internet
protocol are decoded; one that does not decode is passed over. -/

namespace CallWatch

/-- A profile of the internet protocol: its version, and where the object is served. -/
structure IiopProfile where
  major : UInt8
  minor : UInt8
  host : String
  port : UInt16
  deriving DecidableEq

/-- An object reference: its type id, its internet profiles in order, and its size in bytes. -/
structure Ior where
  typeId : String
  byteLength : Nat
  profiles : List IiopProfile
  deriving DecidableEq

namespace IiopProfile

def tag : UInt32 := 0

/-- The profile in the data of a tagged profile; what comes after the port is not read. -/
def ofBytes? (data : List UInt8) : Option IiopProfile := do
  let start ← Cdr.Reader.ofEncapsulation? data
  let (major, afterMajor) ← start.octet?
  let (minor, afterMinor) ← afterMajor.octet?
  let (host, afterHost) ← afterMinor.string?
  let (port, _) ← afterHost.ushort?
  return ⟨major, minor, host, port⟩

/-- The data of a profile of version 1.2 with a fixed object key. -/
def encode (host : String) (port : UInt16) : List UInt8 :=
  Cdr.Writer.encapsulation |>.raw [1, 2] |>.string host |>.ushort port
    |>.octets (Utf8.encode "key1".toList)

end IiopProfile

namespace Ior

/-- The mark at the start of a stringified reference, in any case. -/
def mark : List Char := "IOR:".toList

/-- The internet profiles among the next `count` tagged profiles. -/
def readProfiles? : Nat → Cdr.Reader → Option (List IiopProfile)
  | 0, _ => some []
  | count + 1, r => do
    let (tag, afterTag) ← r.ulong?
    let (data, next) ← afterTag.octets?
    let others ← readProfiles? count next
    let own := if tag = IiopProfile.tag then (IiopProfile.ofBytes? data).toList else []
    return own ++ others

def ofBytes? (bytes : List UInt8) : Option Ior := do
  let start ← Cdr.Reader.ofEncapsulation? bytes
  let (typeId, afterType) ← start.string?
  let (count, next) ← afterType.ulong?
  let profiles ← readProfiles? count.toNat next
  return ⟨typeId, bytes.length, profiles⟩

/-- The reference in a text, which may stand between blanks. -/
def ofText? (text : List Char) : Option Ior := do
  let digits ← Text.behindAnyCase? mark (Text.trim text)
  let bytes ← Hex.decode? digits
  ofBytes? bytes

def parse? (text : String) : Option Ior :=
  ofText? text.toList

def primary? (ior : Ior) : Option IiopProfile :=
  ior.profiles.head?

def writeProfile (w : Cdr.Writer) (endpoint : String × UInt16) : Cdr.Writer :=
  (w.ulong IiopProfile.tag).octets (IiopProfile.encode endpoint.1 endpoint.2)

def encodeBytes (typeId : String) (endpoints : List (String × UInt16)) : List UInt8 :=
  endpoints.foldl writeProfile
    ((Cdr.Writer.encapsulation.string typeId).ulong (UInt32.ofNat endpoints.length))

/-- The text of a reference with one internet profile per endpoint. -/
def encode (typeId : String) (endpoints : List (String × UInt16)) : String :=
  String.ofList (mark ++ Hex.encode (encodeBytes typeId endpoints))

end Ior

end CallWatch

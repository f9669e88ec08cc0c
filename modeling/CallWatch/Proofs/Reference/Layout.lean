import CallWatch.Proofs.Text.Utf8
import CallWatch.Reference.Cdr
import Mathlib.Algebra.Order.Group.Nat
import Mathlib.Data.Nat.ModEq

/-! How data may be laid out in an encapsulation. Numbers and bytes stand behind each other from a
position on, in one byte order, and a number stands at a multiple of its size behind padding of any
content. A reader that stands before such fields reads them one by one, and a writer lays them out
in big-endian order behind zeros. -/

namespace CallWatch.Cdr

/-- The `n` bytes of a number, least significant first. -/
def littleEndian : Nat → Nat → List UInt8
  | 0, _ => []
  | n + 1, value => UInt8.ofNat value :: littleEndian n (value / 256)

@[simp] theorem length_littleEndian (n value : Nat) : (littleEndian n value).length = n := by
  induction n generalizing value with
  | zero => rfl
  | succ n ih => rw [littleEndian, List.length_cons, ih]

theorem bigEndian_eq_reverse (n value : Nat) :
    bigEndian n value = (littleEndian n value).reverse := by
  induction n generalizing value with
  | zero => rfl
  | succ n ih => rw [bigEndian, littleEndian, List.reverse_cons, ih]

namespace ByteOrder

/-- The order that the octet at the start of an encapsulation tells by its lowest bit. -/
def ofFlag (flag : UInt8) : ByteOrder :=
  if flag % 2 = 1 then .little else .big

def bytes (order : ByteOrder) (n value : Nat) : List UInt8 :=
  match order with
  | .big => (littleEndian n value).reverse
  | .little => littleEndian n value

@[simp] theorem length_bytes (order : ByteOrder) (n value : Nat) :
    (order.bytes n value).length = n := by
  cases order <;> simp [bytes]

/-- The bytes of a number stand for the number in either order. -/
theorem number_bytes (order : ByteOrder) {n value : Nat} (h : value < Nat.pow 256 n) :
    order.number (order.bytes n value) = value := by
  have hlittle : ((littleEndian n value).reverse).foldl (fun sum b => 256 * sum + b.toNat) 0 =
      value := by
    induction n generalizing value with
    | zero => exact (Nat.lt_one_iff.mp h).symm
    | succ n ih =>
      have hvalue : value / 256 < Nat.pow 256 n := Nat.div_lt_of_lt_mul (by rwa [Nat.mul_comm])
      rw [littleEndian, List.reverse_cons, List.foldl_append, ih hvalue]
      show 256 * (value / 256) + value % 256 = value
      exact Nat.div_add_mod value 256
  cases order with
  | big => exact hlittle
  | little => exact hlittle

end ByteOrder

/-- What is laid out in an encapsulation: a number of `size` bytes, or bytes as they are. -/
inductive Field
  | number (size value : Nat)
  | raw (bytes : List UInt8)

namespace Field

def octets (bytes : List UInt8) : List Field :=
  [.number 4 bytes.length, .raw bytes]

/-- A string in UTF-8 with a zero byte at its end, behind its length. -/
def string (text : String) : List Field :=
  octets (Utf8.encode text.toList ++ [0])

end Field

/-- Fields, from a position in an encapsulation on, may be laid out as the given bytes. The padding
in front of a number is as short as can be, and may hold anything. -/
inductive Laid (order : ByteOrder) : Nat → List Field → List UInt8 → Prop
  | nil {position : Nat} : Laid order position [] []
  | number {position size value : Nat} (padding : List UInt8) {rest : List UInt8}
      {fields : List Field}
      (hshort : padding.length < size) (haligned : size ∣ position + padding.length)
      (hfits : value < Nat.pow 256 size)
      (h : Laid order (position + padding.length + size) fields rest) :
      Laid order position (.number size value :: fields)
        (padding ++ order.bytes size value ++ rest)
  | raw {position : Nat} (bytes : List UInt8) {rest : List UInt8} {fields : List Field}
      (h : Laid order (position + bytes.length) fields rest) :
      Laid order position (.raw bytes :: fields) (bytes ++ rest)

theorem Laid.append {order : ByteOrder} {position : Nat} {fields more : List Field}
    {bytes rest : List UInt8} (h : Laid order position fields bytes)
    (hmore : Laid order (position + bytes.length) more rest) :
    Laid order position (fields ++ more) (bytes ++ rest) := by
  induction h with
  | nil => simpa using hmore
  | @number position size value padding bytes fields hshort haligned hfits h ih =>
    rw [List.cons_append, List.append_assoc]
    refine .number padding hshort haligned hfits (ih ?_)
    rw [List.length_append, List.length_append, ByteOrder.length_bytes] at hmore
    rwa [Nat.add_assoc, Nat.add_assoc, ← Nat.add_assoc padding.length]
  | @raw position front bytes fields h ih =>
    rw [List.cons_append, List.append_assoc]
    refine .raw front (ih ?_)
    rwa [List.length_append, ← Nat.add_assoc] at hmore

namespace Reader

/-- The gap is the padding that reaches the next multiple: it is shorter than the multiple's size,
and no other such distance reaches one. -/
theorem gap_eq_iff {n position distance : Nat} (hn : 0 < n) :
    gap n position = distance ↔ distance < n ∧ n ∣ position + distance := by
  have hgap : gap n position < n ∧ n ∣ position + gap n position := by
    refine ⟨Nat.mod_lt _ hn, ?_⟩
    rw [gap, Nat.dvd_iff_mod_eq_zero, Nat.add_mod_mod, ← Nat.mod_add_mod,
      Nat.add_sub_cancel' (Nat.mod_lt _ hn).le, Nat.mod_self]
  constructor
  · rintro rfl
    exact hgap
  · rintro ⟨hlt, hdvd⟩
    have hmod : gap n position ≡ distance [MOD n] :=
      Nat.ModEq.add_left_cancel' position
        ((Nat.modEq_zero_iff_dvd.mpr hgap.2).trans (Nat.modEq_zero_iff_dvd.mpr hdvd).symm)
    exact hmod.eq_of_lt_of_lt hgap.1 hlt

/-- A reader stands before fields that are laid out from its position on, with more bytes behind
them. -/
def Before (r : Reader) (fields : List Field) (more : List UInt8) : Prop :=
  ∃ bytes, Laid r.order r.position fields bytes ∧ r.rest = bytes ++ more

theorem before_ofEncapsulation? {flag : UInt8} {body : List UInt8} {fields : List Field}
    (h : Laid (.ofFlag flag) 1 fields body) (more : List UInt8) :
    ∃ r, ofEncapsulation? (flag :: body ++ more) = some r ∧ r.Before fields more :=
  ⟨⟨.ofFlag flag, 1, body ++ more⟩, rfl, body, h, rfl⟩

theorem take?_append (order : ByteOrder) (position : Nat) (front rest : List UInt8) :
    take? front.length ⟨order, position, front ++ rest⟩ =
      some (front, ⟨order, position + front.length, rest⟩) := by
  simp [take?]

section Before

variable {r : Reader} {fields : List Field} {more : List UInt8}

theorem Before.number? {size value : Nat} (h : r.Before (.number size value :: fields) more) :
    ∃ next, r.number? size = some (value, next) ∧ next.Before fields more := by
  obtain ⟨bytes, hlaid, hrest⟩ := h
  obtain ⟨order, position, rest⟩ := r
  obtain _ | @⟨_, _, _, padding, bytes, _, hshort, haligned, hfits, hlaid⟩ := hlaid
  refine ⟨⟨order, position + padding.length + size, bytes ++ more⟩, ?_, bytes, hlaid, rfl⟩
  have hgap : gap size position = padding.length :=
    (gap_eq_iff (by omega)).mpr ⟨hshort, haligned⟩
  have hpadding := take?_append order position padding (order.bytes size value ++ (bytes ++ more))
  have hbytes :=
    take?_append order (position + padding.length) (order.bytes size value) (bytes ++ more)
  rw [ByteOrder.length_bytes] at hbytes
  simp only at hrest
  rw [Reader.number?, hrest, hgap, List.append_assoc, List.append_assoc, hpadding]
  simp [hbytes, ByteOrder.number_bytes order hfits]

theorem Before.take? {bytes : List UInt8} (h : r.Before (.raw bytes :: fields) more) :
    ∃ next, r.take? bytes.length = some (bytes, next) ∧ next.Before fields more := by
  obtain ⟨laid, hlaid, hrest⟩ := h
  obtain ⟨order, position, rest⟩ := r
  obtain _ | _ | @⟨_, _, laid, _, hlaid⟩ := hlaid
  refine ⟨⟨order, position + bytes.length, laid ++ more⟩, ?_, laid, hlaid, rfl⟩
  simp only at hrest
  rw [hrest, List.append_assoc, take?_append]

theorem Before.octet? {b : UInt8} (h : r.Before (.raw [b] :: fields) more) :
    ∃ next, r.octet? = some (b, next) ∧ next.Before fields more := by
  obtain ⟨laid, hlaid, hrest⟩ := h
  obtain ⟨order, position, rest⟩ := r
  obtain _ | _ | @⟨_, _, laid, _, hlaid⟩ := hlaid
  refine ⟨⟨order, position + 1, laid ++ more⟩, ?_, laid, hlaid, rfl⟩
  simp only at hrest
  rw [hrest]
  rfl

theorem Before.ushort? {value : UInt16} (h : r.Before (.number 2 value.toNat :: fields) more) :
    ∃ next, r.ushort? = some (value, next) ∧ next.Before fields more := by
  obtain ⟨next, hread, hnext⟩ := h.number?
  exact ⟨next, by simp [Reader.ushort?, hread], hnext⟩

theorem Before.ulong? {value : UInt32} (h : r.Before (.number 4 value.toNat :: fields) more) :
    ∃ next, r.ulong? = some (value, next) ∧ next.Before fields more := by
  obtain ⟨next, hread, hnext⟩ := h.number?
  exact ⟨next, by simp [Reader.ulong?, hread], hnext⟩

/-- A count that is laid out in four bytes is read as it is. -/
theorem Before.count? {count : Nat} (h : r.Before (.number 4 count :: fields) more) :
    ∃ value next, r.ulong? = some (value, next) ∧ value.toNat = count ∧
      next.Before fields more := by
  have hfits : count < Nat.pow 256 4 := by
    obtain ⟨_, hlaid, -⟩ := h
    cases hlaid with
    | number _ _ _ hfits _ => exact hfits
  have hcount : (UInt32.ofNat count).toNat = count := UInt32.toNat_ofNat_of_lt' hfits
  rw [← hcount] at h
  obtain ⟨next, hread, hnext⟩ := h.ulong?
  exact ⟨_, next, hread, hcount, hnext⟩

theorem Before.octets? {bytes : List UInt8}
    (h : r.Before (Field.octets bytes ++ fields) more) :
    ∃ next, r.octets? = some (bytes, next) ∧ next.Before fields more := by
  obtain ⟨length, behind, hlength, hvalue, hbehind⟩ := h.count?
  obtain ⟨next, hread, hnext⟩ := hbehind.take?
  exact ⟨next, by simp [Reader.octets?, hlength, hvalue, hread], hnext⟩

/-- A string is read back, whatever zeros it has in it or at its end. -/
theorem Before.string? {text : String} (h : r.Before (Field.string text ++ fields) more) :
    ∃ next, r.string? = some (text, next) ∧ next.Before fields more := by
  obtain ⟨next, hread, hnext⟩ := h.octets?
  exact ⟨next, by simp [Reader.string?, hread, Utf8.decodeLossy_encode], hnext⟩

end Before

end Reader

namespace Writer

/-- A writer's operation lays out fields behind what is written, in big-endian order. -/
def Writes (write : Writer → Writer) (fields : List Field) : Prop :=
  ∀ w, ∃ bytes, write w = w ++ bytes ∧ Laid .big w.length fields bytes

theorem Writes.comp {first second : Writer → Writer} {fields more : List Field}
    (hfirst : Writes first fields) (hsecond : Writes second more) :
    Writes (second ∘ first) (fields ++ more) := by
  intro w
  obtain ⟨bytes, hbytes, hlaid⟩ := hfirst w
  obtain ⟨rest, hrest, hlaidRest⟩ := hsecond (first w)
  rw [hbytes, List.length_append] at hlaidRest
  exact ⟨bytes ++ rest, by rw [Function.comp, hrest, hbytes, List.append_assoc],
    hlaid.append hlaidRest⟩

theorem writes_raw (bytes : List UInt8) : Writes (raw bytes) [.raw bytes] := by
  intro w
  exact ⟨bytes, rfl, by simpa using Laid.raw bytes Laid.nil⟩

theorem writes_number {size value : Nat} (hsize : 0 < size) (hfits : value < Nat.pow 256 size) :
    Writes (number size value) [.number size value] := by
  intro w
  obtain ⟨hshort, haligned⟩ :=
    (Reader.gap_eq_iff hsize).mp (rfl : _ = Reader.gap size w.length)
  refine ⟨List.replicate (Reader.gap size w.length) 0 ++ bigEndian size value, ?_, ?_⟩
  · rw [number, List.append_assoc]
  · have hlaid : Laid .big w.length [.number size value] _ :=
      .number (List.replicate (Reader.gap size w.length) 0) (by simpa using hshort)
        (by simpa using haligned) hfits .nil
    rwa [List.append_nil, ByteOrder.bytes, ← bigEndian_eq_reverse] at hlaid

theorem writes_ushort (value : UInt16) : Writes (ushort value) [.number 2 value.toNat] :=
  writes_number (by decide) value.toNat_lt

theorem writes_ulong (value : UInt32) : Writes (ulong value) [.number 4 value.toNat] :=
  writes_number (by decide) value.toNat_lt

theorem writes_octets {bytes : List UInt8} (hfits : bytes.length < Nat.pow 2 32) :
    Writes (octets bytes) (Field.octets bytes) := by
  have hlength := writes_ulong (UInt32.ofNat bytes.length)
  rw [UInt32.toNat_ofNat_of_lt' hfits] at hlength
  exact hlength.comp (writes_raw bytes)

theorem writes_string {text : String} (hfits : Utf8.size text.toList + 1 < Nat.pow 2 32) :
    Writes (string text) (Field.string text) :=
  writes_octets (by simpa [Utf8.size] using hfits)

end Writer

end CallWatch.Cdr

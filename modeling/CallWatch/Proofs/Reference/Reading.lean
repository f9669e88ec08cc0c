import CallWatch.Proofs.Reference.Layout
import CallWatch.Proofs.Text.Blank
import CallWatch.Proofs.Text.Case
import CallWatch.Reference.Endpoint

/-! References read back from any layout. An encapsulation is laid out in the byte order of its own
flag, the data of each profile again in its own, and profiles of other protocols and ones that do
not decode may stand between the internet profiles. Reading gives the internet profiles in order. -/

namespace CallWatch

namespace IiopProfile

/-- What the data of an internet profile begins with, behind its flag. -/
def fields (p : IiopProfile) : List Cdr.Field :=
  .raw [p.major] :: .raw [p.minor] :: (Cdr.Field.string p.host ++ [.number 2 p.port.toNat])

/-- The data of a tagged profile holds an internet profile, in the byte order of its flag, and
anything behind the port. -/
def LaidIn (p : IiopProfile) (data : List UInt8) : Prop :=
  ∃ flag body more, data = flag :: body ∧ Cdr.Laid (.ofFlag flag) 1 (p.fields ++ [.raw more]) body

theorem LaidIn.ofBytes?_eq {p : IiopProfile} {data : List UInt8} (h : p.LaidIn data) :
    ofBytes? data = some p := by
  obtain ⟨flag, body, more, rfl, hlaid⟩ := h
  rw [fields, List.cons_append, List.cons_append, List.append_assoc] at hlaid
  obtain ⟨start, hstart, hbefore⟩ := Cdr.Reader.before_ofEncapsulation? hlaid []
  obtain ⟨afterMajor, hmajor, hbefore⟩ := hbefore.octet?
  obtain ⟨afterMinor, hminor, hbefore⟩ := hbefore.octet?
  obtain ⟨afterHost, hhost, hbefore⟩ := hbefore.string?
  obtain ⟨afterPort, hport, -⟩ := hbefore.ushort?
  rw [List.append_nil] at hstart
  simp [ofBytes?, hstart, hmajor, hminor, hhost, hport]

end IiopProfile

/-- A tagged profile of a reference: an internet profile and data that hold it, a profile of another
protocol with any data, or data under the tag of the internet protocol that do not decode. -/
inductive TaggedProfile
  | internet (profile : IiopProfile) (data : List UInt8) (h : profile.LaidIn data)
  | foreign (tag : UInt32) (data : List UInt8) (h : tag ≠ IiopProfile.tag)
  | broken (data : List UInt8) (h : IiopProfile.ofBytes? data = none)

namespace TaggedProfile

def tag : TaggedProfile → UInt32
  | internet _ _ _ | broken _ _ => IiopProfile.tag
  | foreign tag _ _ => tag

def data : TaggedProfile → List UInt8
  | internet _ data _ | foreign _ data _ | broken data _ => data

def profile? : TaggedProfile → Option IiopProfile
  | internet profile _ _ => some profile
  | foreign _ _ _ | broken _ _ => none

def fields (t : TaggedProfile) : List Cdr.Field :=
  .number 4 t.tag.toNat :: Cdr.Field.octets t.data

/-- What is read from a tagged profile is its internet profile, if it is one. -/
theorem toList_profile? (t : TaggedProfile) :
    (if t.tag = IiopProfile.tag then (IiopProfile.ofBytes? t.data).toList else []) =
      t.profile?.toList := by
  cases t with
  | internet profile data h => simp [tag, TaggedProfile.data, profile?, h.ofBytes?_eq]
  | foreign tag data h => simp [TaggedProfile.tag, profile?, h]
  | broken data h => simp [tag, TaggedProfile.data, profile?, h]

end TaggedProfile

namespace Ior

/-- Bytes are an encapsulation of a type id and tagged profiles, in the byte order of its flag. -/
def LaidIn (typeId : String) (tagged : List TaggedProfile) (bytes : List UInt8) : Prop :=
  ∃ flag body, bytes = flag :: body ∧
    Cdr.Laid (.ofFlag flag) 1 (Cdr.Field.string typeId ++
      (.number 4 tagged.length :: tagged.flatMap TaggedProfile.fields)) body

theorem readProfiles?_eq {tagged : List TaggedProfile} {r : Cdr.Reader} {more : List UInt8}
    (h : r.Before (tagged.flatMap TaggedProfile.fields) more) :
    readProfiles? tagged.length r = some (tagged.filterMap TaggedProfile.profile?) := by
  induction tagged generalizing r with
  | nil => rfl
  | cons t tagged ih =>
    obtain ⟨afterTag, htag, hbefore⟩ := h.ulong?
    obtain ⟨next, hdata, hnext⟩ := hbefore.octets?
    rw [List.length_cons, readProfiles?, htag]
    simp only [Option.bind_eq_bind, Option.bind_some, hdata, ih hnext, Option.pure_def,
      t.toList_profile?, List.filterMap_cons]
    cases t.profile? <;> rfl

/-- An encapsulation reads back whatever bytes come behind it. -/
theorem LaidIn.ofBytes?_eq {typeId : String} {tagged : List TaggedProfile}
    {bytes : List UInt8} (h : LaidIn typeId tagged bytes) (trailing : List UInt8) :
    ofBytes? (bytes ++ trailing) = some ⟨typeId, (bytes ++ trailing).length,
      tagged.filterMap TaggedProfile.profile?⟩ := by
  obtain ⟨flag, body, rfl, hlaid⟩ := h
  obtain ⟨start, hstart, hbefore⟩ := Cdr.Reader.before_ofEncapsulation? hlaid trailing
  obtain ⟨afterType, htype, hbefore⟩ := hbefore.string?
  obtain ⟨count, next, hcount, hlength, hnext⟩ := hbefore.count?
  rw [ofBytes?, hstart]
  simp [htype, hcount, hlength, readProfiles?_eq hnext]

/-- A text shows bytes: between blanks it is the mark of a reference and the digits of the bytes,
each in any case. -/
def Shows (text : List Char) (bytes : List UInt8) : Prop :=
  ∃ before lead digits after, text = before ++ (lead ++ digits ++ after) ∧
    (∀ c ∈ before, Text.isBlank c) ∧ (∀ c ∈ after, Text.isBlank c) ∧
    lead.map Char.toLower = "ior:".toList ∧ digits.map Char.toLower = Hex.encode bytes

/-- The letters of a mark and the digits of bytes are no blanks in any case. -/
theorem not_isBlank_of_shown {lead digits : List Char} {bytes : List UInt8}
    (hlead : lead.map Char.toLower = "ior:".toList)
    (hdigits : digits.map Char.toLower = Hex.encode bytes) :
    ∀ c ∈ lead ++ digits, ¬Text.isBlank c := by
  intro c hc
  rw [← Text.isBlank_toLower]
  rcases List.mem_append.mp hc with hc | hc
  · have hmark : ∀ d ∈ "ior:".toList, ¬Text.isBlank d := List.all_iff_forall_prop.mp (by decide)
    exact hmark _ (hlead ▸ List.mem_map_of_mem hc)
  · exact Hex.forall_mem_encode (P := (¬Text.isBlank ·)) (by decide) bytes _
      (hdigits ▸ List.mem_map_of_mem hc)

/-- What is left between the blanks shows the same bytes, by the digits behind the mark. -/
theorem Shows.trim {text : List Char} {bytes : List UInt8} (h : Shows text bytes) :
    Shows (Text.trim text) bytes ∧
      ∃ digits, Text.behindAnyCase? mark (Text.trim text) = some digits ∧
        Hex.decode? digits = some bytes := by
  obtain ⟨before, lead, digits, after, rfl, hbefore, hafter, hlead, hdigits⟩ := h
  have hne : lead ++ digits ≠ [] := by
    intro hnil
    rw [(List.append_eq_nil_iff.mp hnil).1] at hlead
    exact nomatch hlead
  rw [Text.trim_between hbefore (not_isBlank_of_shown hlead hdigits) hne hafter]
  exact ⟨⟨[], lead, digits, [], by simp, by simp, by simp, hlead, hdigits⟩, digits,
    Text.behindAnyCase?_eq_some_iff.mpr ⟨lead, rfl, hlead⟩, Hex.decode?_of_map_toLower hdigits⟩

theorem ofText?_of_shows {text : List Char} {bytes : List UInt8} (h : Shows text bytes) :
    ofText? text = ofBytes? bytes := by
  obtain ⟨-, digits, hmark, hdecode⟩ := h.trim
  simp [ofText?, hmark, hdecode]

theorem endpoint_of_shows {text : List Char} {bytes : List UInt8} (h : Shows text bytes) :
    Endpoint.ofText? text = (ofBytes? bytes).bind Endpoint.ofIor? := by
  obtain ⟨htrim, digits, hmark, -⟩ := h.trim
  rw [Endpoint.ofText?, Endpoint.ofTrimmed?, hmark, ofText?_of_shows htrim]
  rfl

/-- A reference is read from every text that shows an encapsulation of it, with any bytes behind,
and has the internet profiles of the encapsulation in their order. -/
theorem parse?_of_laidIn {typeId : String} {tagged : List TaggedProfile}
    {bytes trailing : List UInt8} {text : String} (hlaid : LaidIn typeId tagged bytes)
    (htext : Shows text.toList (bytes ++ trailing)) :
    parse? text = some ⟨typeId, (bytes ++ trailing).length,
      tagged.filterMap TaggedProfile.profile?⟩ := by
  rw [parse?, ofText?_of_shows htext, hlaid.ofBytes?_eq trailing]

/-- A little-endian reference whose padding is not zero. Its first profile has another tag, the
second has no data, and the third holds a big-endian internet profile. The digits are upper-case. -/
theorem parse?_of_laidIn_of_mixed_orders :
    let data : List UInt8 := [0, 1, 0, 0xBB, 0, 0, 0, 2, 0x68, 0, 0, 80, 9]
    let bytes : List UInt8 := [1, 0xAA, 0xAA, 0xAA, 2, 0, 0, 0, 0x54, 0, 0xAA, 0xAA, 3, 0, 0, 0,
      1, 0, 0, 0, 1, 0, 0, 0, 7, 0xAA, 0xAA, 0xAA, 0, 0, 0, 0, 0, 0, 0, 0,
      0, 0, 0, 0, 13, 0, 0, 0] ++ data
    let text := " iOr:".toList ++ (Hex.encode (bytes ++ [0xFF])).map Char.toUpper ++ ['\n']
    (∃ tagged, LaidIn "T" tagged bytes) ∧ Shows text (bytes ++ [0xFF]) ∧
      parse? (String.ofList text) = some ⟨"T", 58, [⟨1, 0, "h", 80⟩]⟩ := by
  intro data bytes text
  have hprofile : (IiopProfile.mk 1 0 "h" 80).LaidIn data :=
    ⟨0, _, [9], rfl, .raw [1] (.raw [0] (.number [0xBB] (by decide) (by decide) (by decide)
      (.raw [0x68, 0] (.number [] (by decide) (by decide) (by decide) (.raw [9] .nil)))))⟩
  have hbody : Cdr.Laid .little 1 [.number 4 2, .raw [0x54, 0], .number 4 3, .number 4 1,
      .number 4 1, .raw [7], .number 4 0, .number 4 0, .raw [], .number 4 0, .number 4 13,
      .raw data] bytes.tail :=
    .number [0xAA, 0xAA, 0xAA] (by decide) (by decide) (by decide) (.raw _
      (.number [0xAA, 0xAA] (by decide) (by decide) (by decide)
      (.number [] (by decide) (by decide) (by decide)
      (.number [] (by decide) (by decide) (by decide) (.raw _
      (.number [0xAA, 0xAA, 0xAA] (by decide) (by decide) (by decide)
      (.number [] (by decide) (by decide) (by decide) (.raw _
      (.number [] (by decide) (by decide) (by decide)
      (.number [] (by decide) (by decide) (by decide) (.raw _ .nil)))))))))))
  have hlaid : LaidIn "T" [.foreign 1 [7] (by decide), .broken [] rfl, .internet _ _ hprofile]
      bytes := ⟨1, _, rfl, hbody⟩
  have htext : Shows text (bytes ++ [0xFF]) :=
    ⟨[' '], "iOr:".toList, _, ['\n'], rfl, List.all_iff_forall_prop.mp (by decide),
      List.all_iff_forall_prop.mp (by decide), by decide, by decide +kernel⟩
  exact ⟨⟨_, hlaid⟩, htext, parse?_of_laidIn hlaid (by rwa [String.toList_ofList])⟩

end Ior

end CallWatch

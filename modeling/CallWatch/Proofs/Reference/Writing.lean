import CallWatch.Proofs.Reference.Reading
import CallWatch.Reference.Endpoint

/-! References that are written read back. The writer lays out a reference with one internet profile
of version 1.2 for each endpoint, so that reading it gives the type id and the endpoints in order,
as long as the lengths fit in their four bytes. -/

namespace CallWatch

namespace IiopProfile

def ofEndpoint (endpoint : String × UInt16) : IiopProfile :=
  ⟨1, 2, endpoint.1, endpoint.2⟩

theorem size_host_lt_of_encode {host : String} {port : UInt16} {bound : Nat}
    (h : (encode host port).length < bound) : Utf8.size host.toList + 1 < bound := by
  refine Nat.lt_of_le_of_lt ?_ h
  simp only [encode, Cdr.Writer.octets, Cdr.Writer.ushort, Cdr.Writer.ulong, Cdr.Writer.string,
    Cdr.Writer.number, Cdr.Writer.raw, List.length_append, Utf8.size, List.length_singleton]
  omega

/-- The data that are written for an endpoint hold its profile. What stands behind the port is the
object key. -/
theorem laidIn_encode {endpoint : String × UInt16}
    (hfits : (encode endpoint.1 endpoint.2).length < Nat.pow 2 32) :
    (ofEndpoint endpoint).LaidIn (encode endpoint.1 endpoint.2) := by
  obtain ⟨host, port⟩ := endpoint
  have hprofile : Cdr.Writer.Writes (fun w => (((w.raw [1]).raw [2]).string host).ushort port)
      (ofEndpoint (host, port)).fields :=
    (((Cdr.Writer.writes_raw [1]).comp (Cdr.Writer.writes_raw [2])).comp
      (Cdr.Writer.writes_string (size_host_lt_of_encode hfits))).comp
        (Cdr.Writer.writes_ushort port)
  have hkey : Cdr.Writer.Writes (Cdr.Writer.octets (Utf8.encode "key1".toList)) _ :=
    Cdr.Writer.writes_octets (by decide)
  obtain ⟨body, hbody, hlaid⟩ := hprofile Cdr.Writer.encapsulation
  obtain ⟨more, hmore, -⟩ := hkey (Cdr.Writer.encapsulation ++ body)
  refine ⟨0, body ++ more, more, ?_, hlaid.append ?_⟩
  · calc encode host port
        = Cdr.Writer.octets (Utf8.encode "key1".toList) (Cdr.Writer.encapsulation ++ body) := by
          rw [← hbody]
          rfl
      _ = 0 :: (body ++ more) := by
          rw [hmore]
          rfl
  · simpa using Cdr.Laid.raw more .nil

end IiopProfile

namespace Ior

/-- The lengths in the encapsulation of a reference fit in four bytes each. -/
structure Fits (typeId : String) (endpoints : List (String × UInt16)) : Prop where
  typeId : Utf8.size typeId.toList + 1 < Nat.pow 2 32
  count : endpoints.length < Nat.pow 2 32
  profiles : ∀ e ∈ endpoints, (IiopProfile.encode e.1 e.2).length < Nat.pow 2 32

variable {typeId : String} {endpoints : List (String × UInt16)}

/-- The profiles that are written are tagged profiles, each holding the one of its endpoint. -/
theorem exists_tagged
    (hfits : ∀ e ∈ endpoints, (IiopProfile.encode e.1 e.2).length < Nat.pow 2 32) :
    ∃ tagged : List TaggedProfile, tagged.length = endpoints.length ∧
      tagged.filterMap TaggedProfile.profile? = endpoints.map IiopProfile.ofEndpoint ∧
      Cdr.Writer.Writes (fun w => endpoints.foldl writeProfile w)
        (tagged.flatMap TaggedProfile.fields) := by
  induction endpoints with
  | nil => exact ⟨[], rfl, rfl, fun w => ⟨[], (List.append_nil w).symm, .nil⟩⟩
  | cons e endpoints ih =>
    obtain ⟨tagged, hlength, hprofiles, hwrites⟩ :=
      ih fun other hother => hfits other (List.mem_cons_of_mem e hother)
    have he := hfits e List.mem_cons_self
    have hfirst : Cdr.Writer.Writes (writeProfile · e) (.number 4 IiopProfile.tag.toNat ::
        Cdr.Field.octets (IiopProfile.encode e.1 e.2)) :=
      (Cdr.Writer.writes_ulong IiopProfile.tag).comp (Cdr.Writer.writes_octets he)
    refine ⟨.internet (.ofEndpoint e) _ (IiopProfile.laidIn_encode he) :: tagged, ?_, ?_, ?_⟩
    · rw [List.length_cons, List.length_cons, hlength]
    · rw [List.map_cons, ← hprofiles]
      rfl
    · exact hfirst.comp hwrites

theorem exists_laidIn_encodeBytes (hfits : Fits typeId endpoints) :
    ∃ tagged, LaidIn typeId tagged (encodeBytes typeId endpoints) ∧
      tagged.filterMap TaggedProfile.profile? = endpoints.map IiopProfile.ofEndpoint := by
  obtain ⟨tagged, hlength, hprofiles, hwrites⟩ := exists_tagged hfits.profiles
  have hcount : Cdr.Writer.Writes (Cdr.Writer.ulong (UInt32.ofNat endpoints.length))
      [.number 4 tagged.length] := by
    rw [hlength]
    have hwritten := Cdr.Writer.writes_ulong (UInt32.ofNat endpoints.length)
    rwa [UInt32.toNat_ofNat_of_lt' hfits.count] at hwritten
  obtain ⟨body, hbody, hlaid⟩ := ((Cdr.Writer.writes_string hfits.typeId).comp hcount).comp hwrites
    Cdr.Writer.encapsulation
  refine ⟨tagged, ⟨0, body, hbody, ?_⟩, hprofiles⟩
  rwa [List.append_assoc] at hlaid

theorem ofBytes?_encodeBytes (hfits : Fits typeId endpoints) :
    ofBytes? (encodeBytes typeId endpoints) = some ⟨typeId, (encodeBytes typeId endpoints).length,
      endpoints.map IiopProfile.ofEndpoint⟩ := by
  obtain ⟨tagged, hlaid, hprofiles⟩ := exists_laidIn_encodeBytes hfits
  have hread := hlaid.ofBytes?_eq []
  rwa [List.append_nil, hprofiles] at hread

theorem endpoint_encodeBytes (hfits : Fits typeId endpoints) :
    (ofBytes? (encodeBytes typeId endpoints)).bind Endpoint.ofIor? =
      endpoints.head?.map fun (host, port) => ⟨host, some port⟩ := by
  rw [ofBytes?_encodeBytes hfits, Option.bind_some, Endpoint.ofIor?, primary?, List.head?_map,
    Option.map_map]
  rfl

/-- The text that is written shows its bytes, also between blanks. -/
theorem shows_encode (typeId : String) (endpoints : List (String × UInt16))
    {before after : List Char} (hbefore : ∀ c ∈ before, Text.isBlank c)
    (hafter : ∀ c ∈ after, Text.isBlank c) :
    Shows (before ++ ((encode typeId endpoints).toList ++ after))
      (encodeBytes typeId endpoints) := by
  refine ⟨before, mark, Hex.encode (encodeBytes typeId endpoints), after, ?_, hbefore, hafter,
    by decide, Hex.map_toLower_encode _⟩
  rw [encode, String.toList_ofList]

/-- The text has two digits for each byte behind its mark. -/
theorem size_encode (typeId : String) (endpoints : List (String × UInt16)) :
    Utf8.size (encode typeId endpoints).toList = 2 * (encodeBytes typeId endpoints).length + 4 := by
  rw [encode, String.toList_ofList, Utf8.size_eq_length, List.length_append, Hex.length_encode,
    Nat.add_comm]
  · rfl
  · intro c hc
    rcases List.mem_append.mp hc with hc | hc
    · have hmark : ∀ d ∈ mark, d.toNat < 0x80 := List.all_iff_forall_prop.mp (by decide)
      exact hmark c hc
    · exact Hex.forall_mem_encode (P := (·.toNat < 0x80)) (by decide) _ c hc

/-- A reference whose lengths fit reads back: its type id, the number of its bytes, and a profile of
version 1.2 for each endpoint, in order. Its own endpoint is the first of them. -/
theorem parse?_encode (hfits : Fits typeId endpoints) :
    parse? (encode typeId endpoints) = some
        ⟨typeId, (Utf8.size (encode typeId endpoints).toList - 4) / 2,
          endpoints.map fun (host, port) => ⟨1, 2, host, port⟩⟩ ∧
      Endpoint.parse? (encode typeId endpoints) =
        endpoints.head?.map fun (host, port) => ⟨host, some port⟩ := by
  have hshows : Shows (encode typeId endpoints).toList (encodeBytes typeId endpoints) := by
    have hbetween : Shows ([] ++ ((encode typeId endpoints).toList ++ [])) _ :=
      shows_encode typeId endpoints (by simp) (by simp)
    rwa [List.nil_append, List.append_nil] at hbetween
  have hlength : (Utf8.size (encode typeId endpoints).toList - 4) / 2 =
      (encodeBytes typeId endpoints).length := by
    rw [size_encode]
    omega
  constructor
  · rw [parse?, ofText?_of_shows hshows, ofBytes?_encodeBytes hfits, hlength]
    rfl
  · rw [Endpoint.parse?, endpoint_of_shows hshows, endpoint_encodeBytes hfits]

/-- Two endpoints, with zeros in and at the end of the type id. -/
theorem parse?_encode_of_zeros :
    Fits "T\x00é\x00" [("h", 1), ("", 65535)] ∧
      parse? (encode "T\x00é\x00" [("h", 1), ("", 65535)]) =
        some ⟨"T\x00é\x00", 76, [⟨1, 2, "h", 1⟩, ⟨1, 2, "", 65535⟩]⟩ := by
  have hfits : Fits "T\x00é\x00" [("h", 1), ("", 65535)] :=
    ⟨by decide +kernel, by decide, by decide +kernel⟩
  refine ⟨hfits, ?_⟩
  rw [(parse?_encode hfits).1]
  decide +kernel

end Ior

end CallWatch

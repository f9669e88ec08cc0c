import CallWatch.Proofs.Reference.Writing
import CallWatch.Proofs.Text.Hex

/-! References that are cut off. What is read from some bytes is read the same with more bytes
behind them. So a reader whose bytes end inside the fields that are laid out before it reads each
field as it is laid out, up to one that is not whole, and no reference is read from the beginning
of another one. -/

namespace CallWatch

namespace Cdr.Reader

/-- The reader with more bytes behind those ahead of it. -/
def extend (r : Reader) (more : List UInt8) : Reader :=
  { r with rest := r.rest ++ more }

/-- A read does not depend on what stands behind the bytes that it takes. -/
def Local {α : Type} (read : Reader → Option (α × Reader)) : Prop :=
  ∀ r more value next, read r = some (value, next) →
    read (r.extend more) = some (value, next.extend more)

section Local

variable {α β : Type}

theorem local_pure (value : α) : Local fun r => some (value, r) := by
  intro r more found next h
  obtain ⟨rfl, rfl⟩ := Prod.mk.inj (Option.some.inj h)
  rfl

theorem Local.bind {read : Reader → Option (α × Reader)}
    {follow : α → Reader → Option (β × Reader)} (hread : Local read)
    (hfollow : ∀ value, Local (follow value)) :
    Local fun r => (read r).bind fun (value, next) => follow value next := by
  intro r more found next h
  obtain ⟨⟨value, middle⟩, hvalue, hnext⟩ := Option.bind_eq_some_iff.mp h
  show (read (r.extend more)).bind _ = _
  rw [hread r more value middle hvalue, Option.bind_some]
  exact hfollow value middle more found next hnext

theorem local_take? (n : Nat) : Local (take? n) := by
  intro r more value next h
  unfold take? at h
  split at h
  · next hlength =>
    obtain ⟨rfl, rfl⟩ := Prod.mk.inj (Option.some.inj h)
    have hmore : n ≤ (r.extend more).rest.length := by
      rw [extend, List.length_append]
      omega
    rw [take?, if_pos hmore]
    simp only [extend, List.take_append_of_le_length hlength,
      List.drop_append_of_le_length hlength]
  · cases h

theorem local_number? (n : Nat) : Local (number? n) := by
  intro r more value next h
  obtain ⟨⟨padding, aligned⟩, hpadding, h⟩ := Option.bind_eq_some_iff.mp h
  obtain ⟨⟨bytes, behind⟩, hbytes, h⟩ := Option.bind_eq_some_iff.mp h
  obtain ⟨rfl, rfl⟩ := Prod.mk.inj (Option.some.inj h)
  have hfirst : (r.extend more).take? (gap n (r.extend more).position) = _ :=
    local_take? _ r more padding aligned hpadding
  rw [number?, hfirst]
  show ((aligned.extend more).take? n).bind _ = _
  rw [local_take? n aligned more bytes behind hbytes]
  rfl

theorem local_ulong? : Local ulong? :=
  (local_number? 4).bind fun value => local_pure (UInt32.ofNat value)

theorem local_octets? : Local octets? :=
  local_ulong?.bind fun length => local_take? length.toNat

theorem local_string? : Local string? :=
  local_octets?.bind fun bytes => local_pure (String.ofList (Utf8.decodeLossy
    (if bytes.getLast? = some 0 then bytes.dropLast else bytes)))

end Local

/-- The bytes ahead of a reader end inside the fields that are laid out from its position on. -/
def Short (r : Reader) (fields : List Field) : Prop :=
  ∃ missing, missing ≠ [] ∧ (r.extend missing).Before fields []

theorem not_short_nil (r : Reader) : ¬r.Short [] := by
  rintro ⟨missing, hne, bytes, hlaid, hrest⟩
  cases hlaid
  exact hne (List.append_eq_nil_iff.mp hrest).2

/-- What is read of fields that end too early is what is read of them if they are whole, and what
is left of them ends too early. -/
theorem Short.step {α : Type} {read : Reader → Option (α × Reader)} {P : α → Prop}
    {fields others : List Field} {r next : Reader} {found : α} (h : r.Short fields)
    (hlocal : Local read)
    (hwhole : ∀ whole : Reader, whole.Before fields [] →
      ∃ value behind, read whole = some (value, behind) ∧ P value ∧ behind.Before others [])
    (hread : read r = some (found, next)) : P found ∧ next.Short others := by
  obtain ⟨missing, hne, hbefore⟩ := h
  obtain ⟨value, behind, hvalue, hP, hbehind⟩ := hwhole _ hbefore
  rw [hlocal r missing found next hread] at hvalue
  obtain ⟨rfl, rfl⟩ := Prod.mk.inj (Option.some.inj hvalue)
  exact ⟨hP, missing, hne, hbehind⟩

section Short

variable {r next : Reader} {fields : List Field}

theorem Short.count? {count : Nat} {found : UInt32} (h : r.Short (.number 4 count :: fields))
    (hread : r.ulong? = some (found, next)) : found.toNat = count ∧ next.Short fields :=
  h.step (P := fun value => value.toNat = count) local_ulong? (fun _ hwhole => hwhole.count?) hread

theorem Short.octets? {bytes found : List UInt8} (h : r.Short (Field.octets bytes ++ fields))
    (hread : r.octets? = some (found, next)) : found = bytes ∧ next.Short fields := by
  refine h.step (P := fun value => value = bytes) local_octets? (fun whole hwhole => ?_) hread
  obtain ⟨behind, hvalue, hbehind⟩ := hwhole.octets?
  exact ⟨bytes, behind, hvalue, rfl, hbehind⟩

theorem Short.string? {text found : String} (h : r.Short (Field.string text ++ fields))
    (hread : r.string? = some (found, next)) : found = text ∧ next.Short fields := by
  refine h.step (P := fun value => value = text) local_string? (fun whole hwhole => ?_) hread
  obtain ⟨behind, hvalue, hbehind⟩ := hwhole.string?
  exact ⟨text, behind, hvalue, rfl, hbehind⟩

end Short

end Cdr.Reader

namespace Ior

theorem readProfiles?_of_short {tagged : List TaggedProfile} {r : Cdr.Reader}
    (h : r.Short (tagged.flatMap TaggedProfile.fields)) :
    readProfiles? tagged.length r = none := by
  induction tagged generalizing r with
  | nil => exact absurd h r.not_short_nil
  | cons t tagged ih =>
    rw [Option.eq_none_iff_forall_ne_some]
    intro profiles hread
    obtain ⟨⟨tag, afterTag⟩, htag, hread⟩ := Option.bind_eq_some_iff.mp hread
    obtain ⟨⟨data, next⟩, hdata, hread⟩ := Option.bind_eq_some_iff.mp hread
    obtain ⟨-, hafter⟩ := h.count? htag
    obtain ⟨-, hnext⟩ := hafter.octets? hdata
    obtain ⟨others, hothers, -⟩ := Option.bind_eq_some_iff.mp hread
    rw [ih hnext] at hothers
    exact nomatch hothers

/-- No beginning of an encapsulation is read, other than the whole of it. -/
theorem LaidIn.ofBytes?_of_cut {typeId : String} {tagged : List TaggedProfile}
    {bytes front missing : List UInt8} (h : LaidIn typeId tagged bytes)
    (hcut : front ++ missing = bytes) (hne : missing ≠ []) : ofBytes? front = none := by
  obtain ⟨flag, body, rfl, hlaid⟩ := h
  rw [Option.eq_none_iff_forall_ne_some]
  intro ior hread
  obtain ⟨start, hstart, hread⟩ := Option.bind_eq_some_iff.mp hread
  obtain ⟨⟨found, afterType⟩, htype, hread⟩ := Option.bind_eq_some_iff.mp hread
  obtain ⟨⟨count, next⟩, hcount, hread⟩ := Option.bind_eq_some_iff.mp hread
  obtain ⟨profiles, hprofiles, -⟩ := Option.bind_eq_some_iff.mp hread
  have hshort : start.Short (Cdr.Field.string typeId ++
      (.number 4 tagged.length :: tagged.flatMap TaggedProfile.fields)) := by
    cases front with
    | nil => exact nomatch hstart
    | cons b front =>
      obtain ⟨rfl, hbody⟩ := List.cons.inj hcut
      obtain rfl := Option.some.inj hstart
      exact ⟨missing, hne, body, hlaid, by rw [List.append_nil, ← hbody]; rfl⟩
  obtain ⟨-, hafter⟩ := hshort.string? htype
  obtain ⟨hlength, hnext⟩ := hafter.count? hcount
  rw [hlength, readProfiles?_of_short hnext] at hprofiles
  exact nomatch hprofiles

/-- The beginning of a text of bytes is no reference, or the text of bytes that are cut off. -/
theorem ofText?_of_cut {bytes : List UInt8} {front missing : List Char}
    (hcut : front ++ missing = mark ++ Hex.encode bytes) (hne : missing ≠ []) :
    ofText? front = none ∨
      ∃ found rest, found ++ rest = bytes ∧ rest ≠ [] ∧ ofText? front = ofBytes? found := by
  have hshown : ∀ c ∈ mark ++ Hex.encode bytes, ¬Text.isBlank c :=
    not_isBlank_of_shown (by decide) (Hex.map_toLower_encode bytes)
  have hblank : ∀ c ∈ front, ¬Text.isBlank c := by
    intro c hc
    exact hshown c (hcut ▸ List.mem_append_left missing hc)
  rw [ofText?, Text.trim_eq_self hblank]
  cases hmark : Text.behindAnyCase? mark front with
  | none => exact .inl rfl
  | some digits =>
    cases hfound : Hex.decode? digits with
    | none => exact .inl (by simp [hfound])
    | some found =>
      obtain ⟨lead, rfl, hlead⟩ := Text.behindAnyCase?_eq_some_iff.mp hmark
      have hlength : lead.length = mark.length := by
        simpa using congrArg List.length hlead
      rw [List.append_assoc] at hcut
      obtain ⟨-, hdigits⟩ := List.append_inj hcut hlength
      have hbytes : (Hex.decode? missing).map (found ++ ·) = some bytes := by
        rw [← Hex.decode?_append hfound, hdigits, Hex.decode?_encode]
      obtain ⟨rest, hrest, hbytes⟩ := Option.map_eq_some_iff.mp hbytes
      refine .inr ⟨found, rest, hbytes, ?_, by simp [hfound]⟩
      rintro rfl
      exact hne (Hex.eq_nil_of_decode?_eq_nil hrest)

/-- No beginning of a written reference is read, other than the whole of it. -/
theorem parse?_of_cut {typeId : String} {endpoints : List (String × UInt16)}
    (hfits : Fits typeId endpoints) {front : List Char}
    (hcut : front <+: (encode typeId endpoints).toList)
    (hne : front ≠ (encode typeId endpoints).toList) : parse? (String.ofList front) = none := by
  obtain ⟨missing, hcut⟩ := hcut
  have hmissing : missing ≠ [] := by
    rintro rfl
    exact hne (by rwa [List.append_nil] at hcut)
  rw [encode, String.toList_ofList] at hcut
  rw [parse?, String.toList_ofList]
  rcases ofText?_of_cut hcut hmissing with hnone | ⟨found, rest, hbytes, hrest, hread⟩
  · exact hnone
  · obtain ⟨tagged, hlaid, -⟩ := exists_laidIn_encodeBytes hfits
    rw [hread, hlaid.ofBytes?_of_cut hbytes hrest]

/-- A cut behind the port of the only profile, in the middle of the object key. -/
theorem parse?_of_cut_of_key :
    let text := "IOR:0000000000000002540000000000000100000000000000140001020000000002680000500000"
    Fits "T" [("h", 80)] ∧ text.toList <+: (encode "T" [("h", 80)]).toList ∧
      parse? text = none := by
  intro text
  have hfits : Fits "T" [("h", 80)] := ⟨by decide, by decide, by decide +kernel⟩
  have hcut : text.toList <+: (encode "T" [("h", 80)]).toList := by decide +kernel
  have hread := parse?_of_cut hfits hcut (by decide +kernel)
  rw [String.ofList_toList] at hread
  exact ⟨hfits, hcut, hread⟩

end Ior

end CallWatch

import CallWatch.Reference.Ior

/-! How far reading gets. What a reader takes it takes off the front of the bytes ahead, so that its
position never falls and never passes the end of the bytes. A round of the loop over the tagged
profiles takes at least eight bytes, so that the bytes bound the number of rounds, whatever number
of profiles they declare. -/

namespace CallWatch

namespace Cdr.Reader

/-- A read takes bytes off the front of those ahead and ends up behind them. At a position it takes
at least as many as `least` says. -/
def Takes {α : Type} (least : Nat → Nat) (read : Reader → Option (α × Reader)) : Prop :=
  ∀ r value next, read r = some (value, next) → ∃ taken, least r.position ≤ taken.length ∧
    r.rest = taken ++ next.rest ∧ next.position = r.position + taken.length

section Takes

variable {α β : Type} {least : Nat → Nat} {read : Reader → Option (α × Reader)}

theorem takes_pure (value : α) : Takes (fun _ => 0) fun r => some (value, r) := by
  intro r found next h
  obtain ⟨-, rfl⟩ := Prod.mk.inj (Option.some.inj h)
  exact ⟨[], Nat.le_refl 0, rfl, rfl⟩

theorem Takes.mono {less : Nat → Nat} (hread : Takes least read)
    (h : ∀ position, less position ≤ least position) : Takes less read := by
  intro r value next hnext
  obtain ⟨taken, hleast, htaken⟩ := hread r value next hnext
  exact ⟨taken, Nat.le_trans (h r.position) hleast, htaken⟩

theorem Takes.bind {more : Nat} {follow : α → Reader → Option (β × Reader)}
    (hread : Takes least read) (hfollow : ∀ value, Takes (fun _ => more) (follow value)) :
    Takes (least · + more) fun r => (read r).bind fun (value, next) => follow value next := by
  intro r found next h
  obtain ⟨⟨value, middle⟩, hvalue, hnext⟩ := Option.bind_eq_some_iff.mp h
  obtain ⟨front, hfront, hrest, hposition⟩ := hread r value middle hvalue
  obtain ⟨back, hback, hrest', hposition'⟩ := hfollow value middle found next hnext
  refine ⟨front ++ back, ?_, ?_, ?_⟩
  · rw [List.length_append]
    exact Nat.add_le_add hfront hback
  · rw [hrest, hrest', List.append_assoc]
  · rw [hposition', hposition, List.length_append, Nat.add_assoc]

theorem takes_take? (n : Nat) : Takes (fun _ => n) (take? n) := by
  intro r value next h
  unfold take? at h
  split at h
  · next hlength =>
    obtain ⟨-, rfl⟩ := Prod.mk.inj (Option.some.inj h)
    have htaken : (r.rest.take n).length = n := List.length_take_of_le hlength
    exact ⟨r.rest.take n, Nat.le_of_eq htaken.symm, (List.take_append_drop n r.rest).symm,
      by rw [htaken]⟩
  · cases h

theorem takes_octet? : Takes (fun _ => 1) octet? := by
  intro r value next h
  unfold octet? at h
  split at h
  · cases h
  · next b rest hrest =>
    obtain ⟨-, rfl⟩ := Prod.mk.inj (Option.some.inj h)
    exact ⟨[b], Nat.le_refl 1, hrest, rfl⟩

/-- The padding in front of a number is taken too. -/
theorem takes_number? (n : Nat) : Takes (fun position => gap n position + n) (number? n) := by
  intro r value next h
  have hpadded : Takes (fun _ => gap n r.position + n) fun r' =>
      (r'.take? (gap n r.position)).bind fun skipped =>
        (skipped.2.take? n).bind fun found => some (r.order.number found.1, found.2) :=
    (takes_take? _).bind fun _ => (takes_take? n).bind fun bytes =>
      takes_pure (r.order.number bytes)
  exact hpadded r value next h

theorem takes_ushort? : Takes (fun position => gap 2 position + 2) ushort? :=
  (takes_number? 2).bind fun value => takes_pure (UInt16.ofNat value)

theorem takes_ulong? : Takes (fun position => gap 4 position + 4) ulong? :=
  (takes_number? 4).bind fun value => takes_pure (UInt32.ofNat value)

theorem takes_octets? : Takes (fun position => gap 4 position + 4) octets? :=
  takes_ulong?.bind fun length => (takes_take? length.toNat).mono fun _ => Nat.zero_le _

theorem takes_string? : Takes (fun position => gap 4 position + 4) string? :=
  takes_octets?.bind fun bytes => takes_pure (String.ofList (Utf8.decodeLossy
    (if bytes.getLast? = some 0 then bytes.dropLast else bytes)))

end Takes

/-- A reader stands in some bytes: its position is in them or at their end, and it has ahead what
they hold from there on. -/
structure Within (bytes : List UInt8) (r : Reader) : Prop where
  position_le : r.position ≤ bytes.length
  rest_eq : r.rest = bytes.drop r.position

section Within

variable {bytes : List UInt8} {r next : Reader}

theorem within_of_ofEncapsulation? (h : ofEncapsulation? bytes = some r) :
    r.position = 1 ∧ r.Within bytes := by
  cases bytes with
  | nil => cases h
  | cons flag rest =>
    obtain rfl := Option.some.inj h
    exact ⟨rfl, Nat.le_add_left 1 rest.length, rfl⟩

/-- A read leads from a place in the bytes to one that is not before it. -/
theorem Takes.within {α : Type} {least : Nat → Nat} {read : Reader → Option (α × Reader)}
    (hread : Takes least read) (h : r.Within bytes) {value : α}
    (hnext : read r = some (value, next)) :
    r.position + least r.position ≤ next.position ∧ next.Within bytes := by
  obtain ⟨taken, hleast, hrest, hposition⟩ := hread r value next hnext
  have hahead : bytes.drop r.position = taken ++ next.rest := h.rest_eq ▸ hrest
  have hlength := congrArg List.length hahead
  rw [List.length_drop, List.length_append] at hlength
  have hle := h.position_le
  refine ⟨by omega, by omega, ?_⟩
  rw [hposition, ← List.drop_drop, hahead, List.drop_left]

/-- What can be asked of a reader. Alignment is a part of reading a number. -/
inductive Operation
  | take (n : Nat)
  | octet
  | ushort
  | ulong
  | octets
  | string

/-- The reader behind what an operation reads, if that is there. -/
def Operation.next? (r : Reader) : Operation → Option Reader
  | take n => (r.take? n).map (·.2)
  | octet => r.octet?.map (·.2)
  | ushort => r.ushort?.map (·.2)
  | ulong => r.ulong?.map (·.2)
  | octets => r.octets?.map (·.2)
  | string => r.string?.map (·.2)

/-- The reader behind operations one after the other, if none of them fails. -/
def run? (r : Reader) (ops : List Operation) : Option Reader :=
  ops.foldlM Operation.next? r

theorem Takes.position_le {α : Type} {least : Nat → Nat} {read : Reader → Option (α × Reader)}
    (hread : Takes least read) (h : r.Within bytes) (hnext : (read r).map (·.2) = some next) :
    r.position ≤ next.position ∧ next.Within bytes := by
  obtain ⟨⟨value, behind⟩, hvalue, rfl⟩ := Option.map_eq_some_iff.mp hnext
  obtain ⟨hposition, hwithin⟩ := hread.within h hvalue
  exact ⟨Nat.le_trans (Nat.le_add_right _ _) hposition, hwithin⟩

theorem Operation.within_of_next? {op : Operation} (h : r.Within bytes)
    (hnext : op.next? r = some next) : r.position ≤ next.position ∧ next.Within bytes := by
  cases op with
  | take n => exact (takes_take? n).position_le h hnext
  | octet => exact takes_octet?.position_le h hnext
  | ushort => exact takes_ushort?.position_le h hnext
  | ulong => exact takes_ulong?.position_le h hnext
  | octets => exact takes_octets?.position_le h hnext
  | string => exact takes_string?.position_le h hnext

theorem within_of_run? {ops : List Operation} (h : r.Within bytes) (hrun : r.run? ops = some next) :
    r.position ≤ next.position ∧ next.Within bytes := by
  induction ops generalizing r with
  | nil =>
    obtain rfl := Option.some.inj hrun
    exact ⟨Nat.le_refl _, h⟩
  | cons op ops ih =>
    obtain ⟨middle, hmiddle, hrun⟩ := Option.bind_eq_some_iff.mp hrun
    obtain ⟨hfirst, hwithin⟩ := Operation.within_of_next? h hmiddle
    obtain ⟨hlater, hwithin⟩ := ih hwithin hrun
    exact ⟨Nat.le_trans hfirst hlater, hwithin⟩

end Within

end Cdr.Reader

namespace Ior

/-- The bytes whose digits a text has behind the mark. Other texts have none. -/
def shownBytes (text : String) : List UInt8 :=
  ((Text.behindAnyCase? mark (Text.trim text.toList)).bind Hex.decode?).getD []

/-- What an encapsulation declares in front of its tagged profiles, the type id and the number of
the profiles, and the reader that stands before the first of them. -/
def opening? (bytes : List UInt8) : Option ((String × UInt32) × Cdr.Reader) := do
  let start ← Cdr.Reader.ofEncapsulation? bytes
  let (typeId, afterType) ← start.string?
  let (count, next) ← afterType.ulong?
  return ((typeId, count), next)

/-- The number of profiles that an encapsulation declares. -/
def declared? (bytes : List UInt8) : Option UInt32 :=
  (opening? bytes).map (·.1.2)

/-- The tag and the data of the next tagged profile. -/
def tagged? (r : Cdr.Reader) : Option ((UInt32 × List UInt8) × Cdr.Reader) := do
  let (tag, afterTag) ← r.ulong?
  let (data, next) ← afterTag.octets?
  return ((tag, data), next)

/-- The internet profile in a tagged profile, if it is one. -/
def internet (tag : UInt32) (data : List UInt8) : List IiopProfile :=
  if tag = IiopProfile.tag then (IiopProfile.ofBytes? data).toList else []

/-- The internet profiles among the next `count` tagged profiles, behind the number of rounds in
which they are read. A round counts as soon as it begins. -/
def countRounds : Nat → Cdr.Reader → Nat × Option (List IiopProfile)
  | 0, _ => (0, some [])
  | count + 1, r =>
    match tagged? r with
    | none => (1, none)
    | some ((tag, data), next) =>
      let (rounds, others) := countRounds count next
      (rounds + 1, others.map (internet tag data ++ ·))

/-- The reference in a text, behind the number of rounds in which its profiles are read. -/
def countParse? (text : String) : Nat × Option Ior :=
  match opening? (shownBytes text) with
  | none => (0, none)
  | some ((typeId, count), next) =>
    let (rounds, profiles) := countRounds count.toNat next
    (rounds, profiles.map fun profiles => ⟨typeId, (shownBytes text).length, profiles⟩)

theorem readProfiles?_succ (count : Nat) (r : Cdr.Reader) :
    readProfiles? (count + 1) r = (tagged? r).bind fun ((tag, data), next) =>
      (readProfiles? count next).map (internet tag data ++ ·) := by
  rw [readProfiles?, tagged?]
  simp only [Option.bind_eq_bind, Option.bind_assoc, Option.pure_def, Option.bind_some,
    Option.map_eq_bind]
  rfl

theorem countRounds_snd (count : Nat) (r : Cdr.Reader) :
    (countRounds count r).2 = readProfiles? count r := by
  induction count generalizing r with
  | zero => rfl
  | succ count ih =>
    rw [countRounds, readProfiles?_succ]
    cases tagged? r with
    | none => rfl
    | some found => exact congrArg (Option.map _) (ih found.2)

theorem ofBytes?_eq_bind (bytes : List UInt8) :
    ofBytes? bytes = (opening? bytes).bind fun ((typeId, count), next) =>
      (readProfiles? count.toNat next).map fun profiles => ⟨typeId, bytes.length, profiles⟩ := by
  rw [ofBytes?, opening?]
  simp only [Option.bind_eq_bind, Option.bind_assoc, Option.pure_def, Option.bind_some,
    Option.map_eq_bind]
  rfl

theorem parse?_eq_ofBytes? (text : String) : parse? text = ofBytes? (shownBytes text) := by
  rw [parse?, ofText?, shownBytes]
  cases Text.behindAnyCase? mark (Text.trim text.toList) with
  | none => rfl
  | some digits =>
    rw [Option.bind_some]
    cases hdigits : Hex.decode? digits with
    | none => simp [hdigits]; rfl
    | some bytes => simp [hdigits]

theorem countParse?_snd (text : String) : (countParse? text).2 = parse? text := by
  rw [parse?_eq_ofBytes?, ofBytes?_eq_bind, countParse?]
  cases opening? (shownBytes text) with
  | none => rfl
  | some found => exact congrArg (Option.map _) (countRounds_snd found.1.2.toNat found.2)

theorem takes_tagged? : Cdr.Reader.Takes (fun _ => 8) tagged? :=
  have htagged := Cdr.Reader.takes_ulong?.bind fun tag =>
    (Cdr.Reader.takes_octets?.mono fun _ => Nat.le_add_left 4 _).bind fun data =>
      Cdr.Reader.takes_pure (tag, data)
  htagged.mono fun _ => Nat.add_le_add_right (Nat.le_add_left 4 _) 4

variable {r : Cdr.Reader}

theorem length_rest_of_tagged? {found : UInt32 × List UInt8} {next : Cdr.Reader}
    (h : tagged? r = some (found, next)) : next.rest.length + 8 ≤ r.rest.length := by
  obtain ⟨taken, hleast, hrest, -⟩ := takes_tagged? r found next h
  rw [hrest, List.length_append, Nat.add_comm]
  exact Nat.add_le_add_right hleast _

/-- The bytes ahead bound the number of rounds, of which only the last may take less than eight. -/
theorem countRounds_fst_le (count : Nat) (r : Cdr.Reader) :
    (countRounds count r).1 ≤ r.rest.length / 8 + 1 := by
  induction count generalizing r with
  | zero => exact Nat.zero_le _
  | succ count ih =>
    rw [countRounds]
    cases htagged : tagged? r with
    | none => exact Nat.le_add_left 1 _
    | some found =>
      have hlength := length_rest_of_tagged? htagged
      have hlater := ih found.2
      show (countRounds count found.2).1 + 1 ≤ _
      omega

/-- Profiles that are all read take a round and at least eight bytes each. -/
theorem countRounds_of_readProfiles? {count : Nat} {profiles : List IiopProfile}
    (h : readProfiles? count r = some profiles) :
    (countRounds count r).1 = count ∧ 8 * count ≤ r.rest.length := by
  induction count generalizing r profiles with
  | zero => exact ⟨rfl, Nat.zero_le _⟩
  | succ count ih =>
    rw [readProfiles?_succ] at h
    obtain ⟨found, htagged, h⟩ := Option.bind_eq_some_iff.mp h
    obtain ⟨others, hothers, -⟩ := Option.map_eq_some_iff.mp h
    obtain ⟨hrounds, hlater⟩ := ih hothers
    have hlength := length_rest_of_tagged? htagged
    rw [countRounds, htagged]
    exact ⟨congrArg (· + 1) hrounds, by omega⟩

/-- In front of the first profile there are at least the flag and its padding, the length of the
type id, and the number of profiles. -/
theorem within_of_opening? {bytes : List UInt8} {found : String × UInt32}
    (h : opening? bytes = some (found, r)) : 12 ≤ r.position ∧ r.Within bytes := by
  obtain ⟨start, hstart, h⟩ := Option.bind_eq_some_iff.mp h
  obtain ⟨⟨typeId, afterType⟩, htype, h⟩ := Option.bind_eq_some_iff.mp h
  obtain ⟨⟨count, next⟩, hcount, h⟩ := Option.bind_eq_some_iff.mp h
  obtain ⟨-, rfl⟩ := Prod.mk.inj (Option.some.inj h)
  obtain ⟨hfirst, hwithin⟩ := Cdr.Reader.within_of_ofEncapsulation? hstart
  obtain ⟨hsecond, hwithin⟩ := Cdr.Reader.takes_string?.within hwithin htype
  obtain ⟨hthird, hwithin⟩ := Cdr.Reader.takes_ulong?.within hwithin hcount
  have hpadding : Cdr.Reader.gap 4 1 = 3 := rfl
  rw [hfirst, hpadding] at hsecond
  exact ⟨by omega, hwithin⟩

theorem countParse?_fst_le (text : String) :
    (countParse? text).1 ≤ (shownBytes text).length / 8 + 1 := by
  rw [countParse?]
  cases hopening : opening? (shownBytes text) with
  | none => exact Nat.zero_le _
  | some found =>
    have hrest : found.2.rest.length ≤ (shownBytes text).length := by
      rw [(within_of_opening? hopening).2.rest_eq, List.length_drop]
      exact Nat.sub_le _ _
    calc (countRounds found.1.2.toNat found.2).1
        ≤ found.2.rest.length / 8 + 1 := countRounds_fst_le _ _
      _ ≤ (shownBytes text).length / 8 + 1 :=
        Nat.add_le_add_right (Nat.div_le_div_right hrest) 1

/-- Bytes that are read as a reference have room for the profiles that they declare, each of which
takes a round. -/
theorem exists_declared?_of_parse? {text : String} {ior : Ior} (h : parse? text = some ior) :
    ior.byteLength = (shownBytes text).length ∧
      ∃ count, declared? (shownBytes text) = some count ∧
        (countParse? text).1 = count.toNat ∧ 12 + 8 * count.toNat ≤ ior.byteLength := by
  rw [parse?_eq_ofBytes?, ofBytes?_eq_bind] at h
  obtain ⟨⟨⟨typeId, count⟩, r⟩, hopening, h⟩ := Option.bind_eq_some_iff.mp h
  obtain ⟨profiles, hprofiles, rfl⟩ := Option.map_eq_some_iff.mp h
  obtain ⟨hposition, hwithin⟩ := within_of_opening? hopening
  obtain ⟨hrounds, hlength⟩ := countRounds_of_readProfiles? hprofiles
  rw [hwithin.rest_eq, List.length_drop] at hlength
  have hle := hwithin.position_le
  refine ⟨rfl, count, ?_, ?_, ?_⟩
  · rw [declared?, hopening]
    rfl
  · rw [countParse?, hopening]
    exact hrounds
  · show 12 + 8 * count.toNat ≤ (shownBytes text).length
    omega

/-- In every sequence of reads the position never falls and never passes the end of the bytes. So
the profiles of a text are read in at most one round for each eight bytes and one more, however many
it declares. If it is read as a reference, there is a round for each profile that it declares, and
its bytes have room for as many. -/
theorem reading_bounded :
    (∀ bytes start ops later r next, Cdr.Reader.ofEncapsulation? bytes = some start →
      start.run? ops = some r → r.run? later = some next →
        start.position ≤ r.position ∧ r.position ≤ next.position ∧
          next.position ≤ bytes.length ∧ next.rest = bytes.drop next.position) ∧
    ∀ text, (countParse? text).2 = parse? text ∧
      (countParse? text).1 ≤ (shownBytes text).length / 8 + 1 ∧
      ∀ ior, parse? text = some ior → ior.byteLength = (shownBytes text).length ∧
        ∃ count, declared? (shownBytes text) = some count ∧
          (countParse? text).1 = count.toNat ∧ 12 + 8 * count.toNat ≤ ior.byteLength := by
  constructor
  · intro bytes start ops later r next hstart hops hlater
    obtain ⟨-, hwithin⟩ := Cdr.Reader.within_of_ofEncapsulation? hstart
    obtain ⟨hfirst, hwithin⟩ := Cdr.Reader.within_of_run? hwithin hops
    obtain ⟨hsecond, hwithin⟩ := Cdr.Reader.within_of_run? hwithin hlater
    exact ⟨hfirst, hsecond, hwithin.position_le, hwithin.rest_eq⟩
  · intro text
    exact ⟨countParse?_snd text, countParse?_fst_le text, fun _ => exists_declared?_of_parse?⟩

/-- Reads up to the last byte, a text that declares more than four thousand million profiles and has
none, and one with just the room for the profile that it declares. -/
theorem reading_bounded_of_full_texts :
    let bytes : List UInt8 := [1, 0xAA, 0xAA, 0xAA, 1, 0, 0, 0, 0x54, 0xAA, 9, 0]
    (∃ start r next, Cdr.Reader.ofEncapsulation? bytes = some start ∧
      start.run? [.octets] = some r ∧ r.run? [.ushort, .take 0] = some next ∧
      start.position ≤ r.position ∧ r.position ≤ next.position ∧ next.position ≤ bytes.length) ∧
    (countParse? "IOR:0000000000000000ffffffff").1 ≤ 2 ∧
    ∃ ior count, parse? "IOR:0000000000000000000000010000000700000000" = some ior ∧
      declared? (shownBytes "IOR:0000000000000000000000010000000700000000") = some count ∧
      12 + 8 * count.toNat ≤ ior.byteLength ∧ ior.byteLength = 20 := by
  intro bytes
  obtain ⟨hreads, htexts⟩ := reading_bounded
  have hfirst : (⟨.little, 1, bytes.tail⟩ : Cdr.Reader).run? [.octets] =
      some ⟨.little, 9, [0xAA, 9, 0]⟩ := by decide +kernel
  have hlater : (⟨.little, 9, [0xAA, 9, 0]⟩ : Cdr.Reader).run? [.ushort, .take 0] =
      some ⟨.little, 12, []⟩ := by decide +kernel
  obtain ⟨hrise, hrise', hend, -⟩ := hreads bytes _ _ _ _ _ rfl hfirst hlater
  have hlength : (shownBytes "IOR:0000000000000000ffffffff").length = 12 := by decide +kernel
  obtain ⟨-, hrounds, -⟩ := htexts "IOR:0000000000000000ffffffff"
  rw [hlength] at hrounds
  have hior : parse? "IOR:0000000000000000000000010000000700000000" = some ⟨"", 20, []⟩ := by
    decide +kernel
  obtain ⟨-, -, hread⟩ := htexts "IOR:0000000000000000000000010000000700000000"
  obtain ⟨-, count, hcount, -, hroom⟩ := hread _ hior
  exact ⟨⟨_, _, _, rfl, hfirst, hlater, hrise, hrise', hend⟩, hrounds, _, count, hior, hcount,
    hroom, rfl⟩

end Ior

end CallWatch

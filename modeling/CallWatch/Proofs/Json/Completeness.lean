import CallWatch.Proofs.Json.Soundness
import CallWatch.Proofs.Text.Cut
import CallWatch.Proofs.Text.Utf8
import Mathlib.Data.Bool.AllAny

/-! The reader is complete: a text that spells a value reads as the value. With soundness, what a
text reads as is the one value that it spells. -/

namespace CallWatch.Json

section Characters

theorem length_of_unit? {digits : List Char} {code : Nat} (h : unit? digits = some code) :
    digits.length = 4 := by
  rw [unit?] at h
  split at h
  case isTrue hlength => exact hlength
  case isFalse => exact nomatch h

theorem character?_append {c : Char} {piece : List Char} (h : CharSpelt c piece)
    (rest : List Char) : character? (piece ++ rest) = some (c, rest) := by
  cases h with
  | plain hplain =>
    have hne : c ≠ '\\' := by
      rintro rfl
      exact absurd hplain (by decide)
    rw [List.singleton_append, character?, if_neg hne, if_pos hplain]
  | @short letter c hletter =>
    have hne : letter ≠ 'u' := by
      rintro rfl
      have hnone : shortEscape? 'u' = none := rfl
      simp [hnone] at hletter
    simp [character?, escaped?, hne, hletter]
  | @unit digits code hdigits hcode =>
    have hlength := length_of_unit? hdigits
    simp [character?, escaped?, unicode?, List.take_left' hlength, List.drop_left' hlength, hdigits,
      hcode]
  | @pair digits more high low hdigits hmore hhigh hlow =>
    have hlength := length_of_unit? hdigits
    have hlength' := length_of_unit? hmore
    have hcode : ¬(0xD800 + high).isValidChar := by
      rintro (h | h) <;> omega
    have hrange : 0xD800 + high < 0xDC00 ∧ 0xDC00 ≤ 0xDC00 + low ∧ 0xDC00 + low < 0xE000 := by
      omega
    simp only [List.cons_append, List.append_assoc, character?, escaped?, if_true, unicode?,
      List.take_left' hlength, List.drop_left' hlength, hdigits, Option.bind_eq_bind,
      Option.bind_some, if_neg hcode, List.take_left' hlength', hmore, if_pos hrange,
      Nat.add_sub_cancel_left, List.drop_left' hlength']

theorem CharSpelt.exists_first {c : Char} {piece : List Char} (h : CharSpelt c piece) :
    ∃ first rest, piece = first :: rest ∧ first ≠ '"' := by
  cases h with
  | plain hplain =>
    refine ⟨c, [], rfl, ?_⟩
    rintro rfl
    exact absurd hplain (by decide)
  | short hletter => exact ⟨_, _, rfl, by decide⟩
  | unit hdigits hcode => exact ⟨_, _, rfl, by decide⟩
  | pair hdigits hmore hhigh hlow => exact ⟨_, _, rfl, by decide⟩

theorem contents?_append {text pieces : List Char} (h : TextSpelt text pieces) {fuel : Nat}
    (hfuel : pieces.length < fuel) (rest : List Char) :
    contents? fuel (pieces ++ '"' :: rest) = some (text, rest) := by
  induction h generalizing fuel with
  | nil =>
    obtain ⟨fuel, rfl⟩ := Nat.exists_eq_add_of_lt hfuel
    rfl
  | @cons c text piece pieces hc h ih =>
    obtain ⟨first, others, rfl, hfirst⟩ := hc.exists_first
    obtain _ | fuel := fuel
    · exact absurd hfuel (Nat.not_lt_zero _)
    have hread := character?_append hc (pieces ++ '"' :: rest)
    rw [List.cons_append] at hread
    rw [List.length_append, List.length_cons] at hfuel
    simp [contents?, hfirst, hread, ih (show pieces.length < fuel by omega)]

end Characters

section Spaces

variable {before text : List Char}

theorem skip_append (hbefore : ∀ c ∈ before, isSpace c) : skip (before ++ text) = skip text :=
  List.dropWhile_append_of_pos hbefore

theorem skip_eq_self (h : ∀ c ∈ text.head?, ¬isSpace c) : skip text = text :=
  Text.dropWhile_append (List.forall_mem_nil _) h

theorem not_isWordChar_of_isSpace {c : Char} (h : isSpace c) : ¬isWordChar c := by
  simp only [isSpace, Bool.or_eq_true, decide_eq_true_eq] at h
  rcases h with ((rfl | rfl) | rfl) | rfl <;> decide

end Spaces

section Words

theorem NumberPart.isWordChar_of_next? {p q : NumberPart} {c : Char} (h : p.next? c = some q) :
    isWordChar c := by
  have hmark : ∀ d ∈ "-+.eE0".toList, isWordChar d := List.all_iff_forall_prop.mp (by decide)
  have hchar : c.isDigit ∨ c ∈ "-+.eE0".toList := by
    cases p <;> simp only [next?, ofFirstDigit?, ofPoint?, ofMark?] at h <;> grind
  rcases hchar with hdigit | hc
  · simp [isWordChar, Char.isAlphanum, hdigit]
  · exact hmark c hc

theorem NumberPart.isWordChar_of_accepts {p : NumberPart} {literal : List Char}
    (h : p.accepts literal) : ∀ c ∈ literal, isWordChar c := by
  induction literal generalizing p with
  | nil => exact nofun
  | cons c literal ih =>
    rw [accepts] at h
    split at h
    · next q hq =>
      intro d hd
      rcases List.mem_cons.mp hd with rfl | hd
      · exact isWordChar_of_next? hq
      · exact ih h d hd
    · exact nomatch h

/-- A word is not empty, and has no characters but those of words. -/
theorem isWordChar_of_word? {word : List Char} {v : Json} (h : word? word = some v) :
    word ≠ [] ∧ ∀ c ∈ word, isWordChar c := by
  rw [word?] at h
  split at h
  · next hword =>
    subst hword
    exact ⟨by decide, by simp; decide⟩
  split at h
  · next hword =>
    subst hword
    exact ⟨by decide, by simp; decide⟩
  split at h
  · next hword =>
    subst hword
    exact ⟨by decide, by simp; decide⟩
  split at h
  · next hnumber =>
    refine ⟨?_, NumberPart.isWordChar_of_accepts hnumber⟩
    rintro rfl
    exact absurd hnumber (by decide)
  · cases h

end Words

section Elements

/-- The first character of a phrase that is no space closes nothing. -/
theorem Phrase.Spelt.exists_first {phrase : Phrase} {text : List Char} (h : phrase.Spelt text) :
    ∃ before first rest, text = before ++ first :: rest ∧ (∀ c ∈ before, isSpace c) ∧
      ¬isSpace first ∧ first ∉ "]\x7d".toList := by
  induction h with
  | word h =>
    obtain ⟨hne, hword⟩ := isWordChar_of_word? h
    obtain ⟨first, rest, rfl⟩ := List.exists_cons_of_ne_nil hne
    have hfirst := hword first List.mem_cons_self
    have hclose : ∀ c ∈ "]\x7d".toList, ¬isWordChar c := List.all_iff_forall_prop.mp (by decide)
    exact ⟨[], first, rest, rfl, nofun, fun hspace => not_isWordChar_of_isSpace hspace hfirst,
      fun hmem => hclose first hmem hfirst⟩
  | string | emptyArray | array | emptyObject | object =>
    exact ⟨[], _, _, rfl, nofun, by decide, by decide⟩
  | spaced hbefore h hafter ih =>
    obtain ⟨gap, first, rest, rfl, hgap, hfirst⟩ := ih
    refine ⟨_ ++ gap, first, rest ++ _, by simp; rfl, fun c hc => ?_, hfirst⟩
    exact (List.mem_append.mp hc).elim (hbefore c) (hgap c)
  | item h ih => exact ih
  | moreItems h hrest ih =>
    obtain ⟨gap, first, rest, rfl, hgap, hfirst⟩ := ih
    exact ⟨gap, first, rest ++ _, by simp; rfl, hgap, hfirst⟩
  | member hname h ih =>
    obtain ⟨gap, first, rest, rfl, hgap, hfirst⟩ := ih
    exact ⟨gap, first, rest ++ _, by simp; rfl, hgap, hfirst⟩
  | moreMembers hname h hrest ih =>
    obtain ⟨gap, first, rest, rfl, hgap, hfirst⟩ := ih
    exact ⟨gap, first, rest ++ _, by simp; rfl, hgap, hfirst⟩

/-- The reader gives a phrase for a text, whatever comes behind it: a value up to something that
would not make its last word longer, items and members up to the end of what they are in. -/
def Phrase.IsRead : Phrase → List Char → Prop
  | .value v, text => ∀ fuel rest, text.length ≤ fuel → (∀ c ∈ rest.head?, ¬isWordChar c) →
      element? (fuel + 1) (text ++ rest) = some (v, skip rest)
  | .items vs, text => ∀ fuel count rest, text.length ≤ fuel → text.length ≤ count →
      separated? ']' (element? (fuel + 1)) (count + 1) (text ++ ']' :: rest) = some (vs, rest)
  | .members ms, text => ∀ fuel count rest, text.length ≤ fuel → text.length ≤ count →
      separated? '\x7d' (pair? (element? (fuel + 1))) (count + 1) (text ++ '\x7d' :: rest) =
        some (ms, rest)

variable {fuel : Nat} {text rest : List Char}

theorem element?_append {before : List Char} (hbefore : ∀ c ∈ before, isSpace c) :
    element? (fuel + 1) (before ++ text) = element? (fuel + 1) text := by
  rw [element?, element?, skip_append hbefore]

theorem element?_word {word : List Char} {v : Json} (h : word? word = some v)
    (hrest : ∀ c ∈ rest.head?, ¬isWordChar c) :
    element? (fuel + 1) (word ++ rest) = some (v, skip rest) := by
  obtain ⟨hne, hword⟩ := isWordChar_of_word? h
  obtain ⟨first, others, rfl⟩ := List.exists_cons_of_ne_nil hne
  have hfirst := hword first List.mem_cons_self
  have hother : ∀ c, ¬isWordChar c → first ≠ c := by
    rintro c hc rfl
    exact hc hfirst
  have hskip : skip (first :: (others ++ rest)) = first :: (others ++ rest) := by
    refine skip_eq_self fun c hc hspace => ?_
    obtain rfl : first = c := Option.some.inj hc
    exact not_isWordChar_of_isSpace hspace hfirst
  have htake : (first :: (others ++ rest)).takeWhile isWordChar = first :: others :=
    Text.takeWhile_append hword hrest
  have hdrop : (first :: (others ++ rest)).dropWhile isWordChar = rest :=
    Text.dropWhile_append hword hrest
  rw [List.cons_append, element?, hskip]
  simp [hother '"' (by decide), hother '[' (by decide), hother '\x7b' (by decide), htake, hdrop, h]

theorem element?_string {s : String} {pieces : List Char} (h : TextSpelt s.toList pieces)
    (hfuel : pieces.length < fuel) :
    element? (fuel + 1) ('"' :: (pieces ++ '"' :: rest)) = some (.string s, skip rest) := by
  rw [element?, skip_eq_self (by simp; decide)]
  simp [contents?_append h hfuel]

theorem element?_array {inner : List Char} {items : List Json}
    (h : bracketed? ']' (element? fuel) fuel (inner ++ ']' :: rest) = some (items, rest)) :
    element? (fuel + 1) ('[' :: (inner ++ ']' :: rest)) = some (.array items, skip rest) := by
  rw [element?, skip_eq_self (by simp; decide)]
  simp [h]

theorem element?_object {inner : List Char} {members : List (String × Json)}
    (h : bracketed? '\x7d' (pair? (element? fuel)) fuel (inner ++ '\x7d' :: rest) =
      some (members, rest)) :
    element? (fuel + 1) ('\x7b' :: (inner ++ '\x7d' :: rest)) =
      some (.object members, skip rest) := by
  rw [element?, skip_eq_self (by simp; decide)]
  simp [h]

section Brackets

variable {α : Type} {close : Char} {item : List Char → Option (α × List Char)}

theorem bracketed?_gap {gap : List Char} (hgap : ∀ c ∈ gap, isSpace c) (hclose : ¬isSpace close) :
    bracketed? close item fuel (gap ++ close :: rest) = some ([], rest) := by
  have hskip : skip (gap ++ close :: rest) = close :: rest := by
    rw [skip_append hgap, skip_eq_self (by simpa using hclose)]
  rw [bracketed?, hskip]
  exact if_pos rfl

/-- What is spelled begins with an item, not with the end of the brackets. -/
theorem Phrase.Spelt.bracketed?_eq {phrase : Phrase} {inner : List Char} (h : phrase.Spelt inner)
    (hclose : close ∈ "]\x7d".toList) :
    bracketed? close item fuel (inner ++ rest) = separated? close item fuel (inner ++ rest) := by
  obtain ⟨before, first, others, rfl, hbefore, hspace, hfirst⟩ := h.exists_first
  have hskip : skip (before ++ first :: others ++ rest) = first :: (others ++ rest) := by
    rw [List.append_assoc, skip_append hbefore, List.cons_append,
      skip_eq_self (by simpa using hspace)]
  have hne : first ≠ close := by
    rintro rfl
    exact hfirst hclose
  rw [bracketed?, hskip]
  exact if_neg hne

theorem separated?_item {a : α} {text : List Char}
    (h : item (text ++ close :: rest) = some (a, close :: rest)) :
    separated? close item (fuel + 1) (text ++ close :: rest) = some ([a], rest) := by
  simp [separated?, h]

theorem separated?_more {a : α} {more : List α} {text others : List Char} (hclose : close ≠ ',')
    (h : item (text ++ ',' :: (others ++ close :: rest)) =
      some (a, ',' :: (others ++ close :: rest)))
    (hmore : separated? close item fuel (others ++ close :: rest) = some (more, rest)) :
    separated? close item (fuel + 1) (text ++ ',' :: (others ++ close :: rest)) =
      some (a :: more, rest) := by
  simp [separated?, h, hmore, hclose.symm]

end Brackets

/-- A value is read up to a delimiter. -/
theorem Phrase.IsRead.element? {v : Json} {text : List Char} (h : IsRead (.value v) text)
    (hfuel : text.length ≤ fuel) {c : Char} (hc : c ∈ ",:]\x7d".toList) :
    element? (fuel + 1) (text ++ c :: rest) = some (v, c :: rest) := by
  have hdelimiter : ∀ d ∈ ",:]\x7d".toList, ¬isWordChar d ∧ ¬isSpace d :=
    List.all_iff_forall_prop.mp (by decide)
  obtain ⟨hword, hspace⟩ := hdelimiter c hc
  rw [h fuel (c :: rest) hfuel (by simpa using hword), skip_eq_self (by simpa using hspace)]

theorem pair?_append {name : String} {v : Json} {lead text : List Char}
    (hname : Phrase.IsRead (.value (.string name)) lead) (h : Phrase.IsRead (.value v) text)
    (hfuel : lead.length + text.length ≤ fuel) {c : Char} (hc : c ∈ ",:]\x7d".toList) :
    pair? (element? (fuel + 1)) (lead ++ ':' :: (text ++ c :: rest)) =
      some ((name, v), c :: rest) := by
  have hlead : lead.length ≤ fuel := by omega
  have htext : text.length ≤ fuel := by omega
  rw [pair?, hname.element? hlead (by decide)]
  simp [h.element? htext hc]

/-- What is spelled is read, by induction on how it is spelled. A part has less fuel than the whole,
and is shorter by its brackets or its delimiter. -/
theorem Phrase.Spelt.isRead {phrase : Phrase} {text : List Char} (h : phrase.Spelt text) :
    phrase.IsRead text := by
  induction h with
  | word h =>
    intro fuel rest hfuel hrest
    exact element?_word h hrest
  | @string s pieces h =>
    intro fuel rest hfuel hrest
    simp only [List.length_append, List.length_cons] at hfuel
    simpa using element?_string h (by omega)
  | @spaced v before text after hbefore h hafter ih =>
    intro fuel rest hfuel hrest
    simp only [List.length_append] at hfuel
    have hnext : ∀ c ∈ (after ++ rest).head?, ¬isWordChar c := by
      cases after with
      | nil => exact hrest
      | cons d after =>
        intro c hc
        obtain rfl : d = c := Option.some.inj hc
        exact not_isWordChar_of_isSpace (hafter d List.mem_cons_self)
    rw [List.append_assoc, List.append_assoc, element?_append hbefore,
      ih fuel (after ++ rest) (by omega) hnext, skip_append hafter]
  | emptyArray gap hgap =>
    intro fuel rest hfuel hrest
    simpa using element?_array (bracketed?_gap hgap (by decide))
  | @array items inner h ih =>
    intro fuel rest hfuel hrest
    simp only [List.length_append, List.length_cons] at hfuel
    obtain ⟨fuel, rfl⟩ : ∃ less, fuel = less + 1 := ⟨fuel - 1, by omega⟩
    have hread := ih fuel fuel rest (by omega) (by omega)
    rw [← h.bracketed?_eq (by decide)] at hread
    simpa using element?_array hread
  | emptyObject gap hgap =>
    intro fuel rest hfuel hrest
    simpa using element?_object (bracketed?_gap hgap (by decide))
  | @object members inner h ih =>
    intro fuel rest hfuel hrest
    simp only [List.length_append, List.length_cons] at hfuel
    obtain ⟨fuel, rfl⟩ : ∃ less, fuel = less + 1 := ⟨fuel - 1, by omega⟩
    have hread := ih fuel fuel rest (by omega) (by omega)
    rw [← h.bracketed?_eq (by decide)] at hread
    simpa using element?_object hread
  | item h ih =>
    intro fuel count rest hfuel hcount
    exact separated?_item (ih.element? hfuel (by decide))
  | moreItems h hrest ih ihRest =>
    intro fuel count rest hfuel hcount
    simp only [List.length_append, List.length_cons] at hfuel hcount
    obtain ⟨count, rfl⟩ : ∃ less, count = less + 1 := ⟨count - 1, by omega⟩
    rw [List.append_assoc, List.cons_append]
    exact separated?_more (by decide) (ih.element? (by omega) (by decide))
      (ihRest fuel count rest (by omega) (by omega))
  | member hname h ihName ih =>
    intro fuel count rest hfuel hcount
    simp only [List.length_append, List.length_cons] at hfuel
    refine separated?_item ?_
    rw [List.append_assoc, List.cons_append]
    exact pair?_append ihName ih (by omega) (by decide)
  | @moreMembers name v members lead text others hname h hrest ihName ih ihRest =>
    intro fuel count rest hfuel hcount
    simp only [List.length_append, List.length_cons] at hfuel hcount
    obtain ⟨count, rfl⟩ : ∃ less, count = less + 1 := ⟨count - 1, by omega⟩
    have hpair : pair? (element? (fuel + 1))
        (lead ++ ':' :: text ++ ',' :: (others ++ '\x7d' :: rest)) =
          some ((name, v), ',' :: (others ++ '\x7d' :: rest)) := by
      rw [List.append_assoc, List.cons_append]
      exact pair?_append ihName ih (by omega) (by decide)
    have hmore := ihRest fuel count rest (by omega) (by omega)
    simpa using separated?_more (by decide) hpair hmore

/-- A text reads as a value exactly if it spells the value. -/
theorem read?_eq_some_iff {v : Json} {text : List Char} : read? text = some v ↔ Spelt v text := by
  refine ⟨spelt_of_read?, fun h => ?_⟩
  have hread := h.isRead text.length [] (Nat.le_refl _) nofun
  rw [List.append_nil] at hread
  rw [read?, hread]
  rfl

theorem ofBytes?_encode_eq_some_iff {v : Json} {text : List Char} :
    ofBytes? (Utf8.encode text) = some v ↔ Spelt v text := by
  rw [ofBytes?, Utf8.decode?_encode, Option.bind_some, read?_eq_some_iff]

example : read? " [-0.5e3 ,\x7b\"a\\u00e9\" : [ ]\x7d, true]\n".toList = some
    (.array [.number "-0.5e3".toList, .object [("aé", .array [])], .bool true]) := by cbv

end Elements

end CallWatch.Json

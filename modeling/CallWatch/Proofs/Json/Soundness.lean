import CallWatch.Proofs.Json.Reader
import Mathlib.Data.List.Basic
import Mathlib.Data.List.TakeWhile

/-! The reader is sound: a text of which it reads something begins with what spells it. -/

namespace CallWatch.Json

/-- A reader gives only what is spelled by the text in front of the one that it leaves. -/
def Sound {α : Type} (read? : List Char → Option (α × List Char))
    (IsSpelt : α → List Char → Prop) : Prop :=
  ∀ ⦃text rest a⦄, read? text = some (a, rest) → ∃ front, text = front ++ rest ∧ IsSpelt a front

section Characters

theorem sound_unicode? : Sound unicode? fun c digits => CharSpelt c ('\\' :: 'u' :: digits) := by
  intro text rest c h
  obtain ⟨code, hcode, h⟩ := Option.bind_eq_some_iff.mp h
  split at h
  case isTrue hvalid =>
    obtain ⟨rfl, rfl⟩ := Prod.mk.inj (Option.some.inj h)
    exact ⟨text.take 4, (List.take_append_drop 4 text).symm, .unit hcode hvalid⟩
  case isFalse hvalid =>
    split at h
    · next more hmore =>
      obtain ⟨low, hlow, h⟩ := Option.bind_eq_some_iff.mp h
      split at h
      case isTrue hrange =>
        obtain ⟨rfl, rfl⟩ := Prod.mk.inj (Option.some.inj h)
        -- a code of four digits that is no character is a surrogate
        have hhigh : 0xD800 ≤ code := by
          by_contra hlt
          exact hvalid (.inl (by omega))
        refine ⟨text.take 4 ++ '\\' :: 'u' :: more.take 4, ?_, ?_⟩
        · rw [List.append_assoc, List.cons_append, List.cons_append, List.take_append_drop, ← hmore,
            List.take_append_drop]
        · refine .pair ?_ ?_ (by omega) (by omega)
          · rw [hcode, Nat.add_sub_cancel' hhigh]
          · rw [hlow, Nat.add_sub_cancel' hrange.2.1]
      case isFalse => exact nomatch h
    · exact nomatch h

theorem sound_escaped? : Sound escaped? fun c piece => CharSpelt c ('\\' :: piece) := by
  intro text rest c h
  cases text with
  | nil => exact nomatch h
  | cons letter text =>
    rw [escaped?] at h
    split at h
    case isTrue hu =>
      subst hu
      obtain ⟨digits, rfl, hspelt⟩ := sound_unicode? h
      exact ⟨_, rfl, hspelt⟩
    case isFalse =>
      obtain ⟨d, hletter, hd⟩ := Option.map_eq_some_iff.mp h
      obtain ⟨rfl, rfl⟩ := Prod.mk.inj hd
      exact ⟨[letter], rfl, .short hletter⟩

theorem sound_character? : Sound character? CharSpelt := by
  intro text rest c h
  cases text with
  | nil => exact nomatch h
  | cons d text =>
    rw [character?] at h
    split at h
    case isTrue hslash =>
      subst hslash
      obtain ⟨piece, rfl, hspelt⟩ := sound_escaped? h
      exact ⟨_, rfl, hspelt⟩
    case isFalse =>
      split at h
      case isTrue hplain =>
        obtain ⟨rfl, rfl⟩ := Prod.mk.inj (Option.some.inj h)
        exact ⟨[d], rfl, .plain hplain⟩
      case isFalse => exact nomatch h

theorem exists_of_contents? {fuel : Nat} {text rest : List Char} {s : List Char}
    (h : contents? fuel text = some (s, rest)) :
    ∃ pieces, text = pieces ++ '"' :: rest ∧ TextSpelt s pieces := by
  induction fuel generalizing text s with
  | zero => exact nomatch h
  | succ fuel ih =>
    rw [contents?] at h
    split at h
    case isTrue hquote =>
      obtain ⟨rfl, rfl⟩ := Prod.mk.inj (Option.some.inj h)
      exact ⟨[], (List.cons_head?_tail hquote).symm, .nil⟩
    case isFalse =>
      obtain ⟨⟨c, after⟩, hc, h⟩ := Option.bind_eq_some_iff.mp h
      obtain ⟨⟨more, last⟩, hmore, h⟩ := Option.bind_eq_some_iff.mp h
      obtain ⟨rfl, rfl⟩ := Prod.mk.inj (Option.some.inj h)
      obtain ⟨piece, rfl, hpiece⟩ := sound_character? hc
      obtain ⟨pieces, rfl, hpieces⟩ := ih hmore
      exact ⟨piece ++ pieces, by rw [List.append_assoc], .cons hpiece hpieces⟩

end Characters

section Brackets

variable {α : Type} {close : Char} {item : List Char → Option (α × List Char)} {items : List α}
  {IsItem : α → List Char → Prop} {fuel : Nat} {text rest : List Char}

/-- Items are spelled if the first is and commas go between them. -/
theorem Sound.exists_of_separated? (hitem : Sound item IsItem)
    (AreItems : List α → List Char → Prop)
    (hone : ∀ {a text}, IsItem a text → AreItems [a] text)
    (hmore : ∀ {a text others more}, IsItem a text → AreItems others more →
      AreItems (a :: others) (text ++ ',' :: more))
    (h : separated? close item fuel text = some (items, rest)) :
    ∃ inner, text = inner ++ close :: rest ∧ AreItems items inner := by
  induction fuel generalizing text items with
  | zero => exact nomatch h
  | succ fuel ih =>
    obtain ⟨⟨a, after⟩, ha, hafter⟩ := Option.bind_eq_some_iff.mp h
    obtain ⟨front, rfl, hfront⟩ := hitem ha
    dsimp only at hafter
    split at hafter
    · exact nomatch hafter
    · next c after =>
      split at hafter
      case isTrue hc =>
        subst hc
        obtain ⟨rfl, rfl⟩ := Prod.mk.inj (Option.some.inj hafter)
        exact ⟨front, rfl, hone hfront⟩
      case isFalse =>
        split at hafter
        case isTrue hc =>
          subst hc
          obtain ⟨⟨others, last⟩, hothers, hlast⟩ := Option.bind_eq_some_iff.mp hafter
          obtain ⟨rfl, rfl⟩ := Prod.mk.inj (Option.some.inj hlast)
          obtain ⟨inner, rfl, hinner⟩ := ih hothers
          exact ⟨front ++ ',' :: inner, by rw [List.append_assoc]; rfl, hmore hfront hinner⟩
        case isFalse => exact nomatch hafter

/-- Between brackets there is a gap, or there are items. -/
theorem gap_or_separated? (h : bracketed? close item fuel text = some (items, rest)) :
    (∃ gap, items = [] ∧ text = gap ++ close :: rest ∧ ∀ c ∈ gap, isSpace c) ∨
      separated? close item fuel text = some (items, rest) := by
  rw [bracketed?] at h
  split at h
  · exact nomatch h
  · next c after hskip =>
    split at h
    case isTrue hc =>
      subst hc
      obtain ⟨rfl, rfl⟩ := Prod.mk.inj (Option.some.inj h)
      refine .inl ⟨text.takeWhile isSpace, rfl, ?_, fun c hc => List.mem_takeWhile_imp hc⟩
      rw [← hskip, skip, List.takeWhile_append_dropWhile]
    case isFalse => exact .inr h

end Brackets

section Elements

variable {element : List Char → Option (Json × List Char)} {fuel : Nat} {text rest : List Char}

theorem Sound.exists_of_items? (helement : Sound element Spelt) {items : List Json}
    (h : bracketed? ']' element fuel text = some (items, rest)) :
    ∃ inner, text = inner ++ ']' :: rest ∧ Spelt (.array items) ('[' :: inner ++ [']']) := by
  rcases gap_or_separated? h with ⟨gap, rfl, rfl, hgap⟩ | hitems
  · exact ⟨gap, rfl, .emptyArray gap hgap⟩
  · obtain ⟨inner, rfl, hinner⟩ := helement.exists_of_separated?
      (fun items => Phrase.Spelt (.items items)) .item .moreItems hitems
    exact ⟨inner, rfl, .array hinner⟩

/-- A text spells the name and the value of a member. -/
def MemberSpelt (m : String × Json) (text : List Char) : Prop :=
  ∃ lead tail, text = lead ++ ':' :: tail ∧ Spelt (.string m.1) lead ∧ Spelt m.2 tail

theorem Sound.pair? (helement : Sound element Spelt) : Sound (pair? element) MemberSpelt := by
  intro text rest m h
  rw [Json.pair?] at h
  split at h
  · next name after hname =>
    obtain ⟨⟨v, last⟩, hv, hlast⟩ := Option.bind_eq_some_iff.mp h
    obtain ⟨rfl, rfl⟩ := Prod.mk.inj (Option.some.inj hlast)
    obtain ⟨lead, rfl, hlead⟩ := helement hname
    obtain ⟨tail, rfl, htail⟩ := helement hv
    exact ⟨lead ++ ':' :: tail, by rw [List.append_assoc]; rfl, lead, tail, rfl, hlead, htail⟩
  · exact nomatch h

theorem Sound.exists_of_members? (helement : Sound element Spelt) {members : List (String × Json)}
    (h : bracketed? '\x7d' (Json.pair? element) fuel text = some (members, rest)) :
    ∃ inner, text = inner ++ '\x7d' :: rest ∧
      Spelt (.object members) ('\x7b' :: inner ++ ['\x7d']) := by
  rcases gap_or_separated? h with ⟨gap, rfl, rfl, hgap⟩ | hmembers
  · exact ⟨gap, rfl, .emptyObject gap hgap⟩
  · have hone : ∀ {m text}, MemberSpelt m text → Phrase.Spelt (.members [m]) text := by
      rintro m _ ⟨lead, tail, rfl, hlead, htail⟩
      exact .member hlead htail
    have hmore : ∀ {m text others more}, MemberSpelt m text → Phrase.Spelt (.members others) more →
        Phrase.Spelt (.members (m :: others)) (text ++ ',' :: more) := by
      rintro m _ others more ⟨lead, tail, rfl, hlead, htail⟩ hothers
      rw [List.append_assoc]
      exact .moreMembers hlead htail hothers
    obtain ⟨inner, rfl, hinner⟩ := helement.pair?.exists_of_separated?
      (fun members => Phrase.Spelt (.members members)) hone hmore hmembers
    exact ⟨inner, rfl, .object hinner⟩

/-- What is read between spaces is spelled with them. -/
theorem exists_spelt_of_skip {v : Json} (core after : List Char) (htext : skip text = core ++ after)
    (h : Spelt v core) : ∃ front, text = front ++ skip after ∧ Spelt v front := by
  refine ⟨text.takeWhile isSpace ++ core ++ after.takeWhile isSpace, ?_, .spaced ?_ h ?_⟩
  · rw [List.append_assoc, skip, List.takeWhile_append_dropWhile, List.append_assoc, ← htext, skip,
      List.takeWhile_append_dropWhile]
  · exact fun c hc => List.mem_takeWhile_imp hc
  · exact fun c hc => List.mem_takeWhile_imp hc

theorem sound_element? (fuel : Nat) : Sound (element? fuel) Spelt := by
  induction fuel with
  | zero => exact nofun
  | succ fuel ih =>
    intro text rest v h
    rw [element?] at h
    split at h
    · exact nomatch h
    -- the first character tells the kind of the value
    next c after hskip =>
    split at h
    · next hc =>
      subst hc
      obtain ⟨⟨s, last⟩, hs, h⟩ := Option.bind_eq_some_iff.mp h
      obtain ⟨rfl, rfl⟩ := Prod.mk.inj (Option.some.inj h)
      obtain ⟨pieces, rfl, hpieces⟩ := exists_of_contents? hs
      refine exists_spelt_of_skip ('"' :: pieces ++ ['"']) last (by simp [hskip]) (.string ?_)
      rwa [String.toList_ofList]
    split at h
    · next hc =>
      subst hc
      obtain ⟨⟨items, last⟩, hitems, h⟩ := Option.bind_eq_some_iff.mp h
      obtain ⟨rfl, rfl⟩ := Prod.mk.inj (Option.some.inj h)
      obtain ⟨inner, rfl, hinner⟩ := ih.exists_of_items? hitems
      exact exists_spelt_of_skip _ last (by simp [hskip]) hinner
    split at h
    · next hc =>
      subst hc
      obtain ⟨⟨members, last⟩, hmembers, h⟩ := Option.bind_eq_some_iff.mp h
      obtain ⟨rfl, rfl⟩ := Prod.mk.inj (Option.some.inj h)
      obtain ⟨inner, rfl, hinner⟩ := ih.exists_of_members? hmembers
      exact exists_spelt_of_skip _ last (by simp [hskip]) hinner
    · obtain ⟨w, hw, h⟩ := Option.bind_eq_some_iff.mp h
      obtain ⟨rfl, rfl⟩ := Prod.mk.inj (Option.some.inj h)
      exact exists_spelt_of_skip _ _ (by rw [List.takeWhile_append_dropWhile, hskip]) (.word hw)

/-- A text spells what it reads as. -/
theorem spelt_of_read? {v : Json} (h : read? text = some v) : Spelt v text := by
  rw [read?] at h
  split at h
  · next w hread =>
    obtain rfl := Option.some.inj h
    obtain ⟨front, rfl, hspelt⟩ := sound_element? _ hread
    rwa [List.append_nil]
  · exact nomatch h

end Elements

end CallWatch.Json

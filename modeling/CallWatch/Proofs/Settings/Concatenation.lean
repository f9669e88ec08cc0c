import CallWatch.Proofs.Settings.Continuation

/-! Properties of texts put together. The entries of two texts, one below the other, are those of
the first and then those of the second, so that of the values of a key the last one counts, unless
the last line of the first text goes on in the second. -/

namespace CallWatch.Properties

/-- Entries behind others override them. -/
theorem ofEntries_append (front back : List (List Char × List Char)) :
    ofEntries (front ++ back) = ofEntries front ∪ ofEntries back := by
  refine Std.ExtTreeMap.ext_getElem? fun key => ?_
  rw [Std.ExtTreeMap.getElem?_union]
  simp only [ofEntries, List.map_append, Std.ExtTreeMap.insertMany_append,
    Std.ExtTreeMap.getElem?_insertMany_list, Std.ExtTreeMap.getElem?_empty, Option.or_none]

/-- Lines without an entry make no difference in front of a text. -/
theorem entries_of_holdsNone {between : List Char} (h : ∀ line ∈ Text.lines between, HoldsNone line)
    (after : List Char) : entries (between ++ '\n' :: after) = entries after := by
  rw [entries, Text.lines_append, joinLines_append_of_holdsNone h, entries]

/-- The last line of a text does not go on if it does not end in an odd number of backslashes and
blanks. -/
theorem not_goesOn_of_getLast? {text : List Char}
    (ends : ∀ line ∈ (Text.lines text).getLast?, ¬EndsOdd line) : ¬goesOn text := by
  intro hgoes
  obtain ⟨line, hline, hcontinues⟩ := (Option.any_eq_true _ _).mp hgoes
  exact ends line hline ((continues_trim_iff line).mp hcontinues)

/-- Where the last line of a text, up to the blanks at its end, does not end in an odd number of
backslashes, the properties of the text with another one below it are its own, overridden by those
of the other. Under each key stands the value of the text below, if it has one there, and lines of
blanks or comments between the two make no difference. -/
theorem parse_append_newline {first : String}
    (ends : ∀ line ∈ (Text.lines first.toList).getLast?, ¬EndsOdd line) (second : String) :
    parse (first ++ "\n" ++ second) = parse first ∪ parse second ∧
      (∀ key : String, (parse (first ++ "\n" ++ second))[key]? =
        (parse second)[key]?.or (parse first)[key]?) ∧
      ∀ between, (∀ line ∈ Text.lines between.toList, HoldsNone line) →
        parse (first ++ "\n" ++ between ++ "\n" ++ second) = parse (first ++ "\n" ++ second) := by
  have hends := not_goesOn_of_getLast? ends
  have hentries (below : String) : entries (first ++ "\n" ++ below).toList =
      entries first.toList ++ entries below.toList := by
    rw [String.toList_append, String.toList_append, List.append_assoc]
    exact entries_append hends below.toList
  have hunion : parse (first ++ "\n" ++ second) = parse first ∪ parse second := by
    rw [parse, hentries, ofEntries_append, parse, parse]
  refine ⟨hunion, fun key => ?_, fun between hbetween => ?_⟩
  · rw [hunion, Std.ExtTreeMap.getElem?_union]
  · have hpassed : entries (between ++ "\n" ++ second).toList = entries second.toList := by
      rw [String.toList_append, String.toList_append, List.append_assoc]
      exact entries_of_holdsNone hbetween second.toList
    have hbelow : first ++ "\n" ++ between ++ "\n" ++ second =
        first ++ "\n" ++ (between ++ "\n" ++ second) := by
      simp only [String.append_assoc]
    rw [hbelow, parse, hentries, hpassed, ← hentries, parse]

/-- The first text ends in a line end behind a backslash, which ends the entry that would have gone
on; the second one has another value for one of its keys. -/
theorem parse_append_newline_of_repeated_key :
    let first := "a=1\nb=2\\\n"
    let between := "# c=3\\\n \t\n!"
    let second := "a=4"
    (∀ line ∈ (Text.lines first.toList).getLast?, ¬EndsOdd line) ∧
      (∀ line ∈ Text.lines between.toList, HoldsNone line) ∧
      (parse (first ++ "\n" ++ between ++ "\n" ++ second))["a"]? = some "4" ∧
      (parse (first ++ "\n" ++ between ++ "\n" ++ second))["b"]? = some "2" ∧
      (parse (first ++ "\n" ++ between ++ "\n" ++ second))["c"]? = none := by
  intro first between second
  have hends : ∀ line ∈ (Text.lines first.toList).getLast?, ¬EndsOdd line := by
    have hlast : (Text.lines first.toList).getLast? = some [] := by decide
    rw [hlast]
    rintro line ⟨⟩
    rw [← continues_trim_iff]
    decide
  have hbetween : ∀ line ∈ Text.lines between.toList, HoldsNone line := by
    simp only [← isPassedOver_trim_iff]
    decide
  obtain ⟨-, hlookup, hpassed⟩ := parse_append_newline hends second
  rw [hpassed between hbetween]
  refine ⟨hends, hbetween, ?_, ?_, ?_⟩
  · rw [hlookup]
    decide
  · rw [hlookup]
    decide
  · rw [hlookup]
    decide

end CallWatch.Properties

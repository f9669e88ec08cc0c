import CallWatch.Observation.RepositoryId
import CallWatch.Proofs.Text.Cut

/-! Repository ids read back. An id is written as the name of a format, a path of segments and a
version. Its short name is the last segment, whatever colons stand in the path or slashes in the
version, and the class of an exception follows from the path alone. -/

namespace CallWatch

namespace RepositoryId

/-- The id with a path and a version in a format. -/
def ofPath (format : String) (segments : List String) (version : String) : String :=
  format ++ "/".intercalate segments ++ ":" ++ version

theorem toList_ofPath (format : String) (segments : List String) (version : String) :
    (ofPath format segments version).toList =
      format.toList ++ (("/".intercalate segments).toList ++ ':' :: version.toList) := by
  simp only [ofPath, String.toList_append, List.append_assoc]
  rfl

theorem withoutFormat_append {format : String} (h : format = "IDL:" ∨ format = "RMI:")
    (rest : List Char) : withoutFormat (format.toList ++ rest) = rest := by
  rcases h with rfl | rfl
  · rw [withoutFormat, Text.behind?_append]
    rfl
  · rw [withoutFormat, Text.behind?_append]
    rfl

theorem withoutVersion_append {path version : List Char} (hpath : path ≠ [])
    (hversion : ':' ∉ version) : withoutVersion (path ++ ':' :: version) = path := by
  obtain ⟨c, rest, rfl⟩ := List.exists_cons_of_ne_nil hpath
  rw [withoutVersion, Text.cutLast?_append hversion]

theorem lastSegment_eq_self {path : List Char} (h : '/' ∉ path) : lastSegment path = path := by
  have hreverse : '/' ∉ path.reverse := fun hmem => h (List.mem_reverse.mp hmem)
  rw [lastSegment, Text.cutLast?, Text.cutFirst?_eq_none hreverse]
  rfl

theorem lastSegment_append {last : List Char} (front : List Char) (h : '/' ∉ last) :
    lastSegment (front ++ '/' :: last) = last := by
  rw [lastSegment, Text.cutLast?_append h]

theorem lastSegment_intercalate {segments : List String} {last : String}
    (hlast : segments.getLast? = some last) (h : '/' ∉ last.toList) :
    lastSegment ("/".intercalate segments).toList = last.toList := by
  obtain ⟨front, rfl⟩ := List.getLast?_eq_some_iff.mp hlast
  by_cases hfront : front = []
  · rw [hfront, List.nil_append, String.intercalate_singleton, lastSegment_eq_self h]
  · rw [String.intercalate_append_of_ne_nil hfront (List.cons_ne_nil last []),
      String.intercalate_singleton, String.toList_append, String.toList_append, List.append_assoc]
    exact lastSegment_append _ h

/-- A beginning without the cut reaches no further than the cut. -/
theorem isPrefix_append_cons_iff {cut : Char} {lead front back : List Char} (h : cut ∉ lead) :
    lead <+: front ++ cut :: back ↔ lead <+: front := by
  constructor
  · intro hlead
    rcases List.prefix_or_prefix_of_prefix hlead (List.prefix_append front _) with hfront | hfront
    · exact hfront
    · obtain ⟨rest, rfl⟩ := hfront
      rw [List.prefix_append_right_inj, List.prefix_cons_iff] at hlead
      rcases hlead with rfl | ⟨more, rfl, -⟩
      · simp
      · exact absurd (List.mem_append_right front List.mem_cons_self) h
  · exact fun hlead => hlead.trans (List.prefix_append front _)

theorem splitOn_intercalate {segments : List String} (h : ∀ s ∈ segments, '/' ∉ s.toList)
    (hne : segments ≠ []) :
    ("/".intercalate segments).toList.splitOn '/' = segments.map String.toList := by
  rw [String.toList_intercalate]
  refine List.splitOn_intercalate '/' ?_ (by simpa using hne)
  simpa using h

/-- A path begins with some segments and goes on behind them just if its text begins with theirs
and a slash. -/
theorem isPrefix_intercalate_iff {lead segments : List String}
    (hlead : ∀ s ∈ lead, '/' ∉ s.toList) (hsegments : ∀ s ∈ segments, '/' ∉ s.toList)
    (hne : lead ≠ []) :
    ("/".intercalate lead ++ "/").toList <+: ("/".intercalate segments).toList ↔
      ∃ name rest, segments = lead ++ name :: rest := by
  constructor
  · rintro ⟨tail, htail⟩
    have hsome : segments ≠ [] := by
      rintro rfl
      simp at htail
    have hsplit := splitOn_intercalate hsegments hsome
    rw [← htail, String.toList_append, List.append_assoc] at hsplit
    change List.splitOn '/' (_ ++ '/' :: tail) = _ at hsplit
    rw [List.splitOn_append_cons_self, splitOn_intercalate hlead hne] at hsplit
    obtain ⟨front, back, rfl, hfront, hback⟩ := List.map_eq_append_iff.mp hsplit.symm
    obtain rfl : front = lead :=
      List.map_injective_iff.mpr (fun _ _ => String.toList_injective) hfront
    obtain ⟨name, rest, rfl⟩ : ∃ name rest, back = name :: rest := by
      apply List.exists_cons_of_ne_nil
      rintro rfl
      exact List.splitOn_ne_nil '/' tail hback.symm
    exact ⟨name, rest, rfl⟩
  · rintro ⟨name, rest, rfl⟩
    rw [String.intercalate_append_of_ne_nil hne (List.cons_ne_nil name rest),
      String.toList_append (t := "/".intercalate (name :: rest))]
    exact List.prefix_append _ _

variable {format version : String} {segments : List String}

/-- The short name of an id is the last segment of its path. -/
theorem shortName_ofPath {last : String} (hformat : format = "IDL:" ∨ format = "RMI:")
    (hlast : segments.getLast? = some last) (hslash : '/' ∉ last.toList)
    (hne : "/".intercalate segments ≠ "") (hversion : ':' ∉ version.toList) :
    shortName (ofPath format segments version).toList = last.toList := by
  have hpath : ("/".intercalate segments).toList ≠ [] :=
    fun hnil => hne (String.toList_eq_nil_iff.mp hnil)
  rw [shortName, toList_ofPath, withoutFormat_append hformat, withoutVersion_append hpath hversion,
    lastSegment_intercalate hlast hslash]

/-- The ids of the runtime's own exceptions are those with its path. -/
theorem isPrefix_ofPath_iff (hsegments : ∀ s ∈ segments, '/' ∉ s.toList) (version : String) :
    "IDL:omg.org/CORBA/".toList <+: (ofPath "IDL:" segments version).toList ↔
      ∃ name rest, segments = "omg.org" :: "CORBA" :: name :: rest := by
  have hlead : "IDL:omg.org/CORBA/".toList =
      "IDL:".toList ++ ("/".intercalate ["omg.org", "CORBA"] ++ "/").toList := by decide
  rw [toList_ofPath, hlead, List.prefix_append_right_inj,
    isPrefix_append_cons_iff (by decide),
    isPrefix_intercalate_iff (by decide) hsegments (List.cons_ne_nil _ _)]
  rfl

end RepositoryId

namespace ExceptionClass

theorem status_ofId_eq_timeout_iff (id : String) : (ofId id).status = .timeout ↔
    "TRANSIENT".toList <:+: RepositoryId.shortName id.toList ∨
      "TIMEOUT".toList <:+: RepositoryId.shortName id.toList := by
  rw [← Text.holds_iff_isInfix, ← Text.holds_iff_isInfix, ofId]
  cases Text.holds "TRANSIENT".toList (RepositoryId.shortName id.toList) <;>
    cases Text.holds "TIMEOUT".toList (RepositoryId.shortName id.toList) <;> simp

/-- An exception is the runtime's own unless its id says that it is a user's, or names another path
in the format of interfaces. -/
theorem kind_ofId_eq_system_iff (id : String) : (ofId id).kind = .system ↔
    ¬"USER_EXCEPTION".toList <:+: id.toList ∧
      ("IDL:".toList <+: id.toList → "IDL:omg.org/CORBA/".toList <+: id.toList) := by
  rw [← Text.holds_iff_isInfix, ← Text.isSome_behind?_iff, ← Text.isSome_behind?_iff, ofId]
  cases Text.holds "USER_EXCEPTION".toList id.toList <;>
    cases Text.behind? "IDL:".toList id.toList <;>
      cases Text.behind? "IDL:omg.org/CORBA/".toList id.toList <;> simp

theorem message_ofId (id : String) :
    (ofId id).message = "CORBA::" ++ RepositoryId.shortTypeName id := by
  rw [ofId, RepositoryId.shortTypeName, String.ofList_append, String.ofList_toList]

end ExceptionClass

namespace RepositoryId

/-- The short name of an id is the last segment of its path. An exception with such an id is the
runtime's own just if the path begins with that of the runtime, unless the id says that it is a
user's; its message and its status follow from the last segment. -/
theorem ofPath_classified {format version : String} {segments : List String}
    (hformat : format = "IDL:" ∨ format = "RMI:") (hsegments : ∀ s ∈ segments, '/' ∉ s.toList)
    (hne : "/".intercalate segments ≠ "") (hversion : ':' ∉ version.toList) :
    ∃ last, segments.getLast? = some last ∧
      shortTypeName (ofPath format segments version) = last ∧
      (format = "IDL:" → ¬"USER_EXCEPTION".toList <:+: (ofPath format segments version).toList →
        let c := ExceptionClass.ofId (ofPath format segments version)
        (c.kind = .system ↔ ∃ name rest, segments = "omg.org" :: "CORBA" :: name :: rest) ∧
        (c.kind = .user ↔ ¬∃ name rest, segments = "omg.org" :: "CORBA" :: name :: rest) ∧
        c.message = "CORBA::" ++ last ∧
        (c.status = .timeout ↔
          "TRANSIENT".toList <:+: last.toList ∨ "TIMEOUT".toList <:+: last.toList)) := by
  have hsome : segments ≠ [] := by
    rintro rfl
    exact hne String.intercalate_nil
  obtain ⟨last, hlast⟩ := Option.isSome_iff_exists.mp (List.getLast?_isSome.mpr hsome)
  have hshort := shortName_ofPath hformat hlast (hsegments last (List.mem_of_getLast? hlast)) hne
    hversion
  have hname : shortTypeName (ofPath format segments version) = last := by
    rw [shortTypeName, hshort, String.ofList_toList]
  refine ⟨last, hlast, hname, ?_⟩
  rintro rfl huser
  have hkind : (ExceptionClass.ofId (ofPath "IDL:" segments version)).kind = .system ↔
      ∃ name rest, segments = "omg.org" :: "CORBA" :: name :: rest := by
    rw [ExceptionClass.kind_ofId_eq_system_iff, ← isPrefix_ofPath_iff hsegments version]
    have hformat : "IDL:".toList <+: (ofPath "IDL:" segments version).toList := by
      rw [toList_ofPath]
      exact List.prefix_append _ _
    simp only [huser, hformat, not_false_eq_true, true_and, forall_const]
  refine ⟨hkind, ?_, ?_, ?_⟩
  · rw [← hkind]
    cases (ExceptionClass.ofId (ofPath "IDL:" segments version)).kind <;> simp
  · rw [ExceptionClass.message_ofId, hname]
  · rw [ExceptionClass.status_ofId_eq_timeout_iff, hshort]

/-- A path of the runtime with a colon in it, and a version with a slash. -/
theorem ofPath_classified_of_colon_and_slash :
    let id := ofPath "IDL:" ["omg.org", "CORBA", "x:y", "TIMEOUT"] "1/0"
    id = "IDL:omg.org/CORBA/x:y/TIMEOUT:1/0" ∧ shortTypeName id = "TIMEOUT" ∧
      ¬"USER_EXCEPTION".toList <:+: id.toList ∧ (ExceptionClass.ofId id).kind = .system ∧
      (ExceptionClass.ofId id).message = "CORBA::TIMEOUT" ∧
      (ExceptionClass.ofId id).status = .timeout := by
  intro id
  obtain ⟨last, hlast, hname, hclass⟩ := @ofPath_classified "IDL:" "1/0"
    ["omg.org", "CORBA", "x:y", "TIMEOUT"] (.inl rfl) (by decide) (by decide +kernel) (by decide)
  obtain rfl : "TIMEOUT" = last := Option.some.inj hlast
  have huser : ¬"USER_EXCEPTION".toList <:+: id.toList :=
    fun h => absurd (Text.holds_iff_isInfix.mpr h) (by decide +kernel)
  obtain ⟨hsystem, -, hmessage, hstatus⟩ := hclass rfl huser
  exact ⟨by decide +kernel, hname, huser, hsystem.mpr ⟨_, _, rfl⟩, hmessage,
    hstatus.mpr (.inr List.infix_rfl)⟩

end RepositoryId

end CallWatch

import CallWatch.Proofs.Number.Integer
import CallWatch.Proofs.Reference.Writing

/-! The forms of a reference agree. A stringified reference, an object URL and a URL with a scheme
that name the same host and port give the same endpoint, between blanks and whatever stands behind
the address. -/

namespace CallWatch

namespace Endpoint

/-- A host that no form of a reference cuts: it is not empty, and has no blanks and none of the
characters that stand around an address. -/
structure IsPlain (host : String) : Prop where
  ne_empty : host ≠ ""
  plain : ∀ c ∈ host.toList, ¬Text.isBlank c ∧ c ∉ ":/#,@[".toList

/-- A host and a port with a colon between them. -/
def address (host : String) (port : UInt16) : List Char :=
  host.toList ++ ':' :: decimal port.toNat

/-- The texts that name a host and a port. -/
inductive Names (host : String) (port : UInt16) : List Char → Prop
  /-- A stringified reference, of which the endpoint is the first. -/
  | stringified (typeId : String) (others : List (String × UInt16))
      (hfits : Ior.Fits typeId ((host, port) :: others)) :
      Names host port (Ior.encode typeId ((host, port) :: others)).toList
  /-- An object URL, with or without a version, of which the address is the first. -/
  | objectUrl (lead protocol version tail : List Char)
      (hlead : lead ∈ ["corbaloc:".toList, "corbaname:".toList])
      (hprotocol : protocol ∈ ["iiop:".toList, ":".toList])
      (hversion : version = [] ∨
        ∃ text, version = text ++ ['@'] ∧ ∀ c ∈ text, c ∉ "/#,@".toList)
      (htail : ∀ c ∈ tail.head?, c ∈ "/#,".toList) :
      Names host port (lead ++ protocol ++ version ++ address host port ++ tail)
  /-- A URL with a scheme that stands for no other form. -/
  | schemeUrl (scheme path : List Char) (hscheme : ∀ c ∈ scheme, ¬Text.isBlank c ∧ c ≠ ':')
      (hother : scheme.map Char.toLower ∉ ["corbaloc".toList, "corbaname".toList, "ior".toList])
      (hpath : ∀ c ∈ path.head?, c = '/') :
      Names host port (scheme ++ "://".toList ++ address host port ++ path)

variable {host : String} {port : UInt16}

theorem not_mem_decimal {n : Nat} {c : Char} (hc : ¬c.isDigit) : c ∉ decimal n :=
  fun hmem => hc (isDigit_of_mem_decimal hmem)

theorem mem_address {c : Char} (h : c ∈ address host port) :
    c ∈ host.toList ∨ c ∈ ":0123456789".toList := by
  rcases List.mem_append.mp h with hhost | hport
  · exact .inl hhost
  rcases List.mem_cons.mp hport with rfl | hdigit
  · exact .inr List.mem_cons_self
  · exact .inr (List.mem_cons_of_mem ':' (mem_digits_of_isDigit (isDigit_of_mem_decimal hdigit)))

/-- An address holds no blanks and no cuts but its colon. -/
theorem IsPlain.of_mem_address (h : IsPlain host) :
    ∀ c ∈ address host port, ¬Text.isBlank c ∧ c ∉ "/#,@[".toList := by
  have hport : ∀ d ∈ ":0123456789".toList, ¬Text.isBlank d ∧ d ∉ "/#,@[".toList :=
    List.all_iff_forall_prop.mp (by decide)
  intro c hc
  rcases mem_address hc with hc | hc
  · obtain ⟨hblank, hcut⟩ := h.plain c hc
    exact ⟨hblank, fun hmem => hcut (List.mem_cons_of_mem ':' hmem)⟩
  · exact hport c hc

/-- A host that an object URL takes whole: it is not empty, holds none of the characters that end an
address or a version, and does not begin with a bracket. Colons and blanks do no harm. -/
structure IsUncut (host : String) : Prop where
  ne_empty : host ≠ ""
  uncut : ∀ c ∈ host.toList, c ∉ "/#,@".toList
  unbracketed : ∀ c ∈ host.toList.head?, c ≠ '['

theorem IsPlain.isUncut (h : IsPlain host) : IsUncut host where
  ne_empty := h.ne_empty
  uncut c hc hcut := (h.plain c hc).2 (List.mem_cons_of_mem ':' (List.mem_append_left ['['] hcut))
  unbracketed c hc hbracket := (h.plain c (List.mem_of_mem_head? hc)).2 (hbracket ▸ by decide)

theorem IsUncut.of_mem_address (h : IsUncut host) :
    ∀ c ∈ address host port, c ∉ "/#,@".toList := by
  have hport : ∀ d ∈ ":0123456789".toList, d ∉ "/#,@".toList :=
    List.all_iff_forall_prop.mp (by decide)
  intro c hc
  rcases mem_address hc with hc | hc
  · exact h.uncut c hc
  · exact hport c hc

/-- The port stands behind the last colon, as it has none itself. -/
theorem splitAddress?_address (h : IsUncut host) :
    splitAddress? (address host port) = some (host.toList, some (decimal port.toNat)) := by
  have hcut : Text.cutLast? ':' (address host port) = some (host.toList, decimal port.toNat) :=
    Text.cutLast?_append (not_mem_decimal (by decide))
  have hne : host.toList ≠ [] := fun hnil => h.ne_empty (String.toList_eq_nil_iff.mp hnil)
  have hfirst : ∀ rest, address host port ≠ '[' :: rest := by
    intro rest hrest
    refine h.unbracketed '[' ?_ rfl
    rw [← List.head?_append_of_ne_nil host.toList hne, ← address, hrest]
    rfl
  rw [splitAddress?.eq_def]
  split
  · next rest hrest => exact absurd hrest (hfirst rest)
  · rw [hcut]

/-- The first address of an object URL lies between its version and its tail. -/
theorem firstAddress?_append {protocol version tail : List Char} (h : IsUncut host)
    (hprotocol : protocol ∈ ["iiop:".toList, ":".toList])
    (hversion : version = [] ∨ ∃ text, version = text ++ ['@'] ∧ ∀ c ∈ text, c ∉ "/#,@".toList)
    (htail : ∀ c ∈ tail.head?, c ∈ "/#,".toList) :
    firstAddress? (protocol ++ (version ++ (address host port ++ tail))) =
      some (address host port) := by
  have hinner : ∀ c ∈ protocol ++ (version ++ address host port), c ∉ "/#,".toList := by
    intro c hc
    rcases List.mem_append.mp hc with hc | hc
    · have hlead : ∀ lead ∈ ["iiop:".toList, ":".toList], ∀ d ∈ lead, d ∉ "/#,".toList := by
        simp
      exact hlead protocol hprotocol c hc
    rcases List.mem_append.mp hc with hc | hc
    · rcases hversion with rfl | ⟨text, rfl, htext⟩
      · exact nomatch hc
      rcases List.mem_append.mp hc with hc | hc
      · exact fun hcut => htext c hc (List.mem_append_left ['@'] hcut)
      · rw [List.mem_singleton.mp hc]
        decide
    · exact fun hcut => h.of_mem_address c hc (List.mem_append_left ['@'] hcut)
  have hfirst : (protocol ++ (version ++ (address host port ++ tail))).takeWhile
      (fun c => c ≠ '/' ∧ c ≠ '#' ∧ c ≠ ',') = protocol ++ (version ++ address host port) := by
    have hassoc : protocol ++ (version ++ (address host port ++ tail)) =
        protocol ++ (version ++ address host port) ++ tail := by
      simp only [List.append_assoc]
    rw [hassoc]
    refine Text.takeWhile_append (fun c hc => ?_) (fun c hc => ?_)
    · simpa using hinner c hc
    · have hcut := htail c hc
      simp at hcut ⊢
      grind
  have hbehind : (Text.behind? "iiop:".toList (protocol ++ (version ++ address host port))).or
      (Text.behind? [':'] (protocol ++ (version ++ address host port))) =
        some (version ++ address host port) := by
    rcases List.mem_pair.mp hprotocol with rfl | rfl
    · rw [Text.behind?_append, Option.some_or]
    · rfl
  rw [firstAddress?]
  simp only [hfirst, hbehind, Option.bind_eq_bind, Option.bind_some]
  rcases hversion with rfl | ⟨text, rfl, htext⟩
  · have hnone : Text.cutFirst? '@' ([] ++ address host port) = none :=
      Text.cutFirst?_eq_none fun hat => h.of_mem_address '@' hat (by decide)
    rw [hnone]
    rfl
  · have hcut : Text.cutFirst? '@' (text ++ ['@'] ++ address host port) =
        some (text, address host port) := by
      rw [List.append_assoc]
      exact Text.cutFirst?_append fun hat => htext '@' hat (by decide)
    rw [hcut]
    rfl

/-- An object URL gives the host and the port of its first address. -/
theorem ofObjectUrl?_of_isUncut {protocol version tail : List Char} (h : IsUncut host)
    (hprotocol : protocol ∈ ["iiop:".toList, ":".toList])
    (hversion : version = [] ∨ ∃ text, version = text ++ ['@'] ∧ ∀ c ∈ text, c ∉ "/#,@".toList)
    (htail : ∀ c ∈ tail.head?, c ∈ "/#,".toList) :
    ofObjectUrl? (protocol ++ (version ++ (address host port ++ tail))) =
      some ⟨host, some port⟩ := by
  have hne : host.toList ≠ [] := fun hnil => h.ne_empty (String.toList_eq_nil_iff.mp hnil)
  rw [ofObjectUrl?, firstAddress?_append h hprotocol hversion htail]
  simp [splitAddress?_address h, readPort?_decimal, hne]

theorem ofObjectUrl?_append {protocol version tail : List Char} (h : IsPlain host)
    (hprotocol : protocol ∈ ["iiop:".toList, ":".toList])
    (hversion : version = [] ∨ ∃ text, version = text ++ ['@'] ∧ ∀ c ∈ text, c ∉ "/#,@".toList)
    (htail : ∀ c ∈ tail.head?, c ∈ "/#,".toList) :
    ofObjectUrl? (protocol ++ (version ++ (address host port ++ tail))) =
      some ⟨host, some port⟩ :=
  ofObjectUrl?_of_isUncut h.isUncut hprotocol hversion htail

theorem ofSchemeUrl?_append {scheme path : List Char} (h : IsPlain host) (hscheme : ':' ∉ scheme)
    (hpath : ∀ c ∈ path.head?, c = '/') :
    ofSchemeUrl? (scheme ++ ("://".toList ++ (address host port ++ path))) =
      some ⟨host, some port⟩ := by
  have hne : host.toList ≠ [] := fun hnil => h.ne_empty (String.toList_eq_nil_iff.mp hnil)
  have hbehind : Text.behindFirst? "://".toList
      (scheme ++ ("://".toList ++ (address host port ++ path))) =
        some (address host port ++ path) :=
    Text.behindFirst?_append hscheme
  have haddress : (address host port ++ path).takeWhile (· ≠ '/') = address host port := by
    refine Text.takeWhile_append (fun c hc => ?_) (fun c hc => ?_)
    · exact decide_eq_true fun hslash => (h.of_mem_address c hc).2 (hslash ▸ by decide)
    · simpa using hpath c hc
  have hhost : (address host port).takeWhile (· ≠ ':') = host.toList := by
    refine Text.takeWhile_append (fun c hc => ?_) (fun c hc => ?_)
    · exact decide_eq_true fun hcolon => (h.plain c hc).2 (hcolon ▸ by decide)
    · obtain rfl : ':' = c := Option.some.inj hc
      decide
  have hport : ((address host port).drop (host.toList.length + 1)).takeWhile (· ≠ ':') =
      decimal port.toNat := by
    have hdrop : (address host port).drop (host.toList.length + 1) = decimal port.toNat := by
      simp [address, List.drop_append]
    rw [hdrop, List.takeWhile_eq_self_iff]
    intro c hc
    exact decide_eq_true fun hcolon => not_mem_decimal (c := ':') (by decide) (hcolon ▸ hc)
  rw [ofSchemeUrl?, hbehind]
  simp only [Option.bind_eq_bind, Option.bind_some, haddress, hhost, hport, readPort?_decimal,
    String.ofList_toList]
  rw [if_neg (by simpa using hne)]

theorem ofTrimmed?_of_lead {lead body : List Char}
    (hlead : lead ∈ ["corbaloc:".toList, "corbaname:".toList]) :
    ofTrimmed? (lead ++ body) = ofObjectUrl? body := by
  rcases List.mem_pair.mp hlead with rfl | rfl
  · have hmark : Text.behindAnyCase? Ior.mark ("corbaloc:".toList ++ body) = none := rfl
    rw [ofTrimmed?, hmark, Text.behind?_append]
    rfl
  · have hmark : Text.behindAnyCase? Ior.mark ("corbaname:".toList ++ body) = none := rfl
    have hother : Text.behind? "corbaloc:".toList ("corbaname:".toList ++ body) = none := rfl
    rw [ofTrimmed?, hmark, hother, Text.behind?_append]
    rfl

/-- Texts without colons in front of a colon are the same in the same text. -/
theorem eq_of_append_colon {front other rest tail : List Char} (hfront : ':' ∉ front)
    (hother : ':' ∉ other) (h : front ++ ':' :: rest = other ++ ':' :: tail) : front = other := by
  have hcut := congrArg (Text.cutFirst? ':') h
  rw [Text.cutFirst?_append hfront, Text.cutFirst?_append hother] at hcut
  exact (Prod.mk.inj (Option.some.inj hcut)).1

/-- A text is a URL with a scheme if what stands before its first colon begins no other form. -/
theorem ofTrimmed?_of_scheme {scheme rest : List Char} (hscheme : ':' ∉ scheme)
    (hother : scheme.map Char.toLower ∉ ["corbaloc".toList, "corbaname".toList, "ior".toList]) :
    ofTrimmed? (scheme ++ ':' :: rest) = ofSchemeUrl? (scheme ++ ':' :: rest) := by
  have hlead : ∀ name : List Char, name.map Char.toLower ∈
      ["corbaloc".toList, "corbaname".toList, "ior".toList] → ':' ∉ name →
      ∀ tail, scheme ++ ':' :: rest ≠ name ++ ':' :: tail := by
    intro name hname hcolon tail htext
    exact hother (eq_of_append_colon hscheme hcolon htext ▸ hname)
  have hmark : Text.behindAnyCase? Ior.mark (scheme ++ ':' :: rest) = none := by
    rw [Option.eq_none_iff_forall_not_mem]
    intro tail htail
    obtain ⟨front, htext, hfront⟩ := Text.behindAnyCase?_eq_some_iff.mp htail
    change front.map Char.toLower = "ior".toList ++ [':'] at hfront
    obtain ⟨name, colon, rfl, hname, hcolon⟩ := List.map_eq_append_iff.mp hfront
    obtain ⟨c, rfl, hc⟩ := List.map_eq_singleton_iff.mp hcolon
    obtain rfl := Text.eq_colon_of_toLower hc
    refine hlead name (by rw [hname]; decide) (fun hmem => ?_) tail
      (by rw [htext, List.append_assoc]; rfl)
    exact absurd (hname ▸ List.mem_map_of_mem (f := Char.toLower) hmem) (by decide)
  have hobject : ∀ name ∈ ["corbaloc".toList, "corbaname".toList],
      Text.behind? (name ++ [':']) (scheme ++ ':' :: rest) = none := by
    intro name hname
    rw [Option.eq_none_iff_forall_not_mem]
    intro tail htail
    have htext : scheme ++ ':' :: rest = name ++ ':' :: tail := by
      rw [← Text.behind?_eq_some_iff.mp htail, List.append_assoc, List.singleton_append]
    rcases List.mem_pair.mp hname with rfl | rfl
    · exact hlead _ (by decide) (by decide) tail htext
    · exact hlead _ (by decide) (by decide) tail htext
  have hloc : Text.behind? "corbaloc:".toList (scheme ++ ':' :: rest) = none :=
    hobject _ List.mem_cons_self
  have hname : Text.behind? "corbaname:".toList (scheme ++ ':' :: rest) = none :=
    hobject _ (List.mem_cons_of_mem _ List.mem_cons_self)
  rw [ofTrimmed?, hmark, hloc, hname]
  rfl

/-- Trimming leaves the text around an address, but for blanks at its very end. -/
theorem trim_address {lead tail before after : List Char} (hhost : IsPlain host)
    (hbefore : ∀ c ∈ before, Text.isBlank c) (hne : lead ≠ [])
    (hlead : ∀ c ∈ lead.head?, ¬Text.isBlank c) :
    Text.trim (before ++ (lead ++ address host port ++ tail ++ after)) =
      lead ++ address host port ++ Text.trimEnd (tail ++ after) := by
  have haddress : address host port ≠ [] := by simp [address]
  rw [List.append_assoc (lead ++ address host port)]
  refine Text.trim_append hbefore ?_ (by simp [hne]) ?_
  · rwa [List.head?_append_of_ne_nil lead hne]
  · intro c hc
    rw [List.getLast?_append_of_ne_nil lead haddress] at hc
    exact (hhost.of_mem_address c (List.mem_of_mem_getLast? hc)).1

/-- Every text that names a plain host and a port gives them, also between blanks. -/
theorem parse?_of_names {text before after : List Char} (hhost : IsPlain host)
    (htext : Names host port text) (hbefore : ∀ c ∈ before, Text.isBlank c)
    (hafter : ∀ c ∈ after, Text.isBlank c) :
    parse? (String.ofList (before ++ (text ++ after))) = some ⟨host, some port⟩ := by
  rw [parse?, String.toList_ofList]
  cases htext with
  | stringified typeId others hfits =>
    rw [Ior.endpoint_of_shows (Ior.shows_encode typeId _ hbefore hafter),
      Ior.endpoint_encodeBytes hfits]
    rfl
  | objectUrl lead protocol version tail hlead hprotocol hversion htail =>
    have hfirst : lead ≠ [] ∧ ∀ c ∈ lead.head?, ¬Text.isBlank c := by
      have hletter : ¬Text.isBlank 'c' := by decide
      rcases List.mem_pair.mp hlead with rfl | rfl <;> simp [hletter]
    rw [ofText?, trim_address hhost hbefore (by simp [hfirst.1]) ?_]
    · simp only [List.append_assoc]
      rw [ofTrimmed?_of_lead hlead, ofObjectUrl?_append hhost hprotocol hversion
        (Text.head?_trimEnd_append htail hafter)]
    · rw [List.append_assoc, List.head?_append_of_ne_nil lead hfirst.1]
      exact hfirst.2
  | schemeUrl scheme path hscheme hother hpath =>
    have hcolon : ':' ∉ scheme := fun hmem => (hscheme ':' hmem).2 rfl
    rw [ofText?, trim_address hhost hbefore (by simp) ?_]
    · simp only [List.append_assoc]
      rw [← ofSchemeUrl?_append hhost hcolon (Text.head?_trimEnd_append hpath hafter)]
      exact ofTrimmed?_of_scheme hcolon hother
    · intro c hc
      cases scheme with
      | nil =>
        obtain rfl : ':' = c := Option.some.inj hc
        decide
      | cons d scheme =>
        obtain rfl : d = c := Option.some.inj hc
        exact (hscheme d List.mem_cons_self).1

/-- The tail behind an address may hold more addresses, and the `://` of a scheme. -/
theorem parse?_of_names_of_versioned_url :
    parse? " corbaloc::1.2@box:9999/a://b,c@d:1 \n" = some ⟨"box", some 9999⟩ := by
  have hhost : IsPlain "box" := ⟨by decide, List.all_iff_forall_prop.mp (by decide)⟩
  have htext : Names "box" 9999 "corbaloc::1.2@box:9999/a://b,c@d:1".toList :=
    .objectUrl "corbaloc:".toList [':'] "1.2@".toList "/a://b,c@d:1".toList (by decide) (by decide)
      (.inr ⟨"1.2".toList, rfl, by simp⟩) (by simp)
  have hbefore : ∀ c ∈ [' '], Text.isBlank c := List.all_iff_forall_prop.mp (by decide)
  have hafter : ∀ c ∈ [' ', '\n'], Text.isBlank c := List.all_iff_forall_prop.mp (by decide)
  have hspelt : " corbaloc::1.2@box:9999/a://b,c@d:1 \n" = String.ofList
      ([' '] ++ ("corbaloc::1.2@box:9999/a://b,c@d:1".toList ++ [' ', '\n'])) := rfl
  rw [hspelt, parse?_of_names hhost htext hbefore hafter]

end Endpoint

end CallWatch

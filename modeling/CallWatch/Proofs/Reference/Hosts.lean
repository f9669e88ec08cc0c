import CallWatch.Proofs.Text.Blank
import CallWatch.Reference.Endpoint

/-! Endpoints without a host. The forms of a URL refuse a host that is empty, each at a place of its
own. A stringified reference is taken as its first profile has it, so that the endpoint has no host
just if that profile has none. -/

namespace CallWatch.Endpoint

variable {text : List Char} {e : Endpoint}

/-- What a host is checked to be before an endpoint is made of it. -/
theorem host_ne_empty_of_checked {host : List Char} {port : Option UInt16}
    (h : (if host.isEmpty then none else some (⟨String.ofList host, port⟩ : Endpoint)) = some e) :
    e.host ≠ "" := by
  split at h
  · exact nomatch h
  · next hhost =>
    obtain rfl := Option.some.inj h
    intro hempty
    rw [String.ofList_eq_empty_iff] at hempty
    exact hhost (List.isEmpty_iff.mpr hempty)

theorem host_ne_empty_of_ofSchemeUrl? (h : ofSchemeUrl? text = some e) : e.host ≠ "" := by
  obtain ⟨rest, -, h⟩ := Option.bind_eq_some_iff.mp h
  exact host_ne_empty_of_checked h

theorem host_ne_empty_of_ofObjectUrl? (h : ofObjectUrl? text = some e) : e.host ≠ "" := by
  obtain ⟨address, -, h⟩ := Option.bind_eq_some_iff.mp h
  obtain ⟨⟨host, portText⟩, -, h⟩ := Option.bind_eq_some_iff.mp h
  cases portText with
  | none => exact host_ne_empty_of_checked h
  | some portText =>
    obtain ⟨port, -, h⟩ := Option.bind_eq_some_iff.mp h
    exact host_ne_empty_of_checked h

/-- A text is a stringified reference if it begins with the mark of one, and else no endpoint is
made of it without a host. -/
theorem ofText?_hostless (h : ofText? text = some e) (hhost : e.host = "") :
    ∃ ior, Ior.ofText? text = some ior ∧ ofIor? ior = some e := by
  unfold ofText? ofTrimmed? at h
  split at h
  · obtain ⟨ior, hior, he⟩ := Option.bind_eq_some_iff.mp h
    refine ⟨ior, ?_, he⟩
    rwa [Ior.ofText?, Text.trim_trim] at hior
  split at h
  · exact absurd hhost (host_ne_empty_of_ofObjectUrl? h)
  · exact absurd hhost (host_ne_empty_of_ofSchemeUrl? h)

theorem ofText?_of_ior {ior : Ior} (h : Ior.ofText? text = some ior) :
    ofText? text = ofIor? ior := by
  obtain ⟨digits, hmark, -⟩ := Option.bind_eq_some_iff.mp h
  have hior : Ior.ofText? (Text.trim text) = some ior := by rwa [Ior.ofText?, Text.trim_trim]
  rw [ofText?, ofTrimmed?, hmark, Option.isSome_some, if_pos rfl, hior, Option.bind_some]

/-- A reference gives an endpoint without a host just if it is a stringified reference whose first
internet profile has none. Every other endpoint names one, whatever the form of its reference. -/
theorem parse?_hostless_iff (reference : String) (port : Option UInt16) :
    parse? reference = some ⟨"", port⟩ ↔
      ∃ ior profile, Ior.parse? reference = some ior ∧ ior.primary? = some profile ∧
        profile.host = "" ∧ port = some profile.port := by
  constructor
  · intro h
    obtain ⟨ior, hior, he⟩ := ofText?_hostless h rfl
    obtain ⟨profile, hprofile, hsame⟩ := Option.map_eq_some_iff.mp he
    obtain ⟨hhost, hport⟩ := Endpoint.mk.inj hsame
    exact ⟨ior, profile, hior, hprofile, hhost, hport.symm⟩
  · rintro ⟨ior, profile, hior, hprofile, hhost, rfl⟩
    rw [parse?, ofText?_of_ior hior, ofIor?, hprofile, Option.map_some, hhost]

/-- What is written for an empty host is read as an endpoint without one. -/
theorem hostless_of_written_empty_host :
    parse?
      "IOR:000000000000000254000000000000010000000000000014000102000000000100000001000000046b657931" =
      some ⟨"", some 1⟩ := by
  decide +kernel

end CallWatch.Endpoint

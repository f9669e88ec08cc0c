import CallWatch.Proofs.Reference.Forms
import CallWatch.Settings.Basic

/-! The reference of the naming service. The settings write it as an object URL of the configured
host and port, and it is read as that host and that port, even if the host has colons or blanks in
it. -/

namespace CallWatch.Settings

open Endpoint

theorem toList_address (host : String) (port : UInt16) :
    (host ++ ":" ++ number port.toNat).toList = address host port := by
  rw [String.toList_append, String.toList_append, List.append_assoc]
  exact congrArg (host.toList ++ ':' :: ·) String.toList_ofList

theorem nameserverReference_eq (s : Settings) : s.nameserverReference =
    "corbaloc:" ++ ("iiop:" ++ (s.nameserverHost ++ ":" ++ number s.nameserverPort.toNat ++
      "/NameService")) := by
  have hlead : "corbaloc:iiop:" = "corbaloc:" ++ "iiop:" := by decide
  show "corbaloc:iiop:" ++ s.nameserverHost ++ ":" ++ number s.nameserverPort.toNat ++
    "/NameService" = _
  rw [hlead]
  simp only [String.append_assoc]

theorem toList_nameserverReference (s : Settings) :
    s.nameserverReference.toList = "corbaloc:".toList ++ ("iiop:".toList ++ ([] ++
      (address s.nameserverHost s.nameserverPort ++ "/NameService".toList))) := by
  rw [nameserverReference_eq, ← toList_address, List.nil_append, String.toList_append,
    String.toList_append, String.toList_append]

/-- The reference begins and ends in letters, so that blanks at the ends of the host are inside. -/
theorem trim_nameserverReference (s : Settings) :
    Text.trim s.nameserverReference.toList = s.nameserverReference.toList := by
  rw [toList_nameserverReference]
  refine Text.trim_eq_self_of_ends (fun c hc => ?_) (List.cons_ne_nil 'c' _) (fun c hc => ?_)
  · obtain rfl : 'c' = c := Option.some.inj hc
    decide
  · simp only [← List.append_assoc] at hc
    rw [List.getLast?_append_of_ne_nil _ (by decide)] at hc
    obtain rfl : 'e' = c := Option.some.inj hc
    decide

/-- The settings give the naming service's reference such that its host and its port are read from
it, whatever colons and blanks are in the host, unless it is empty, holds a character that ends an
address or a version, or begins with a bracket. -/
theorem parse?_nameserverReference (s : Settings) (h : IsUncut s.nameserverHost) :
    parse? s.nameserverReference = some ⟨s.nameserverHost, some s.nameserverPort⟩ := by
  rw [parse?, ofText?, trim_nameserverReference, toList_nameserverReference,
    ofTrimmed?_of_lead List.mem_cons_self]
  refine ofObjectUrl?_of_isUncut h List.mem_cons_self (.inl rfl) (fun c hc => ?_)
  obtain rfl : '/' = c := Option.some.inj hc
  decide

/-- A bare address of the sixth version, which has colons of its own, and a host between blanks. -/
theorem parse?_nameserverReference_of_colons :
    let s : Settings := { standard with nameserverHost := "fe80::1:2809", nameserverPort := 65535 }
    let other : Settings := { standard with nameserverHost := " my host " }
    IsUncut s.nameserverHost ∧ IsUncut other.nameserverHost ∧
      s.nameserverReference = "corbaloc:iiop:fe80::1:2809:65535/NameService" ∧
      parse? s.nameserverReference = some ⟨"fe80::1:2809", some 65535⟩ ∧
      parse? other.nameserverReference = some ⟨" my host ", some 2809⟩ := by
  intro s other
  have hs : IsUncut s.nameserverHost :=
    ⟨by decide, List.all_iff_forall_prop.mp (by decide), by simp [s]⟩
  have hother : IsUncut other.nameserverHost :=
    ⟨by decide, List.all_iff_forall_prop.mp (by decide), by simp [other]⟩
  exact ⟨hs, hother, by decide, s.parse?_nameserverReference hs,
    other.parse?_nameserverReference hother⟩

end CallWatch.Settings

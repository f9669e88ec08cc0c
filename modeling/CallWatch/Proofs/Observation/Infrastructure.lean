import CallWatch.Proofs.Observation.Containment
import CallWatch.Proofs.Text.Cut

/-! The infrastructure. A call belongs to it if its operation is one of the infrastructure's, or if
its target declares an interface of it. Handlers leave no trace of such calls, nor of calls whose
operation cannot be read, even if reading anything else of them would panic. -/

namespace CallWatch

namespace Call

/-- The runtime tells a side that the target has a repository id. -/
def Declares (call : Call) (side : Side) (id : String) : Prop :=
  match side with
  | .client => ∃ ids, call.targetTypeIds = .value ids ∧ id ∈ ids
  | .server => call.targetInterface = .value id

/-- The operation is one of the infrastructure's, or a repository id of the target has the mark of
one of its interfaces. -/
def IsInfrastructure (call : Call) (side : Side) : Prop :=
  (∃ operation, call.operation = .value operation ∧
    operation ∈ Limits.infrastructureOperations) ∨
  ∃ id, call.Declares side id ∧
    ∃ mark ∈ Limits.infrastructureFragments, mark.toList <:+: id.toList

/-- What the target declares is among the ids that are read. -/
theorem Declares.mem {call : Call} {side : Side} {id : String} {ids : List String}
    (h : call.Declares side id) (hids : call.typeIds side = .value ids) : id ∈ ids := by
  cases side with
  | client =>
    obtain ⟨declared, hdeclared, hid⟩ := h
    rw [typeIds, hdeclared] at hids
    obtain rfl := Reading.value.inj hids
    exact hid
  | server =>
    have hdeclared : call.targetInterface = .value id := h
    rw [typeIds, hdeclared] at hids
    obtain rfl := Reading.value.inj hids
    exact List.mem_singleton_self id

/-- A call that is monitored has a readable operation and is not of the infrastructure. -/
theorem not_isInfrastructure_of_sight {call : Call} {side : Side} {name : String} {seen : Sighting}
    (h : call.sight side name = .value (some seen)) :
    (∃ operation, call.operation = .value operation) ∧ ¬call.IsInfrastructure side := by
  obtain ⟨operation, ids, raw, hoperation, hskip, hids, hskipIds, -, -⟩ := sight_eq_some.mp h
  refine ⟨⟨operation, hoperation⟩, ?_⟩
  rintro (⟨named, hnamed, hmem⟩ | ⟨id, hid, mark, hmark, hholds⟩)
  · obtain rfl : named = operation := Reading.value.inj (hnamed.symm.trans hoperation)
    rw [Skip.operation, List.contains_iff_mem.mpr hmem] at hskip
    exact absurd hskip (by decide)
  · have hskipped : Skip.typeIds ids = true :=
      List.any_eq_true.mpr ⟨id, hid.mem hids,
        List.any_eq_true.mpr ⟨mark, hmark, Text.holds_iff_isInfix.mpr hholds⟩⟩
    rw [hskipped] at hskipIds
    exact absurd hskipIds (by decide)

end Call

namespace Observer

/-- No handler of either side submits an event or touches the starts over a call of the
infrastructure, or over one whose operation cannot be read. -/
theorem handle_eq_self_of_infrastructure (o : Observer) (sink : Sink) (n : Notification)
    (call : Call) (moment : Moment) (scene : Scene)
    (h : call.IsInfrastructure n.side ∨ ∃ e, call.operation = .failed e) :
    o.handle sink n call moment scene = (.value (), scene) := by
  have hunseen : ∀ seen, call.sight n.side moment.name ≠ .value (some seen) := by
    intro seen hseen
    obtain ⟨⟨operation, hoperation⟩, hnot⟩ := Call.not_isInfrastructure_of_sight hseen
    rcases h with hinfra | ⟨e, he⟩
    · exact hnot hinfra
    · rw [he] at hoperation
      exact nomatch hoperation
  rw [handle_eq, notify_unseen hunseen]
  simp

/-- A call of a naming context whose request id and arguments panic, over a start under its key. -/
theorem handle_eq_self_of_naming_context :
    let o : Observer := ⟨true, true, 65536, "here"⟩
    let call : Call := { Call.bare [1, 2] with
      requestId := .panicked
      arguments := .panicked
      targetTypeIds := .value ["IDL:shop/Price:1.0", "IDL:omg.org/CosNaming/NamingContext:1.0"] }
    let scene : Scene := ⟨(∅ : Starts).record (RequestKey.digits [1, 2]) 7, []⟩
    call.IsInfrastructure .client ∧
      o.handle ⟨fun _ _ => true⟩ (.reached .receiveReply) call ⟨9, ⟨0, 0, 0⟩, ""⟩ scene =
        (.value (), scene) := by
  intro o call scene
  have hinfra : call.IsInfrastructure .client :=
    .inr ⟨"IDL:omg.org/CosNaming/NamingContext:1.0", ⟨_, rfl, by simp⟩, "CosNaming", by decide,
      Text.holds_iff_isInfix.mp (by decide +kernel)⟩
  exact ⟨hinfra, o.handle_eq_self_of_infrastructure _ _ call _ scene (.inl hinfra)⟩

end Observer

end CallWatch

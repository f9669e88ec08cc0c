import CallWatch.Proofs.Observation.Containment

/-! Runs of handlers. What handlers of both sides and sweeps of the starts make of a scene, one
after the other, is what the same steps of the observer give, whatever the sink does. -/

namespace CallWatch.Observer

def act (o : Observer) (sink : Sink) (scene : Scene) : Step → Scene
  | .notice n call moment => (o.handle sink n call moment scene).2
  | .sweep limit now => { scene with starts := (scene.starts.sweep limit now).2 }

/-- The scene after handlers and sweeps. -/
def play (o : Observer) (sink : Sink) (scene : Scene) (steps : List Step) : Scene :=
  steps.foldl (o.act sink) scene

theorem act_eq (o : Observer) (sink : Sink) (scene : Scene) (s : Step) :
    o.act sink scene s =
      ⟨(o.step scene.starts s).1, scene.submitted ++ (o.step scene.starts s).2.toList⟩ := by
  cases s with
  | notice n call moment => rw [act, handle_eq, step]
  | sweep limit now => simp [act, step]

theorem play_eq (o : Observer) (sink : Sink) (scene : Scene) (steps : List Step) :
    o.play sink scene steps =
      ⟨o.startsFrom scene.starts steps,
        scene.submitted ++ (o.eventsFrom scene.starts steps).map (·.2)⟩ := by
  induction steps generalizing scene with
  | nil => simp [play, startsFrom, eventsFrom]
  | cons s steps ih =>
    have hplay : o.play sink scene (s :: steps) = o.play sink (o.act sink scene s) steps := rfl
    rw [hplay, ih, act_eq, eventsFrom, List.map_append, List.map_map, List.append_assoc]
    simp [startsFrom, Function.comp_def]

/-- An event of a run comes from one of its steps. -/
theorem mem_eventsFrom {o : Observer} {starts : Starts} {steps : List Step} {s : Step} {e : Event}
    (h : (s, e) ∈ o.eventsFrom starts steps) :
    s ∈ steps ∧ ∃ before, (o.step before s).2 = some e := by
  induction steps generalizing starts with
  | nil => exact absurd h List.not_mem_nil
  | cons first steps ih =>
    rcases List.mem_append.mp h with hfirst | hlater
    · obtain ⟨event, hevent, hpair⟩ := List.mem_map.mp hfirst
      obtain ⟨rfl, rfl⟩ := Prod.mk.inj hpair
      exact ⟨List.mem_cons_self, starts, Option.mem_toList.mp hevent⟩
    · obtain ⟨hs, hbefore⟩ := ih hlater
      exact ⟨List.mem_cons_of_mem first hs, hbefore⟩

end CallWatch.Observer

/-!
# What is observed along a run

A run is a list of steps taken one after the other from some state.  What a step shows depends on the
state it is taken in.
-/

set_option autoImplicit false

namespace LightingControl

variable {State Step Sight : Type}

def observations (next : State → Step → State) (observe : State → Step → List Sight)
    (state : State) : List Step → List Sight
  | [] => []
  | first :: rest => observe state first ++ observations next observe (next state first) rest

theorem observations_append (next : State → Step → State) (observe : State → Step → List Sight)
    (state : State) (early late : List Step) :
    observations next observe state (early ++ late) =
      observations next observe state early ++
        observations next observe (early.foldl next state) late := by
  induction early generalizing state with
  | nil => rfl
  | cons first rest ih =>
    simp only [List.cons_append, observations, ih, List.foldl_cons, List.append_assoc]

theorem mem_observations_iff {next : State → Step → State} {observe : State → Step → List Sight}
    {state : State} {steps : List Step} {sight : Sight} :
    sight ∈ observations next observe state steps ↔
      ∃ early step late, steps = early ++ step :: late ∧
        sight ∈ observe (early.foldl next state) step := by
  constructor
  · intro mem
    induction steps generalizing state with
    | nil => exact absurd mem List.not_mem_nil
    | cons first rest ih =>
      obtain now | later := List.mem_append.1 mem
      · exact ⟨[], first, rest, rfl, now⟩
      · obtain ⟨early, step, late, rfl, seen⟩ := ih later
        exact ⟨first :: early, step, late, rfl, seen⟩
  · rintro ⟨early, step, late, rfl, seen⟩
    rw [observations_append, observations]
    exact List.mem_append_right _ (List.mem_append_left _ seen)

end LightingControl

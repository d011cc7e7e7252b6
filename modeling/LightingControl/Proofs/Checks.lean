import LightingControl.WireError
/-!
# Checks made one after the other

Readers and operations refuse what does not pass a check, and of several checks that fail the first
names the cause.  `passing` is the outcome of a list of checks; `Passes` says that a computation has
that outcome, and is put together along the computation.
-/

set_option autoImplicit false

namespace LightingControl

theorem accepted_of_bind {α β ε : Type} {result : Except ε α} {next : α → Except ε β} {value : β}
    (ok : result >>= next = .ok value) : ∃ first, result = .ok first ∧ next first = .ok value := by
  cases result with
  | error error => cases ok
  | ok first => exact ⟨first, rfl, ok⟩

theorem bind_eq_ok_iff {α β ε : Type} {result : Except ε α} {next : α → Except ε β} {value : β} :
    result >>= next = .ok value ↔ ∃ first, result = .ok first ∧ next first = .ok value := by
  refine ⟨accepted_of_bind, ?_⟩
  rintro ⟨first, rfl, ok⟩
  exact ok

structure Check where
  holds : Bool
  refusal : WireError

variable {α β : Type}

/-- The value, unless a check fails: then the first that does refuses. -/
def passing (value : α) : List Check → Except WireError α
  | [] => .ok value
  | check :: rest => if check.holds then passing value rest else .error check.refusal

theorem passing_of_fails (value : α) (early : List Check) (check : Check) (late : List Check)
    (before : ∀ earlier ∈ early, earlier.holds = true) (fails : check.holds = false) :
    passing value (early ++ check :: late) = .error check.refusal := by
  induction early with
  | nil => simp only [List.nil_append, passing, fails, Bool.false_eq_true, if_false]
  | cons first rest ih =>
    rw [List.cons_append, passing, if_pos (before first List.mem_cons_self)]
    exact ih fun earlier later => before earlier (List.mem_cons_of_mem _ later)

theorem passing_eq_ok_iff {value found : α} {checks : List Check} :
    passing value checks = .ok found ↔ (∀ check ∈ checks, check.holds = true) ∧ value = found := by
  induction checks with
  | nil => simp [passing]
  | cons first rest ih =>
    by_cases holds : first.holds = true
    · rw [passing, if_pos holds, ih]
      simp [holds]
    · simp [passing, holds]

theorem failed_of_passing {value : α} {checks : List Check} {error : WireError}
    (refused : passing value checks = .error error) :
    ∃ check ∈ checks, check.holds = false ∧ check.refusal = error := by
  induction checks with
  | nil => cases refused
  | cons first rest ih =>
    rw [passing] at refused
    split at refused
    · obtain ⟨check, mem, failed⟩ := ih refused
      exact ⟨check, List.mem_cons_of_mem _ mem, failed⟩
    · rename_i fails
      exact ⟨first, List.mem_cons_self, Bool.eq_false_iff.2 fails, Except.error.inj refused⟩

/-- The computation makes the checks in order, and gives the value if all of them hold. -/
def Passes (result : Except WireError α) (checks : List Check) (value : α) : Prop :=
  result = passing value checks

namespace Passes

variable {first : Except WireError α} {next : α → Except WireError β} {early late : List Check}
  {value : α} {made : β}

theorem bind (start : Passes first early value) (rest : Passes (next value) late made) :
    Passes (first >>= next) (early ++ late) made := by
  unfold Passes at start rest ⊢
  rw [start]
  clear start
  induction early with
  | nil => exact rest
  | cons check others ih =>
    by_cases holds : check.holds = true
    · simpa only [passing, holds, if_true, List.cons_append] using ih
    · simp only [passing, holds, Bool.false_eq_true, if_false, List.cons_append]
      rfl

theorem done (value : α) : Passes (pure value) [] value := rfl

theorem last (start : Passes first early value) (make : α → β) :
    Passes (first >>= fun value => pure (make value)) early (make value) := by
  have whole : Passes (first >>= fun value => pure (make value)) (early ++ []) (make value) :=
    start.bind (done _)
  rwa [List.append_nil] at whole

theorem map (start : Passes first early value) (make : α → β) :
    Passes (first.map make) early (make value) := by
  have same : first.map make = first >>= fun value => pure (make value) := by cases first <;> rfl
  rw [same]
  exact start.last make

/-- A refusal in front of the rest is the check of the opposite. -/
theorem guarded {bad holds : Prop} [Decidable bad] [Decidable holds] (opposite : holds ↔ ¬ bad)
    {refusal : WireError} (rest : Passes first late value) :
    Passes (if bad then .error refusal else first) (⟨holds, refusal⟩ :: late) value := by
  by_cases refused : bad
  · simp [Passes, passing, opposite, refused]
  · simp only [Passes, passing, opposite, refused, not_false_eq_true, decide_true, if_true,
      if_false]
    exact rest

end Passes

theorem passes_one {holds : Prop} [Decidable holds] (value : α) (refusal : WireError) :
    Passes (if holds then .ok value else .error refusal) [⟨holds, refusal⟩] value := by
  by_cases h : holds <;> simp [Passes, passing, h]

end LightingControl

import CatalogIngest.Ingest.Context

/-!
# Outcomes

Computations that may fail are run one after another, none of them stopping the others.
-/

namespace CatalogIngest

/-- The items that succeeded. -/
def successes {α ε : Type} (outcomes : List (Except ε α)) : List α :=
  outcomes.filterMap fun outcome =>
    match outcome with
    | .ok item => some item
    | .error _ => none

/-- The failures of those that did not. -/
def failuresAmong {α ε : Type} (outcomes : List (Except ε α)) : List ε :=
  outcomes.filterMap fun outcome =>
    match outcome with
    | .ok _ => none
    | .error failure => some failure

theorem successes_map
    {ι α ε : Type}
    (outcome : ι → Except ε α)
    (items : List ι) :
    successes (items.map outcome) = items.filterMap fun item => (outcome item).toOption := by
  induction items with
  | nil => rfl
  | cons item later inductionHypothesis =>
      rw [List.filterMap_cons, ← inductionHypothesis, successes, List.map_cons, List.filterMap_cons]
      cases outcome item <;> rfl

theorem successes_append
    {α ε : Type}
    (earlier later : List (Except ε α)) :
    successes (earlier ++ later) = successes earlier ++ successes later :=
  List.filterMap_append

theorem failuresAmong_append
    {α ε : Type}
    (earlier later : List (Except ε α)) :
    failuresAmong (earlier ++ later) = failuresAmong earlier ++ failuresAmong later :=
  List.filterMap_append

/-- Every outcome is a success or a failure. -/
theorem length_successes_add_length_failuresAmong
    {α ε : Type}
    (outcomes : List (Except ε α)) :
    (successes outcomes).length + (failuresAmong outcomes).length = outcomes.length := by
  induction outcomes with
  | nil => rfl
  | cons outcome later inductionHypothesis =>
      unfold successes failuresAmong at inductionHypothesis ⊢
      cases outcome <;> simp only [List.filterMap_cons, List.length_cons] <;> omega

/-- Run computations one after another and keep the outcome of each. -/
def outcomesOf {σ α : Type} : List (Attempt σ α) → StateM σ (List (Except Failure α))
  | [] => fun state => ([], state)
  | attempt :: later => fun state =>
      let (outcome, state) := attempt.run state
      let (outcomes, state) := outcomesOf later state
      (outcome :: outcomes, state)

end CatalogIngest

/-!
# Runs of effects

An effect reads and changes a state, and it may end with a problem; the state that it leaves is kept
in either case. What every step of an effect keeps of its state, the whole effect keeps.
-/

namespace BrowserScript.Effect

variable {ε σ α β : Type}

def ends (effect : ExceptT ε (StateM σ) α) (state : σ) : Except ε α × σ :=
  StateT.run (ExceptT.run effect) state

@[simp] theorem ends_get_bind (next : σ → ExceptT ε (StateM σ) β) (state : σ) :
    ends (get >>= next) state = ends (next state) state := rfl

/-- An effect that succeeds hands its answer and its state on. -/
theorem ends_bind_of_ok {effect : ExceptT ε (StateM σ) α} {next : α → ExceptT ε (StateM σ) β}
    {state after : σ} {value : α} (first : ends effect state = (.ok value, after)) :
    ends (effect >>= next) state = ends (next value) after := by
  have run : StateT.run (ExceptT.run effect) state = (.ok value, after) := first
  rw [ends, ExceptT.run_bind, StateT.run_bind, run]
  rfl

/-- An effect that ends with a problem is the last one. -/
theorem ends_bind_of_error {effect : ExceptT ε (StateM σ) α}
    {next : α → ExceptT ε (StateM σ) β} {state after : σ} {problem : ε}
    (first : ends effect state = (.error problem, after)) :
    ends (effect >>= next) state = (.error problem, after) := by
  have run : StateT.run (ExceptT.run effect) state = (.error problem, after) := first
  rw [ends, ExceptT.run_bind, StateT.run_bind, run]
  rfl

/-- From every state an effect leaves one that a relation allows. -/
def Moves (allows : σ → σ → Prop) (effect : ExceptT ε (StateM σ) α) : Prop :=
  ∀ state, allows state (ends effect state).2

namespace Moves

variable {allows : σ → σ → Prop}

theorem pure (refl : ∀ state, allows state state) (value : α) :
    Moves allows (Pure.pure value : ExceptT ε (StateM σ) α) := refl

/-- Two effects in a row. -/
theorem bind (trans : ∀ first second third, allows first second → allows second third →
      allows first third)
    {effect : ExceptT ε (StateM σ) α} {next : α → ExceptT ε (StateM σ) β}
    (first : Moves allows effect) (second : ∀ value, Moves allows (next value)) :
    Moves allows (effect >>= next) := by
  intro state
  have moved := first state
  cases run : ends effect state with
  | mk answer after =>
      rw [run] at moved
      cases answer with
      | error problem =>
          rw [ends_bind_of_error run]
          exact moved
      | ok value =>
          rw [ends_bind_of_ok run]
          exact trans _ _ _ moved (second value after)

/-- An effect for every item of a list. -/
theorem forM (refl : ∀ state, allows state state)
    (trans : ∀ first second third, allows first second → allows second third →
      allows first third)
    {act : α → ExceptT ε (StateM σ) PUnit} (each : ∀ item, Moves allows (act item))
    (items : List α) : Moves allows (items.forM act) := by
  induction items with
  | nil => exact pure refl ()
  | cons item items ih =>
      change Moves allows (act item >>= fun _ => items.forM act)
      exact bind trans (each item) fun _ => ih

end Moves

end BrowserScript.Effect

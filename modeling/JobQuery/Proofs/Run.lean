import Mathlib
import JobQuery.Cursor.Split

/-!
# JobQuery — running computations in the world

Client code runs in `Run`, a state monad over the world, and in `Call`, the same with a
query error as the early exit. A computation of either is, once run from a world, a plain
pair: its outcome and the world after it. The equations here compute that pair for each way
a computation is built (`pure`, `throw`, reading and updating the world, lifting a `Run`,
binding and mapping), so later proofs follow a client operation step by step with `simp`
and case on the outcome of each step, without unfolding the monads again.
-/

namespace JobQuery

/-- The outcome of a computation run from a world is a plain value. -/
@[simp] theorem pure_id_eq {γ : Type} (a : γ) : (pure a : Id γ) = a := rfl

/-- Outcomes of runs are pairs, compared componentwise. -/
@[simp] theorem run_pair_eq {γ δ : Type} (a a' : γ) (b b' : δ) :
    @Eq (Id (γ × δ)) (a, b) (a', b') ↔ a = a' ∧ b = b' :=
  Prod.mk.injEq .. ▸ Iff.rfl

@[simp] theorem map_id_eq {γ δ : Type} (f : γ → δ) (a : Id γ) : (f <$> a : Id δ) = f a := rfl

namespace Call

variable {α β : Type}

/-- A bound call runs its first part, then, on success, the rest from the world it left. -/
@[simp] theorem run_bind (x : Call α) (g : α → Call β) (w : World) :
    (x >>= g).run.run w =
      match x.run.run w with
      | (.ok a, w') => (g a).run.run w'
      | (.error e, w') => (.error e, w') := by
  simp only [ExceptT.run_bind, StateT.run_bind]
  rcases x.run.run w with ⟨r, w'⟩
  cases r <;> rfl

@[simp] theorem run_map (f : α → β) (x : Call α) (w : World) :
    (f <$> x).run.run w =
      match x.run.run w with
      | (.ok a, w') => (.ok (f a), w')
      | (.error e, w') => (.error e, w') := by
  simp only [ExceptT.run_map, StateT.run_map]
  rcases x.run.run w with ⟨r, w'⟩
  cases r <;> rfl

@[simp] theorem run_pure (a : α) (w : World) : (pure a : Call α).run.run w = (.ok a, w) := rfl

@[simp] theorem run_throw (e : QueryError) (w : World) :
    (throw e : Call α).run.run w = (.error e, w) := rfl

@[simp] theorem run_modify (f : World → World) (w : World) :
    (modify f : Call PUnit).run.run w = (.ok ⟨⟩, f w) := rfl

@[simp] theorem run_get (w : World) : (get : Call World).run.run w = (.ok w, w) := rfl

/-- A computation of the world, run as a call, cannot fail. -/
@[simp] theorem run_lift (x : Run α) (w : World) :
    (x : Call α).run.run w = (.ok (x.run w).1, (x.run w).2) := rfl

end Call

namespace Run

variable {α β : Type}

@[simp] theorem run_bind (x : Run α) (g : α → Run β) (w : World) :
    (x >>= g).run w = (g (x.run w).1).run (x.run w).2 := rfl

@[simp] theorem run_pure (a : α) (w : World) : (pure a : Run α).run w = (a, w) := rfl

end Run

namespace World

@[simp] theorem sleep_run (ms : Nat) (w : World) :
    (sleep ms).run w = ((), { w with clock := w.clock + ms }) := rfl

@[simp] theorem freshJobId_run (w : World) :
    freshJobId.run w = (Text.mintUuid 0 w.minted, { w with minted := w.minted + 1 }) := rfl

@[simp] theorem emit_run (e : Event) (w : World) :
    (emit e).run w = ((), { w with events := w.events.push e }) := rfl

end World

end JobQuery

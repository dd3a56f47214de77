import CitationFusion.Proofs.Plan
import CitationFusion.Service

/-!
# A service over time

* `Session.perform`, `Session.play` : what happens to a service, one thing after the other.
* `Session.now_le_play`, `Session.now_play_le` : the clock does not go back, and moves on by what
  everything takes at most.
* `Executor.drifting` : requests whose steps take time.
-/

namespace CitationFusion

open Plan

/-! ## 1. What may happen -/

/-- What may happen to a service. -/
inductive Action where
  | resolve (id : String)
  | flush
  | sweep
  | advance (d : Duration)

/-- How long something takes at most. -/
def Action.most (s : Settings) : Action → Nat
  | .resolve _ => s.requestTimeout.nanos
  | .flush | .sweep => 0
  | .advance d => d.nanos

/-- How long all of it takes at most, one thing after the other. -/
def Action.mostOfAll (s : Settings) : List Action → Nat
  | [] => 0
  | a :: rest => a.most s + mostOfAll s rest

namespace Session

variable {σ : Type} (w : World (StoreCall IndexCall) (StoreCall.Answer IndexCall.Answer) σ)

/-- The service after something happened, and what became of the request if that was one. -/
def perform (S : Session σ) : Action → Option (Verdict Resolution) × Session σ
  | .resolve id => (some (S.resolve (.direct w) id).1, (S.resolve (.direct w) id).2.1)
  | .flush => (none, S.flushCache.2.1)
  | .sweep => (none, { S with cache := (S.cache.sweep S.now).2 })
  | .advance d => (none, { S with now := S.now.advance d })

/-- The service after all of that happened, one after the other, and what became of the requests. -/
def play (S : Session σ) : List Action → List (Verdict Resolution) × Session σ
  | [] => ([], S)
  | a :: rest =>
    ((S.perform w a).1.toList ++ (play (S.perform w a).2 rest).1, (play (S.perform w a).2 rest).2)

/-! ## 2. The clock -/

variable {w}

theorem service_flushCache (S : Session σ) : S.flushCache.2.1.service = S.service := by
  unfold flushCache
  split <;> rfl

theorem now_flushCache (S : Session σ) : S.flushCache.2.1.now = S.now := by
  unfold flushCache
  split <;> rfl

theorem service_perform (S : Session σ) (a : Action) : (S.perform w a).2.service = S.service := by
  cases a with
  | resolve id => rfl
  | flush => exact service_flushCache S
  | sweep => rfl
  | advance d => rfl

theorem now_le_perform (S : Session σ) (a : Action) :
    S.now.nanos ≤ (S.perform w a).2.now.nanos := by
  cases a with
  | resolve id => exact now_le_run w _ _ S.scene
  | flush => exact Nat.le_of_eq (congrArg Instant.nanos (now_flushCache S).symm)
  | sweep => exact Nat.le_refl _
  | advance d => exact Nat.le_add_right _ _

theorem now_le_play (S : Session σ) (actions : List Action) :
    S.now.nanos ≤ (S.play w actions).2.now.nanos := by
  induction actions generalizing S with
  | nil => exact Nat.le_refl _
  | cons a rest ih => exact Nat.le_trans (now_le_perform S a) (ih _)

theorem now_perform_le (S : Session σ) (a : Action) :
    (S.perform w a).2.now.nanos ≤ S.now.nanos + a.most S.service.settings := by
  cases a with
  | resolve id => exact now_run_le w _ (s := S.scene) (Nat.le_add_right _ _)
  | flush => exact Nat.le_of_eq (congrArg Instant.nanos (now_flushCache S))
  | sweep => exact Nat.le_refl _
  | advance d => exact Nat.le_refl _

/-- The clock moves on by what everything takes at most. -/
theorem now_play_le (S : Session σ) (actions : List Action) :
    (S.play w actions).2.now.nanos ≤
      S.now.nanos + Action.mostOfAll S.service.settings actions := by
  induction actions generalizing S with
  | nil => exact Nat.le_refl _
  | cons a rest ih =>
    have hrest := ih (S.perform w a).2
    have ha := now_perform_le (w := w) S a
    rw [service_perform] at hrest
    rw [Action.mostOfAll]
    exact Nat.le_trans hrest (by omega)

end Session

/-! ## 3. Steps that take time -/

/-- Plans are followed call by call, and their steps take time. -/
def Executor.drifting {σ : Type}
    (w : World (StoreCall IndexCall) (StoreCall.Answer IndexCall.Answer) σ)
    (drift : Nat → Duration) : Executor σ :=
  ⟨fun deadline plan => plan.drifting w deadline drift 0⟩

/-- Where no step takes time, plans are followed as ever. -/
theorem Executor.drifting_zero {σ : Type}
    (w : World (StoreCall IndexCall) (StoreCall.Answer IndexCall.Answer) σ) :
    Executor.drifting w (fun _ => .zero) = .direct w := by
  unfold Executor.drifting Executor.direct
  congr
  funext α deadline plan scene
  exact Plan.drifting_zero w deadline 0 plan scene

end CitationFusion

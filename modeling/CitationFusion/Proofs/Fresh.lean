import CitationFusion.Proofs.Request
import CitationFusion.Proofs.Resolve

/-!
# Resolving a record afresh, step by step

What is said of the outcome of a record that is resolved afresh, and of the steps that led there, is
shown in two parts: up to the response it passes from step to step, and a response is delivered in
one of three ways.

* `Accrues`, `fresh_accrues` : what passes from step to step, and holds of delivering a response,
  holds of resolving a record afresh.
* `Response.marked` : a response that is kept.
* `deliver_induct` : a response is answered at once, kept before, or broken off in that.
-/

namespace CitationFusion

open Plan Plan.Deed

variable {σ : Type} {w : World (StoreCall IndexCall) (StoreCall.Answer IndexCall.Answer) σ}
  {deadline : Option Instant} {drift : Nat → Duration} {s : Settings} {u : Bool}
  {started : Instant} {id : String}
  {P : Ending (Except Failure Resolution) × Scene σ → List StoreDeed → Prop}

/-! ## 1. Up to the response -/

/-- Whether something holds of all ends without a response, and goes on to hold with one more call
    or checkpoint before all steps. -/
structure Accrues (P : Ending (Except Failure Resolution) × Scene σ → List StoreDeed → Prop) :
    Prop where
  abandoned : ∀ c scene, P (.cutOff, scene) [.abandoned c]
  called : ∀ c x out ds, P out ds → P out (.called c x :: ds)
  reached : ∀ t message out ds, P out ds → P out (.reached t message :: ds)
  violated : ∀ message scene,
    P (.finished (.error (.invariant message)), scene) [.noted (.violated message)]
  failed : ∀ f scene, P (.finished (.error f), scene) []

/-- It passes from step to step of a plan that is followed. -/
theorem Accrues.stepwise (h : Accrues P) :
    Stepwise (fun _ _ => True) fun p => ∀ n (scene : Scene σ),
      P (p.drifting w deadline drift n scene) (p.deeds w deadline drift n scene) where
  call c next hnext n scene := by
    rw [drifting_call, deeds_call]
    cases arrival deadline (scene.later (drift n)).now (w.respond scene.world c).2.takes with
    | none => exact h.abandoned c _
    | some now =>
      have hrest := hnext (w.respond scene.world c).2.answer trivial (n + 1)
        { scene with world := (w.respond scene.world c).1, now }
      exact h.called c _ _ _ hrest
  lap message p hp n scene :=
    h.reached _ _ _ _ (hp (n + 1) { scene.later (drift n) with
      watch := scene.watch.record (scene.later (drift n)).now message })
  violate message _ _ := h.violated message _
  fail f _ scene := h.failed f scene

/-- **What passes from step to step, and holds where there is nothing around the record and where a
    response is delivered, holds of resolving a record afresh.** -/
theorem fresh_accrues (h : Accrues P) (alone : ∀ doi scene,
      P (.finished (.ok (.noRelated id doi)), scene) [])
    (delivered : ∀ doi e M c, Gathered M.length c → ∀ n (scene : Scene σ),
      let r := (Neighbourhood.ofEdges id doi e).response M c
      P ((deliver s u started r).drifting w deadline drift n scene)
        ((deliver s u started r).deeds w deadline drift n scene)) (n : Nat) (scene : Scene σ) :
    P ((fresh s u started id).drifting w deadline drift n scene)
      ((fresh s u started id).deeds w deadline drift n scene) :=
  fresh_induct h.stepwise (fun doi _ scene => alone doi scene)
    (fun doi e M c _ _ _ gathered => delivered doi e M c gathered) n scene

/-! ## 2. Delivering the response -/

/-- The response with the time that it took, and the mark of those that are kept. -/
def Response.marked (r : Response) (elapsed : Duration) : Response :=
  { r with extra := { r.extra with took := elapsed.seconds, cached := true } }

/-- **A response is delivered in one of three ways**, as the clock, read at `t`, tells. What is kept
    is kept at a later reading `t₁`, and for as long as is set from then on; nothing happens behind
    that but the last checkpoint. -/
theorem deliver_induct {r : Response} {n : Nat} {scene : Scene σ}
    (quick : ∀ t last, ¬ Slow s u started t →
      P (.finished (.ok (.resolved (r.withTook (t.since started).seconds))), last) [.read t])
    (kept : ∀ t t₁ expires last, Slow s u started t → t.nanos ≤ t₁.nanos →
      t₁.add? s.cacheTtl = some expires → last.now = t₁.advance (drift (n + 2)) →
      let q := r.marked (t.since started)
      last.cache.find? r.id = some ⟨q.write, expires⟩ →
      P (.finished (.ok (.resolved q)), last)
        [.read t, .kept t₁ r.id ⟨q.write, expires⟩, .reached last.now "encoded and cached"])
    (overflowed : ∀ t last, Slow s u started t → t.nanos ≤ last.now.nanos →
      last.now.add? s.cacheTtl = none → P (.overflowed, last) [.read t]) :
    P ((deliver s u started r).drifting w deadline drift n scene)
      ((deliver s u started r).deeds w deadline drift n scene) := by
  unfold deliver
  simp only [Plan.drifting, Plan.deeds]
  split
  · rename_i h
    have hslow : Slow s u started (scene.later (drift n)).now := by simpa [Slow] using h
    have hlater := le_later (scene.later (drift n)) (drift (n + 1))
    rw [drifting_store, deeds_store, Cache.set?]
    cases hend : ((scene.later (drift n)).later (drift (n + 1))).now.add? s.cacheTtl with
    | none => exact overflowed _ _ hslow hlater hend
    | some expires =>
      have hfound : ∀ q : Response,
          (scene.cache.put r.id ⟨q.write, expires⟩).find? r.id = some ⟨q.write, expires⟩ :=
        fun q => Cache.find?_put.trans (if_pos rfl)
      exact kept _ _ expires _ hslow hlater hend rfl (hfound _)
  · rename_i h
    exact quick _ _ fun hslow => h (by simpa [Slow] using hslow)

end CitationFusion

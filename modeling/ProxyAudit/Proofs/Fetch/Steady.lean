import Mathlib
import ProxyAudit.Proofs.Audit.Observed
import ProxyAudit.Proofs.Fetch.Routes

/-!
# Steady worlds

Where every request is answered in one way, whatever came before it, a fetch brings the same body at
any time. Local files might come and go in such a world, but no fetch brings one.

Main results:

* `result_steady`  — what a transfer brings in a steady world.
-/

namespace ProxyAudit

variable {σ : Type}

/-- The far side answers each request in one way, whatever came before. -/
def Surroundings.IsSteady (s : Surroundings σ) (reply : TimeoutSection → Request → Reply) : Prop :=
  ∀ limits request far, ((s.answer limits request).run far).1 = reply limits request

/-- Surroundings that answer each request in one way. -/
def Surroundings.mapped (reply : TimeoutSection → Request → Reply) : Surroundings Unit where
  isWatchable := true
  answer limits request := pure (reply limits request)
  environment _ := none
  current := "/"
  draw := Draw.ofNumber
  clock := id
  schedule := Pool.eager

theorem Surroundings.isSteady_mapped (reply : TimeoutSection → Request → Reply) :
    (mapped reply).IsSteady reply :=
  fun _ _ _ => rfl

/-- The body that a transfer brings if each request is answered in one way. -/
def Transfer.bodyFrom (isWatchable : Bool) (reply : Request → Reply) :
    Transfer → Option FetchedBody
  | done delivery => delivery.result.toOption
  | watch next => (next isWatchable).bodyFrom isWatchable reply
  | look _ _ => none
  | ask request next => (next (reply request)).bodyFrom isWatchable reply

namespace Surroundings

variable (s : Surroundings σ) {reply : TimeoutSection → Request → Reply}

/-- The body that a fetch brings if each request is answered in one way. -/
def bodyOf (reply : TimeoutSection → Request → Reply) (url : String) (route : Route)
    (limits : TimeoutSection) : Option FetchedBody :=
  (Transfer.fetch s.environment url route limits).bodyFrom s.isWatchable (reply limits)

variable {s} (hSteady : s.IsSteady reply)
include hSteady

theorem runIn_steady (limits : TimeoutSection) {kind : Request → Prop} {t : Transfer}
    (hSends : t.SendsOnly kind) (w : World σ) :
    ((t.runIn s.network limits).run w).1.result.toOption
      = t.bodyFrom s.isWatchable (reply limits) := by
  induction t generalizing w with
  | done delivery => rfl
  | watch next ih => exact ih s.isWatchable (hSends _) w
  | look path next ih =>
    -- whether the file is there or not, it brings no body
    obtain ⟨delivery, hDone, hNone⟩ := hSends ((s.network.isReadable path).run w).1
    rw [Transfer.runIn, StateM.run_bind, hDone]
    exact hNone
  | ask request next ih =>
    have hReply : ((s.network.answer limits request).run w).1 = reply limits request :=
      hSteady limits request w.far
    rw [Transfer.runIn, StateM.run_bind, hReply]
    exact ih _ (hSends.2 _) _

/-- **What a transfer brings in a steady world.** -/
theorem result_steady (url : String) {route : Route} (hRoute : route.IsNamed)
    (limits : TimeoutSection) (w : World σ) :
    ((s.setting.transfer url route limits).run w).1.result.toOption
      = s.bodyOf reply url route limits :=
  runIn_steady hSteady limits (Transfer.sendsOnly_fetch s.environment url hRoute limits) _

theorem fetch_steady (url : String) {route : Route} (hRoute : route.IsNamed)
    (limits : TimeoutSection) (w : World σ) :
    ((s.machine.fetch url route limits).run w).1.toOption = s.bodyOf reply url route limits :=
  result_steady hSteady url hRoute limits w

end Surroundings

end ProxyAudit

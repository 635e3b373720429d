import ProxyAudit.Span

/-!
# Jitter

Workers wait a random span before they fetch, so that they do not reach the proxy in step. The
span is drawn from a half-open range; a range without room stands for its lower end.

Main results:

* `min_le_max`     — the ends of a jitter are in order.
* `sample_of_le`   — a range without room gives its lower end and draws nothing.
-/

namespace ProxyAudit

/-- A range of waiting times, from `min` up to but without `max`. -/
structure Jitter where
  min : Span
  max : Span
  deriving DecidableEq

/-- A source of random spans: given a range, a span in it. It has no answer for a range without
room. -/
abbrev Draw := Span → Span → Option Span

namespace Jitter

/-- The range between two spans; an upper end below the lower one is raised to it. -/
def between (min max : Span) : Jitter :=
  ⟨min, max.max min⟩

/-- No waiting at all. -/
def noWait : Jitter :=
  between .zero .zero

/-- A waiting time: the lower end of a range without room, else a draw. -/
def sample (j : Jitter) (draw : Draw) : Option Span :=
  if j.max.nanos ≤ j.min.nanos then some j.min else draw j.min j.max

def text (j : Jitter) : String :=
  "Jitter \x7b min: " ++ j.min.text ++ ", max: " ++ j.max.text ++ " \x7d"

theorem min_le_max (a b : Span) : (between a b).min.nanos ≤ (between a b).max.nanos := by
  unfold between Span.max
  split <;> simp_all; omega

theorem sample_of_le {j : Jitter} (draw : Draw) (h : j.max.nanos ≤ j.min.nanos) :
    j.sample draw = some j.min := by
  simp [sample, h]

end Jitter

namespace Draw

/-- The draw that a random number makes: the number's remainder counts from the lower end. -/
def ofNumber (random : Nat) : Draw := fun lo hi =>
  if lo.nanos < hi.nanos then Span.ofNanos? (lo.nanos + random % (hi.nanos - lo.nanos)) else none

end Draw

end ProxyAudit

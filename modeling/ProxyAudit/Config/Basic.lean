import ProxyAudit.Jitter
import ProxyAudit.Text.Blank
import ProxyAudit.Text.Quoted
import ProxyAudit.Url.Basic

/-!
# Configuration

What an audit is told: the resource, the proxy, how many workers fetch it, how many at once, how
long they wait before, and how long a fetch may take.

A configuration may be checked for its target alone, which a direct fetch needs, or as a whole.

Main results:

* `check_eq_ok_iff`        — what a sound configuration is.
* `checkTarget_of_check`   — a sound configuration has a sound target.
-/

namespace ProxyAudit

/-- The range of waiting times before a fetch, in milliseconds. -/
structure JitterSection where
  minMs : UInt64
  maxMs : UInt64
  deriving DecidableEq, Repr

/-- The limits of a fetch, in seconds. -/
structure TimeoutSection where
  connectSecs : UInt64
  totalSecs : UInt64
  deriving DecidableEq, Repr

structure Config where
  targetUrl : String
  proxy : String
  workers : UInt64
  maxConcurrent : Option UInt64
  jitter : JitterSection
  timeouts : TimeoutSection
  deriving DecidableEq, Repr

/-- Up to four seconds of waiting. -/
def JitterSection.default : JitterSection :=
  ⟨0, 4000⟩

/-- The range of waiting times as spans. -/
def JitterSection.toJitter (j : JitterSection) : Jitter :=
  .between (.ofMillis j.minMs) (.ofMillis j.maxMs)

/-- Ten seconds to connect, a minute in all. -/
def TimeoutSection.default : TimeoutSection :=
  ⟨10, 60⟩

namespace Config

/-- The configuration of a first run. -/
def default : Config where
  targetUrl := "http://127.0.0.1:2020/un.jpg"
  proxy := "localhost:8080"
  workers := 50
  maxConcurrent := none
  jitter := .default
  timeouts := .default

-- ---------------------------------------------------------------------------
-- Checks
-- ---------------------------------------------------------------------------

/-- Why a configuration is refused. -/
inductive Fault where
  | badTarget (url : String) (cause : UrlError)
  | noTotalTimeout
  | blankProxy
  | invertedJitter (minMs maxMs : UInt64)
  | noConcurrency
  deriving DecidableEq, Repr

def Fault.message : Fault → String
  | badTarget url cause => "invalid target_url " ++ Text.quoted url ++ ": " ++ cause.message
  | noTotalTimeout => "timeouts.total_secs must be at least 1"
  | blankProxy => "proxy must not be empty"
  | invertedJitter minMs maxMs =>
    "jitter.min_ms (" ++ Decimal.text minMs.toNat ++ ") exceeds jitter.max_ms ("
      ++ Decimal.text maxMs.toNat ++ ")"
  | noConcurrency => "max_concurrent must be at least 1"

/-- Checks what a direct fetch of the target needs. -/
def checkTarget (c : Config) : Except Fault Unit :=
  match Url.parse c.targetUrl with
  | .error e => .error (.badTarget c.targetUrl e)
  | .ok _ => if c.timeouts.totalSecs = 0 then .error .noTotalTimeout else .ok ()

/-- Checks what a run needs; the target comes first. -/
def check (c : Config) : Except Fault Unit :=
  match c.checkTarget with
  | .error e => .error e
  | .ok () =>
    if Text.isAllBlank c.proxy then .error .blankProxy
    else if c.jitter.maxMs < c.jitter.minMs then
      .error (.invertedJitter c.jitter.minMs c.jitter.maxMs)
    else if c.maxConcurrent = some 0 then .error .noConcurrency
    else .ok ()

/-- A configuration that a direct fetch can use. -/
structure SoundTarget (c : Config) : Prop where
  url : ∃ u, Url.parse c.targetUrl = .ok u
  timeout : c.timeouts.totalSecs ≠ 0

/-- A configuration that a run can use. -/
structure Sound (c : Config) : Prop where
  target : c.SoundTarget
  proxy : Text.isAllBlank c.proxy = false
  jitter : c.jitter.minMs ≤ c.jitter.maxMs
  concurrency : c.maxConcurrent ≠ some 0

theorem checkTarget_eq_ok_iff (c : Config) : c.checkTarget = .ok () ↔ c.SoundTarget := by
  unfold checkTarget
  constructor
  · intro h
    split at h
    · contradiction
    · next u hu =>
      split at h
      · contradiction
      · next ht => exact ⟨⟨u, hu⟩, ht⟩
  · rintro ⟨⟨u, hu⟩, ht⟩
    simp [hu, ht]

theorem check_eq_ok_iff (c : Config) : c.check = .ok () ↔ c.Sound := by
  unfold check
  constructor
  · intro h
    split at h
    · contradiction
    · next ht =>
      repeat' split at h
      all_goals first | contradiction | skip
      next hp hj hm =>
        exact ⟨(checkTarget_eq_ok_iff c).mp ht, by simpa using hp, UInt64.not_lt.mp hj, hm⟩
  · rintro ⟨hs, hp, hj, hm⟩
    have ht := (checkTarget_eq_ok_iff c).mpr hs
    have hj' := UInt64.not_lt.mpr hj
    simp [ht, hp, hj', hm]

theorem checkTarget_of_check {c : Config} (h : c.check = .ok ()) : c.checkTarget = .ok () :=
  (checkTarget_eq_ok_iff c).mpr ((check_eq_ok_iff c).mp h).target

end Config

end ProxyAudit

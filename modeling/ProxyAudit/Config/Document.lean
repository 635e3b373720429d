import ProxyAudit.Config.Decode
import ProxyAudit.Toml.Printer
import ProxyAudit.Toml.Reader

/-!
# Configuration documents

A configuration is written as a document of plain keys and two sections, and read back from any
document that holds one. Only numbers that a document can hold can be written.

Main results:

* `dump_eq_ok_iff`  — which configurations can be written.
-/

namespace ProxyAudit.Config

-- ---------------------------------------------------------------------------
-- Writing
-- ---------------------------------------------------------------------------

/-- A line with a key and a number. -/
def numberLine (key : String) (n : UInt64) : List Char :=
  key.toList ++ " = ".toList ++ Decimal.ofNat n.toNat ++ ['\n']

/-- A line with a key and a text. -/
def textLine (key : String) (s : String) : List Char :=
  key.toList ++ " = ".toList ++ Toml.stringText s ++ ['\n']

def numbers (c : Config) : List UInt64 :=
  [c.workers] ++ c.maxConcurrent.toList
    ++ [c.jitter.minMs, c.jitter.maxMs, c.timeouts.connectSecs, c.timeouts.totalSecs]

def lines (c : Config) : List Char :=
  textLine "target_url" c.targetUrl ++ textLine "proxy" c.proxy
    ++ numberLine "workers" c.workers
    ++ (c.maxConcurrent.toList.flatMap (numberLine "max_concurrent"))
    ++ "\n[jitter]\n".toList
    ++ numberLine "min_ms" c.jitter.minMs ++ numberLine "max_ms" c.jitter.maxMs
    ++ "\n[timeouts]\n".toList
    ++ numberLine "connect_secs" c.timeouts.connectSecs
    ++ numberLine "total_secs" c.timeouts.totalSecs

/-- A configuration with a number too large for a document cannot be written. -/
inductive DumpError where
  | numberTooLarge
  deriving DecidableEq, Repr

def DumpError.message : DumpError → String
  | numberTooLarge => "out-of-range value for u64 type"

def dump (c : Config) : Except DumpError String :=
  if c.numbers.all (·.toNat ≤ Toml.maxInteger) then .ok (String.ofList c.lines)
  else .error .numberTooLarge

theorem dump_eq_ok_iff (c : Config) :
    (∃ text, c.dump = .ok text) ↔ ∀ n ∈ c.numbers, n.toNat ≤ Toml.maxInteger := by
  unfold dump
  split <;> simp_all

-- ---------------------------------------------------------------------------
-- Reading
-- ---------------------------------------------------------------------------

/-- Why a text gives no configuration. -/
inductive ParseError where
  /-- The text is no TOML document. -/
  | notToml
  /-- The document holds no configuration. -/
  | misfit (m : Misfit)

def parse (text : String) : Except ParseError Config :=
  match Toml.read? text with
  | none => .error .notToml
  | some entries =>
    match decode entries with
    | .ok c => .ok c
    | .error m => .error (.misfit m)

end ProxyAudit.Config

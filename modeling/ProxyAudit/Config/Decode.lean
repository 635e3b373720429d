import ProxyAudit.Config.Basic
import ProxyAudit.Toml.Value

/-!
# Configurations in documents

A document holds a configuration if its known keys have values that fit: texts for the target and
the proxy, whole numbers that are not negative for the rest, and two such numbers in each section,
which may be written as a table or as an array. Unknown keys are passed over. A section that is
there must be complete; one that is not there has its default.

The first value in document order that does not fit is reported; if all fit, the first key that is
missing.
-/

namespace ProxyAudit.Config

open Toml (Value Entries)

-- ---------------------------------------------------------------------------
-- Misfits
-- ---------------------------------------------------------------------------

/-- What a place of a configuration holds. -/
inductive Expected where
  | text
  | count
  | word
  | jitterSection
  | timeoutSection
  deriving DecidableEq, Repr

def Expected.name : Expected → String
  | text => "a string"
  | count => "usize"
  | word => "u64"
  | jitterSection => "struct JitterConfig"
  | timeoutSection => "struct TimeoutConfig"

/-- Why a document holds no configuration. -/
inductive Misfit where
  /-- The value is of another kind. -/
  | wrongKind (found : Value) (expected : Expected)
  /-- A number below zero. -/
  | negative (n : Int) (expected : Expected)
  /-- A section written as an array lacks elements. -/
  | tooShort (length : Nat) (expected : Expected)
  /-- A key is missing. -/
  | missing (key : String)

/-- A number with its sign. -/
def integerText (n : Int) : String :=
  if n < 0 then "-" ++ Decimal.text n.natAbs else Decimal.text n.natAbs

/-- A value in a message; everything that has keys, and dates, counts as a map. -/
def describe : Value → String
  | .string s => "string " ++ Text.quoted s
  | .integer n => "integer `" ++ integerText n ++ "`"
  | .float x => "floating point `" ++ x.text ++ "`"
  | .boolean b => "boolean `" ++ (if b then "true" else "false") ++ "`"
  | .array _ => "sequence"
  | .table _ | .dateTime _ => "map"

def Misfit.message : Misfit → String
  | wrongKind found expected =>
    "invalid type: " ++ describe found ++ ", expected " ++ expected.name
  | negative n expected =>
    "invalid value: integer `" ++ integerText n ++ "`, expected " ++ expected.name
  | tooShort length expected =>
    "invalid length " ++ Decimal.text length ++ ", expected " ++ expected.name
      ++ " with 2 elements"
  | missing key => "missing field `" ++ key ++ "`"

-- ---------------------------------------------------------------------------
-- Values
-- ---------------------------------------------------------------------------

def decodeText : Value → Except Misfit String
  | .string s => .ok s
  | v => .error (.wrongKind v .text)

/-- A number that is not negative. -/
def decodeWord (expected : Expected) : Value → Except Misfit UInt64
  | .integer n => if n < 0 then .error (.negative n expected) else .ok (UInt64.ofNat n.toNat)
  | v => .error (.wrongKind v expected)

/-- The two numbers of a section that is a table, each under its key; a later key of the same name
does not occur. -/
def decodeFields (first second : String) (a b : Option UInt64) :
    Entries → Except Misfit (UInt64 × UInt64)
  | (key, v) :: rest =>
    if key = first then
      match decodeWord .word v with
      | .ok n => decodeFields first second (some n) b rest
      | .error e => .error e
    else if key = second then
      match decodeWord .word v with
      | .ok n => decodeFields first second a (some n) rest
      | .error e => .error e
    else decodeFields first second a b rest
  | [] =>
    match a, b with
    | none, _ => .error (.missing first)
    | _, none => .error (.missing second)
    | some m, some n => .ok (m, n)

/-- The two numbers of a section, from a table or from the first two elements of an array. -/
def decodeSection (expected : Expected) (first second : String) :
    Value → Except Misfit (UInt64 × UInt64)
  | .table entries => decodeFields first second none none entries
  | .dateTime _ => .error (.missing first)
  | .array [] => .error (.tooShort 0 expected)
  | .array (v :: rest) => do
    let m ← decodeWord .word v
    match rest with
    | [] => .error (.tooShort 1 expected)
    | w :: _ => return (m, ← decodeWord .word w)
  | v => .error (.wrongKind v expected)

-- ---------------------------------------------------------------------------
-- Documents
-- ---------------------------------------------------------------------------

/-- What has been found of a configuration. -/
structure Draft where
  targetUrl : Option String := none
  proxy : Option String := none
  workers : Option UInt64 := none
  maxConcurrent : Option UInt64 := none
  jitter : Option JitterSection := none
  timeouts : Option TimeoutSection := none

/-- Takes one key of a document with its value. -/
def Draft.take (d : Draft) (entry : String × Value) : Except Misfit Draft :=
  let (key, v) := entry
  if key = "target_url" then (decodeText v).map fun s => { d with targetUrl := some s }
  else if key = "proxy" then (decodeText v).map fun s => { d with proxy := some s }
  else if key = "workers" then (decodeWord .count v).map fun n => { d with workers := some n }
  else if key = "max_concurrent" then
    (decodeWord .count v).map fun n => { d with maxConcurrent := some n }
  else if key = "jitter" then
    (decodeSection .jitterSection "min_ms" "max_ms" v).map fun (m, n) =>
      { d with jitter := some ⟨m, n⟩ }
  else if key = "timeouts" then
    (decodeSection .timeoutSection "connect_secs" "total_secs" v).map fun (m, n) =>
      { d with timeouts := some ⟨m, n⟩ }
  else .ok d

/-- The configuration that was found, with defaults for what may be missing. -/
def Draft.finish (d : Draft) : Except Misfit Config :=
  match d.targetUrl, d.proxy, d.workers with
  | none, _, _ => .error (.missing "target_url")
  | _, none, _ => .error (.missing "proxy")
  | _, _, none => .error (.missing "workers")
  | some targetUrl, some proxy, some workers =>
    .ok { targetUrl, proxy, workers
          maxConcurrent := d.maxConcurrent
          jitter := d.jitter.getD .default
          timeouts := d.timeouts.getD .default }

/-- The configuration that a document holds. -/
def decode (entries : Entries) : Except Misfit Config := do
  let draft ← entries.foldlM Draft.take {}
  draft.finish

end ProxyAudit.Config

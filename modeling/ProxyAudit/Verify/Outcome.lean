import ProxyAudit.Fetch.Body

/-!
# Outcomes

What one worker saw: a body with the reference digest, a body with another digest, or no body.
Only the first is a success.

Main results:

* `isSuccess_compare`  — a compared body is a success exactly if its digest is the reference.
-/

namespace ProxyAudit

/-- What a worker saw. -/
inductive Outcome where
  | matched (bytes : UInt64)
  | mismatch (expected actual : Digest) (bytes : UInt64)
  | fetchFailed (error : FetchError)
  deriving DecidableEq

namespace Outcome

/-- The verdict on a body that arrived. -/
def compare (reference : Digest) (body : FetchedBody) : Outcome :=
  if body.digest = reference then .matched body.bytes
  else .mismatch reference body.digest body.bytes

/-- The verdict on a fetch. -/
def ofFetch (reference : Digest) : FetchResult → Outcome
  | .ok body => compare reference body
  | .error e => .fetchFailed e

/-- Tells a matching body from everything else. -/
def isSuccess : Outcome → Bool
  | matched _ => true
  | _ => false

/-- Tells a fetch whose time ran out. -/
def isTimeout : Outcome → Bool
  | fetchFailed e => e.isTimeout
  | _ => false

/-- The one word that a console line starts with. -/
def label (o : Outcome) : String :=
  if o.isSuccess then "Success" else "Failure"

/-- The label with its reason in parentheses. -/
def describe (o : Outcome) : String :=
  o.label ++ " (" ++ reason ++ ")"
where
  reason : String :=
    match o with
    | matched bytes => Decimal.text bytes.toNat ++ " bytes"
    | mismatch _ actual bytes =>
      "digest mismatch: got " ++ actual.short ++ " over " ++ Decimal.text bytes.toNat ++ " bytes"
    | fetchFailed e => e.message

/-- The fields of an outcome as they stand in an object, the verdict first. -/
def fields : Outcome → List (String × Json)
  | matched bytes => [("result", .str "match"), ("bytes", .num bytes.toNat)]
  | mismatch expected actual bytes =>
    [("result", .str "mismatch"), ("expected", .str expected.text), ("actual", .str actual.text),
      ("bytes", .num bytes.toNat)]
  | fetchFailed e => [("result", .str "fetch_failed"), ("error", e.toJson)]

def toJson (o : Outcome) : Json :=
  .obj o.fields

theorem isSuccess_compare (reference : Digest) (body : FetchedBody) :
    (compare reference body).isSuccess = decide (body.digest = reference) := by
  unfold compare
  split <;> simp_all [isSuccess]

end Outcome

end ProxyAudit

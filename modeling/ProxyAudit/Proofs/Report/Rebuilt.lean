import Mathlib
import ProxyAudit.Verify.Report
import ProxyAudit.Proofs.Json.Reading

/-!
# Reports are rebuilt from their texts

A report is written as one object. Its layout is spelt out here, and so is the way back: a reader
that looks every value up by its key and tells the outcomes and the errors apart by their tags. The
tag and the fields of an outcome stand among the other fields of a result, so it has to be seen
that no key comes twice.

Main results:

* `Report.laidOut_toJson`        — the layout of a report.
* `Report.keysDistinct_toJson`   — no object in it repeats a key.
* `Report.ofJson?_toJson`        — the way back.
* `Report.text_faithful`         — all that for what is read from the text of a report.
-/

namespace ProxyAudit

-- ---------------------------------------------------------------------------
-- Keys
-- ---------------------------------------------------------------------------

namespace Json

/-- No object repeats a key, however deep it stands. -/
inductive KeysDistinct : Json → Prop where
  | null : KeysDistinct .null
  | bool (b : Bool) : KeysDistinct (.bool b)
  | num (n : Nat) : KeysDistinct (.num n)
  | str (s : String) : KeysDistinct (.str s)
  | arr {items : List Json} (h : ∀ x ∈ items, KeysDistinct x) : KeysDistinct (.arr items)
  | obj {fields : List (String × Json)} (hKeys : (fields.map Prod.fst).Nodup)
      (h : ∀ field ∈ fields, KeysDistinct field.2) : KeysDistinct (.obj fields)

/-- The value of a key of an object. -/
def field? (key : String) : Json → Option Json
  | obj fields => fields.lookup key
  | _ => none

def text? : Json → Option String
  | str s => some s
  | _ => none

def items? : Json → Option (List Json)
  | arr items => some items
  | _ => none

/-- A number, if it is below a bound. -/
def below? (bound : Nat) : Json → Option Nat
  | num n => if n < bound then some n else none
  | _ => none

def word? (j : Json) : Option UInt64 :=
  (j.below? (2 ^ 64)).map UInt64.ofNat

def status? (j : Json) : Option UInt32 :=
  (j.below? (2 ^ 32)).map UInt32.ofNat

def digest? (j : Json) : Option Digest := do
  Digest.ofHex? (← j.text?).toList

@[simp] theorem text?_str (s : String) : (str s).text? = some s := rfl

@[simp] theorem items?_arr (items : List Json) : (arr items).items? = some items := rfl

@[simp] theorem word?_toNat (n : UInt64) : (num n.toNat).word? = some n := by
  simp [word?, below?, n.toNat_lt]

@[simp] theorem status?_toNat (n : UInt32) : (num n.toNat).status? = some n := by
  simp [status?, below?, n.toNat_lt]

@[simp] theorem digest?_text (d : Digest) : (str d.text).digest? = some d := by
  simp [digest?, Digest.text, Digest.ofHex?_hex]

end Json

-- ---------------------------------------------------------------------------
-- Errors
-- ---------------------------------------------------------------------------

namespace FetchError

/-- An error as an object: its kind, then what is known of it. -/
inductive LaidOut : FetchError → Json → Prop where
  | timeout (m : String) :
      LaidOut (.timeout m) (.obj [("kind", .str "timeout"), ("message", .str m)])
  | connection (m : String) :
      LaidOut (.connection m) (.obj [("kind", .str "connection"), ("message", .str m)])
  | http (status : UInt32) :
      LaidOut (.http status) (.obj [("kind", .str "http"), ("status", .num status.toNat)])
  | other (m : String) :
      LaidOut (.other m) (.obj [("kind", .str "other"), ("message", .str m)])

def ofJson? (j : Json) : Option FetchError := do
  match ← (← j.field? "kind").text? with
  | "timeout" => return .timeout (← (← j.field? "message").text?)
  | "connection" => return .connection (← (← j.field? "message").text?)
  | "http" => return .http (← (← j.field? "status").status?)
  | "other" => return .other (← (← j.field? "message").text?)
  | _ => none

theorem laidOut_toJson (e : FetchError) : e.LaidOut e.toJson := by
  cases e <;> constructor

theorem keysDistinct_toJson (e : FetchError) : e.toJson.KeysDistinct := by
  cases e <;>
    exact .obj (by simp) (by simp [Json.KeysDistinct.str, Json.KeysDistinct.num])

theorem ofJson?_toJson (e : FetchError) : ofJson? e.toJson = some e := by
  cases e <;> simp [ofJson?, toJson, Json.field?, List.lookup]

end FetchError

-- ---------------------------------------------------------------------------
-- Results
-- ---------------------------------------------------------------------------

/-- The outcome that is found among the fields of an object. -/
def Outcome.ofJson? (j : Json) : Option Outcome := do
  match ← (← j.field? "result").text? with
  | "match" => return .matched (← (← j.field? "bytes").word?)
  | "mismatch" =>
    return .mismatch (← (← j.field? "expected").digest?) (← (← j.field? "actual").digest?)
      (← (← j.field? "bytes").word?)
  | "fetch_failed" => return .fetchFailed (← FetchError.ofJson? (← j.field? "error"))
  | _ => none

namespace WorkerResult

/-- A result as one flat object: its index, the tag and the fields of its outcome, its times. Only
an error is an object of its own. -/
inductive LaidOut : WorkerResult → Json → Prop where
  | matched (index bytes jitterMs fetchMs : UInt64) :
      LaidOut ⟨index, .matched bytes, jitterMs, fetchMs⟩
        (.obj [("index", .num index.toNat), ("result", .str "match"), ("bytes", .num bytes.toNat),
          ("jitter_ms", .num jitterMs.toNat), ("fetch_ms", .num fetchMs.toNat)])
  | mismatch (index : UInt64) (expected actual : Digest) (bytes jitterMs fetchMs : UInt64) :
      LaidOut ⟨index, .mismatch expected actual bytes, jitterMs, fetchMs⟩
        (.obj [("index", .num index.toNat), ("result", .str "mismatch"),
          ("expected", .str expected.text), ("actual", .str actual.text),
          ("bytes", .num bytes.toNat), ("jitter_ms", .num jitterMs.toNat),
          ("fetch_ms", .num fetchMs.toNat)])
  | fetchFailed (index jitterMs fetchMs : UInt64) {e : FetchError} {error : Json}
      (h : e.LaidOut error) :
      LaidOut ⟨index, .fetchFailed e, jitterMs, fetchMs⟩
        (.obj [("index", .num index.toNat), ("result", .str "fetch_failed"), ("error", error),
          ("jitter_ms", .num jitterMs.toNat), ("fetch_ms", .num fetchMs.toNat)])

def ofJson? (j : Json) : Option WorkerResult :=
  return {
    index := ← (← j.field? "index").word?
    outcome := ← Outcome.ofJson? j
    jitterMs := ← (← j.field? "jitter_ms").word?
    fetchMs := ← (← j.field? "fetch_ms").word? }

theorem laidOut_toJson (w : WorkerResult) : w.LaidOut w.toJson := by
  obtain ⟨index, outcome, jitterMs, fetchMs⟩ := w
  cases outcome with
  | matched bytes => exact .matched index bytes jitterMs fetchMs
  | mismatch expected actual bytes =>
    exact .mismatch index expected actual bytes jitterMs fetchMs
  | fetchFailed e => exact .fetchFailed index jitterMs fetchMs e.laidOut_toJson

/-- The fields of the outcome have no key in common with the fields around them. -/
theorem keysDistinct_toJson (w : WorkerResult) : w.toJson.KeysDistinct := by
  obtain ⟨index, outcome, jitterMs, fetchMs⟩ := w
  cases outcome <;>
    exact .obj (by simp [Outcome.fields]) (by
      simp [Outcome.fields, Json.KeysDistinct.str, Json.KeysDistinct.num,
        FetchError.keysDistinct_toJson])

theorem ofJson?_toJson (w : WorkerResult) : ofJson? w.toJson = some w := by
  obtain ⟨index, outcome, jitterMs, fetchMs⟩ := w
  cases outcome <;>
    simp [ofJson?, toJson, Outcome.ofJson?, Outcome.fields, Json.field?, List.lookup,
      FetchError.ofJson?_toJson]

end WorkerResult

-- ---------------------------------------------------------------------------
-- Reports
-- ---------------------------------------------------------------------------

namespace Report

/-- A report as an object: the fields of the record in their order, the results as an array. -/
inductive LaidOut (r : Report) : Json → Prop where
  | mk {items : List Json} (h : List.Forall₂ WorkerResult.LaidOut r.results items) :
      LaidOut r (.obj [("target_url", .str r.targetUrl), ("proxy", .str r.proxy),
        ("reference", .str r.reference.text), ("successes", .num r.successes.toNat),
        ("failures", .num r.failures.toNat), ("timeouts", .num r.timeouts.toNat),
        ("missing", .num r.missing.toNat), ("results", .arr items)])

def ofJson? (j : Json) : Option Report :=
  return {
    targetUrl := ← (← j.field? "target_url").text?
    proxy := ← (← j.field? "proxy").text?
    reference := ← (← j.field? "reference").digest?
    successes := ← (← j.field? "successes").word?
    failures := ← (← j.field? "failures").word?
    timeouts := ← (← j.field? "timeouts").word?
    missing := ← (← j.field? "missing").word?
    results := ← (← (← j.field? "results").items?).mapM WorkerResult.ofJson? }

/-- **The layout of a report.** -/
theorem laidOut_toJson (r : Report) : r.LaidOut r.toJson := by
  refine .mk ?_
  rw [List.forall₂_map_right_iff, List.forall₂_same]
  intro w _
  exact w.laidOut_toJson

/-- **No key comes twice.** -/
theorem keysDistinct_toJson (r : Report) : r.toJson.KeysDistinct := by
  have hResults : (Json.arr (r.results.map WorkerResult.toJson)).KeysDistinct := by
    refine .arr ?_
    simp only [List.mem_map, forall_exists_index, and_imp, forall_apply_eq_imp_iff₂]
    intro w _
    exact w.keysDistinct_toJson
  exact .obj (by simp) (by simp [Json.KeysDistinct.str, Json.KeysDistinct.num, hResults])

/-- **The way back.** A report is found again in its value. -/
theorem ofJson?_toJson (r : Report) : ofJson? r.toJson = some r := by
  have hResults : (r.results.map WorkerResult.toJson).mapM WorkerResult.ofJson?
      = some r.results := by
    induction r.results with
    | nil => rfl
    | cons w ws ih => simp [WorkerResult.ofJson?_toJson, ih]
  simp [ofJson?, toJson, Json.field?, List.lookup, hResults]

/-- **A report's text is faithful.** It is a text of the grammar. What is read from it, and from
the compact text as well, has the layout of the report and repeats no key, and the report is found
again in it; so another report has another text. -/
theorem text_faithful (r : Report) :
    Json.SpellsText r.toJson r.toJson.pretty.toList ∧
    ∃ j, Json.read? r.toJson.pretty = some j ∧ Json.read? r.toJson.compact = some j ∧
      r.LaidOut j ∧ j.KeysDistinct ∧ ofJson? j = some r ∧
      ∀ r' : Report, Json.read? r'.toJson.pretty = some j ↔ r' = r := by
  refine ⟨Json.spellsText_pretty _, r.toJson, Json.read?_pretty _, Json.read?_compact _,
    r.laidOut_toJson, r.keysDistinct_toJson, r.ofJson?_toJson, fun r' => ⟨?_, ?_⟩⟩
  · intro hRead
    rw [Json.read?_pretty, Option.some.injEq] at hRead
    have hBack := r'.ofJson?_toJson
    rw [hRead, r.ofJson?_toJson, Option.some.injEq] at hBack
    exact hBack.symm
  · rintro rfl
    exact Json.read?_pretty _

end Report

end ProxyAudit

import Mathlib
import ProxyAudit.Config.File
import ProxyAudit.Proofs.Toml.Documents

/-!
# Written configurations read back

A configuration is written as a plain document. Whatever its texts hold, the document is read as one
with the same texts and numbers, and decoded to the same configuration; only the numbers have to be
small enough for a document.

Main results:

* `lineTexts_plain`  — the lines of a written configuration.
* `read?_lines`      — the document that is read from them.
* `dump_roundTrip`   — what is written is loaded again.
-/

namespace ProxyAudit.Config

open Toml (Entries Value LineText)

-- ---------------------------------------------------------------------------
-- The document of a configuration
-- ---------------------------------------------------------------------------

/-- A number of a document. -/
def wordValue (n : UInt64) : Value :=
  .integer n.toNat

/-- The keys that stand in no section. Without a bound on the concurrency its key is left out. -/
def fields (c : Config) : Entries :=
  [("target_url", .string c.targetUrl), ("proxy", .string c.proxy), ("workers", wordValue c.workers)]
    ++ c.maxConcurrent.toList.map fun n => ("max_concurrent", wordValue n)

def sections (c : Config) : List (String × Entries) :=
  [("jitter", [("min_ms", wordValue c.jitter.minMs), ("max_ms", wordValue c.jitter.maxMs)]),
    ("timeouts", [("connect_secs", wordValue c.timeouts.connectSecs),
      ("total_secs", wordValue c.timeouts.totalSecs)])]

/-- The document of a configuration: plain keys, then the two sections. -/
def document (c : Config) : Entries :=
  c.fields ++ c.sections.map fun s => (s.1, .table s.2)

/-- The lines that are written. -/
def lineTexts (c : Config) : List (List Char) :=
  [textLine "target_url" c.targetUrl, textLine "proxy" c.proxy, numberLine "workers" c.workers]
    ++ c.maxConcurrent.toList.map (numberLine "max_concurrent")
    ++ [['\n'], "[jitter]\n".toList, numberLine "min_ms" c.jitter.minMs,
      numberLine "max_ms" c.jitter.maxMs, ['\n'], "[timeouts]\n".toList,
      numberLine "connect_secs" c.timeouts.connectSecs,
      numberLine "total_secs" c.timeouts.totalSecs]

theorem flatten_lineTexts (c : Config) : c.lineTexts.flatten = c.lines := by
  simp [lineTexts, lines, List.flatMap_def]

/-- The numbers that a document can hold, the largest of which is `2 ^ 63 - 1`. -/
structure Writable (c : Config) : Prop where
  workers : c.workers.toNat ≤ 2 ^ 63 - 1
  maxConcurrent : ∀ n ∈ c.maxConcurrent, n.toNat ≤ 2 ^ 63 - 1
  minMs : c.jitter.minMs.toNat ≤ 2 ^ 63 - 1
  maxMs : c.jitter.maxMs.toNat ≤ 2 ^ 63 - 1
  connectSecs : c.timeouts.connectSecs.toNat ≤ 2 ^ 63 - 1
  totalSecs : c.timeouts.totalSecs.toNat ≤ 2 ^ 63 - 1

theorem writable_iff (c : Config) : c.Writable ↔ ∀ n ∈ c.numbers, n.toNat ≤ Toml.maxInteger := by
  constructor
  · rintro ⟨hWorkers, hConcurrent, hMin, hMax, hConnect, hTotal⟩ n hn
    simp only [numbers, List.mem_append, List.mem_cons, List.not_mem_nil, or_false,
      Option.mem_toList] at hn
    rcases hn with (rfl | hn) | rfl | rfl | rfl | rfl
    · exact hWorkers
    · exact hConcurrent n hn
    · exact hMin
    · exact hMax
    · exact hConnect
    · exact hTotal
  · intro h
    refine ⟨h _ ?_, fun n hn => h n ?_, h _ ?_, h _ ?_, h _ ?_, h _ ?_⟩ <;> simp_all [numbers]

theorem lineText_textLine {key : String} (hKey : Toml.BareKey key) (s : String) :
    LineText (textLine key s) (Toml.pairLine (key, .string s)) :=
  Toml.lineText_pair hKey (Toml.scalarText_string s)

theorem lineText_numberLine {key : String} (hKey : Toml.BareKey key) {n : UInt64}
    (h : n.toNat ≤ 2 ^ 63 - 1) : LineText (numberLine key n) (Toml.pairLine (key, wordValue n)) :=
  Toml.lineText_pair hKey (Toml.scalarText_integer h)

/-- No key of a configuration needs quotes. -/
theorem bareKeys : ∀ key ∈ ["target_url", "proxy", "workers", "max_concurrent", "jitter", "min_ms",
    "max_ms", "timeouts", "connect_secs", "total_secs"], Toml.BareKey key := by
  simp [Toml.BareKey, Toml.isBare, Char.isAlphanum, Char.isAlpha, Char.isUpper, Char.isLower]

/-- **The lines of a written configuration** are those of a plain document. -/
theorem lineTexts_plain {c : Config} (h : c.Writable) :
    List.Forall₂ LineText c.lineTexts (Toml.plainLines c.fields c.sections) := by
  -- the bound has a line of its own, if there is one
  have hConcurrent : List.Forall₂ LineText (c.maxConcurrent.toList.map (numberLine "max_concurrent"))
      ((c.maxConcurrent.toList.map fun n => ("max_concurrent", wordValue n)).map Toml.pairLine) := by
    rw [List.map_map, List.forall₂_map_left_iff, List.forall₂_map_right_iff, List.forall₂_same]
    intro n hn
    exact lineText_numberLine (bareKeys _ (by simp)) (h.maxConcurrent n (by simpa using hn))
  have hPlain : List.Forall₂ LineText
      [textLine "target_url" c.targetUrl, textLine "proxy" c.proxy, numberLine "workers" c.workers]
      ([("target_url", .string c.targetUrl), ("proxy", .string c.proxy),
        ("workers", wordValue c.workers)].map Toml.pairLine) :=
    .cons (lineText_textLine (bareKeys _ (by simp)) c.targetUrl) <|
    .cons (lineText_textLine (bareKeys _ (by simp)) c.proxy) <|
    .cons (lineText_numberLine (bareKeys _ (by simp)) h.workers) .nil
  -- an empty line before each of the two headers
  have hSections : List.Forall₂ LineText _ (c.sections.flatMap Toml.tableLines) :=
    .cons Toml.lineText_empty <|
    .cons (Toml.lineText_header "jitter" (bareKeys _ (by simp))) <|
    .cons (lineText_numberLine (bareKeys _ (by simp)) h.minMs) <|
    .cons (lineText_numberLine (bareKeys _ (by simp)) h.maxMs) <|
    .cons Toml.lineText_empty <|
    .cons (Toml.lineText_header "timeouts" (bareKeys _ (by simp))) <|
    .cons (lineText_numberLine (bareKeys _ (by simp)) h.connectSecs) <|
    .cons (lineText_numberLine (bareKeys _ (by simp)) h.totalSecs) .nil
  rw [Toml.plainLines, fields, List.map_append]
  exact List.rel_append (List.rel_append hPlain hConcurrent) hSections

theorem keys_distinct (c : Config) :
    (c.fields.map Prod.fst ++ c.sections.map Prod.fst).Nodup ∧
    ∀ s ∈ c.sections, (s.2.map Prod.fst).Nodup := by
  obtain ⟨targetUrl, proxy, workers, maxConcurrent, jitter, timeouts⟩ := c
  constructor
  · cases maxConcurrent <;> simp [fields, sections]
  · simp [sections]

/-- **The document that is written** is read as the document of the configuration. -/
theorem read?_lines {c : Config} (h : c.Writable) :
    Toml.read? (String.ofList c.lines) = some c.document := by
  obtain ⟨hKeys, hSections⟩ := c.keys_distinct
  rw [← flatten_lineTexts]
  exact Toml.read?_plain (lineTexts_plain h) (by simp [lineTexts, textLine]) hKeys hSections

-- ---------------------------------------------------------------------------
-- The configuration of a document
-- ---------------------------------------------------------------------------

theorem decodeWord_wordValue (expected : Expected) (n : UInt64) :
    decodeWord expected (wordValue n) = .ok n := by
  simp [decodeWord, wordValue]

/-- **A configuration's document holds the configuration.** -/
theorem decode_document (c : Config) : decode c.document = .ok c := by
  obtain ⟨targetUrl, proxy, workers, maxConcurrent, jitter, timeouts⟩ := c
  cases maxConcurrent <;>
    simp [decode, document, fields, sections, Draft.take, Draft.finish, decodeText,
      decodeWord_wordValue, decodeSection, decodeFields, Except.map, bind, Except.bind,
      pure, Except.pure]

/-- **What is written is loaded again.** A configuration can be written exactly if a document can
hold its numbers. Then its text is a document, and wherever its bytes are read from, they give the
configuration. -/
theorem dump_roundTrip (c : Config) :
    ((∃ text, c.dump = .ok text) ↔ c.Writable) ∧
    ∀ text, c.dump = .ok text →
      Toml.read? text = some c.document ∧ parse text = .ok c ∧
      ∀ path, ofContent path (Bytes.ofText text) = .ok c := by
  refine ⟨by rw [dump_eq_ok_iff, writable_iff], fun text hText => ?_⟩
  -- only what can be written was written
  have hWritable : c.Writable := by
    rw [writable_iff, ← dump_eq_ok_iff]
    exact ⟨text, hText⟩
  have hRead : Toml.read? text = some c.document := by
    unfold dump at hText
    split at hText
    · rw [← Except.ok.inj hText]
      exact read?_lines hWritable
    · contradiction
  have hParse : parse text = .ok c := by
    rw [parse, hRead]
    simp only [decode_document]
  refine ⟨hRead, hParse, fun path => ?_⟩
  rw [ofContent, Bytes.toText?_ofText]
  simp only [hParse]

/-- A target with quotes of both kinds, a backslash and line breaks, and a bound on the
concurrency. -/
def unruly : Config :=
  { default with targetUrl := "\"'''\\\r\n\"\"\"\x01", proxy := "", maxConcurrent := some 3 }

theorem dump_roundTrip_of_unruly :
    ∃ text, unruly.dump = .ok text ∧ Toml.read? text = some unruly.document ∧
      parse text = .ok unruly := by
  have hWritable : unruly.Writable := by
    constructor <;> simp [unruly, default, JitterSection.default, TimeoutSection.default]
  obtain ⟨text, hText⟩ := (dump_roundTrip unruly).1.mpr hWritable
  obtain ⟨hRead, hParse, -⟩ := (dump_roundTrip unruly).2 text hText
  exact ⟨text, hText, hRead, hParse⟩

end ProxyAudit.Config

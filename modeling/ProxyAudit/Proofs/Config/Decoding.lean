import Mathlib
import ProxyAudit.Proofs.Config.Misfits
import ProxyAudit.Proofs.Toml.Order

/-!
# Decoding of documents

A document holds a configuration if its known keys say one. What is decoded then is what they say,
with nothing and with defaults for what is left out; a section is given as a whole or not at all.
Otherwise decoding fails for the first value that does not fit, in the order of the document, or for
the first required key that is missing.

The order of a document is that of its tables: where a table stands, all its values do. A dotted key
that comes back to a table does not move its value behind the keys in between.

Main results:

* `decode_eq_ok_iff`       — what is decoded is what the document holds.
* `decode_eq_error_iff`    — why decoding fails.
* `parse_decides`          — what is made of a text that is a document.
* `not_textOrder_of_dotted`  — a document whose first misfit is not the first in its text.
-/

namespace ProxyAudit.Config

open Toml (Entries Value ProperEntries)

-- ---------------------------------------------------------------------------
-- What a document says
-- ---------------------------------------------------------------------------

/-- A table has two numbers that are not negative. -/
def IsSection (first second : String) (v : Value) : Prop :=
  ∃ (es : Entries) (i j : Int), v = .table es ∧ 0 ≤ i ∧ 0 ≤ j ∧
    (first, .integer i) ∈ es ∧ (second, .integer j) ∈ es

/-- A document has all that a configuration needs, and nothing that does not fit. -/
structure IsComplete (entries : Entries) : Prop where
  targetUrl : ∃ s, ("target_url", .string s) ∈ entries
  proxy : ∃ s, ("proxy", .string s) ∈ entries
  workers : ∃ n : Int, 0 ≤ n ∧ ("workers", .integer n) ∈ entries
  maxConcurrent : ∀ v, ("max_concurrent", v) ∈ entries → ∃ n : Int, 0 ≤ n ∧ v = .integer n
  jitter : ∀ v, ("jitter", v) ∈ entries → IsSection "min_ms" "max_ms" v
  timeouts : ∀ v, ("timeouts", v) ∈ entries → IsSection "connect_secs" "total_secs" v

/-- The numbers of a section are both given, or the section is not, and they have their defaults. -/
def GivesSection (entries : Entries) (name first second : String) (a b : UInt64)
    (isDefault : Prop) : Prop :=
  (∃ es : Entries, (name, .table es) ∈ entries ∧
    (first, wordValue a) ∈ es ∧ (second, wordValue b) ∈ es) ∨
  name ∉ entries.map Prod.fst ∧ isDefault

/-- A document holds a configuration: every value of the configuration is given, or it may be left
out and is. -/
structure Holds (entries : Entries) (c : Config) : Prop where
  targetUrl : ("target_url", .string c.targetUrl) ∈ entries
  proxy : ("proxy", .string c.proxy) ∈ entries
  workers : ("workers", wordValue c.workers) ∈ entries
  concurrent : ∀ n, c.maxConcurrent = some n → ("max_concurrent", wordValue n) ∈ entries
  unbounded : c.maxConcurrent = none → "max_concurrent" ∉ entries.map Prod.fst
  jitter : GivesSection entries "jitter" "min_ms" "max_ms" c.jitter.minMs c.jitter.maxMs
    (c.jitter = .default)
  timeouts : GivesSection entries "timeouts" "connect_secs" "total_secs" c.timeouts.connectSecs
    c.timeouts.totalSecs (c.timeouts = .default)

/-- Why a value of a document does not fit. -/
inductive EntryMisfit (e : String × Value) (m : Misfit) : Prop where
  | text (hKey : e.1 = "target_url" ∨ e.1 = "proxy") (h : TextMisfit e.2 m)
  | count (hKey : e.1 = "workers" ∨ e.1 = "max_concurrent") (h : WordMisfit .count e.2 m)
  | jitter {es : Entries} (hKey : e.1 = "jitter") (hTable : e.2 = .table es)
      (h : SectionMisfit "min_ms" "max_ms" es m)
  | timeouts {es : Entries} (hKey : e.1 = "timeouts") (hTable : e.2 = .table es)
      (h : SectionMisfit "connect_secs" "total_secs" es m)

/-- Why a document holds no configuration. -/
def DocumentMisfit : Entries → Misfit → Prop :=
  FirstMisfit EntryMisfit ["target_url", "proxy", "workers"]

/-- The two sections are tables, where they are there. -/
def HasTables (entries : Entries) : Prop :=
  ∀ e ∈ entries, e.1 = "jitter" ∨ e.1 = "timeouts" → ∃ es, e.2 = .table es

-- ---------------------------------------------------------------------------
-- One key
-- ---------------------------------------------------------------------------

def decodeJitter (v : Value) : Except Misfit JitterSection :=
  (decodeSection .jitterSection "min_ms" "max_ms" v).map fun n => ⟨n.1, n.2⟩

def decodeTimeouts (v : Value) : Except Misfit TimeoutSection :=
  (decodeSection .timeoutSection "connect_secs" "total_secs" v).map fun n => ⟨n.1, n.2⟩

/-- What one key does to a draft. -/
inductive Draft.Takes (d : Draft) (e : String × Value) : Draft → Prop where
  | targetUrl {s : String} (hKey : e.1 = "target_url") (h : decodeText e.2 = .ok s) :
      Takes d e { d with targetUrl := some s }
  | proxy {s : String} (hKey : e.1 = "proxy") (h : decodeText e.2 = .ok s) :
      Takes d e { d with proxy := some s }
  | workers {n : UInt64} (hKey : e.1 = "workers") (h : decodeWord .count e.2 = .ok n) :
      Takes d e { d with workers := some n }
  | maxConcurrent {n : UInt64} (hKey : e.1 = "max_concurrent") (h : decodeWord .count e.2 = .ok n) :
      Takes d e { d with maxConcurrent := some n }
  | jitter {j : JitterSection} (hKey : e.1 = "jitter") (h : decodeJitter e.2 = .ok j) :
      Takes d e { d with jitter := some j }
  | timeouts {t : TimeoutSection} (hKey : e.1 = "timeouts") (h : decodeTimeouts e.2 = .ok t) :
      Takes d e { d with timeouts := some t }
  | unknown (hKey : e.1 ∉ ["target_url", "proxy", "workers", "max_concurrent", "jitter", "timeouts"]) :
      Takes d e d

theorem takes_of_take {d d' : Draft} {e : String × Value} (h : d.take e = .ok d') : d.Takes e d' := by
  obtain ⟨key, v⟩ := e
  unfold Draft.take at h
  dsimp only at h
  split_ifs at h
  case pos hKey =>
    obtain ⟨s, hValue, rfl⟩ := map_eq_ok_iff.mp h
    exact .targetUrl hKey hValue
  case pos hKey =>
    obtain ⟨s, hValue, rfl⟩ := map_eq_ok_iff.mp h
    exact .proxy hKey hValue
  case pos hKey =>
    obtain ⟨n, hValue, rfl⟩ := map_eq_ok_iff.mp h
    exact .workers hKey hValue
  case pos hKey =>
    obtain ⟨n, hValue, rfl⟩ := map_eq_ok_iff.mp h
    exact .maxConcurrent hKey hValue
  case pos hKey =>
    -- the two sections are decoded to pairs, and put together after that
    obtain ⟨n, hValue, rfl⟩ := map_eq_ok_iff.mp h
    exact .jitter hKey (map_eq_ok_iff.mpr ⟨n, hValue, rfl⟩)
  case pos hKey =>
    obtain ⟨n, hValue, rfl⟩ := map_eq_ok_iff.mp h
    exact .timeouts hKey (map_eq_ok_iff.mpr ⟨n, hValue, rfl⟩)
  case neg =>
    cases h
    exact .unknown (by simp_all)

theorem slot_targetUrl : Slot Draft.take "target_url" Draft.targetUrl decodeText := by
  constructor <;> intro d d' e hTake hKey <;> cases takes_of_take hTake <;> simp_all

theorem slot_proxy : Slot Draft.take "proxy" Draft.proxy decodeText := by
  constructor <;> intro d d' e hTake hKey <;> cases takes_of_take hTake <;> simp_all

theorem slot_workers : Slot Draft.take "workers" Draft.workers (decodeWord .count) := by
  constructor <;> intro d d' e hTake hKey <;> cases takes_of_take hTake <;> simp_all

theorem slot_maxConcurrent :
    Slot Draft.take "max_concurrent" Draft.maxConcurrent (decodeWord .count) := by
  constructor <;> intro d d' e hTake hKey <;> cases takes_of_take hTake <;> simp_all

theorem slot_jitter : Slot Draft.take "jitter" Draft.jitter decodeJitter := by
  constructor <;> intro d d' e hTake hKey <;> cases takes_of_take hTake <;> simp_all

theorem slot_timeouts : Slot Draft.take "timeouts" Draft.timeouts decodeTimeouts := by
  constructor <;> intro d d' e hTake hKey <;> cases takes_of_take hTake <;> simp_all

-- ---------------------------------------------------------------------------
-- Why decoding fails
-- ---------------------------------------------------------------------------

theorem properEntries_of_table {es : Entries} (h : (Value.table es).IsProper) : ProperEntries es := by
  cases h with
  | table hKeys hValues => exact ⟨hKeys, hValues⟩

theorem take_eq_error_iff {d : Draft} {e : String × Value} {m : Misfit} (hProper : e.2.IsProper)
    (hTable : e.1 = "jitter" ∨ e.1 = "timeouts" → ∃ es, e.2 = .table es) :
    d.take e = .error m ↔ EntryMisfit e m := by
  -- a key decides which kind of misfit its value can have
  obtain ⟨key, v⟩ := e
  unfold Draft.take
  dsimp only
  split_ifs with hTarget hProxy hWorkers hConcurrent hJitter hTimeouts
  case pos =>
    rw [map_eq_error_iff, decodeText_eq_error_iff]
    exact ⟨fun h => .text (.inl hTarget) h, fun h => by cases h <;> simp_all⟩
  case pos =>
    rw [map_eq_error_iff, decodeText_eq_error_iff]
    exact ⟨fun h => .text (.inr hProxy) h, fun h => by cases h <;> simp_all⟩
  case pos =>
    rw [map_eq_error_iff, decodeWord_eq_error_iff]
    exact ⟨fun h => .count (.inl hWorkers) h, fun h => by cases h <;> simp_all⟩
  case pos =>
    rw [map_eq_error_iff, decodeWord_eq_error_iff]
    exact ⟨fun h => .count (.inr hConcurrent) h, fun h => by cases h <;> simp_all⟩
  case pos =>
    -- a section that is a table fails as its fields do
    obtain ⟨es, rfl : v = .table es⟩ := hTable (.inl hJitter)
    rw [map_eq_error_iff, decodeSection,
      decodeFields_eq_error_iff (by decide) (properEntries_of_table hProper)]
    exact ⟨fun h => .jitter hJitter rfl h, fun h => by cases h <;> simp_all⟩
  case pos =>
    obtain ⟨es, rfl : v = .table es⟩ := hTable (.inr hTimeouts)
    rw [map_eq_error_iff, decodeSection,
      decodeFields_eq_error_iff (by decide) (properEntries_of_table hProper)]
    exact ⟨fun h => .timeouts hTimeouts rfl h, fun h => by cases h <;> simp_all⟩
  case neg =>
    constructor
    · intro h
      cases h
    · intro h
      cases h <;> simp_all

theorem finish_reports {d : Draft} {entries : Entries}
    (hTarget : d.targetUrl = none ↔ "target_url" ∉ entries.map Prod.fst)
    (hProxy : d.proxy = none ↔ "proxy" ∉ entries.map Prod.fst)
    (hWorkers : d.workers = none ↔ "workers" ∉ entries.map Prod.fst) :
    Reports (firstMissing? ["target_url", "proxy", "workers"] entries) d.finish := by
  obtain ⟨_ | targetUrl, proxy, workers, concurrent, jitter, timeouts⟩ := d
  · rw [firstMissing?_cons, if_neg (hTarget.mp rfl)]
    exact reports_missing "target_url"
  -- the keys are asked for in this order, so the first one that is missing is reported
  rw [firstMissing?_cons, if_pos (by simpa using hTarget)]
  obtain _ | proxy := proxy
  · rw [firstMissing?_cons, if_neg (hProxy.mp rfl)]
    exact reports_missing "proxy"
  rw [firstMissing?_cons, if_pos (by simpa using hProxy)]
  obtain _ | workers := workers
  · rw [firstMissing?_cons, if_neg (hWorkers.mp rfl)]
    exact reports_missing "workers"
  rw [firstMissing?_cons, if_pos (by simpa using hWorkers)]
  exact reports_ok _

theorem finish_eq_ok {d : Draft} {c : Config} (h : d.finish = .ok c) :
    d.targetUrl = some c.targetUrl ∧ d.proxy = some c.proxy ∧ d.workers = some c.workers ∧
      d.maxConcurrent = c.maxConcurrent ∧ c.jitter = d.jitter.getD .default ∧
      c.timeouts = d.timeouts.getD .default := by
  unfold Draft.finish at h
  split at h <;> cases h
  exact ⟨‹_›, ‹_›, ‹_›, rfl, rfl, rfl⟩

variable {entries : Entries} (hProper : ProperEntries entries)

include hProper

/-- **Why decoding fails**: for the first value that does not fit, or else for the first required
key that is missing. -/
theorem decode_eq_error_iff (hTables : HasTables entries) {m : Misfit} :
    decode entries = .error m ↔ DocumentMisfit entries m := by
  -- while the entries are read, and in the end for what is missing
  refine reading_eq_error_iff (fun d e he m => take_eq_error_iff (hProper.values e he) (hTables e he))
    fun d hRead => ?_
  exact finish_reports (slot_targetUrl.eq_none_iff hProper.keys rfl hRead)
    (slot_proxy.eq_none_iff hProper.keys rfl hRead) (slot_workers.eq_none_iff hProper.keys rfl hRead)

-- ---------------------------------------------------------------------------
-- What is decoded
-- ---------------------------------------------------------------------------

/-- A section that is decoded is given by its table. -/
theorem section_of_decode {name first second : String} (hNe : first ≠ second) {expected : Expected}
    {v : Value} (hv : (name, v) ∈ entries) (hTable : ∃ es, v = .table es) {a b : UInt64}
    (h : decodeSection expected first second v = .ok (a, b)) :
    ∃ es : Entries, (name, .table es) ∈ entries ∧
      (first, wordValue a) ∈ es ∧ (second, wordValue b) ∈ es := by
  obtain ⟨es, rfl⟩ := hTable
  have hInner := properEntries_of_table (hProper.values _ hv)
  exact ⟨es, hv, (decodeFields_eq_ok_iff hNe hInner).mp h⟩

/-- What a section is after a reading, given or by default, is what the document gives. -/
theorem givesSection_of_slot {α : Type} {name first second : String} (hNe : first ≠ second)
    {expected : Expected} {make : UInt64 × UInt64 → α} {slot : Draft → Option α}
    (hSlot : Slot Draft.take name slot fun v => (decodeSection expected first second v).map make)
    {d d' : Draft} (hEmpty : slot d = none) (hRead : entries.foldlM Draft.take d = .ok d')
    (hTable : ∀ v, (name, v) ∈ entries → ∃ es, v = .table es) (numbers : α → UInt64 × UInt64)
    (hNumbers : ∀ n, numbers (make n) = n) {s fallback : α} (hs : s = (slot d').getD fallback) :
    GivesSection entries name first second (numbers s).1 (numbers s).2 (s = fallback) := by
  subst hs
  cases hFound : slot d' with
  | none => exact .inr ⟨(hSlot.eq_none_iff hProper.keys hEmpty hRead).mp hFound, rfl⟩
  | some s =>
    obtain ⟨v, hv, hValue⟩ := (hSlot.eq_some_iff hProper.keys hEmpty hRead).mp hFound
    obtain ⟨n, hFields, rfl⟩ := map_eq_ok_iff.mp hValue
    rw [Option.getD_some, hNumbers]
    exact .inl (section_of_decode hProper hNe hv (hTable v hv) hFields)

/-- What is decoded is what the document holds. -/
theorem holds_of_decode (hTables : HasTables entries) {c : Config} (h : decode entries = .ok c) :
    Holds entries c := by
  obtain ⟨d, hRead, hEnd⟩ := bind_eq_ok_iff.mp h
  obtain ⟨hTarget, hProxy, hWorkers, hConcurrent, hJitter, hTimeouts⟩ := finish_eq_ok hEnd
  -- what a slot holds in the end was read from the entry of its key
  refine ⟨?targetUrl, ?proxy, ?workers, ?concurrent, ?unbounded, ?jitter, ?timeouts⟩
  case targetUrl =>
    obtain ⟨v, hv, hValue⟩ := (slot_targetUrl.eq_some_iff hProper.keys rfl hRead).mp hTarget
    rwa [decodeText_eq_ok_iff.mp hValue] at hv
  case proxy =>
    obtain ⟨v, hv, hValue⟩ := (slot_proxy.eq_some_iff hProper.keys rfl hRead).mp hProxy
    rwa [decodeText_eq_ok_iff.mp hValue] at hv
  case workers =>
    obtain ⟨v, hv, hValue⟩ := (slot_workers.eq_some_iff hProper.keys rfl hRead).mp hWorkers
    obtain rfl := (decodeWord_eq_ok_iff (hProper.values _ hv)).mp hValue
    exact hv
  case concurrent =>
    intro n hn
    obtain ⟨v, hv, hValue⟩ :=
      (slot_maxConcurrent.eq_some_iff hProper.keys rfl hRead).mp (hConcurrent.trans hn)
    obtain rfl := (decodeWord_eq_ok_iff (hProper.values _ hv)).mp hValue
    exact hv
  case unbounded =>
    intro hNone
    exact (slot_maxConcurrent.eq_none_iff hProper.keys rfl hRead).mp (hConcurrent.trans hNone)
  case jitter =>
    exact givesSection_of_slot hProper (by decide) slot_jitter rfl hRead
      (fun v hv => hTables _ hv (.inl rfl)) (fun j => (j.minMs, j.maxMs)) (fun _ => rfl) hJitter
  case timeouts =>
    exact givesSection_of_slot hProper (by decide) slot_timeouts rfl hRead
      (fun v hv => hTables _ hv (.inr rfl)) (fun t => (t.connectSecs, t.totalSecs))
      (fun _ => rfl) hTimeouts

theorem isSection_of_gives {name first second : String} {a b : UInt64} {isDefault : Prop}
    (h : GivesSection entries name first second a b isDefault) {v : Value}
    (hv : (name, v) ∈ entries) : IsSection first second v := by
  rcases h with ⟨es, hThere, hFirst, hSecond⟩ | ⟨hAbsent, -⟩
  · exact ⟨es, a.toNat, b.toNat, eq_of_mem_of_mem hProper.keys hv hThere, Int.natCast_nonneg _,
      Int.natCast_nonneg _, hFirst, hSecond⟩
  · exact (hAbsent (List.mem_map_of_mem hv)).elim

/-- A document that holds a configuration is complete. -/
theorem Holds.isComplete {c : Config} (h : Holds entries c) : IsComplete entries := by
  refine ⟨⟨_, h.targetUrl⟩, ⟨_, h.proxy⟩, ⟨_, Int.natCast_nonneg _, h.workers⟩, fun v hv => ?_,
    fun v => isSection_of_gives hProper h.jitter, fun v => isSection_of_gives hProper h.timeouts⟩
  cases hBound : c.maxConcurrent with
  | none => exact (h.unbounded hBound (List.mem_map_of_mem hv)).elim
  | some n =>
    exact ⟨n.toNat, Int.natCast_nonneg _, eq_of_mem_of_mem hProper.keys hv (h.concurrent n hBound)⟩

/-- Nothing is amiss with a complete document. -/
theorem IsComplete.not_misfit (h : IsComplete entries) {m : Misfit} : ¬ DocumentMisfit entries m := by
  -- a section of its kind has both fields, so none of them can be amiss
  have hSection {name first second : String} {v : Value} {es : Entries} {m : Misfit}
      (hv : (name, v) ∈ entries) (hTable : v = .table es) (hGiven : IsSection first second v) :
      ¬ SectionMisfit first second es m := by
    obtain ⟨es', i, j, rfl, hi, hj, hFirst, hSecond⟩ := hGiven
    cases hTable
    exact not_sectionMisfit (properEntries_of_table (hProper.values _ hv)) hi hj hFirst hSecond
  refine not_firstMisfit (fun e he m hMisfit => ?fits) fun key hKey => ?present
  case fits =>
    obtain ⟨key, v⟩ := e
    cases hMisfit with
    | text hKey hText =>
      obtain ⟨hKind⟩ := hText
      -- the value of a key is unique, so it is the text that the document has
      rcases hKey with rfl | rfl
      · obtain ⟨s, hs⟩ := h.targetUrl
        exact hKind s (eq_of_mem_of_mem hProper.keys he hs)
      · obtain ⟨s, hs⟩ := h.proxy
        exact hKind s (eq_of_mem_of_mem hProper.keys he hs)
    | count hKey hWord =>
      rcases hKey with rfl | rfl
      · obtain ⟨n, hn, hThere⟩ := h.workers
        rw [eq_of_mem_of_mem hProper.keys he hThere] at hWord
        exact not_wordMisfit hn hWord
      · obtain ⟨n, hn, rfl⟩ := h.maxConcurrent v he
        exact not_wordMisfit hn hWord
    | jitter hKey hTable hSectionMisfit =>
      obtain rfl : key = "jitter" := hKey
      exact hSection he hTable (h.jitter v he) hSectionMisfit
    | timeouts hKey hTable hSectionMisfit =>
      obtain rfl : key = "timeouts" := hKey
      exact hSection he hTable (h.timeouts v he) hSectionMisfit
  case present =>
    -- the required keys are there with their values
    simp only [List.mem_cons, List.not_mem_nil, or_false] at hKey
    rcases hKey with rfl | rfl | rfl
    · obtain ⟨s, hs⟩ := h.targetUrl
      exact List.mem_map_of_mem hs
    · obtain ⟨s, hs⟩ := h.proxy
      exact List.mem_map_of_mem hs
    · obtain ⟨n, -, hn⟩ := h.workers
      exact List.mem_map_of_mem hn

theorem sections_unique {name first second : String} {a b a' b' : UInt64}
    {isDefault isDefault' : Prop} (h : GivesSection entries name first second a b isDefault)
    (h' : GivesSection entries name first second a' b' isDefault') :
    a = a' ∧ b = b' ∨ isDefault ∧ isDefault' := by
  rcases h with ⟨es, hThere, hFirst, hSecond⟩ | ⟨hAbsent, hDefault⟩ <;>
    rcases h' with ⟨es', hThere', hFirst', hSecond'⟩ | ⟨hAbsent', hDefault'⟩
  · cases eq_of_mem_of_mem hProper.keys hThere hThere'
    have hKeys := (properEntries_of_table (hProper.values _ hThere)).keys
    exact .inl ⟨wordValue_injective (eq_of_mem_of_mem hKeys hFirst hFirst'),
      wordValue_injective (eq_of_mem_of_mem hKeys hSecond hSecond')⟩
  · exact (hAbsent' (List.mem_map_of_mem hThere)).elim
  · exact (hAbsent (List.mem_map_of_mem hThere')).elim
  · exact .inr ⟨hDefault, hDefault'⟩

/-- A document holds one configuration at most. -/
theorem Holds.unique {c c' : Config} (h : Holds entries c) (h' : Holds entries c') : c = c' := by
  have hJitter : c.jitter = c'.jitter := by
    rcases sections_unique hProper h.jitter h'.jitter with ⟨hMin, hMax⟩ | ⟨hDefault, hDefault'⟩
    · cases hj : c.jitter
      cases hj' : c'.jitter
      rw [hj, hj'] at hMin hMax
      exact congr (congrArg _ hMin) hMax
    · exact hDefault.trans hDefault'.symm
  have hTimeouts : c.timeouts = c'.timeouts := by
    rcases sections_unique hProper h.timeouts h'.timeouts with ⟨hConnect, hTotal⟩ | ⟨hDefault, hDefault'⟩
    · cases ht : c.timeouts
      cases ht' : c'.timeouts
      rw [ht, ht'] at hConnect hTotal
      exact congr (congrArg _ hConnect) hTotal
    · exact hDefault.trans hDefault'.symm
  -- a bound may be absent, but then it is absent for both
  have hBound : c.maxConcurrent = c'.maxConcurrent := by
    cases hn : c.maxConcurrent with
    | none =>
      cases hn' : c'.maxConcurrent with
      | none => rfl
      | some n' => exact (h.unbounded hn (List.mem_map_of_mem (h'.concurrent n' hn'))).elim
    | some n =>
      cases hn' : c'.maxConcurrent with
      | none => exact (h'.unbounded hn' (List.mem_map_of_mem (h.concurrent n hn))).elim
      | some n' =>
        have hSame := eq_of_mem_of_mem hProper.keys (h.concurrent n hn) (h'.concurrent n' hn')
        rw [wordValue_injective hSame]
  have hTarget := Value.string.inj (eq_of_mem_of_mem hProper.keys h.targetUrl h'.targetUrl)
  have hProxy := Value.string.inj (eq_of_mem_of_mem hProper.keys h.proxy h'.proxy)
  have hWorkers := wordValue_injective (eq_of_mem_of_mem hProper.keys h.workers h'.workers)
  obtain ⟨targetUrl, proxy, workers, maxConcurrent, jitter, timeouts⟩ := c
  obtain ⟨targetUrl', proxy', workers', maxConcurrent', jitter', timeouts'⟩ := c'
  simp only [mk.injEq]
  exact ⟨hTarget, hProxy, hWorkers, hBound, hJitter, hTimeouts⟩

/-- A complete document is decoded. -/
theorem exists_decode_of_isComplete (hTables : HasTables entries) (h : IsComplete entries) :
    ∃ c, decode entries = .ok c := by
  cases hDecode : decode entries with
  | error m => exact (h.not_misfit hProper ((decode_eq_error_iff hProper hTables).mp hDecode)).elim
  | ok c => exact ⟨c, rfl⟩

/-- **What is decoded is what the document holds.** -/
theorem decode_eq_ok_iff (hTables : HasTables entries) {c : Config} :
    decode entries = .ok c ↔ Holds entries c := by
  constructor
  · exact holds_of_decode hProper hTables
  · intro h
    obtain ⟨c', hDecode⟩ := exists_decode_of_isComplete hProper hTables (h.isComplete hProper)
    rw [h.unique hProper (holds_of_decode hProper hTables hDecode)]
    exact hDecode

theorem exists_decode_iff (hTables : HasTables entries) :
    (∃ c, decode entries = .ok c) ↔ IsComplete entries := by
  constructor
  · rintro ⟨c, h⟩
    exact (holds_of_decode hProper hTables h).isComplete hProper
  · exact exists_decode_of_isComplete hProper hTables

omit hProper

-- ---------------------------------------------------------------------------
-- Documents with the same settings
-- ---------------------------------------------------------------------------

/-- Whatever one document says in a section, the other one does. -/
def CoversSection (name : String) (keys : List String) (a b : Entries) : Prop :=
  ∀ es : Entries, (name, .table es) ∈ a → ∃ es' : Entries, (name, .table es') ∈ b ∧
    ∀ key ∈ keys, ∀ v, (key, v) ∈ es → (key, v) ∈ es'

/-- Whatever one document says under the known keys, the other one does. Their order and all other
keys are left open. -/
structure Covers (a b : Entries) : Prop where
  plain : ∀ key ∈ ["target_url", "proxy", "workers", "max_concurrent"], ∀ v,
    (key, v) ∈ a → (key, v) ∈ b
  jitter : CoversSection "jitter" ["min_ms", "max_ms"] a b
  timeouts : CoversSection "timeouts" ["connect_secs", "total_secs"] a b

/-- A section that is a table in one document is there in a document that covers it. -/
theorem CoversSection.mem {name : String} {keys : List String} {a b : Entries}
    (h : CoversSection name keys a b) (hTable : ∀ v, (name, v) ∈ a → ∃ es, v = .table es)
    (hMem : name ∈ a.map Prod.fst) : name ∈ b.map Prod.fst := by
  obtain ⟨⟨_, v⟩, hv, rfl⟩ := List.mem_map.mp hMem
  obtain ⟨es, rfl⟩ := hTable v hv
  obtain ⟨es', hThere, -⟩ := h es hv
  exact List.mem_map.mpr ⟨_, hThere, rfl⟩

theorem GivesSection.of_covers {name first second : String} {entries' : Entries} {a b : UInt64}
    {isDefault : Prop} (h : GivesSection entries name first second a b isDefault)
    (hCovers : CoversSection name [first, second] entries entries')
    (hBack : name ∈ entries'.map Prod.fst → name ∈ entries.map Prod.fst) :
    GivesSection entries' name first second a b isDefault := by
  rcases h with ⟨es, hThere, hFirst, hSecond⟩ | ⟨hAbsent, hDefault⟩
  · obtain ⟨es', hThere', hSame⟩ := hCovers es hThere
    exact .inl ⟨es', hThere', hSame first (by simp) _ hFirst, hSame second (by simp) _ hSecond⟩
  · exact .inr ⟨fun hMem => hAbsent (hBack hMem), hDefault⟩

/-- Documents that cover each other hold the same. -/
theorem Holds.of_covers {entries' : Entries} (hTables : HasTables entries') {c : Config}
    (h : Holds entries c) (hCovers : Covers entries entries') (hBack : Covers entries' entries) :
    Holds entries' c := by
  refine ⟨hCovers.plain _ (by simp) _ h.targetUrl, hCovers.plain _ (by simp) _ h.proxy,
    hCovers.plain _ (by simp) _ h.workers, fun n hn => hCovers.plain _ (by simp) _ (h.concurrent n hn),
    fun hNone hMem => ?_, h.jitter.of_covers hCovers.jitter ?_,
    h.timeouts.of_covers hCovers.timeouts ?_⟩
  · obtain ⟨⟨_, v⟩, hv, rfl⟩ := List.mem_map.mp hMem
    exact h.unbounded hNone (List.mem_map_of_mem (hBack.plain _ (by simp) v hv))
  · exact hBack.jitter.mem fun v hv => hTables _ hv (.inl rfl)
  · exact hBack.timeouts.mem fun v hv => hTables _ hv (.inr rfl)

/-- A section without its unknown keys. -/
def knownFields (first second : String) : Value → Value
  | .table es => .table (es.filter fun e => e.1 = first ∨ e.1 = second)
  | v => v

def knownEntry (e : String × Value) : String × Value :=
  (e.1, if e.1 = "jitter" then knownFields "min_ms" "max_ms" e.2
    else if e.1 = "timeouts" then knownFields "connect_secs" "total_secs" e.2 else e.2)

/-- A document without its unknown keys, also in its sections. -/
def known (entries : Entries) : Entries :=
  (entries.filter fun e =>
    e.1 ∈ ["target_url", "proxy", "workers", "max_concurrent", "jitter", "timeouts"]).map knownEntry

theorem decodeFields_filter (first second : String) (a b : Option UInt64) (es : Entries) :
    decodeFields first second a b (es.filter fun e => e.1 = first ∨ e.1 = second)
      = decodeFields first second a b es := by
  rw [decodeFields_eq, decodeFields_eq, List.foldlM_filter]
  congr 2
  funext d e
  simp only [decide_eq_true_eq]
  split_ifs with hKnown
  · rfl
  · rw [not_or] at hKnown
    rw [takeField, if_neg hKnown.1, if_neg hKnown.2]
    rfl

theorem decodeSection_knownFields (expected : Expected) (first second : String) (v : Value) :
    decodeSection expected first second (knownFields first second v)
      = decodeSection expected first second v := by
  cases v with
  | table es => exact decodeFields_filter first second none none es
  | _ => rfl

theorem take_knownEntry (d : Draft) (e : String × Value) : d.take (knownEntry e) = d.take e := by
  obtain ⟨key, v⟩ := e
  unfold Draft.take knownEntry
  dsimp only
  split_ifs with hTarget hProxy hWorkers hConcurrent hJitter hTimeouts <;>
    first | rfl | simp_all [decodeSection_knownFields]

/-- **Unknown keys make no difference**, also to why decoding fails. -/
theorem decode_known (entries : Entries) : decode (known entries) = decode entries := by
  unfold decode known
  rw [List.foldlM_map, List.foldlM_filter]
  congr 2
  funext d e
  simp only [decide_eq_true_eq]
  split_ifs with hKnown
  · exact take_knownEntry d e
  · obtain ⟨key, v⟩ := e
    simp only [List.mem_cons, List.not_mem_nil, or_false, not_or] at hKnown
    simp only [Draft.take, hKnown, if_false]
    rfl

-- ---------------------------------------------------------------------------
-- Texts
-- ---------------------------------------------------------------------------

section Texts

variable {text : String} (h : Toml.read? text = some entries)

include h

theorem parse_eq_ok_iff {c : Config} : parse text = .ok c ↔ decode entries = .ok c := by
  rw [parse, h]
  dsimp only
  cases decode entries <;> simp

theorem parse_eq_misfit_iff {m : Misfit} :
    parse text = .error (.misfit m) ↔ decode entries = .error m := by
  rw [parse, h]
  dsimp only
  cases decode entries <;> simp

/--
**What is made of a document.** Let a text be a TOML document in which the two sections are tables,
where they are there. Then:

* it gives a configuration if and only if the target and the proxy are texts, the number of workers
  is a whole number that is not negative, a bound on the concurrency is such a number if it is
  given, and each section that is given has both its keys with such numbers;
* the configuration is the only one that the document holds: each value is given, or it is left out
  and has its default. No section is given in part;
* it fails for its first value that does not fit, in the order of the document, where a section that
  lacks a key counts as a whole; and if all values fit, for the first of the target, the proxy and
  the workers that is missing;
* there is no other way to fail;
* a document that says the same under the known keys, in whatever order and whatever else it says,
  gives the same configuration, and one that differs in unknown keys only fails for the same reason;
* the order of the document is that of its lines, but for tables: a table stands with all its values
  where its header does, or else where it is first named.
-/
theorem parse_decides (hTables : HasTables entries) :
    ((∃ c, parse text = .ok c) ↔ IsComplete entries) ∧
    (∀ c, parse text = .ok c ↔ Holds entries c) ∧
    (∀ m, parse text = .error (.misfit m) ↔ DocumentMisfit entries m) ∧
    ((∃ c, parse text = .ok c) ∨ ∃ m, parse text = .error (.misfit m)) ∧
    (∀ text' entries', Toml.read? text' = some entries' →
      (HasTables entries' → Covers entries entries' → Covers entries' entries →
        ∀ c, parse text' = .ok c ↔ parse text = .ok c) ∧
      (known entries' = known entries → parse text' = parse text)) ∧
    ∃ lines, Toml.linesOf? text = some lines ∧ Toml.InOrder lines entries := by
  have hProper := Toml.properEntries_of_read? h
  -- what is decoded is what the document holds, and all the rest is about documents
  have hHolds (c : Config) : parse text = .ok c ↔ Holds entries c :=
    (parse_eq_ok_iff h).trans (decode_eq_ok_iff hProper hTables)
  refine ⟨?succeeds, hHolds, fun m => ?fails, ?decided, fun text' entries' h' => ⟨?same, ?unknown⟩,
    Toml.inOrder_of_read? h⟩
  case succeeds => simp only [parse_eq_ok_iff h, exists_decode_iff hProper hTables]
  case fails => rw [parse_eq_misfit_iff h, decode_eq_error_iff hProper hTables]
  case decided =>
    cases hDecode : decode entries with
    | ok c => exact .inl ⟨c, (parse_eq_ok_iff h).mpr hDecode⟩
    | error m => exact .inr ⟨m, (parse_eq_misfit_iff h).mpr hDecode⟩
  case same =>
    intro hTables' hCovers hBack c
    rw [hHolds, parse_eq_ok_iff h', decode_eq_ok_iff (Toml.properEntries_of_read? h') hTables']
    exact ⟨fun hHeld => hHeld.of_covers hTables hBack hCovers,
      fun hHeld => hHeld.of_covers hTables' hCovers hBack⟩
  case unknown =>
    intro hKnown
    -- the keys that nobody knows make no difference
    have hSame : decode entries' = decode entries := by
      rw [← decode_known entries', hKnown, decode_known]
    rw [parse, parse, h, h']
    simp only [hSame]

end Texts

set_option maxRecDepth 1000 in
/-- A document with a dotted section and an unknown key, and one with the section under a header and
another order. -/
theorem parse_decides_of_section :
    let text := "jitter.max_ms=2\nproxy='p'\nx=1\njitter.min_ms=1\ntarget_url='x:'\nworkers=3\n"
    let text' := "target_url='x:'\nproxy='p'\nworkers=3\n[jitter]\nmin_ms=1\nmax_ms=2\n"
    let c : Config := ⟨"x:", "p", 3, none, ⟨1, 2⟩, .default⟩
    parse text = .ok c ∧ parse text' = .ok c := by
  intro text text' c
  let inner : Entries := [("max_ms", .integer 2), ("min_ms", .integer 1)]
  let inner' : Entries := [("min_ms", .integer 1), ("max_ms", .integer 2)]
  let entries : Entries := [("jitter", .table inner), ("proxy", .string "p"), ("x", .integer 1),
    ("target_url", .string "x:"), ("workers", .integer 3)]
  let entries' : Entries := [("target_url", .string "x:"), ("proxy", .string "p"),
    ("workers", .integer 3), ("jitter", .table inner')]
  have hRead : Toml.read? text = some entries := by cbv
  have hRead' : Toml.read? text' = some entries' := by cbv
  have hTables : HasTables entries := by simp [HasTables, entries]
  have hTables' : HasTables entries' := by simp [HasTables, entries']
  obtain ⟨-, hHolds, -, -, hOther, -⟩ := parse_decides hRead hTables
  have hParse : parse text = .ok c := by
    -- every setting but the timeouts, which are those by default
    refine (hHolds c).mpr ⟨?_, ?_, ?_, ?_, ?_, .inl ⟨inner, ?_, ?_, ?_⟩, .inr ⟨?_, rfl⟩⟩
    all_goals simp [entries, inner, c, wordValue]
  refine ⟨hParse, ((hOther text' entries' hRead').1 hTables' ?_ ?_ c).mpr hParse⟩
  · constructor <;> simp [CoversSection, entries, entries', inner, inner']
  · constructor <;> simp [CoversSection, entries, entries', inner, inner']

/-- The first value in the text that does not fit need not be the one that is reported. Where a
dotted key comes back to a table, its value stands before the keys in between. -/
theorem not_textOrder_of_dotted :
    let text := "jitter.min_ms = 1\nworkers = \"x\"\njitter.max_ms = \"y\"\n"
    Toml.linesOf? text = some [.pair ⟨["jitter"], "min_ms"⟩ (.integer 1),
      .pair ⟨[], "workers"⟩ (.string "x"), .pair ⟨["jitter"], "max_ms"⟩ (.string "y")] ∧
    (∃ entries, Toml.read? text = some entries ∧ HasTables entries) ∧
    (∀ m, ¬ WordMisfit .word (.integer 1) m) ∧
    WordMisfit .count (.string "x") (.wrongKind (.string "x") .count) ∧
    parse text = .error (.misfit (.wrongKind (.string "y") .word)) ∧
    parse text ≠ .error (.misfit (.wrongKind (.string "x") .count)) := by
  intro text
  have hParse : parse text = .error (.misfit (.wrongKind (.string "y") .word)) := by cbv
  let entries : Entries := [("jitter", .table [("min_ms", .integer 1), ("max_ms", .string "y")]),
    ("workers", .string "x")]
  have hTables : HasTables entries := by simp [HasTables, entries]
  refine ⟨by cbv, ⟨entries, by cbv, hTables⟩, fun m => not_wordMisfit (by decide),
    .wrongKind (by simp), hParse, ?_⟩
  rw [hParse]
  intro hSame
  simp at hSame

end ProxyAudit.Config

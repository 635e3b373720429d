import Mathlib
import ProxyAudit.Proofs.Http.Framings

/-!
# Written replies

A reply that is written with a status, a framing and a place to go on to is a message whose head
says just that. The numbers of the head are read back from their digits.

Main results:

* `says_written`  — what the head of a written reply says.
-/

namespace ProxyAudit.Http

-- ---------------------------------------------------------------------------
-- Lines of a head
-- ---------------------------------------------------------------------------

namespace Head

/-- The status line of a written reply. -/
def statusLine (status : UInt32) : Bytes :=
  Bytes.ofText ("HTTP/1.1 " ++ String.ofList (Decimal.ofNatPadded 3 status.toNat) ++ " -")

variable {status : UInt32}

theorem statusLine_eq (hLow : 100 ≤ status.toNat) (hHigh : status.toNat < 1000) :
    statusLine status = Bytes.ofText
      (String.ofList ("HTTP/1.1 ".toList ++ Decimal.ofNat status.toNat ++ [' ', '-'])) := by
  have hPadded : Decimal.ofNatPadded 3 status.toNat = Decimal.ofNat status.toNat := by
    simp [Decimal.ofNatPadded, Decimal.ofNat_of_three hLow hHigh]
  rw [statusLine, hPadded, String.ofList_append, String.ofList_append, String.ofList_toList]

theorem ascii_statusLine (n : Nat) :
    ∀ c ∈ "HTTP/1.1 ".toList ++ Decimal.ofNat n ++ [' ', '-'], c.toNat < 128 ∧ c.toUInt8 ≠ 10 := by
  have hFixed : ("HTTP/1.1 ".toList ++ [' ', '-']).all
      (fun c => c.toNat < 128 ∧ c.toUInt8 ≠ 10) = true := by decide +kernel
  intro c hc
  by_cases hDigit : c ∈ Decimal.ofNat n
  · obtain ⟨hAscii, -, -, hBreak, -⟩ := Decimal.plain_of_mem_ofNat hDigit
    exact ⟨hAscii, hBreak⟩
  · have hMem : c ∈ "HTTP/1.1 ".toList ++ [' ', '-'] := by
      simpa [hDigit] using hc
    exact of_decide_eq_true (List.all_eq_true.mp hFixed c hMem)

theorem not_mem_statusLine (hLow : 100 ≤ status.toNat) (hHigh : status.toNat < 1000) :
    10 ∉ statusLine status := by
  rw [statusLine_eq hLow hHigh, Bytes.ofText_ofList fun c hc => (ascii_statusLine _ c hc).1]
  intro hMem
  obtain ⟨c, hc, hByte⟩ := List.mem_map.mp hMem
  exact (ascii_statusLine _ c hc).2 hByte

theorem ofStatusLine?_statusLine (hLow : 100 ≤ status.toNat) (hHigh : status.toNat < 1000) :
    ofStatusLine? (statusLine status) = some (ofStatus status) := by
  have hDigits := Decimal.ofNat_of_three hLow hHigh
  have hLower : (statusLine status).map lower
      = "http/1.1 ".toList ++ Decimal.ofNat status.toNat ++ [' ', '-'] := by
    rw [statusLine_eq hLow hHigh, map_lower_ofText fun c hc => (ascii_statusLine _ c hc).1,
      List.map_append, List.map_append, Decimal.toLower_ofNat]
    rfl
  -- the status is what stands between the blanks
  have hCode : ((Decimal.ofNat status.toNat ++ [' ', '-']).dropWhile (· == ' ')).takeWhile
      (· != ' ') = Decimal.ofNat status.toNat := by
    have hSpace : ∀ c ∈ Decimal.ofNat status.toNat, c ≠ ' ' :=
      fun c hc => (Decimal.plain_of_mem_ofNat hc).2.2.1
    rw [hDigits] at hSpace ⊢
    simp only [List.forall_mem_cons] at hSpace
    simp [hSpace]
  have hNumber : UInt32.ofNat status.toNat = status := UInt32.ofNat_toNat
  have hLength : (Decimal.ofNat status.toNat).length = 3 := by rw [hDigits]; rfl
  have hShape : (statusLine status).map lower = 'h' :: 't' :: 't' :: 'p' :: '/' :: '1' :: '.' ::
      '1' :: ' ' :: (Decimal.ofNat status.toNat ++ [' ', '-']) := hLower
  simp only [ofStatusLine?, hShape, hCode]
  simp [hLength, Decimal.toNat?_ofNat, hNumber]

/-- A field: its name, a colon, a blank, and its value. -/
theorem splitField_append {name : Bytes} (hName : 58 ∉ name) (value : Bytes) :
    splitField (name ++ [58, 32] ++ value) = (name.map lower, trim value) := by
  -- the name has no colon, so the line is cut at the one after it
  have hNone : ∀ b ∈ name, decide (b ≠ 58) = true := by
    intro b hb
    refine decide_eq_true fun hSame => hName ?_
    rwa [← hSame]
  have hTake : (name ++ [58, 32] ++ value).takeWhile (· ≠ 58) = name := by
    rw [List.append_assoc, List.takeWhile_append_of_pos hNone]
    simp
  have hDrop : (name ++ [58, 32] ++ value).dropWhile (· ≠ 58) = [58, 32] ++ value := by
    rw [List.append_assoc, List.dropWhile_append_of_pos hNone]
    simp
  rw [splitField, hTake, hDrop]
  simp [trim]

theorem trim_of_plain {bs : Bytes} (h : ∀ b ∈ bs, b ≠ 32 ∧ b ≠ 9) : trim bs = bs := by
  have hFront (cs : Bytes) (hcs : ∀ b ∈ cs, b ≠ 32 ∧ b ≠ 9) :
      cs.dropWhile (fun b => b == 32 || b == 9) = cs := by
    cases cs with
    | nil => rfl
    | cons c cs =>
      obtain ⟨hSpace, hTab⟩ := hcs c List.mem_cons_self
      simp [hSpace, hTab]
  have hBack := hFront bs.reverse fun b hb => h b (List.mem_reverse.mp hb)
  simp [trim, hFront bs h, hBack]

theorem plain_number (n : Nat) :
    ∀ b ∈ Bytes.ofText (Decimal.text n), b ≠ 10 ∧ b ≠ 32 ∧ b ≠ 9 := by
  intro b hb
  rw [Decimal.text, Bytes.ofText_ofList fun c hc => (Decimal.plain_of_mem_ofNat hc).1] at hb
  obtain ⟨c, hc, rfl⟩ := List.mem_map.mp hb
  exact (Decimal.plain_of_mem_ofNat hc).2.2.2

theorem leadingNumber?_number (n : Nat) :
    leadingNumber? (Bytes.ofText (Decimal.text n)) = some n := by
  -- the bytes of a number are its digits again
  have hDigits : (Bytes.ofText (Decimal.text n)).map (fun b => Char.ofNat b.toNat)
      = Decimal.ofNat n := by
    rw [Decimal.text, Bytes.ofText_ofList fun c hc => (Decimal.plain_of_mem_ofNat hc).1,
      List.map_map]
    conv_rhs => rw [← List.map_id (Decimal.ofNat n)]
    refine List.map_congr_left fun c hc => ?_
    rw [Function.comp_apply, Bytes.toNat_toUInt8 (Decimal.plain_of_mem_ofNat hc).1,
      Char.ofNat_toNat]
    rfl
  have hAll : (Decimal.ofNat n).takeWhile Decimal.isDigit = Decimal.ofNat n := by
    rw [List.takeWhile_eq_self_iff]
    exact fun c hc => Decimal.isDigit_of_mem_ofNat hc
  rw [leadingNumber?, hDigits, hAll, Decimal.toNat?_ofNat]

variable {h : Head}

theorem addField_length (h : Head) (n : Nat) :
    h.addField (Bytes.ofText ("Content-Length: " ++ Decimal.text n))
      = .ok { h with length := some n } := by
  have hLine : Bytes.ofText "Content-Length: " = Bytes.ofText "Content-Length" ++ [58, 32] := by
    decide +kernel
  have hName : (Bytes.ofText "Content-Length").map lower = "content-length".toList := by
    decide +kernel
  rw [addField, Bytes.ofText_append, hLine, splitField_append (by decide +kernel), hName,
    trim_of_plain fun b hb => (plain_number n b hb).2]
  simp [leadingNumber?_number]

theorem addField_chunked (h : Head) :
    h.addField (Bytes.ofText "Transfer-Encoding: chunked") = .ok { h with isChunked := true } := by
  have hSplit : splitField (Bytes.ofText "Transfer-Encoding: chunked")
      = ("transfer-encoding".toList, Bytes.ofText "chunked") := by decide +kernel
  have hCoding : isChunkedCoding (Bytes.ofText "chunked") = true := by decide +kernel
  have hOther : "transfer-encoding".toList ≠ "content-length".toList := by decide +kernel
  simp only [addField, hSplit, hCoding, if_neg hOther, Bool.or_true, if_true]

/-- A place that is not named at all counts for nothing. -/
theorem addField_location {location : String} (hNone : h.location = none)
    (hTrim : trim (Bytes.ofText location) = Bytes.ofText location) :
    h.addField (Bytes.ofText ("Location: " ++ location))
      = .ok { h with location := (some location).filter (· ≠ "") } := by
  have hLine : Bytes.ofText "Location: " = Bytes.ofText "Location" ++ [58, 32] := by
    decide +kernel
  have hName : (Bytes.ofText "Location").map lower = "location".toList := by decide +kernel
  -- the name is neither of the two that frame a body
  have hLength : "location".toList ≠ "content-length".toList := by decide +kernel
  have hCoding : "location".toList ≠ "transfer-encoding".toList := by decide +kernel
  -- an empty place is none
  have hEmpty : Bytes.ofText location = [] ↔ location = "" := by
    constructor
    · intro hBytes
      exact Bytes.ofText_inj (hBytes.trans (by decide +kernel))
    · rintro rfl
      decide +kernel
  rw [addField, Bytes.ofText_append, hLine, splitField_append (by decide +kernel), hName, hTrim]
  simp only [if_neg hLength, if_neg hCoding, hNone, Bytes.toText?_ofText, true_and, and_true, ne_eq,
    hEmpty]
  by_cases hPlace : location = ""
  · cases h
    cases hNone
    simp [hPlace, Option.filter]
  · simp [hPlace, Option.filter]

end Head

-- ---------------------------------------------------------------------------
-- Whole replies
-- ---------------------------------------------------------------------------

/-- A written reply as a message. -/
def Message.written (status : UInt32) (f : Framing) (location : Option String)
    (pieces : List Bytes) : Message where
  statusLine := Head.statusLine status
  fields :=
    (location.map fun l => Bytes.ofText ("Location: " ++ l)).toList ++ f.field pieces.flatten
  framing := f
  pieces := pieces

/-- The head of a written reply. A place without a text counts for nothing. -/
def Head.written (status : UInt32) (f : Framing) (location : Option String)
    (body : Bytes) : Head where
  status := status
  length := if f = .length then some body.length else none
  isChunked := f = .chunked
  location := location.filter (· ≠ "")

/-- A final reply whose place to go on to stands in its line as it is, and that has a body only if
its status allows for one. -/
structure IsWritable (status : UInt32) (location : Option String) (pieces : List Bytes) : Prop where
  low : 200 ≤ status.toNat
  high : status.toNat < 1000
  inLine : ∀ l ∈ location, 10 ∉ Bytes.ofText l
  trimmed : ∀ l ∈ location, Head.trim (Bytes.ofText l) = Bytes.ofText l
  bodiless : status = 204 ∨ status = 304 → pieces.flatten = []

namespace Message

variable {status : UInt32} {f : Framing} {location : Option String} {pieces : List Bytes}

theorem bytes_written :
    (written status f location pieces).bytes = replyBytes status f location pieces := by
  simp [written, bytes, head, body, replyBytes, Head.statusLine]

theorem foldlM_location (h : Head) (hNone : h.location = none)
    (hTrim : ∀ l ∈ location, Head.trim (Bytes.ofText l) = Bytes.ofText l) :
    (location.map fun l => Bytes.ofText ("Location: " ++ l)).toList.foldlM Head.addField h
      = .ok { h with location := location.filter (· ≠ "") } := by
  cases location with
  | none =>
    cases h
    cases hNone
    rfl
  | some l => simpa using Head.addField_location hNone (hTrim l rfl)

theorem foldlM_field (h : Head) (f : Framing) (body : Bytes) (hNone : h.length = none)
    (hPlain : h.isChunked = false) :
    (f.field body).foldlM Head.addField h
      = .ok { h with length := if f = .length then some body.length else none,
                     isChunked := f = .chunked } := by
  cases h
  cases hNone
  cases hPlain
  cases f with
  | length => simp [Framing.field, Head.addField_length]
  | chunked => simp [Framing.field, Head.addField_chunked]
  | close => rfl

theorem field_isLine (f : Framing) (body : Bytes) :
    ∀ line ∈ f.field body, 10 ∉ line ∧ line ≠ [] := by
  intro line hLine
  cases f with
  | length =>
    rw [List.mem_singleton.mp hLine, Bytes.ofText_append, List.mem_append, not_or]
    have hName : 10 ∉ Bytes.ofText "Content-Length: " ∧ Bytes.ofText "Content-Length: " ≠ [] := by
      decide +kernel
    exact ⟨⟨hName.1, fun hMem => (Head.plain_number _ _ hMem).1 rfl⟩,
      List.append_ne_nil_of_left_ne_nil hName.2 _⟩
  | chunked =>
    rw [List.mem_singleton.mp hLine]
    decide +kernel
  | close => contradiction

theorem fields_areLines (hWritable : IsWritable status location pieces) (f : Framing) :
    ∀ line ∈ (written status f location pieces).fields, 10 ∉ line ∧ line ≠ [] := by
  intro line hLine
  rcases List.mem_append.mp hLine with hPlace | hField
  · obtain ⟨l, hl, rfl⟩ := Option.map_eq_some_iff.mp (Option.mem_toList.mp hPlace)
    have hName : 10 ∉ Bytes.ofText "Location: " ∧ Bytes.ofText "Location: " ≠ [] := by
      decide +kernel
    rw [Bytes.ofText_append, List.mem_append, not_or]
    exact ⟨⟨hName.1, hWritable.inLine l hl⟩, List.append_ne_nil_of_left_ne_nil hName.2 _⟩
  · exact field_isLine f _ line hField

/-- **The head of a written reply says what it was written for.** -/
theorem says_written (hWritable : IsWritable status location pieces) (f : Framing) :
    (written status f location pieces).Says (Head.written status f location pieces.flatten) := by
  have hLow : 100 ≤ status.toNat := Nat.le_trans (by omega) hWritable.low
  have hFields := fields_areLines hWritable f
  refine ⟨?lines, fun line hLine => (hFields line hLine).2, ?reads, ?final, ?announces, ?bodiless⟩
  case lines =>
    rw [List.forall_mem_cons]
    exact ⟨Head.not_mem_statusLine hLow hWritable.high, fun line hLine => (hFields line hLine).1⟩
  case reads =>
    refine ⟨_, Head.ofStatusLine?_statusLine hLow hWritable.high, ?_⟩
    rw [written, List.foldlM_append, foldlM_location _ rfl hWritable.trimmed]
    exact foldlM_field _ f pieces.flatten rfl rfl
  case final =>
    have hFinal : ¬ status < 200 := by
      rw [UInt32.lt_iff_toNat_lt]
      exact Nat.not_lt.mpr hWritable.low
    simp [Head.isInterim, Head.written, hFinal]
  case announces =>
    cases f with
    | length => exact ⟨rfl, rfl⟩
    | chunked => rfl
    | close => exact ⟨rfl, rfl⟩
  case bodiless =>
    intro hBodiless
    exact hWritable.bodiless (by simpa [Head.isBodiless, Head.written] using hBodiless)

end Message

end ProxyAudit.Http

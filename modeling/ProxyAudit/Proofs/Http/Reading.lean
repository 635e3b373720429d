import Mathlib
import ProxyAudit.Http.Message
import ProxyAudit.Proofs.Text.Digits

/-!
# Steps of the reader

A reader takes a reply byte by byte. What it makes of whole parts of a reply is said here: of lines,
of fields, of bytes that are counted, and of chunks. A part that is cut short leaves the reader of a
body in the middle of it, unless the connection marks the end.

Main results:

* `exists_readReply`  — what is read of segments is what is read of them together.
* `scan_line`         — a line is read to its end.
* `scan_fields`       — fields are read one after the other.
* `scan_chunks`       — chunks are read without what marks them.
* `conclude_of_cut`   — what becomes of a reply that is cut short.
-/

namespace ProxyAudit.Http

/-- A text of ASCII characters in lower case. -/
theorem Head.map_lower_ofText {cs : List Char} (h : ∀ c ∈ cs, c.toNat < 128) :
    (Bytes.ofText (String.ofList cs)).map lower = cs.map Char.toLower := by
  rw [Bytes.ofText_ofList h, List.map_map]
  refine List.map_congr_left fun c hc => ?_
  rw [Function.comp_apply, lower, Bytes.toNat_toUInt8 (h c hc), Char.ofNat_toNat]

-- ---------------------------------------------------------------------------
-- Segments
-- ---------------------------------------------------------------------------

namespace Reader

theorem scanAll_fst (r : Reader) (segments : List Bytes) :
    (r.scanAll segments).1 = (r.scan segments.flatten).1 := by
  induction segments generalizing r with
  | nil => rfl
  | cons segment more ih => simp only [scanAll, ih, List.flatten_cons, scan_append]

theorem flatten_scanAll (r : Reader) (segments : List Bytes) :
    (r.scanAll segments).2.flatten = (r.scan segments.flatten).2 := by
  induction segments generalizing r with
  | nil => rfl
  | cons segment more ih =>
    have hMore := ih (r.scan segment).1
    simp only [scanAll, List.flatten_cons, scan_append]
    split
    · next hEmpty => rw [hMore, List.isEmpty_iff.mp hEmpty, List.nil_append]
    · rw [List.flatten_cons, hMore]

end Reader

/-- What is read of segments is what is read of them together, but for the cuts in the body. -/
theorem exists_readReply (segments : List Bytes) (ending : Ending) :
    ∃ pieces, readReply segments ending
        = (Reader.start.scan segments.flatten).1.conclude pieces ending ∧
      pieces.flatten = (Reader.start.scan segments.flatten).2 := by
  refine ⟨_, ?_, Reader.flatten_scanAll _ _⟩
  rw [readReply, ← Reader.scanAll_fst]

-- ---------------------------------------------------------------------------
-- Lines
-- ---------------------------------------------------------------------------

/-- Phases that read a line. -/
def Phase.isLine : Phase → Bool
  | status | fields _ | chunkSize _ | trailer _ => true
  | _ => false

/-- A phase that reads a line and refuses no beginning of the given one. -/
structure Phase.Admits (p : Phase) (line : Bytes) : Prop where
  isLine : p.isLine = true
  refuses : ∀ front, front <+: line → front ≠ [] → p.refuses front = none

namespace Reader

theorem step_of_isLine {r : Reader} (h : r.phase.isLine = true) (b : UInt8) :
    r.step b = (r.inLine b, false) := by
  unfold step
  split
  case h_1 | h_2 | h_3 | h_4 => rfl
  all_goals
    next hPhase =>
    rw [hPhase] at h
    contradiction

theorem scan_admitted {p : Phase} {seen bs : Bytes} (hAdmits : p.Admits (seen ++ bs))
    (hBreak : 10 ∉ bs) : scan ⟨p, seen.reverse⟩ bs = (⟨p, (seen ++ bs).reverse⟩, []) := by
  -- the reader keeps what it has seen of the line, last byte first
  induction bs generalizing seen with
  | nil => simp [scan]
  | cons b bs ih =>
    rw [List.mem_cons, not_or] at hBreak
    have hFront : p.refuses (seen ++ [b]) = none :=
      hAdmits.refuses _ ⟨bs, by simp⟩ (by simp)
    have hStep : step ⟨p, seen.reverse⟩ b = (⟨p, (seen ++ [b]).reverse⟩, false) := by
      rw [step_of_isLine hAdmits.isLine, inLine, if_neg (Ne.symm hBreak.1)]
      simp [hFront]
    have hSplit : seen ++ b :: bs = (seen ++ [b]) ++ bs := by simp
    rw [hSplit] at hAdmits ⊢
    rw [scan, hStep]
    simp only [ih hAdmits hBreak.2, Bool.false_eq_true, if_false]

/-- **A line is read to its end.** -/
theorem scan_line {p : Phase} {line : Bytes} (hAdmits : p.Admits (line ++ [13]))
    (hBreak : 10 ∉ line) : scan ⟨p, []⟩ (line ++ [13, 10]) = (⟨p.afterLine line, []⟩, []) := by
  have hLine : scan ⟨p, []⟩ (line ++ [13]) = (⟨p, (line ++ [13]).reverse⟩, []) :=
    @scan_admitted p [] _ hAdmits (by simp [hBreak])
  have hSplit : line ++ [13, 10] = (line ++ [13]) ++ [10] := by simp
  rw [hSplit, scan_append, hLine]
  simp [scan, step_of_isLine (r := ⟨p, _⟩) hAdmits.isLine, inLine]

/-- What is over takes nothing more. -/
theorem scan_over {r : Reader} (h : r.isOver = true) (bs : Bytes) : r.scan bs = (r, []) := by
  have hStep (b : UInt8) : r.step b = (r, false) := by
    unfold isOver at h
    unfold step
    split at h
    case h_1 hPhase | h_2 hPhase => rw [hPhase]
    case h_3 => contradiction
  induction bs with
  | nil => rfl
  | cons b bs ih => simp [scan, hStep, ih]

end Reader

-- ---------------------------------------------------------------------------
-- Heads
-- ---------------------------------------------------------------------------

theorem headBytes_eq (lines : List Bytes) :
    headBytes lines = lines.flatMap (· ++ [13, 10]) ++ [13, 10] := by
  simp [headBytes]

namespace Reader

theorem admits_fields (h : Head) (line : Bytes) : (Phase.fields h).Admits line :=
  ⟨rfl, fun _ _ _ => rfl⟩

/-- A line that is a status line at all starts like one. -/
theorem admits_status {line : Bytes} {h : Head} (hLine : Head.ofStatusLine? line = some h) :
    Phase.status.Admits (line ++ [13]) := by
  refine ⟨rfl, fun front hFront _ => ?_⟩
  -- the line begins with the name of the protocol, so no part of it is refused
  have hName : ((line ++ [13]).map Head.lower).take Head.protocolName.length
      = Head.protocolName := by
    unfold Head.ofStatusLine? at hLine
    split at hLine
    · next hChars =>
      rw [List.map_append, hChars]
      rfl
    · contradiction
  have hStart : Head.maybeStatusLine front = true := by
    rw [Head.maybeStatusLine, List.isPrefixOf_iff_prefix]
    have hPrefix := (hFront.map Head.lower).take Head.protocolName.length
    rwa [hName] at hPrefix
  simp [Phase.refuses, hStart]

/-- **Fields are read one after the other.** -/
theorem scan_fields {h₀ h : Head} {fields : List Bytes} (hLines : ∀ line ∈ fields, 10 ∉ line)
    (hNonempty : ∀ line ∈ fields, line ≠ [])
    (hHead : fields.foldlM Head.addField h₀ = .ok h) :
    scan ⟨.fields h₀, []⟩ (fields.flatMap (· ++ [13, 10])) = (⟨.fields h, []⟩, []) := by
  induction fields generalizing h₀ with
  | nil =>
    cases hHead
    rfl
  | cons line fields ih =>
    rw [List.forall_mem_cons] at hLines hNonempty
    rw [List.foldlM_cons] at hHead
    cases hField : h₀.addField line with
    | error f =>
      rw [hField] at hHead
      contradiction
    | ok h₁ =>
      rw [hField] at hHead
      -- a line that is not empty adds its field, and the reader stays among the fields
      have hAfter : (Phase.fields h₀).afterLine line = .fields h₁ := by
        simp [Phase.afterLine, hNonempty.1, hField]
      rw [List.flatMap_cons, scan_append, scan_line (admits_fields _ _) hLines.1, hAfter,
        ih hLines.2 hNonempty.2 hHead]
      rfl

-- ---------------------------------------------------------------------------
-- Bodies
-- ---------------------------------------------------------------------------

/-- Where bytes are counted, they are taken until the count is used up. -/
theorem scan_countdown {counting : Nat → Phase} {after : Phase}
    (hStep : ∀ left line b, step ⟨counting left, line⟩ b
      = (⟨if left ≤ 1 then after else counting (left - 1), line⟩, true))
    {bs : Bytes} {n : Nat} (hBs : bs ≠ []) (hLength : bs.length ≤ n) (line : Bytes) :
    scan ⟨counting n, line⟩ bs
      = (⟨if bs.length = n then after else counting (n - bs.length), line⟩, bs) := by
  induction bs generalizing n with
  | nil => contradiction
  | cons b bs ih =>
    rw [List.length_cons] at hLength
    rw [scan, hStep]
    by_cases hLast : bs = []
    · -- the last byte may leave some of the count
      subst hLast
      have hOne : (n ≤ 1) = (1 = n) :=
        propext ⟨fun h => Nat.le_antisymm hLength h, fun h => by omega⟩
      simp [scan, hOne]
    · have hMore : ¬ n ≤ 1 := by
        have := List.length_pos_iff.mpr hLast
        omega
      have hRest := ih (n := n - 1) hLast (by omega)
      have hSame : (bs.length = n - 1) = (bs.length + 1 = n) :=
        propext ⟨fun h => by omega, fun h => by omega⟩
      have hLeft : n - 1 - bs.length = n - (bs.length + 1) := by omega
      simp [hMore, hRest, hSame, hLeft]

theorem step_counted (h : Head) (left : Nat) (line : Bytes) (b : UInt8) :
    step ⟨.counted h left, line⟩ b
      = (⟨if left ≤ 1 then .ended h else .counted h (left - 1), line⟩, true) :=
  rfl

theorem step_chunk (h : Head) (left : Nat) (line : Bytes) (b : UInt8) :
    step ⟨.chunk h left, line⟩ b
      = (⟨if left ≤ 1 then .chunkEnd h else .chunk h (left - 1), line⟩, true) :=
  rfl

theorem scan_unbounded (h : Head) (line bs : Bytes) :
    scan ⟨.unbounded h, line⟩ bs = (⟨.unbounded h, line⟩, bs) := by
  induction bs with
  | nil => rfl
  | cons b bs ih => simp [scan, step, ih]

/-- The line with the size of a chunk. -/
def sizeLine (n : Nat) : Bytes :=
  Bytes.ofText (String.ofList (Hex.ofNat n))

theorem map_lower_sizeLine (n : Nat) : (sizeLine n).map Head.lower = Hex.ofNat n := by
  rw [sizeLine, Head.map_lower_ofText fun c hc => (Hex.plain_of_mem_ofNat hc).1, Hex.toLower_ofNat]

theorem not_mem_sizeLine (n : Nat) : 10 ∉ sizeLine n := by
  intro hMem
  rw [sizeLine, Bytes.ofText_ofList fun c hc => (Hex.plain_of_mem_ofNat hc).1] at hMem
  obtain ⟨c, hc, hByte⟩ := List.mem_map.mp hMem
  exact (Hex.plain_of_mem_ofNat hc).2.2.2 hByte

theorem afterLine_sizeLine (h : Head) (n : Nat) :
    (Phase.chunkSize h).afterLine (sizeLine n) = if n = 0 then .trailer h else .chunk h n := by
  have hDigits : ((sizeLine n).map Head.lower).takeWhile Hex.isDigit = Hex.ofNat n := by
    rw [map_lower_sizeLine, List.takeWhile_eq_self_iff]
    exact fun c hc => (Hex.plain_of_mem_ofNat hc).2.2.1
  have hNumber := Hex.toNat?_ofNat n
  rw [Phase.afterLine, hDigits]
  cases hSome : Hex.ofNat n with
  | nil => exact absurd hSome (Hex.ofNat_ne_nil n)
  | cons d ds =>
    rw [hSome] at hNumber
    cases n <;> simp [hNumber]

theorem admits_sizeLine (h : Head) (n : Nat) (rest : Bytes) :
    (Phase.chunkSize h).Admits (sizeLine n ++ rest) := by
  refine ⟨rfl, fun front hFront hNonempty => ?_⟩
  obtain ⟨b, front, rfl⟩ := List.exists_cons_of_ne_nil hNonempty
  -- the first byte is that of the first digit
  have hFirst : Head.lower b ∈ Hex.ofNat n := by
    rw [← map_lower_sizeLine]
    cases hLine : sizeLine n with
    | nil => exact absurd (by simpa [hLine] using map_lower_sizeLine n) (Hex.ofNat_ne_nil n).symm
    | cons d ds =>
      obtain ⟨more, hMore⟩ := hFront
      rw [hLine] at hMore
      rw [(List.cons.inj hMore).1]
      exact List.mem_cons_self
  simp [Phase.refuses, (Hex.plain_of_mem_ofNat hFirst).2.2.1]

theorem scan_sizeLine (h : Head) (n : Nat) :
    scan ⟨.chunkSize h, []⟩ (sizeLine n ++ [13, 10])
      = (⟨if n = 0 then .trailer h else .chunk h n, []⟩, []) := by
  rw [scan_line (admits_sizeLine h n [13]) (not_mem_sizeLine n), afterLine_sizeLine]

theorem chunkBytes_eq (chunk : Bytes) :
    Framing.chunkBytes chunk = (sizeLine chunk.length ++ [13, 10]) ++ (chunk ++ [13, 10]) := by
  rw [Framing.chunkBytes, Hex.toDigits_eq, ← List.append_assoc]
  rfl

theorem scan_chunk (h : Head) {chunk : Bytes} (hNonempty : chunk ≠ []) :
    scan ⟨.chunkSize h, []⟩ (Framing.chunkBytes chunk) = (⟨.chunkSize h, []⟩, chunk) := by
  have hSize : chunk.length ≠ 0 := by simpa using hNonempty
  have hChunk := scan_countdown (step_chunk h) hNonempty (Nat.le_refl _) []
  have hEnd : scan ⟨.chunkEnd h, []⟩ [13, 10] = (⟨.chunkSize h, []⟩, []) := rfl
  rw [chunkBytes_eq, scan_append, scan_sizeLine, if_neg hSize, scan_append, hChunk, if_pos rfl,
    hEnd]
  simp

/-- Chunks, of which the empty ones are not written. -/
def chunksBytes (chunks : List Bytes) : Bytes :=
  (chunks.filter (!·.isEmpty)).flatMap Framing.chunkBytes

/-- **Chunks are read without what marks them.** -/
theorem scan_chunks (h : Head) (chunks : List Bytes) :
    scan ⟨.chunkSize h, []⟩ (chunksBytes chunks) = (⟨.chunkSize h, []⟩, chunks.flatten) := by
  rw [chunksBytes]
  induction chunks with
  | nil => rfl
  | cons chunk chunks ih =>
    by_cases hEmpty : chunk = []
    · simpa [hEmpty] using ih
    · simp only [List.isEmpty_eq_false_iff.mpr hEmpty, Bool.not_false, List.filter_cons_of_pos,
        List.flatMap_cons, List.flatten_cons]
      rw [scan_append, scan_chunk h hEmpty, ih]

/-- The chunks of a body, and all of what marks its end but the last byte. -/
theorem bodyBytes_chunked (pieces : List Bytes) :
    Framing.chunked.bodyBytes pieces
      = (chunksBytes pieces ++ (sizeLine 0 ++ [13, 10]) ++ [13]) ++ [10] := by
  have hZero : Bytes.ofText "0" = sizeLine 0 := by decide +kernel
  simp [Framing.bodyBytes, chunksBytes, hZero]

/-- Before its last byte a body in chunks is known in full, but not over. -/
theorem scan_beforeEnd (h : Head) (pieces : List Bytes) :
    scan ⟨.chunkSize h, []⟩ (chunksBytes pieces ++ (sizeLine 0 ++ [13, 10]) ++ [13])
      = (⟨.trailer h, [13]⟩, pieces.flatten) := by
  have hLast : scan ⟨.trailer h, []⟩ [13] = (⟨.trailer h, [13]⟩, []) := rfl
  rw [List.append_assoc, scan_append, scan_chunks, scan_append, scan_sizeLine, if_pos rfl, hLast]
  simp

end Reader

-- ---------------------------------------------------------------------------
-- Cut bodies
-- ---------------------------------------------------------------------------

/-- The fault of a reply that has not ended when the connection does. -/
def Ending.fault : Ending → Fault
  | closed => .partialBody
  | reset => .receiveFailure
  | late => .timedOut

/-- Phases in a body that does not end with the connection. -/
def Phase.isDelimited : Phase → Bool
  | status | fields _ | unbounded _ => false
  | _ => true

namespace Reader

theorem step_delimited {r : Reader} (h : r.phase.isDelimited = true) (b : UInt8) :
    (r.step b).1.phase.isDelimited = true := by
  obtain ⟨p, line⟩ := r
  cases p with
  | status | fields _ | unbounded _ => contradiction
  | counted h left | chunk h left =>
    simp only [step]
    split <;> rfl
  | chunkEnd h =>
    simp only [step]
    split
    · rfl
    · split <;> rfl
  | chunkSize h | trailer h =>
    simp only [step, inLine]
    split
    · -- the line is whole
      simp only [Phase.afterLine]
      repeat' split
      all_goals rfl
    · split <;> rfl
  | ended h | failed f => rfl

theorem scan_delimited {r : Reader} (h : r.phase.isDelimited = true) (bs : Bytes) :
    (r.scan bs).1.phase.isDelimited = true := by
  induction bs generalizing r with
  | nil => exact h
  | cons b bs ih => exact ih (step_delimited h b)

/-- A chunk that does not start with its size. -/
theorem scan_noSize (h : Head) {b : UInt8} (hDigit : Hex.isDigit (Head.lower b) = false)
    (rest : Bytes) :
    scan ⟨.chunkSize h, []⟩ (b :: rest) = (⟨.failed .receiveFailure, []⟩, []) := by
  have hFailed : step ⟨.chunkSize h, []⟩ b = (⟨.failed .receiveFailure, []⟩, false) := by
    by_cases hBreak : b = 10
    · subst hBreak
      rfl
    · simp [step, inLine, hBreak, Phase.refuses, hDigit]
  have hRest := scan_over (r := ⟨.failed .receiveFailure, []⟩) rfl rest
  simp [scan, hFailed, hRest]

/-- **A connection that ends within a body breaks the reply off.** One that is reset or too late
does so in a head too. -/
theorem conclude_of_cut {r : Reader} {ending : Ending} (hOver : r.isOver = false)
    (hClosed : ending = .closed → r.phase.isDelimited = true) (pieces : List Bytes) :
    r.conclude pieces ending = .broken pieces ending.fault := by
  obtain ⟨p, line⟩ := r
  cases ending with
  | closed =>
    have hDelimited := hClosed rfl
    cases p <;> first | contradiction | rfl
  | reset | late => cases p <;> first | contradiction | rfl

/-- What is over stays over. -/
theorem not_isOver_of_prefix {r : Reader} {part whole : Bytes} (hPart : part <+: whole)
    (h : (r.scan whole).1.isOver = false) : (r.scan part).1.isOver = false := by
  obtain ⟨more, rfl⟩ := hPart
  by_contra hOver
  rw [Bool.not_eq_false] at hOver
  rw [scan_append, scan_over hOver, hOver] at h
  contradiction

end Reader

end ProxyAudit.Http

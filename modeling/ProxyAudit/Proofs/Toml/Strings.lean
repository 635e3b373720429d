import Mathlib
import ProxyAudit.Toml.Lexeme
import ProxyAudit.Toml.Printer
import ProxyAudit.Proofs.Text.Digits

/-!
# Written strings read back

A text may be written as any of four kinds of strings. In a basic string every character stands for
itself or is escaped; in a literal string it stands for itself. A string over lines ends with three
quotes, and quotes of the text may stand right before them: the reader takes a run of up to five
quotes apart, so a writer has to keep the runs of the text below three.

Main results:

* `readBasic?_escapeBasic`        — a basic string on one line.
* `readBasicLines?_escapeBasic`   — a basic string over lines.
* `readLiteralLines?_eq`          — a literal string over lines.
* `readString?_stringText`        — the string that is written for a text reads as the text.
-/

namespace ProxyAudit.Toml

variable {c q : Char} {cs piece rest : List Char} {lines : Bool} {run : Nat}

-- ---------------------------------------------------------------------------
-- Characters of basic strings
-- ---------------------------------------------------------------------------

/-- What stands for a character in a basic string: the character, if it is plain, a letter behind a
backslash, or its code. Over lines a line end stands for itself. -/
inductive Piece (lines : Bool) (c : Char) : List Char → Prop where
  | plain (hPlain : isPlain c = true) (hQuote : c ≠ '"') (hBackslash : c ≠ '\\') : Piece lines c [c]
  | lineEnd (hLines : lines = true) (h : c = '\n') : Piece lines c ['\n']
  | letter {e : Char} (h : escaped? e = some c) : Piece lines c ['\\', e]
  | code {x y z t : Char} (h : scalar? [x, y, z, t] = some c) :
      Piece lines c ['\\', 'u', x, y, z, t]

theorem isPlain_or_lineEnd (h : needsCode c = false) : isPlain c = true ∨ c = '\n' := by
  by_cases hTab : c = '\t'
  · exact .inl (by simp [isPlain, hTab])
  by_cases hEnd : c = '\n'
  · exact .inr hEnd
  · left
    simp [needsCode, hTab, hEnd] at h
    simp [isPlain, h.1, h.2]

/-- A carriage return is written only as an escape. -/
theorem ne_return (h : isPlain c = true ∨ c = '\n') : c ≠ '\r' := by
  rintro rfl
  exact absurd h (by decide)

/-- The code of a control character has four digits. -/
theorem exists_code (h : needsCode c = true) :
    ∃ x y z t, (Hex.ofNatPadded 4 c.toNat).map Char.toUpper = [x, y, z, t] ∧
      scalar? [x, y, z, t] = some c := by
  -- what needs a code is a control character, so four digits are enough
  have hSmall : c.toNat < 16 ^ 4 := by
    simp [needsCode] at h
    omega
  have hLength : ((Hex.ofNatPadded 4 c.toNat).map Char.toUpper).length = 4 := by
    rw [List.length_map, Hex.length_ofNatPadded]
  have hNumber := Hex.toNat?_toUpper_ofNatPadded hSmall
  match hDigits : (Hex.ofNatPadded 4 c.toNat).map Char.toUpper, hLength with
  | [x, y, z, t], _ =>
    rw [hDigits] at hNumber
    refine ⟨x, y, z, t, rfl, ?_⟩
    have hValid : c.toNat.isValidChar := c.valid
    simp [scalar?, hNumber, hValid, Char.ofNat_toNat]

/-- What stands for a character other than a quote starts with no quote, and with a line end only if
the character is one. -/
theorem Piece.exists_head (h : Piece lines c piece) (hQuote : c ≠ '"') :
    ∃ d ds, piece = d :: ds ∧ d ≠ '"' ∧ d ≠ '\r' ∧ (d = '\n' → c = '\n') := by
  cases h with
  | plain hPlain => exact ⟨c, [], rfl, hQuote, ne_return (.inl hPlain), id⟩
  | lineEnd _ h => exact ⟨_, _, rfl, by decide, by decide, fun _ => h⟩
  | letter | code => exact ⟨_, _, rfl, by decide, by decide, fun h => absurd h (by decide)⟩

/-- Every character but a quote is written as one of its pieces, whatever stands around it. -/
theorem exists_piece (lines : Bool) (hQuote : c ≠ '"') :
    ∃ piece, Piece lines c piece ∧ ∀ allowed run cs,
      escapeBasic lines allowed run (c :: cs) = piece ++ escapeBasic lines allowed 0 cs := by
  refine ⟨?piece, ?isPiece, ?isWritten⟩
  case isWritten =>
    intro allowed run cs
    rw [escapeBasic, if_neg hQuote]
  -- one case for each letter, then the characters with a code, then the plain ones
  split
  · next h => subst h; exact .letter rfl
  split
  · next h => subst h; exact .letter rfl
  split
  · next h =>
    subst h
    cases lines with
    | true => exact .lineEnd rfl rfl
    | false => exact .letter rfl
  split
  · next h => subst h; exact .letter rfl
  split
  · next h => subst h; exact .letter rfl
  split
  · next h => subst h; exact .letter rfl
  split
  · next h =>
    obtain ⟨x, y, z, t, hDigits, hScalar⟩ := exists_code h
    rw [hDigits]
    exact .code hScalar
  · next hEnd _ _ hBackslash hCode =>
    have hPlain := (isPlain_or_lineEnd (Bool.eq_false_iff.mpr hCode)).resolve_right hEnd
    exact .plain hPlain hQuote hBackslash

/-- A letter that an escape names is no letter of a code and joins no lines. -/
theorem letter_of_escaped? {e : Char} (h : escaped? e = some c) :
    e ≠ 'u' ∧ e ≠ 'U' ∧ ∀ rest, joinsLines (e :: rest) = false := by
  unfold escaped? at h
  split at h
  all_goals first
    | contradiction
    | exact ⟨by decide, by decide, fun _ => rfl⟩

theorem readBasic?_piece (h : Piece false c piece) (rest : List Char) :
    readBasic? (piece ++ rest) = (readBasic? rest).map (consTo c) := by
  cases h with
  | plain hPlain hQuote hBackslash => simp [readBasic?, hPlain, hBackslash]
  | lineEnd hLines => contradiction
  | letter h =>
    obtain ⟨hNotU, hNotUpper, -⟩ := letter_of_escaped? h
    simp [readBasic?, h, hNotU, hNotUpper, Option.map_eq_bind]
  | code h => simp [readBasic?, h, Option.map_eq_bind]

theorem readBasicLines?_piece (h : Piece true c piece) (rest : List Char) :
    readBasicLines? false (piece ++ rest) = (readBasicLines? false rest).map (consTo c) := by
  cases h with
  | plain hPlain hQuote hBackslash =>
    have hReturn : c ≠ '\r' := ne_return (.inl hPlain)
    simp [readBasicLines?, hPlain, hQuote, hBackslash, hReturn]
  | lineEnd _ h =>
    subst h
    simp [readBasicLines?]
  | letter h =>
    obtain ⟨hNotU, hNotUpper, hJoins⟩ := letter_of_escaped? h
    simp [readBasicLines?, h, hNotU, hNotUpper, hJoins, Option.map_eq_bind]
  | code h => simp [readBasicLines?, h, Option.map_eq_bind]

-- ---------------------------------------------------------------------------
-- Strings on one line
-- ---------------------------------------------------------------------------

/-- **A basic string on one line** reads as the text that it was written for. -/
theorem readBasic?_escapeBasic (cs : List Char) (run : Nat) (rest : List Char) :
    readBasic? (escapeBasic false 0 run cs ++ '"' :: rest) = some (cs, rest) := by
  induction cs generalizing run with
  | nil => simp [escapeBasic, readBasic?]
  | cons c cs ih =>
    by_cases hQuote : c = '"'
    · have hPiece : Piece false c ['\\', '"'] := .letter (by rw [hQuote]; rfl)
      have hWritten : escapeBasic false 0 run (c :: cs)
          = ['\\', '"'] ++ escapeBasic false 0 0 cs := by
        simp [escapeBasic, hQuote]
      rw [hWritten, List.append_assoc, readBasic?_piece hPiece, ih, Option.map_some, consTo]
    · obtain ⟨piece, hPiece, hWritten⟩ := exists_piece false hQuote
      rw [hWritten, List.append_assoc, readBasic?_piece hPiece, ih, Option.map_some, consTo]

/-- A literal string on one line reads as itself. -/
theorem readLiteral?_eq (h : ∀ c ∈ cs, isPlain c = true ∧ c ≠ '\'') (rest : List Char) :
    readLiteral? (cs ++ '\'' :: rest) = some (cs, rest) := by
  induction cs with
  | nil => simp [readLiteral?]
  | cons c cs ih =>
    obtain ⟨⟨hPlain, hQuote⟩, hMore⟩ := List.forall_mem_cons.mp h
    simp [readLiteral?, hPlain, hQuote, ih hMore, consTo]

-- ---------------------------------------------------------------------------
-- Runs of quotes
-- ---------------------------------------------------------------------------

/-- The length of the run of a character that a text starts with. -/
def leading (q : Char) (cs : List Char) : Nat :=
  (cs.takeWhile (· == q)).length

theorem leading_cons_self (q : Char) (cs : List Char) : leading q (q :: cs) = leading q cs + 1 := by
  simp [leading]

theorem leading_cons_of_ne (h : c ≠ q) (cs : List Char) : leading q (c :: cs) = 0 := by
  simp [leading, h]

theorem leading_of_head?_ne (h : cs.head? ≠ some q) : leading q cs = 0 := by
  cases cs with
  | nil => rfl
  | cons c cs => exact leading_cons_of_ne (by simpa using h) cs

theorem leading_replicate_append (q : Char) (k : Nat) (cs : List Char) :
    leading q (List.replicate k q ++ cs) = k + leading q cs := by
  induction k with
  | zero => simp
  | succ k ih => rw [List.replicate_succ, List.cons_append, leading_cons_self, ih]; omega

/-- The run ends inside the text, or the text is nothing but the run. -/
theorem leading_append_or (q : Char) (cs : List Char) :
    (∀ rest, leading q (cs ++ rest) = leading q cs) ∨ cs = List.replicate (leading q cs) q := by
  induction cs with
  | nil => exact .inr rfl
  | cons c cs ih =>
    by_cases h : c = q
    · subst h
      rcases ih with ih | ih
      · exact .inl fun rest => by rw [List.cons_append, leading_cons_self, leading_cons_self, ih]
      · exact .inr (by rw [leading_cons_self, List.replicate_succ, ← ih])
    · exact .inl fun rest => by
        rw [List.cons_append, leading_cons_of_ne h, leading_cons_of_ne h]

/-- The quotes that end a string over lines. -/
def closingQuotes (q : Char) : List Char :=
  [q, q, q]

theorem leading_closingQuotes (hRest : rest.head? ≠ some q) :
    leading q (closingQuotes q ++ rest) = 3 := by
  have hRun := leading_replicate_append q 3 rest
  rwa [leading_of_head?_ne hRest] at hRun

/-- How a reader of strings over lines takes a quote: it counts the quotes up to the next other
character, and ends the string if they are enough for that. -/
def CountsQuotes (q : Char) (read? : List Char → Option (List Char × List Char)) : Prop :=
  ∀ cs, read? (q :: cs) =
    match closing? (leading q cs + 1) with
    | some (kept, used) => some (List.replicate kept q, cs.drop (used - 1))
    | none => (read? cs).map (consTo q)

section CountingQuotes

variable {read? : List Char → Option (List Char × List Char)} (hCounts : CountsQuotes q read?)
variable (hRest : rest.head? ≠ some q)
include hCounts hRest

theorem CountsQuotes.read?_closingQuotes : read? (closingQuotes q ++ rest) = some ([], rest) := by
  have hThree : leading q ([q, q] ++ rest) + 1 = 3 := by
    rw [← leading_cons_self]
    exact leading_closingQuotes hRest
  rw [closingQuotes, List.cons_append, hCounts, hThree]
  rfl

/-- **A run of quotes is taken apart.** A quote of the text is read as itself, if no more than one
quote is written right behind it: either more of the text follows, or the last quotes of the text
are read together with those that end the string. -/
theorem CountsQuotes.read?_quote (hRun : leading q cs ≤ 1) {text : List Char}
    (hQuotes : ∀ k, cs = List.replicate k q → text = List.replicate k q)
    (hMore : read? (cs ++ closingQuotes q ++ rest) = some (text, rest)) :
    read? (q :: (cs ++ closingQuotes q ++ rest)) = some (q :: text, rest) := by
  rw [hCounts]
  -- either the quotes of the text end before the closing ones, or they run into them
  rcases leading_append_or q cs with hEnds | hWhole
  · have hOpen : closing? (leading q (cs ++ closingQuotes q ++ rest) + 1) = none := by
      rw [List.append_assoc, hEnds, closing?, if_pos (by omega)]
    rw [hOpen, hMore, Option.map_some, consTo]
  · obtain ⟨k, hk⟩ : ∃ k, leading q cs = k := ⟨_, rfl⟩
    -- the last of the run are the closing ones, and the others belong to the text
    rw [hk] at hRun hWhole
    have hClosing : closing? (leading q (cs ++ closingQuotes q ++ rest) + 1)
        = some (k + 1, k + 4) := by
      rw [hWhole, List.append_assoc, leading_replicate_append, leading_closingQuotes hRest,
        closing?, if_neg (by omega)]
      congr 2 <;> omega
    have hDrop : (cs ++ closingQuotes q ++ rest).drop (k + 3) = rest := by
      have hLength : (cs ++ closingQuotes q).length = k + 3 := by
        rw [hWhole, List.length_append, List.length_replicate, closingQuotes]
        rfl
      rw [← hLength, List.drop_left]
    rw [hClosing, hQuotes k hWhole, ← List.replicate_succ]
    exact congrArg (fun rest => some (List.replicate (k + 1) q, rest)) hDrop

end CountingQuotes

-- ---------------------------------------------------------------------------
-- Basic strings over lines
-- ---------------------------------------------------------------------------

/-- The written text never has three quotes in a row, those before it included. -/
theorem run_add_leading_escapeBasic (cs : List Char) (hRun : run ≤ 2) :
    run + leading '"' (escapeBasic true 2 run cs) ≤ 2 := by
  induction cs generalizing run with
  | nil => simpa [escapeBasic, leading] using hRun
  | cons c cs ih =>
    by_cases hQuote : c = '"'
    · subst hQuote
      rw [escapeBasic, if_pos rfl]
      split
      · -- a run of two is broken by a backslash
        rw [leading_cons_of_ne (by decide)]
        exact hRun
      · rw [leading_cons_self]
        have : run + 1 + leading '"' (escapeBasic true 2 (run + 1) cs) ≤ 2 := ih (by omega)
        omega
    · -- the piece of another character does not begin with a quote
      obtain ⟨piece, hPiece, hWritten⟩ := exists_piece true hQuote
      obtain ⟨d, ds, rfl, hOther, -⟩ := hPiece.exists_head hQuote
      rw [hWritten, List.cons_append, leading_cons_of_ne hOther]
      exact hRun

/-- Only quotes are written as nothing but quotes. -/
theorem eq_of_escapeBasic_eq_replicate {k : Nat}
    (h : escapeBasic true 2 run cs = List.replicate k '"') : cs = List.replicate k '"' := by
  induction cs generalizing run k with
  | nil => simpa [escapeBasic] using h
  | cons c cs ih =>
    have hAll : ∀ d ∈ escapeBasic true 2 run (c :: cs), d = '"' := by
      rw [h]
      exact fun d hd => (List.mem_replicate.mp hd).2
    by_cases hQuote : c = '"'
    · subst hQuote
      rw [escapeBasic, if_pos rfl] at h hAll
      split at h
      · -- a backslash is no quote
        next hFull =>
        rw [if_pos hFull] at hAll
        exact absurd (hAll '\\' (by simp)) (by decide)
      · cases k with
        | zero => contradiction
        | succ k =>
          rw [List.replicate_succ, List.cons.injEq] at h
          rw [List.replicate_succ, ih h.2]
    · obtain ⟨piece, hPiece, hWritten⟩ := exists_piece true hQuote
      obtain ⟨d, ds, rfl, hOther, -⟩ := hPiece.exists_head hQuote
      rw [hWritten] at hAll
      exact absurd (hAll d (by simp)) hOther

theorem countsQuotes_readBasicLines? : CountsQuotes '"' (readBasicLines? false) :=
  fun _ => rfl

/-- **A basic string over lines** reads as the text that it was written for. -/
theorem readBasicLines?_escapeBasic (hRest : rest.head? ≠ some '"') (cs : List Char)
    (hRun : run ≤ 2) :
    readBasicLines? false (escapeBasic true 2 run cs ++ closingQuotes '"' ++ rest)
      = some (cs, rest) := by
  induction cs generalizing run with
  | nil => exact countsQuotes_readBasicLines?.read?_closingQuotes hRest
  | cons c cs ih =>
    by_cases hQuote : c = '"'
    · subst hQuote
      rw [escapeBasic, if_pos rfl]
      split
      · -- the quote is escaped, and a new run begins
        have hPiece : Piece true '"' ['\\', '"'] := .letter rfl
        have hRead := readBasicLines?_piece hPiece
          (escapeBasic true 2 0 cs ++ closingQuotes '"' ++ rest)
        rw [ih (by omega), Option.map_some, consTo] at hRead
        exact hRead
      · next hFew =>
        -- the quote stands for itself, as the run is short
        have hLeading : run + 1 + leading '"' (escapeBasic true 2 (run + 1) cs) ≤ 2 :=
          run_add_leading_escapeBasic cs (by omega)
        exact countsQuotes_readBasicLines?.read?_quote hRest (by omega)
          (fun _ => eq_of_escapeBasic_eq_replicate) (ih (by omega))
    · obtain ⟨piece, hPiece, hWritten⟩ := exists_piece true hQuote
      rw [hWritten, List.append_assoc, List.append_assoc, readBasicLines?_piece hPiece,
        ← List.append_assoc, ih (by omega), Option.map_some, consTo]

-- ---------------------------------------------------------------------------
-- Literal strings over lines
-- ---------------------------------------------------------------------------

theorem run_add_leading_le (q : Char) (cs : List Char) (run : Nat) :
    run + leading q cs ≤ longestRun q run cs := by
  induction cs generalizing run with
  | nil => simp [leading, longestRun]
  | cons c cs ih =>
    by_cases h : c = q
    · subst h
      have := ih (run + 1)
      rw [leading_cons_self, longestRun, if_pos rfl]
      omega
    · rw [leading_cons_of_ne h, longestRun, if_neg h]
      omega

theorem countsQuotes_readLiteralLines? : CountsQuotes '\'' readLiteralLines? :=
  fun _ => rfl

/-- **A literal string over lines** reads as itself. -/
theorem readLiteralLines?_eq (hRest : rest.head? ≠ some '\'')
    (hPlain : ∀ c ∈ cs, isPlain c = true ∨ c = '\n') (hRuns : longestRun '\'' run cs ≤ 2) :
    readLiteralLines? (cs ++ closingQuotes '\'' ++ rest) = some (cs, rest) := by
  induction cs generalizing run with
  | nil => exact countsQuotes_readLiteralLines?.read?_closingQuotes hRest
  | cons c cs ih =>
    obtain ⟨hFirst, hMore⟩ := List.forall_mem_cons.mp hPlain
    by_cases hQuote : c = '\''
    · subst hQuote
      rw [longestRun, if_pos rfl] at hRuns
      have hLeading := run_add_leading_le '\'' cs (run + 1)
      -- the run of quotes is short enough to be part of the text
      exact countsQuotes_readLiteralLines?.read?_quote hRest (by omega) (fun _ => id)
        (ih hMore hRuns)
    · rw [longestRun, if_neg hQuote] at hRuns
      have hReturn : c ≠ '\r' := ne_return hFirst
      have hRead := ih hMore ((le_max_right run _).trans hRuns)
      rw [List.append_assoc] at hRead
      simp [readLiteralLines?, hQuote, hReturn, hFirst, hRead, consTo]

-- ---------------------------------------------------------------------------
-- All kinds
-- ---------------------------------------------------------------------------

theorem longestRun_pos (h : q ∈ cs) (run : Nat) : 0 < longestRun q run cs := by
  induction cs generalizing run with
  | nil => contradiction
  | cons c cs ih =>
    by_cases hFirst : c = q
    · rw [longestRun, if_pos hFirst]
      have := run_add_leading_le q cs (run + 1)
      omega
    · rw [longestRun, if_neg hFirst]
      have := ih ((List.mem_cons.mp h).resolve_left (Ne.symm hFirst)) 0
      omega

/-- A text that is written as it is needs no codes, and its quotes do not end the string. -/
theorem TextTraits.of_kind (t : TextTraits) :
    (t.kind = .literal → t.control = false ∧ t.singleQuotes = 0 ∧ t.lineEnd = false) ∧
    (t.kind = .literalLines → t.control = false ∧ t.singleQuotes ≤ 2) := by
  obtain ⟨doubleQuotes, singleQuotes, backslash, lineEnd, control⟩ := t
  unfold kind
  refine ⟨fun h => ?_, fun h => ?_⟩ <;>
    cases control <;> cases lineEnd <;> cases backslash <;> grind

theorem isPlain_or_lineEnd_of_control (h : cs.any needsCode = false) :
    ∀ c ∈ cs, isPlain c = true ∨ c = '\n' := by
  intro c hc
  exact isPlain_or_lineEnd (by simpa using List.any_eq_false.mp h c hc)

theorem lineEnd?_eq_none (hEnd : c ≠ '\n') (hReturn : c ≠ '\r') (cs : List Char) :
    lineEnd? (c :: cs) = none := by
  unfold lineEnd?
  split <;> simp_all

/-- Without a line end in the text, the written text does not start with one. -/
theorem lineEnd?_escapeBasic (h : '\n' ∉ cs) (rest : List Char) :
    lineEnd? (escapeBasic true 2 run cs ++ closingQuotes '"' ++ rest) = none := by
  cases cs with
  | nil => exact lineEnd?_eq_none (by decide) (by decide) _
  | cons c cs =>
    by_cases hQuote : c = '"'
    · rw [escapeBasic, if_pos hQuote]
      split
      · exact lineEnd?_eq_none (by decide) (by decide) _
      · exact lineEnd?_eq_none (by decide) (by decide) _
    · obtain ⟨piece, hPiece, hWritten⟩ := exists_piece true hQuote
      obtain ⟨d, ds, rfl, -, hReturn, hEnd⟩ := hPiece.exists_head hQuote
      rw [hWritten]
      exact lineEnd?_eq_none (fun hd => h (by simp [hEnd hd])) hReturn _

theorem lineEnd?_literal (h : '\n' ∉ cs) (hPlain : ∀ c ∈ cs, isPlain c = true ∨ c = '\n')
    (rest : List Char) : lineEnd? (cs ++ closingQuotes '\'' ++ rest) = none := by
  cases cs with
  | nil => exact lineEnd?_eq_none (by decide) (by decide) _
  | cons c cs =>
    exact lineEnd?_eq_none (fun hEnd => h (by simp [hEnd])) (ne_return (hPlain c (by simp))) _

/-- The line end that is written before a text with line ends is not read as part of it. -/
theorem dropFirstLineEnd_first {lineEnd : Bool} (h : lineEnd = false → lineEnd? cs = none) :
    dropFirstLineEnd ((if lineEnd then ['\n'] else []) ++ cs) = cs := by
  cases lineEnd with
  | true => rfl
  | false => simp [dropFirstLineEnd, h rfl]

theorem readString?_basic (h : leading '"' cs ≤ 1) : readString? ('"' :: cs) = readBasic? cs := by
  rw [readString?]
  rintro rest rfl
  simp [leading_cons_self] at h

theorem readString?_literal (h : leading '\'' cs ≤ 1) :
    readString? ('\'' :: cs) = readLiteral? cs := by
  rw [readString?]
  rintro rest rfl
  simp [leading_cons_self] at h

/-- A basic string on one line has no quote but the one that ends it. -/
theorem leading_escapeBasic_le (hRest : rest.head? ≠ some '"') :
    leading '"' (escapeBasic false 0 run cs ++ '"' :: rest) ≤ 1 := by
  cases cs with
  | nil => rw [escapeBasic, List.nil_append, leading_cons_self, leading_of_head?_ne hRest]
  | cons c cs =>
    refine (leading_of_head?_ne ?_).trans_le (Nat.zero_le 1)
    by_cases hQuote : c = '"'
    · simp [escapeBasic, hQuote]
    · obtain ⟨piece, hPiece, hWritten⟩ := exists_piece false hQuote
      obtain ⟨d, ds, rfl, hOther, -⟩ := hPiece.exists_head hQuote
      rw [hWritten]
      simpa using hOther

theorem leading_literal_le (hRest : rest.head? ≠ some '\'') (hQuotes : '\'' ∉ cs) :
    leading '\'' (cs ++ '\'' :: rest) ≤ 1 := by
  cases cs with
  | nil => rw [List.nil_append, leading_cons_self, leading_of_head?_ne hRest]
  | cons c cs =>
    refine (leading_of_head?_ne ?_).trans_le (Nat.zero_le 1)
    intro hFirst
    exact hQuotes (by simp_all)

/-- **What is written for a text reads as the text**, whatever kind of string was chosen for it. -/
theorem readString?_stringText (s : String) (hDouble : rest.head? ≠ some '"')
    (hSingle : rest.head? ≠ some '\'') :
    readString? (stringText s ++ rest) = some (s.toList, rest) := by
  obtain ⟨cs, hcs⟩ : ∃ cs, s.toList = cs := ⟨_, rfl⟩
  obtain ⟨hLiteral, hLiteralLines⟩ := (TextTraits.of cs).of_kind
  simp only [stringText, hcs]
  cases hKind : (TextTraits.of cs).kind with
  | basic =>
    have hRead := readBasic?_escapeBasic cs 0 rest
    -- what follows is no quote, so this is not the start of three
    rw [← readString?_basic (leading_escapeBasic_le hDouble)] at hRead
    simpa using hRead
  | literal =>
    obtain ⟨hControl, hNoRun, hNoLineEnd⟩ := hLiteral hKind
    -- no run of quotes, so no quote
    have hNoQuote : '\'' ∉ cs := fun h => (longestRun_pos h 0).ne' hNoRun
    have hEnds : '\n' ∉ cs := by simpa [TextTraits.of] using hNoLineEnd
    have hPlain : ∀ c ∈ cs, isPlain c = true ∧ c ≠ '\'' := by
      intro c hc
      refine ⟨(isPlain_or_lineEnd_of_control hControl c hc).resolve_right ?_, ?_⟩
      · rintro rfl
        exact hEnds hc
      · rintro rfl
        exact hNoQuote hc
    have hRead := readLiteral?_eq hPlain rest
    rw [← readString?_literal (leading_literal_le hSingle hNoQuote)] at hRead
    simpa using hRead
  | basicLines =>
    have hRead := readBasicLines?_escapeBasic hDouble cs (Nat.zero_le 2)
    -- a text with line ends begins after one more line end, which the reader drops
    rw [← dropFirstLineEnd_first fun hNone : (TextTraits.of cs).lineEnd = false =>
      lineEnd?_escapeBasic (by simpa [TextTraits.of] using hNone) rest] at hRead
    simpa [readString?, closingQuotes] using hRead
  | literalLines =>
    obtain ⟨hControl, hRuns⟩ := hLiteralLines hKind
    have hPlain := isPlain_or_lineEnd_of_control hControl
    have hRead := readLiteralLines?_eq hSingle hPlain hRuns
    rw [← dropFirstLineEnd_first fun hNone : (TextTraits.of cs).lineEnd = false =>
      lineEnd?_literal (by simpa [TextTraits.of] using hNone) hPlain rest] at hRead
    simpa [readString?, closingQuotes] using hRead

end ProxyAudit.Toml

import Mathlib
import ProxyAudit.Json.Reader
import ProxyAudit.Proofs.Json.Grammar

/-!
# Every text of a value reads as the value

The reader takes every text that the grammar allows, whatever white space stands between its tokens
and however its strings are written, and gives the value that it is a text of. So a value has no
text in common with another value, and all its texts read alike.

Main results:

* `read?_of_spellsText`  — a text of a value reads as the value.
* `read?_pretty`, `read?_compact`  — in particular the printed ones.
* `eq_of_spellsText`     — a text has one value.
-/

namespace ProxyAudit.Json

-- ---------------------------------------------------------------------------
-- White space
-- ---------------------------------------------------------------------------

theorem Blanks.isBlank {ws : List Char} (h : Blanks ws) : ∀ c ∈ ws, isBlank c = true := by
  intro c hc
  rcases h c hc with rfl | rfl | rfl | rfl <;> rfl

theorem skipBlanks_append {ws : List Char} (h : Blanks ws) (cs : List Char) :
    skipBlanks (ws ++ cs) = skipBlanks cs :=
  List.dropWhile_append_of_pos h.isBlank

/-- White space is skipped up to a character that is none. -/
theorem skipBlanks_blanks {ws : List Char} (h : Blanks ws) {c : Char} (hc : isBlank c = false)
    (cs : List Char) : skipBlanks (ws ++ c :: cs) = c :: cs := by
  rw [skipBlanks_append h, skipBlanks_of_not_blank cs hc]

theorem skipBlanks_of_blanks {ws : List Char} (h : Blanks ws) : skipBlanks ws = [] := by
  simpa [skipBlanks] using skipBlanks_append h []

theorem afterMark?_same {ws : List Char} (h : Blanks ws) (mark : Char)
    (hMark : isBlank mark = false) (cs : List Char) : afterMark? mark (ws ++ mark :: cs) = some cs := by
  rw [afterMark?, skipBlanks_blanks h hMark]
  exact if_pos rfl

theorem afterMark?_other {ws : List Char} (h : Blanks ws) (mark c : Char)
    (hBlank : isBlank c = false) (hOther : c ≠ mark) (cs : List Char) :
    afterMark? mark (ws ++ c :: cs) = none := by
  rw [afterMark?, skipBlanks_blanks h hBlank]
  exact if_neg hOther

-- ---------------------------------------------------------------------------
-- Numbers
-- ---------------------------------------------------------------------------

/-- What may follow a number, or any other value. -/
def Ends (rest : List Char) : Prop :=
  ∀ c ∈ rest.head?, Decimal.isDigit c = false ∧ c ≠ '.' ∧ c ≠ 'e' ∧ c ≠ 'E'

theorem ends_blanks {ws : List Char} (h : Blanks ws) {rest : List Char} (hRest : Ends rest) :
    Ends (ws ++ rest) := by
  cases ws with
  | nil => exact hRest
  | cons c ws =>
    intro d hd
    obtain rfl : c = d := by simpa using hd
    rcases h c (by simp) with rfl | rfl | rfl | rfl <;> decide

theorem ends_cons {c : Char} (h : c = ',' ∨ c = ']' ∨ c = '\x7d') (rest : List Char) :
    Ends (c :: rest) := by
  intro d hd
  obtain rfl : c = d := by simpa using hd
  rcases h with rfl | rfl | rfl <;> decide

theorem readNumber?_ofNat (n : Nat) {rest : List Char} (hRest : Ends rest) :
    readNumber? (Decimal.ofNat n ++ rest) = some (n, rest) := by
  have hTake := Decimal.takeWhile_ofNat_append n fun c hc => (hRest c hc).1
  have hDrop := Decimal.dropWhile_ofNat_append n fun c hc => (hRest c hc).1
  -- no number begins with a zero but zero itself
  have hPlain : (decide (1 < (Decimal.ofNat n).length) && (Decimal.ofNat n).head? == some '0')
      = false := by
    by_cases hZero : n = 0
    · subst hZero
      rw [Decimal.ofNat_zero]
      rfl
    · simp [Decimal.head?_ofNat_ne hZero]
  -- what follows does not go on with a fraction or an exponent
  have hWhole : (rest.head?.any fun c => c == '.' || c == 'e' || c == 'E') = false := by
    cases rest with
    | nil => rfl
    | cons c rest =>
      obtain ⟨-, hPoint, hLower, hUpper⟩ := hRest c rfl
      simp [hPoint, hLower, hUpper]
  simp only [readNumber?, hTake, hDrop, hPlain, hWhole, Decimal.toNat?_ofNat, Option.map_some,
    Bool.false_eq_true, if_false]

theorem isBlank_of_isDigit {c : Char} (h : Decimal.isDigit c = true) : isBlank c = false := by
  simp only [isBlank, Bool.or_eq_false_iff, beq_eq_false_iff_ne]
  exact ⟨⟨⟨Decimal.ne_of_isDigit h (by decide), Decimal.ne_of_isDigit h (by decide)⟩,
    Decimal.ne_of_isDigit h (by decide)⟩, Decimal.ne_of_isDigit h (by decide)⟩

-- ---------------------------------------------------------------------------
-- Strings
-- ---------------------------------------------------------------------------

theorem Escape.escaped?_eq {e c : Char} (h : Escape e c) : escaped? e = some c := by
  cases h <;> rfl

/-- Four digits are four characters. -/
theorem Quad.exists_unit {n : Nat} {digits : List Char} (h : Quad n digits) :
    ∃ x y z t, digits = [x, y, z, t] ∧ unit? x y z t = some n := by
  obtain ⟨hLength, hNumber⟩ := h
  match digits, hLength with
  | [x, y, z, t], _ => exact ⟨x, y, z, t, rfl, hNumber⟩

/-- No character is half of a pair. -/
theorem not_surrogate (c : Char) : isLeading c.toNat = false ∧ isTrailing c.toNat = false := by
  have hValid : c.toNat < 0xd800 ∨ 0xdfff < c.toNat ∧ c.toNat < 0x110000 := c.valid
  simp only [isLeading, isTrailing, Bool.and_eq_false_iff, decide_eq_false_iff_not]
  omega

theorem readChars?_of_spellsChar {c : Char} {piece : List Char} (h : SpellsChar c piece)
    (rest : List Char) :
    readChars? (piece ++ rest) = (readChars? rest).map fun (cs, rest) => (c :: cs, rest) := by
  cases h with
  | plain hQuote hBackslash hControl =>
    simp [readChars?, hBackslash, Nat.not_lt.mpr hControl]
  | @letter e h =>
    have hNotU : e ≠ 'u' := by
      rintro rfl
      cases h
    simp [readChars?, h.escaped?_eq, hNotU]
  | number h =>
    obtain ⟨x, y, z, t, rfl, hUnit⟩ := h.exists_unit
    simp [readChars?, hUnit, not_surrogate, Char.ofNat_toNat]
  | @pair lead trail _ _ hFirst hSecond hLead hTrail h =>
    obtain ⟨x, y, z, t, rfl, hUnit⟩ := hFirst.exists_unit
    obtain ⟨x', y', z', t', rfl, hUnit'⟩ := hSecond.exists_unit
    -- the two halves of a character above the first plane
    have hLeading : isLeading (0xd800 + lead) = true := by simp [isLeading]; omega
    have hTrailing : isTrailing (0xdc00 + trail) = true := by simp [isTrailing]; omega
    have hChar : Char.ofNat (0x10000 + 0x400 * lead + trail) = c := by
      rw [← h, Char.ofNat_toNat]
    simp [readChars?, hUnit, hUnit', hLeading, hTrailing, hChar]

theorem readChars?_of_spellsChars {cs text : List Char} (h : SpellsChars cs text)
    (rest : List Char) : readChars? (text ++ '"' :: rest) = some (cs, rest) := by
  induction h with
  | nil => simp [readChars?]
  | cons hChar _ ih => rw [List.append_assoc, readChars?_of_spellsChar hChar, ih, Option.map_some]

theorem readString?_of_spellsKey {k : String} {text : List Char} (h : SpellsKey k text)
    (rest : List Char) :
    ∃ ws, Blanks ws ∧ readString? (text ++ rest) = some (k, ws ++ rest) := by
  cases h with
  | @mk ws _ ws' hBefore hString hAfter =>
    obtain ⟨inner, hInner, rfl⟩ := hString
    refine ⟨ws', hAfter, ?_⟩
    have hMark : afterMark? '"' (ws ++ (['"'] ++ inner ++ ['"']) ++ ws' ++ rest)
        = some (inner ++ '"' :: (ws' ++ rest)) := by
      have h := afterMark?_same hBefore '"' rfl (inner ++ '"' :: (ws' ++ rest))
      simpa using h
    rw [readString?, hMark, Option.bind_some, readChars?_of_spellsChars hInner]
    simp only [Option.map_some, String.ofList_toList]

-- ---------------------------------------------------------------------------
-- Values
-- ---------------------------------------------------------------------------

theorem Spells.length_pos {j : Json} {text : List Char} (h : Spells j text) : 0 < text.length := by
  cases h with
  | null => decide
  | bool b => cases b <;> decide
  | num n => exact List.length_pos_iff.mpr (Decimal.ofNat_ne_nil n)
  | str h =>
    obtain ⟨inner, -, rfl⟩ := h
    simp
  | emptyArr | arr | emptyObj | obj => simp

theorem SpellsText.length_pos {j : Json} {text : List Char} (h : SpellsText j text) :
    0 < text.length := by
  cases h with
  | mk _ h _ =>
    have := h.length_pos
    simp only [List.length_append]
    omega

/-- The first character of a text, behind the white space, is not blank and closes no array. -/
theorem Spells.exists_head {j : Json} {text : List Char} (h : Spells j text) :
    ∃ c cs, text = c :: cs ∧ isBlank c = false ∧ c ≠ ']' := by
  cases h with
  | null => exact ⟨_, _, rfl, by decide, by decide⟩
  | bool b => cases b <;> exact ⟨_, _, rfl, by decide, by decide⟩
  | num n =>
    obtain ⟨c, cs, hDigits, hDigit⟩ := Decimal.exists_digit n
    exact ⟨c, cs, hDigits, isBlank_of_isDigit hDigit, Decimal.ne_of_isDigit hDigit (by decide)⟩
  | str h =>
    obtain ⟨inner, -, rfl⟩ := h
    exact ⟨_, _, rfl, by decide, by decide⟩
  | emptyArr | arr | emptyObj | obj => exact ⟨_, _, rfl, by decide, by decide⟩

theorem SpellsText.afterMark?_eq_none {j : Json} {text : List Char} (h : SpellsText j text)
    (rest : List Char) : afterMark? ']' (text ++ rest) = none := by
  cases h with
  | @mk _ ws _ ws' hBefore h _ =>
    obtain ⟨c, cs, rfl, hBlank, hOpen⟩ := h.exists_head
    simpa using afterMark?_other hBefore ']' c hBlank hOpen (cs ++ (ws' ++ rest))

theorem SpellsItems.afterMark?_eq_none {items : List Json} {text : List Char}
    (h : SpellsItems items text) (rest : List Char) : afterMark? ']' (text ++ rest) = none := by
  cases h with
  | last h => exact h.afterMark?_eq_none rest
  | cons h =>
    rw [List.append_assoc, List.append_assoc]
    exact h.afterMark?_eq_none _

theorem SpellsKey.afterMark?_eq_none {k : String} {text : List Char} (h : SpellsKey k text)
    (rest : List Char) : afterMark? '\x7d' (text ++ rest) = none := by
  cases h with
  | @mk ws _ ws' hBefore h _ =>
    obtain ⟨inner, -, rfl⟩ := h
    have hQuote := afterMark?_other hBefore '\x7d' '"' (by decide) (by decide)
    simpa using hQuote (inner ++ '"' :: (ws' ++ rest))

theorem SpellsFields.afterMark?_eq_none {fields : List (String × Json)} {text : List Char}
    (h : SpellsFields fields text) (rest : List Char) : afterMark? '\x7d' (text ++ rest) = none := by
  cases h with
  | last hKey =>
    rw [List.append_assoc, List.append_assoc]
    exact hKey.afterMark?_eq_none _
  | cons hKey =>
    simp only [List.append_assoc]
    exact hKey.afterMark?_eq_none _

/-- A number does not start as any other value does. -/
theorem readValue?_num (n fuel : Nat) {rest : List Char} (hRest : Ends rest) :
    readValue? (fuel + 1) (Decimal.ofNat n ++ rest) = some (.num n, rest) := by
  have hRead := readNumber?_ofNat n hRest
  obtain ⟨c, cs, hDigits, hDigit⟩ := Decimal.exists_digit n
  rw [hDigits, List.cons_append] at hRead
  rw [hDigits, List.cons_append, readValue?,
    skipBlanks_of_not_blank _ (isBlank_of_isDigit hDigit)]
  split
  case h_7 => rw [hRead, Option.map_some]
  all_goals
    next heq =>
      cases heq
      exact absurd hDigit (by decide)

/-- White space before a value is skipped. -/
theorem readValue?_blanks (fuel : Nat) {ws : List Char} (hBefore : Blanks ws) (cs : List Char) :
    readValue? fuel (ws ++ cs) = readValue? fuel cs := by
  cases fuel with
  | zero => rfl
  | succ fuel => rw [readValue?, readValue?, skipBlanks_append hBefore]

mutual

/-- **Every text of a value reads as the value.** The fuel has to be as large as the text. -/
theorem readValue?_of_spells : ∀ {j : Json} {text : List Char}, Spells j text →
    ∀ {fuel : Nat} {rest : List Char}, text.length ≤ fuel → Ends rest →
      readValue? fuel (text ++ rest) = some (j, rest)
  | _, _, .null, fuel + 1, rest, _, _ => by
    simp [readValue?, skipBlanks, isBlank, afterWord?]
  | _, _, .bool b, fuel + 1, rest, _, _ => by
    cases b <;> simp [readValue?, skipBlanks, isBlank, afterWord?]
  | _, _, .num n, fuel + 1, rest, _, hRest => readValue?_num n fuel hRest
  | _, _, .str h, fuel + 1, rest, _, _ => by
    obtain ⟨inner, hInner, rfl⟩ := h
    have hRead := readChars?_of_spellsChars hInner rest
    simp [readValue?, skipBlanks, isBlank, hRead]
  | _, _, .emptyArr h, fuel + 1, rest, _, _ => by
    have hClose := afterMark?_same h ']' (by decide) rest
    simp [readValue?, skipBlanks, isBlank, hClose]
  | _, _, @Spells.arr items text h, fuel + 1, rest, hFuel, _ => by
    have hOpen := h.afterMark?_eq_none (']' :: rest)
    have hItems : readItems? fuel (text ++ ']' :: rest) = some (items, rest) :=
      readItems?_of_spells h (by simp at hFuel; omega)
    simp [readValue?, skipBlanks, isBlank, hOpen, hItems]
  | _, _, .emptyObj h, fuel + 1, rest, _, _ => by
    have hClose := afterMark?_same h '\x7d' (by decide) rest
    simp [readValue?, skipBlanks, isBlank, hClose]
  | _, _, @Spells.obj fields text h, fuel + 1, rest, hFuel, _ => by
    have hOpen := h.afterMark?_eq_none ('\x7d' :: rest)
    have hFields : readFields? fuel (text ++ '\x7d' :: rest) = some (fields, rest) :=
      readFields?_of_spells h (by simp at hFuel; omega)
    simp [readValue?, skipBlanks, isBlank, hOpen, hFields]
  | _, _, h, 0, _, hFuel, _ => by
    have := h.length_pos
    omega

/-- The white space after a value is left. -/
theorem readValue?_of_spellsText : ∀ {j : Json} {text : List Char}, SpellsText j text →
    ∀ (fuel : Nat) (rest : List Char), text.length ≤ fuel → Ends rest →
      ∃ ws, Blanks ws ∧ readValue? fuel (text ++ rest) = some (j, ws ++ rest)
  | _, _, @SpellsText.mk _ ws text ws' hBefore h hAfter, fuel, rest, hFuel, hRest => by
    refine ⟨ws', hAfter, ?_⟩
    rw [List.append_assoc, List.append_assoc, readValue?_blanks fuel hBefore]
    simp only [List.length_append] at hFuel
    exact readValue?_of_spells h (by omega) (ends_blanks hAfter hRest)

theorem readItems?_of_spells : ∀ {items : List Json} {text : List Char}, SpellsItems items text →
    ∀ {fuel : Nat} {rest : List Char}, text.length < fuel →
      readItems? fuel (text ++ ']' :: rest) = some (items, rest)
  | _, _, @SpellsItems.last x _ h, fuel + 1, rest, hFuel => by
    obtain ⟨ws, hAfter, hRead⟩ := readValue?_of_spellsText h fuel
      (']' :: rest) (by omega) (ends_cons (by simp) rest)
    have hMore := afterMark?_other hAfter ',' ']' (by decide) (by decide) rest
    have hClose := afterMark?_same hAfter ']' (by decide) rest
    simp [readItems?, hRead, hMore, hClose]
  | _, _, @SpellsItems.cons _ xs text more h hMore, fuel + 1, rest, hFuel => by
    simp only [List.length_append, List.length_singleton] at hFuel
    obtain ⟨ws, hAfter, hRead⟩ := readValue?_of_spellsText h fuel
      (',' :: (more ++ ']' :: rest)) (by omega) (ends_cons (by simp) _)
    have hComma := afterMark?_same hAfter ',' (by decide) (more ++ ']' :: rest)
    have hItems : readItems? fuel (more ++ ']' :: rest) = some (xs, rest) :=
      readItems?_of_spells hMore (by omega)
    simp [readItems?, hRead, hComma, hItems]

theorem readFields?_of_spells : ∀ {fields : List (String × Json)} {text : List Char},
    SpellsFields fields text → ∀ {fuel : Nat} {rest : List Char}, text.length < fuel →
      readFields? fuel (text ++ '\x7d' :: rest) = some (fields, rest)
  | _, _, @SpellsFields.last k v key text hKey h, fuel + 1, rest, hFuel => by
    simp only [List.length_append, List.length_singleton] at hFuel
    obtain ⟨ws, hBetween, hName⟩ := readString?_of_spellsKey hKey (':' :: (text ++ '\x7d' :: rest))
    have hColon := afterMark?_same hBetween ':' (by decide) (text ++ '\x7d' :: rest)
    obtain ⟨ws', hAfter, hRead⟩ := readValue?_of_spellsText h fuel
      ('\x7d' :: rest) (by omega) (ends_cons (by simp) rest)
    have hMore := afterMark?_other hAfter ',' '\x7d' (by decide) (by decide) rest
    have hClose := afterMark?_same hAfter '\x7d' (by decide) rest
    simp [readFields?, hName, hColon, hRead, hMore, hClose]
  | _, _, @SpellsFields.cons k _ fs key text more hKey h hMore,
      fuel + 1, rest, hFuel => by
    simp only [List.length_append, List.length_singleton] at hFuel
    obtain ⟨ws, hBetween, hName⟩ := readString?_of_spellsKey hKey
      (':' :: (text ++ ',' :: (more ++ '\x7d' :: rest)))
    have hColon := afterMark?_same hBetween ':' (by decide)
      (text ++ ',' :: (more ++ '\x7d' :: rest))
    obtain ⟨ws', hAfter, hRead⟩ := readValue?_of_spellsText h fuel
      (',' :: (more ++ '\x7d' :: rest)) (by omega) (ends_cons (by simp) _)
    have hComma := afterMark?_same hAfter ',' (by decide) (more ++ '\x7d' :: rest)
    have hFields : readFields? fuel (more ++ '\x7d' :: rest) = some (fs, rest) :=
      readFields?_of_spells hMore (by omega)
    simp [readFields?, hName, hColon, hRead, hComma, hFields]

end

/-- **Every text of a value reads as the value.** -/
theorem read?_of_spellsText {j : Json} {s : String} (h : SpellsText j s.toList) :
    read? s = some j := by
  obtain ⟨ws, hAfter, hRead⟩ := readValue?_of_spellsText h (s.toList.length + 1)
    [] (by omega) (by simp [Ends])
  rw [List.append_nil, List.append_nil] at hRead
  simp only [read?, hRead, skipBlanks_of_blanks hAfter, List.isEmpty_nil, if_true]

theorem read?_pretty (j : Json) : read? j.pretty = some j :=
  read?_of_spellsText (spellsText_pretty j)

theorem read?_compact (j : Json) : read? j.compact = some j :=
  read?_of_spellsText (spellsText_compact j)

/-- **A text has one value.** -/
theorem eq_of_spellsText {j k : Json} {s : String} (hj : SpellsText j s.toList)
    (hk : SpellsText k s.toList) : j = k :=
  Option.some.inj ((read?_of_spellsText hj).symm.trans (read?_of_spellsText hk))

end ProxyAudit.Json

import Mathlib
import ProxyAudit.Json.Value
import ProxyAudit.Proofs.Text.Digits

/-!
# The texts of a JSON value

A value has many texts: white space may stand around every token, and a character of a string may
be written in several ways. The grammar of RFC 8259 is given here as a relation between values,
whose numbers are natural numbers, and their texts; it knows nothing of any reader or printer.

Main results:

* `spellsText_pretty`   — the text over lines is a text of its value.
* `spellsText_compact`  — the compact text is a text of its value.
-/

namespace ProxyAudit.Json

-- ---------------------------------------------------------------------------
-- Tokens
-- ---------------------------------------------------------------------------

/-- White space between tokens. -/
def Blanks (ws : List Char) : Prop :=
  ∀ c ∈ ws, c = ' ' ∨ c = '\n' ∨ c = '\r' ∨ c = '\t'

theorem Blanks.nil : Blanks [] := by
  simp [Blanks]

theorem blanks_space : Blanks [' '] := by
  simp [Blanks]

theorem blanks_lineBreak (depth : Nat) : Blanks (lineBreak depth) := by
  intro c hc
  rcases List.mem_cons.mp hc with rfl | hc
  · exact .inr (.inl rfl)
  · exact .inl (List.mem_replicate.mp hc).2

/-- The letters that may stand behind a backslash, and the characters that they stand for. -/
inductive Escape : Char → Char → Prop where
  | quote : Escape '"' '"'
  | backslash : Escape '\\' '\\'
  | slash : Escape '/' '/'
  | backspace : Escape 'b' '\x08'
  | formFeed : Escape 'f' '\x0c'
  | lineFeed : Escape 'n' '\n'
  | carriageReturn : Escape 'r' '\r'
  | tab : Escape 't' '\t'

/-- Four hexadecimal digits, and the number that they spell. -/
def Quad (n : Nat) (digits : List Char) : Prop :=
  digits.length = 4 ∧ Hex.toNat? digits = some n

/-- What may stand for a character in a string: the character, unless it is a quote, a backslash or
a control character, a letter behind a backslash, its number, or the numbers of its pair. -/
inductive SpellsChar (c : Char) : List Char → Prop where
  | plain (hQuote : c ≠ '"') (hBackslash : c ≠ '\\') (hControl : 0x20 ≤ c.toNat) :
      SpellsChar c [c]
  | letter {e : Char} (h : Escape e c) : SpellsChar c ['\\', e]
  | number {digits : List Char} (h : Quad c.toNat digits) : SpellsChar c ('\\' :: 'u' :: digits)
  | pair {lead trail : Nat} {first second : List Char} (hFirst : Quad (0xd800 + lead) first)
      (hSecond : Quad (0xdc00 + trail) second) (hLead : lead < 0x400) (hTrail : trail < 0x400)
      (h : c.toNat = 0x10000 + 0x400 * lead + trail) :
      SpellsChar c ('\\' :: 'u' :: first ++ '\\' :: 'u' :: second)

inductive SpellsChars : List Char → List Char → Prop where
  | nil : SpellsChars [] []
  | cons {c : Char} {cs piece text : List Char} (h : SpellsChar c piece)
      (hMore : SpellsChars cs text) : SpellsChars (c :: cs) (piece ++ text)

def SpellsString (s : String) (text : List Char) : Prop :=
  ∃ inner, SpellsChars s.toList inner ∧ text = ['"'] ++ inner ++ ['"']

-- ---------------------------------------------------------------------------
-- Values
-- ---------------------------------------------------------------------------

/-- A key with white space around it. -/
inductive SpellsKey (k : String) : List Char → Prop where
  | mk {ws text ws' : List Char} (hBefore : Blanks ws) (h : SpellsString k text)
      (hAfter : Blanks ws') : SpellsKey k (ws ++ text ++ ws')

mutual

/-- A text of a value without white space around it. -/
inductive Spells : Json → List Char → Prop where
  | null : Spells .null "null".toList
  | bool (b : Bool) : Spells (.bool b) (if b then "true" else "false").toList
  | num (n : Nat) : Spells (.num n) (Decimal.ofNat n)
  | str {s : String} {text : List Char} (h : SpellsString s text) : Spells (.str s) text
  | emptyArr {ws : List Char} (h : Blanks ws) : Spells (.arr []) (['['] ++ ws ++ [']'])
  | arr {items : List Json} {text : List Char} (h : SpellsItems items text) :
      Spells (.arr items) (['['] ++ text ++ [']'])
  | emptyObj {ws : List Char} (h : Blanks ws) : Spells (.obj []) (['\x7b'] ++ ws ++ ['\x7d'])
  | obj {fields : List (String × Json)} {text : List Char} (h : SpellsFields fields text) :
      Spells (.obj fields) (['\x7b'] ++ text ++ ['\x7d'])

/-- A text of a value with white space around it. -/
inductive SpellsText : Json → List Char → Prop where
  | mk {j : Json} {ws text ws' : List Char} (hBefore : Blanks ws) (h : Spells j text)
      (hAfter : Blanks ws') : SpellsText j (ws ++ text ++ ws')

/-- The items of an array that is not empty, with commas between them. -/
inductive SpellsItems : List Json → List Char → Prop where
  | last {x : Json} {text : List Char} (h : SpellsText x text) : SpellsItems [x] text
  | cons {x : Json} {xs : List Json} {text more : List Char} (h : SpellsText x text)
      (hMore : SpellsItems xs more) : SpellsItems (x :: xs) (text ++ [','] ++ more)

/-- The fields of an object that is not empty, with commas between them. -/
inductive SpellsFields : List (String × Json) → List Char → Prop where
  | last {k : String} {v : Json} {key text : List Char} (hKey : SpellsKey k key)
      (h : SpellsText v text) : SpellsFields [(k, v)] (key ++ [':'] ++ text)
  | cons {k : String} {v : Json} {fs : List (String × Json)} {key text more : List Char}
      (hKey : SpellsKey k key) (h : SpellsText v text) (hMore : SpellsFields fs more) :
      SpellsFields ((k, v) :: fs) (key ++ [':'] ++ text ++ [','] ++ more)

end

-- ---------------------------------------------------------------------------
-- Strings are written by the grammar
-- ---------------------------------------------------------------------------

theorem spellsChar_stringPiece (c : Char) : SpellsChar c (stringPiece c) := by
  -- one case for each character that has a letter, then the other control characters
  unfold stringPiece
  split
  · next h => subst h; exact .letter .quote
  split
  · next h => subst h; exact .letter .backslash
  split
  · next h => subst h; exact .letter .backspace
  split
  · next h => subst h; exact .letter .tab
  split
  · next h => subst h; exact .letter .lineFeed
  split
  · next h => subst h; exact .letter .formFeed
  split
  · next h => subst h; exact .letter .carriageReturn
  split
  · next h =>
    exact .number ⟨Hex.length_ofNatPadded 4 _, Hex.toNat?_ofNatPadded (by omega)⟩
  · next hQuote hBackslash _ _ _ _ _ hControl => exact .plain hQuote hBackslash (by omega)

theorem spellsChars_flatMap (cs : List Char) : SpellsChars cs (cs.flatMap stringPiece) := by
  induction cs with
  | nil => exact .nil
  | cons c cs ih =>
    rw [List.flatMap_cons]
    exact .cons (spellsChar_stringPiece c) ih

theorem spellsString_stringText (s : String) : SpellsString s (stringText s) :=
  ⟨_, spellsChars_flatMap s.toList, rfl⟩

/-- A value's text between two stretches of white space that may be empty. -/
theorem SpellsText.of_spells {j : Json} {text : List Char} (h : Spells j text) :
    SpellsText j text := by
  have hText := SpellsText.mk .nil h .nil
  rwa [List.nil_append, List.append_nil] at hText

theorem spellsKey_stringText {ws : List Char} (hBefore : Blanks ws) (k : String) :
    SpellsKey k (ws ++ stringText k) := by
  have hKey := SpellsKey.mk hBefore (spellsString_stringText k) .nil
  rwa [List.append_nil] at hKey

-- ---------------------------------------------------------------------------
-- Compact texts
-- ---------------------------------------------------------------------------

mutual

theorem spells_compactChars : ∀ j : Json, Spells j j.compactChars
  | .null => .null
  | .bool b => .bool b
  | .num n => .num n
  | .str s => .str (spellsString_stringText s)
  | .arr [] => .emptyArr .nil
  | .arr (x :: xs) => by
    have h := Spells.arr (spellsItems_compact xs (.of_spells (spells_compactChars x)))
    rwa [← List.append_assoc] at h
  | .obj [] => .emptyObj .nil
  | .obj ((k, v) :: fs) => by
    have h := Spells.obj (spellsFields_compact fs (spellsKey_stringText .nil k)
      (.of_spells (spells_compactChars v)))
    simpa [compactChars] using h

/-- The items after a first one. -/
theorem spellsItems_compact : ∀ (xs : List Json) {x : Json} {text : List Char},
    SpellsText x text → SpellsItems (x :: xs) (text ++ compactItems xs)
  | [], x, text, h => by
    rw [compactItems, List.append_nil]
    exact .last h
  | y :: ys, x, text, h => by
    have hMore := spellsItems_compact ys (.of_spells (spells_compactChars y))
    simpa [compactItems] using SpellsItems.cons h hMore

/-- The fields after a first one. -/
theorem spellsFields_compact : ∀ (fs : List (String × Json)) {k : String} {v : Json}
    {key text : List Char}, SpellsKey k key → SpellsText v text →
    SpellsFields ((k, v) :: fs) (key ++ [':'] ++ text ++ compactFields fs)
  | [], k, v, key, text, hKey, h => by
    rw [compactFields, List.append_nil]
    exact .last hKey h
  | (k', v') :: fs, k, v, key, text, hKey, h => by
    have hMore := spellsFields_compact fs (spellsKey_stringText .nil k')
      (.of_spells (spells_compactChars v'))
    simpa [compactFields] using SpellsFields.cons hKey h hMore

end

/-- **The compact text is a text of its value.** -/
theorem spellsText_compact (j : Json) : SpellsText j j.compact.toList := by
  rw [compact, String.toList_ofList]
  exact .of_spells (spells_compactChars j)

-- ---------------------------------------------------------------------------
-- Texts over lines
-- ---------------------------------------------------------------------------

mutual

theorem spells_prettyChars : ∀ (j : Json) (depth : Nat), Spells j (j.prettyChars depth)
  | .null, _ => .null
  | .bool b, _ => .bool b
  | .num n, _ => .num n
  | .str s, _ => .str (spellsString_stringText s)
  | .arr [], _ => .emptyArr .nil
  | .arr (x :: xs), depth => by
    have h := spellsItems_pretty xs (depth + 1) (blanks_lineBreak depth)
      (spells_prettyChars x (depth + 1)) (blanks_lineBreak (depth + 1))
    simpa [prettyChars] using Spells.arr h
  | .obj [], _ => .emptyObj .nil
  | .obj ((k, v) :: fs), depth => by
    have h := spellsFields_pretty fs (depth + 1) (blanks_lineBreak depth)
      (spellsKey_stringText (blanks_lineBreak (depth + 1)) k) (spells_prettyChars v (depth + 1))
    simpa [prettyChars] using Spells.obj h

/-- The items after a first one, and the white space after the last. -/
theorem spellsItems_pretty : ∀ (xs : List Json) (depth : Nat) {x : Json}
    {before text after : List Char}, Blanks after → Spells x text → Blanks before →
    SpellsItems (x :: xs) (before ++ text ++ prettyItems depth xs ++ after)
  | [], depth, x, before, text, after, hAfter, h, hBefore => by
    rw [prettyItems, List.append_nil]
    exact .last (.mk hBefore h hAfter)
  | y :: ys, depth, x, before, text, after, hAfter, h, hBefore => by
    have hMore := spellsItems_pretty ys depth hAfter (spells_prettyChars y depth)
      (blanks_lineBreak depth)
    simpa [prettyItems] using SpellsItems.cons (.mk hBefore h .nil) hMore

/-- The fields after a first one, and the white space after the last. -/
theorem spellsFields_pretty : ∀ (fs : List (String × Json)) (depth : Nat) {k : String} {v : Json}
    {key text after : List Char}, Blanks after → SpellsKey k key → Spells v text →
    SpellsFields ((k, v) :: fs) (key ++ [':', ' '] ++ text ++ prettyFields depth fs ++ after)
  | [], depth, k, v, key, text, after, hAfter, hKey, h => by
    have hLast := SpellsFields.last hKey (.mk blanks_space h hAfter)
    simpa [prettyFields] using hLast
  | (k', v') :: fs, depth, k, v, key, text, after, hAfter, hKey, h => by
    have hMore := spellsFields_pretty fs depth hAfter
      (spellsKey_stringText (blanks_lineBreak depth) k') (spells_prettyChars v' depth)
    have hFirst := SpellsFields.cons hKey (.mk blanks_space h .nil) hMore
    simpa [prettyFields] using hFirst

end

/-- **The text over lines is a text of its value.** -/
theorem spellsText_pretty (j : Json) : SpellsText j j.pretty.toList := by
  rw [pretty, String.toList_ofList]
  exact .of_spells (spells_prettyChars j 0)

end ProxyAudit.Json

import Mathlib
import ProxyAudit.Toml.Reader
import ProxyAudit.Proofs.Toml.Numbers
import ProxyAudit.Proofs.Toml.Proper
import ProxyAudit.Proofs.Toml.Strings

/-!
# Plain documents

A plain document is written line by line: keys without quotes, each with a string or a whole number,
and headers of tables, each table with keys of that kind. Nothing in it is dotted, nested or
repeated, so that its tables are what its lines say.

Main results:

* `lineText_pair`, `lineText_header`  — the lines of a plain document.
* `read?_of_lineTexts`  — a document is read as its lines, one after the other.
* `entriesOf?_plain`    — lines with different keys make tables with these keys.
* `read?_plain`         — a document of such lines is read as its fields and its tables.
-/

namespace ProxyAudit.Toml

variable {key : String} {text rest : List Char} {v : Value}

-- ---------------------------------------------------------------------------
-- Values
-- ---------------------------------------------------------------------------

/-- A text that reads as a value, if a line end follows it. -/
structure ScalarText (text : List Char) (v : Value) : Prop where
  starts : ∃ c cs, text = c :: cs ∧ (c = '"' ∨ c = '\'' ∨ Decimal.isDigit c = true)
  reads : ∀ rest, readScalar? (text ++ '\n' :: rest) = some (v, '\n' :: rest)

theorem exists_quote_stringText (s : String) :
    ∃ c cs, stringText s = c :: cs ∧ (c = '"' ∨ c = '\'') := by
  simp only [stringText]
  split
  · exact ⟨_, _, rfl, .inl rfl⟩
  · exact ⟨_, _, rfl, .inr rfl⟩
  · exact ⟨_, _, rfl, .inl rfl⟩
  · exact ⟨_, _, rfl, .inr rfl⟩

/-- **A written string** reads as the text. -/
theorem scalarText_string (s : String) : ScalarText (stringText s) (.string s) := by
  obtain ⟨c, cs, hText, hQuote⟩ := exists_quote_stringText s
  refine ⟨⟨c, cs, hText, hQuote.imp_right .inl⟩, fun rest => ?_⟩
  have hRead : readString? (stringText s ++ '\n' :: rest) = some (s.toList, '\n' :: rest) :=
    readString?_stringText s (by simp) (by simp)
  rw [hText, List.cons_append] at hRead ⊢
  simp [readScalar?, hQuote, hRead]

/-- **A written number** reads as the integer, if a document can hold it. -/
theorem scalarText_integer {n : Nat} (h : n ≤ maxInteger) :
    ScalarText (Decimal.ofNat n) (.integer n) := by
  obtain ⟨c, cs, hCs, hDigit⟩ := Decimal.exists_digit n
  refine ⟨⟨c, cs, hCs, .inr (.inr hDigit)⟩, fun rest => ?_⟩
  have hRead := readNumber?_ofNat h rest
  have hQuote : ¬(c = '"' ∨ c = '\'') :=
    not_or.mpr ⟨Decimal.ne_of_isDigit hDigit (by decide), Decimal.ne_of_isDigit hDigit (by decide)⟩
  rw [hCs, List.cons_append] at hRead ⊢
  simp [readScalar?, hQuote, hDigit, hRead]

/-- Such a value is read without looking at what is nested. -/
theorem ScalarText.readValue? (h : ScalarText text v) (steps levels : Nat) (rest : List Char) :
    readValue? (steps + 1) levels (text ++ '\n' :: rest) = some (v, '\n' :: rest) := by
  have hRead := h.reads rest
  obtain ⟨c, cs, rfl, hFirst⟩ := h.starts
  have hBracket : c ≠ '[' := by
    rintro rfl
    exact absurd hFirst (by decide)
  have hBrace : c ≠ '\x7b' := by
    rintro rfl
    exact absurd hFirst (by decide)
  rw [List.cons_append] at hRead ⊢
  cases levels <;> simpa [Toml.readValue?, hBracket, hBrace] using hRead

-- ---------------------------------------------------------------------------
-- Keys
-- ---------------------------------------------------------------------------

/-- A key that needs no quotes. -/
def BareKey (key : String) : Prop :=
  key.toList ≠ [] ∧ ∀ c ∈ key.toList, isBare c = true

instance (key : String) : Decidable (BareKey key) :=
  inferInstanceAs (Decidable (_ ∧ _))

theorem ne_of_isBare {c d : Char} (hc : isBare c = true) (hd : isBare d = false) : c ≠ d := by
  rintro rfl
  rw [hc] at hd
  contradiction

theorem isSpace_of_isBare {c : Char} (h : isBare c = true) : isSpace c = false := by
  simp only [isSpace, Bool.or_eq_false_iff, beq_eq_false_iff_ne]
  exact ⟨ne_of_isBare h (by decide), ne_of_isBare h (by decide)⟩

theorem BareKey.exists_start (h : BareKey key) :
    ∃ c cs, key.toList = c :: cs ∧ isBare c = true := by
  obtain ⟨c, cs, hKey⟩ := List.exists_cons_of_ne_nil h.1
  exact ⟨c, cs, hKey, h.2 c (by simp [hKey])⟩

/-- A bare key ends where the space or the bracket after it stands. -/
theorem readKey?_bare (h : BareKey key) {c : Char} (hEnd : isBare c = false)
    (hDot : ∀ after, skipSpaces (c :: rest) ≠ '.' :: after) :
    readKey? (key.toList ++ c :: rest) = some (⟨[], key⟩, skipSpaces (c :: rest)) := by
  obtain ⟨k, ks, hKey, hFirst⟩ := h.exists_start
  -- the part ends where the bare characters end
  have hTake : (key.toList ++ c :: rest).takeWhile isBare = key.toList := by
    simp [List.takeWhile_append_of_pos h.2, hEnd]
  have hDrop : (key.toList ++ c :: rest).dropWhile isBare = c :: rest := by
    simp [List.dropWhile_append_of_pos h.2, hEnd]
  have hSkip : skipSpaces (key.toList ++ c :: rest) = key.toList ++ c :: rest := by
    simp [skipSpaces, hKey, isSpace_of_isBare hFirst]
  have hPart : readPart? (key.toList ++ c :: rest) = some (key, c :: rest) := by
    rw [readPart?]
    · rw [hTake, hDrop, hKey]
      simp [← hKey]
    · simp [hKey, ne_of_isBare hFirst (d := '"') (by decide)]
    · simp [hKey, ne_of_isBare hFirst (d := '\'') (by decide)]
  rw [readKey?, nestingLimit, readParts?, hSkip, hPart]
  simp only [Option.bind_eq_bind, Option.bind_some]
  rfl

-- ---------------------------------------------------------------------------
-- Lines
-- ---------------------------------------------------------------------------

/-- A text that reads as a line of a document. -/
structure LineText (text : List Char) (line : Option Line) : Prop where
  starts : ∃ c cs, text = c :: cs ∧ isSpace c = false
  reads : ∀ rest, readLine? (text ++ rest) = some (line, rest)

theorem lineText_empty : LineText ['\n'] none :=
  ⟨⟨_, _, rfl, rfl⟩, fun _ => rfl⟩

/-- **A key with its value** is a line. -/
theorem lineText_pair (hKey : BareKey key) (h : ScalarText text v) :
    LineText (key.toList ++ " = ".toList ++ text ++ ['\n']) (some (.pair ⟨[], key⟩ v)) := by
  obtain ⟨k, ks, hStart, hFirst⟩ := hKey.exists_start
  refine ⟨⟨k, _, by rw [hStart]; rfl, isSpace_of_isBare hFirst⟩, fun rest => ?_⟩
  have hRead : readKey? (key.toList ++ ' ' :: '=' :: ' ' :: (text ++ '\n' :: rest))
      = some (⟨[], key⟩, '=' :: ' ' :: (text ++ '\n' :: rest)) :=
    readKey?_bare hKey (by decide) (by simp [skipSpaces, isSpace])
  -- a value begins with no blank, so only the one after the sign is skipped
  have hSkip : skipSpaces (' ' :: (text ++ '\n' :: rest)) = text ++ '\n' :: rest := by
    obtain ⟨c, cs, rfl, hValue⟩ := h.starts
    have hSpace : isSpace c = false := by
      simp only [isSpace, Bool.or_eq_false_iff, beq_eq_false_iff_ne]
      constructor <;> (rintro rfl; exact absurd hValue (by decide))
    simp [skipSpaces, hSpace, show isSpace ' ' = true from rfl]
  have hValue (steps : Nat) := h.readValue? steps (nestingLimit - 1) rest
  -- a key begins neither a comment nor a header
  have hComment : ¬(k = '#' ∨ k = '\n' ∨ k = '\r') := by
    rintro (rfl | rfl | rfl) <;> exact absurd hFirst (by decide)
  have hEnd : finishLine? ('\n' :: rest) = some rest := rfl
  have hHeader : k ≠ '[' := ne_of_isBare hFirst (by decide)
  have hExpect (after : List Char) : expect? '=' ('=' :: after) = some after := rfl
  rw [hStart, List.cons_append] at hRead
  simp [hStart, readLine?, hComment, hHeader, hRead, hExpect, hSkip, hValue, hEnd]

/-- **The header of a table** is a line. -/
theorem lineText_header (key : String) (hKey : BareKey key) :
    LineText (['['] ++ key.toList ++ [']', '\n']) (some (.header (.table ⟨[], key⟩))) := by
  refine ⟨⟨_, _, rfl, rfl⟩, fun rest => ?_⟩
  have hRead : readKey? (key.toList ++ ']' :: '\n' :: rest)
      = some (⟨[], key⟩, ']' :: '\n' :: rest) :=
    readKey?_bare hKey (by decide) (by simp [skipSpaces, isSpace])
  have hHeader : readHeader? (key.toList ++ ']' :: '\n' :: rest)
      = some (.table ⟨[], key⟩, '\n' :: rest) := by
    -- one bracket, so it is a table and not an element
    obtain ⟨k, ks, hStart, hFirst⟩ := hKey.exists_start
    rw [readHeader?, hRead]
    · rfl
    · simp [hStart, ne_of_isBare hFirst (d := '[') (by decide)]
  have hEnd : finishLine? ('\n' :: rest) = some rest := rfl
  simp [readLine?, hHeader, hEnd]

theorem readLines?_succ {cs : List Char} (hSkip : skipSpaces cs = cs) (hNonempty : cs ≠ [])
    (room : Nat) :
    readLines? (room + 1) cs
      = (readLine? cs).bind fun r => (readLines? room r.2).map (r.1.toList ++ ·) := by
  rw [readLines?, hSkip]
  cases cs with
  | nil => contradiction
  | cons c cs => simp only [Option.bind_eq_bind, Option.pure_def, Option.map_eq_bind]; rfl

/-- **Lines are read one after the other**, each where the one before it has ended. -/
theorem readLines?_of_lineTexts {texts : List (List Char)} {lines : List (Option Line)}
    (h : List.Forall₂ LineText texts lines) {room : Nat} (hRoom : texts.flatten.length ≤ room) :
    readLines? room texts.flatten = some (lines.flatMap Option.toList) := by
  induction h generalizing room with
  | nil => cases room <;> rfl
  | @cons text line texts lines hLine _ ih =>
    obtain ⟨c, cs, hText, hSpace⟩ := hLine.starts
    -- a line begins with no blank
    have hSkip : skipSpaces (text ++ texts.flatten) = text ++ texts.flatten := by
      simp [skipSpaces, hText, hSpace]
    rw [List.flatten_cons, List.length_append, hText, List.length_cons] at hRoom
    cases room with
    | zero => omega
    | succ room =>
      have hMore : readLines? room texts.flatten = some (lines.flatMap Option.toList) :=
        ih (by omega)
      rw [List.flatten_cons, readLines?_succ hSkip (by simp [hText]), hLine.reads,
        Option.bind_some, hMore, Option.map_some, List.flatMap_cons]

/-- **A document is read as its lines.** -/
theorem read?_of_lineTexts {texts : List (List Char)} {lines : List (Option Line)}
    (h : List.Forall₂ LineText texts lines) (hMark : texts.flatten.head? ≠ some '\ufeff') :
    read? (String.ofList texts.flatten)
      = entriesOf? (divide (lines.flatMap Option.toList)).1
          (divide (lines.flatMap Option.toList)).2 := by
  have hSkip : skipByteOrderMark texts.flatten = texts.flatten := by
    unfold skipByteOrderMark
    split
    · next heq => exact absurd (by rw [heq]; rfl) hMark
    · rfl
  rw [read?, String.toList_ofList, hSkip, readLines?_of_lineTexts h le_rfl]
  rfl

-- ---------------------------------------------------------------------------
-- Tables
-- ---------------------------------------------------------------------------

/-- Values under plain keys, as they stand in a document. -/
def plainPairs (fields : Entries) : Pairs :=
  fields.map fun field => (⟨[], field.1⟩, field.2)

/-- The same while the document is read. -/
def plainNodes (fields : Entries) : Node.Children :=
  fields.map fun field => (field.1, .value field.2)

/-- New keys are added at the end. -/
theorem addPairs_plain (entries : Node.Children) (fields : Entries)
    (h : (entries.map Prod.fst ++ fields.map Prod.fst).Nodup) :
    Node.addPairs entries (plainPairs fields) = some (entries ++ plainNodes fields) := by
  induction fields generalizing entries with
  | nil => simp [plainPairs, plainNodes, Node.addPairs]
  | cons field fields ih =>
    -- a key that is new is added at the end
    have hNew : field.1 ∉ entries.map Prod.fst := by
      intro hOld
      exact (List.nodup_append.mp h).2.2 _ hOld _ (by simp) rfl
    have hAdd : Node.addPair entries (⟨[], field.1⟩, field.2)
        = some (entries ++ [(field.1, .value field.2)]) := by
      simp [Node.addPair, Node.descend, Node.addHere, Node.find?_eq_none_iff.mpr hNew]
    have hMore := ih (entries ++ [(field.1, .value field.2)]) (by simpa using h)
    rw [Node.addPairs] at hMore ⊢
    simpa [plainPairs, plainNodes, hAdd] using hMore

theorem toEntries_append (entries more : Node.Children) :
    Node.toEntries (entries ++ more) = Node.toEntries entries ++ Node.toEntries more := by
  simp only [Node.toEntries_eq_map, List.map_append]

theorem toEntries_plainNodes (fields : Entries) : Node.toEntries (plainNodes fields) = fields := by
  induction fields with
  | nil => rfl
  | cons field fields ih =>
    rw [plainNodes, List.map_cons, Node.toEntries, Node.toValue]
    exact congrArg (field :: ·) ih

/-- A table under a header, as it stands in a document. -/
def plainSection (table : String × Entries) : Section :=
  ⟨.table ⟨[], table.1⟩, plainPairs table.2⟩

/-- The same while the document is read. -/
def plainTable (table : String × Entries) : String × Node :=
  (table.1, .table .opened (plainNodes table.2))

/-- New tables are added at the end. -/
theorem addSections_plain (root : Node.Children) (tables : List (String × Entries))
    (h : (root.map Prod.fst ++ tables.map Prod.fst).Nodup)
    (hTables : ∀ table ∈ tables, (table.2.map Prod.fst).Nodup) :
    (tables.map plainSection).foldlM Node.addSection root
      = some (root ++ tables.map plainTable) := by
  induction tables generalizing root with
  | nil => simp
  | cons table tables ih =>
    have hNew : table.1 ∉ root.map Prod.fst := by
      intro hOld
      exact (List.nodup_append.mp h).2.2 _ hOld _ (by simp) rfl
    -- a table that is new takes no other out
    have hRest : root.filter (·.1 != table.1) = root := by
      rw [List.filter_eq_self]
      intro entry hEntry
      simp only [bne_iff_ne]
      exact fun hKey => hNew (List.mem_map.mpr ⟨entry, hEntry, hKey⟩)
    have hPairs := addPairs_plain [] table.2 (by simpa using hTables table (by simp))
    have hAdd : Node.addSection root (plainSection table) = some (root ++ [plainTable table]) := by
      simp [Node.addSection, plainSection, Node.descend, Node.openTable, Node.find?_eq_none_iff.mpr hNew,
        hRest, hPairs, plainTable]
    have hMore := ih (root ++ [plainTable table]) (by simpa [plainTable] using h)
      fun table hTable => hTables table (by simp [hTable])
    rw [List.map_cons, List.foldlM_cons, hAdd]
    simpa using hMore

theorem toEntries_plainTables (tables : List (String × Entries)) :
    Node.toEntries (tables.map plainTable)
      = tables.map fun table => (table.1, .table table.2) := by
  induction tables with
  | nil => rfl
  | cons table tables ih =>
    rw [List.map_cons, plainTable, Node.toEntries, Node.toValue, toEntries_plainNodes, ih]
    rfl

/-- **Different keys make tables with these keys**, in the order of the lines. -/
theorem entriesOf?_plain (fields : Entries) (tables : List (String × Entries))
    (h : (fields.map Prod.fst ++ tables.map Prod.fst).Nodup)
    (hTables : ∀ table ∈ tables, (table.2.map Prod.fst).Nodup) :
    entriesOf? (plainPairs fields) (tables.map plainSection)
      = some (fields ++ tables.map fun table => (table.1, .table table.2)) := by
  have hKeys : (plainNodes fields).map Prod.fst = fields.map Prod.fst := by
    simp [plainNodes]
  have hRoot := addPairs_plain [] fields (by simpa using (List.nodup_append.mp h).1)
  have hSections := addSections_plain (plainNodes fields) tables (by rwa [hKeys]) hTables
  rw [entriesOf?, hRoot]
  simp [hSections, toEntries_append, toEntries_plainNodes, toEntries_plainTables]

-- ---------------------------------------------------------------------------
-- Documents
-- ---------------------------------------------------------------------------

def pairLine (field : String × Value) : Option Line :=
  some (.pair ⟨[], field.1⟩ field.2)

/-- A table is set off by an empty line. -/
def tableLines (table : String × Entries) : List (Option Line) :=
  [none, some (.header (.table ⟨[], table.1⟩))] ++ table.2.map pairLine

/-- The lines of a plain document: the keys of no table come first. -/
def plainLines (fields : Entries) (tables : List (String × Entries)) : List (Option Line) :=
  fields.map pairLine ++ tables.flatMap tableLines

theorem divide_plainLines (fields : Entries) (tables : List (String × Entries)) :
    divide ((plainLines fields tables).flatMap Option.toList)
      = (plainPairs fields, tables.map plainSection) := by
  -- the keys of a table are the fields before the tables that follow it
  induction tables generalizing fields with
  | nil =>
    induction fields with
    | nil => rfl
    | cons field fields ih =>
      simp_all [plainLines, pairLine, plainPairs, divide]
  | cons table tables ihTables =>
    induction fields with
    | nil =>
      have hTable := ihTables table.2
      simp_all [plainLines, tableLines, plainPairs, plainSection, divide]
    | cons field fields ih =>
      simp_all [plainLines, pairLine, plainPairs, divide]

/-- **A plain document with different keys** is read as its fields and its tables. -/
theorem read?_plain {texts : List (List Char)} {fields : Entries}
    {tables : List (String × Entries)}
    (hTexts : List.Forall₂ LineText texts (plainLines fields tables))
    (hMark : texts.flatten.head? ≠ some '\ufeff')
    (h : (fields.map Prod.fst ++ tables.map Prod.fst).Nodup)
    (hTables : ∀ table ∈ tables, (table.2.map Prod.fst).Nodup) :
    read? (String.ofList texts.flatten)
      = some (fields ++ tables.map fun table => (table.1, .table table.2)) := by
  rw [read?_of_lineTexts hTexts hMark, divide_plainLines]
  exact entriesOf?_plain fields tables h hTables

end ProxyAudit.Toml

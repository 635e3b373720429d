import Mathlib
import ProxyAudit.Toml.Reader

/-!
# Proper documents

However a document names its tables, by headers, by dotted keys or inline, no table of what is read
from it has a key twice, and every whole number fits. This is so at every depth. Each way to build a
table keeps what is proper: a key is only added where there was none, and a table that is reached
again is replaced in its place, or moved to the end.

Main results:

* `ProperChildren.descend`  — a change at the end of a path keeps a proper table, if it keeps the
  table at the end.
* `properEntries_of_read?`  — what is read is proper.
-/

namespace ProxyAudit.Toml

/-- Whole numbers fit, and no table has a key twice, to any depth. -/
inductive Value.IsProper : Value → Prop where
  | string (s : String) : IsProper (.string s)
  | integer {n : Int} (h : isInteger n = true) : IsProper (.integer n)
  | float (x : Binary64) : IsProper (.float x)
  | boolean (b : Bool) : IsProper (.boolean b)
  | dateTime (text : String) : IsProper (.dateTime text)
  | array {items : List Value} (h : ∀ v ∈ items, IsProper v) : IsProper (.array items)
  | table {entries : Entries} (hKeys : (entries.map Prod.fst).Nodup)
      (h : ∀ e ∈ entries, IsProper e.2) : IsProper (.table entries)

structure ProperEntries (entries : Entries) : Prop where
  keys : (entries.map Prod.fst).Nodup
  values : ∀ e ∈ entries, e.2.IsProper

/-- The same of a table that is being built. -/
inductive Node.IsProper : Node → Prop where
  | value {v : Value} (h : v.IsProper) : IsProper (.value v)
  | table (origin : Origin) {entries : Children} (hKeys : (entries.map Prod.fst).Nodup)
      (h : ∀ e ∈ entries, IsProper e.2) : IsProper (.table origin entries)
  | tables {items : List Children} (hKeys : ∀ item ∈ items, (item.map Prod.fst).Nodup)
      (h : ∀ item ∈ items, ∀ e ∈ item, IsProper e.2) : IsProper (.tables items)

structure ProperChildren (entries : Node.Children) : Prop where
  keys : (entries.map Prod.fst).Nodup
  nodes : ∀ e ∈ entries, e.2.IsProper

theorem ProperChildren.nil : ProperChildren [] :=
  ⟨List.nodup_nil, fun _ h => (List.not_mem_nil h).elim⟩

-- ---------------------------------------------------------------------------
-- Nodes as values
-- ---------------------------------------------------------------------------

namespace Node

theorem toEntries_eq_map (entries : Children) :
    toEntries entries = entries.map fun e => (e.1, toValue e.2) := by
  induction entries with
  | nil => rfl
  | cons e entries ih =>
    obtain ⟨k, n⟩ := e
    rw [toEntries, ih, List.map_cons]

theorem elements_eq_map (items : List Children) :
    elements items = items.map fun item => .table (toEntries item) := by
  induction items with
  | nil => rfl
  | cons item items ih => rw [elements, ih, List.map_cons]

theorem keys_toEntries (entries : Children) :
    (toEntries entries).map Prod.fst = entries.map Prod.fst := by
  rw [toEntries_eq_map, List.map_map]
  rfl

/-- A proper node ends up as a proper value. -/
theorem IsProper.toValue {n : Node} (h : n.IsProper) : n.toValue.IsProper := by
  -- tables and the elements of an array have the same reason
  have hTable {entries : Children} (hKeys : (entries.map Prod.fst).Nodup)
      (hEach : ∀ e ∈ entries, e.2.toValue.IsProper) : (Value.table (toEntries entries)).IsProper := by
    refine .table (by rwa [keys_toEntries]) fun e he => ?_
    rw [toEntries_eq_map, List.mem_map] at he
    obtain ⟨e, he, rfl⟩ := he
    exact hEach e he
  induction h with
  | value h =>
    rw [Node.toValue]
    exact h
  | table origin hKeys _ ih =>
    rw [Node.toValue]
    exact hTable hKeys ih
  | tables hKeys _ ih =>
    rw [Node.toValue]
    refine .array fun v hv => ?_
    rw [List.mem_reverse, elements_eq_map, List.mem_map] at hv
    obtain ⟨item, hItem, rfl⟩ := hv
    exact hTable (hKeys item hItem) (ih item hItem)

end Node

theorem ProperChildren.toEntries {entries : Node.Children} (h : ProperChildren entries) :
    ProperEntries (Node.toEntries entries) := by
  refine ⟨by rw [Node.keys_toEntries]; exact h.keys, fun e he => ?_⟩
  rw [Node.toEntries_eq_map, List.mem_map] at he
  obtain ⟨e, he, rfl⟩ := he
  exact (h.nodes e he).toValue

-- ---------------------------------------------------------------------------
-- Changes of one key
-- ---------------------------------------------------------------------------

/-- The keys after one of them is named: a new one goes to the end. -/
def noted (keys : List String) (key : String) : List String :=
  if key ∈ keys then keys else keys ++ [key]

theorem nodup_noted {keys : List String} (h : keys.Nodup) (key : String) : (noted keys key).Nodup := by
  unfold noted
  split_ifs with hMem
  · exact h
  · exact List.nodup_append.mpr ⟨h, List.nodup_singleton key,
      fun a ha b hb => by
        obtain rfl := List.mem_singleton.mp hb
        exact fun hSame => hMem (hSame ▸ ha)⟩

namespace Node

theorem find?_cons (key k : String) (n : Node) (entries : Children) :
    find? key ((k, n) :: entries) = if k = key then some n else find? key entries := by
  split_ifs with hKey <;> simp [find?, hKey]

theorem find?_eq_none_iff {key : String} {entries : Children} :
    find? key entries = none ↔ key ∉ entries.map Prod.fst := by
  rw [find?, Option.map_eq_none_iff, List.find?_eq_none]
  constructor
  · intro h hMem
    obtain ⟨e, he, rfl⟩ := List.mem_map.mp hMem
    exact h e he (beq_self_eq_true e.1)
  · intro h e he hSame
    exact h (List.mem_map.mpr ⟨e, he, eq_of_beq hSame⟩)

theorem mem_of_find? {key : String} {entries : Children} {n : Node}
    (h : find? key entries = some n) : (key, n) ∈ entries := by
  obtain ⟨e, he, rfl⟩ := Option.map_eq_some_iff.mp h
  obtain rfl : e.1 = key := by simpa using List.find?_some he
  exact List.mem_of_find?_eq_some he

variable {key : String} {change : Option Node → Option Node} {entries after : Children}

theorem keys_update (h : update key change entries = some after) :
    after.map Prod.fst = noted (entries.map Prod.fst) key := by
  induction entries generalizing after with
  | nil =>
    rw [update, Option.map_eq_some_iff] at h
    obtain ⟨n, -, rfl⟩ := h
    rfl
  | cons e entries ih =>
    obtain ⟨k, n⟩ := e
    rw [update] at h
    split_ifs at h with hKey <;> obtain ⟨m, hm, rfl⟩ := Option.map_eq_some_iff.mp h
    · simp [noted, hKey]
    · -- another key: the change is further down
      have hNe : key ≠ k := fun hSame => hKey hSame.symm
      simp only [List.map_cons, ih hm, noted, List.mem_cons, hNe, false_or]
      split <;> rfl

/-- Only the node of the key is changed. -/
theorem mem_update (hKeys : (entries.map Prod.fst).Nodup)
    (h : update key change entries = some after) {e : String × Node} (he : e ∈ after) :
    e.1 ≠ key ∧ e ∈ entries ∨ e.1 = key ∧ change (find? key entries) = some e.2 := by
  induction entries generalizing after with
  | nil =>
    rw [update, Option.map_eq_some_iff] at h
    obtain ⟨m, hm, rfl⟩ := h
    obtain rfl := List.mem_singleton.mp he
    exact .inr ⟨rfl, hm⟩
  | cons head entries ih =>
    obtain ⟨k, n⟩ := head
    rw [List.map_cons, List.nodup_cons] at hKeys
    rw [update] at h
    split_ifs at h with hKey <;> obtain ⟨m, hm, rfl⟩ := Option.map_eq_some_iff.mp h
    · -- this is the entry that changes, and the others have other keys
      subst hKey
      rcases List.mem_cons.mp he with rfl | he
      · refine .inr ⟨rfl, ?_⟩
        rw [find?_cons, if_pos rfl]
        exact hm
      · have hThere := List.mem_map_of_mem (f := Prod.fst) he
        exact .inl ⟨fun hSame => hKeys.1 (hSame ▸ hThere), List.mem_cons_of_mem _ he⟩
    · rcases List.mem_cons.mp he with rfl | he
      · exact .inl ⟨hKey, List.mem_cons_self⟩
      · rw [find?_cons, if_neg hKey]
        rcases ih hKeys.2 hm he with ⟨hNe, hOld⟩ | hNew
        · exact .inl ⟨hNe, List.mem_cons_of_mem _ hOld⟩
        · exact .inr hNew

/-- What a node becomes if a path leads through it: a table is made where there is none, and of an
array of tables the last one is passed. -/
inductive Passes (made : Origin) (change : Origin → Children → Option Children)
    (path : List String) : Option Node → Node → Prop where
  | new {done : Children} (h : descend made change path made [] = some done) :
      Passes made change path none (.table made done)
  | table {origin : Origin} {before done : Children}
      (h : descend made change path origin before = some done) :
      Passes made change path (some (.table origin before)) (.table origin done)
  | element {before done : Children} {earlier : List Children}
      (h : descend made change path .opened before = some done) :
      Passes made change path (some (.tables (before :: earlier))) (.tables (done :: earlier))

/-- A change at the end of a path is a change of its first key. -/
theorem exists_update_of_descend {made : Origin} {change : Origin → Children → Option Children}
    {path : List String} {origin : Origin} {entries after : Children}
    (h : descend made change (key :: path) origin entries = some after) :
    ∃ pass, update key pass entries = some after ∧
      ∀ n m, pass n = some m → Passes made change path n m := by
  rw [descend] at h
  refine ⟨_, h, fun n m hm => ?_⟩
  -- what can be passed on the way: a new table, one that was there, the last element
  match n, hm with
  | none, hm =>
    obtain ⟨done, hDone, rfl⟩ := Option.map_eq_some_iff.mp hm
    exact .new hDone
  | some (.value v), hm => cases hm
  | some (.tables []), hm => cases hm
  | some (.tables (item :: earlier)), hm =>
    obtain ⟨done, hDone, rfl⟩ := Option.map_eq_some_iff.mp hm
    exact .element hDone
  | some (.table origin before), hm =>
    dsimp only at hm
    split_ifs at hm
    obtain ⟨done, hDone, rfl⟩ := Option.map_eq_some_iff.mp hm
    exact .table hDone

end Node

namespace ProperChildren

open Node

variable {key : String} {entries after : Children}

theorem update {change : Option Node → Option Node} (hProper : ProperChildren entries)
    (hChange : ∀ n m, (∀ x, n = some x → x.IsProper) → change n = some m → m.IsProper)
    (h : Node.update key change entries = some after) : ProperChildren after := by
  refine ⟨by rw [keys_update h]; exact nodup_noted hProper.keys key, fun e he => ?_⟩
  rcases mem_update hProper.keys h he with ⟨-, hOld⟩ | ⟨-, hNew⟩
  · exact hProper.nodes e hOld
  · exact hChange _ e.2 (fun x hx => hProper.nodes _ (mem_of_find? hx)) hNew

/-- **A change at the end of a path keeps a proper table**, if it keeps the table at the end. -/
theorem descend {made : Origin} {change : Origin → Children → Option Children}
    (hChange : ∀ {origin entries after}, ProperChildren entries → change origin entries = some after →
      ProperChildren after) (path : List String) {origin : Origin} (hProper : ProperChildren entries)
    (h : Node.descend made change path origin entries = some after) : ProperChildren after := by
  induction path generalizing origin entries after with
  | nil => exact hChange hProper h
  | cons key more ih =>
    obtain ⟨pass, hUpdate, hPass⟩ := exists_update_of_descend h
    -- the change is made further down, and what is passed stays proper
    refine hProper.update (fun n m hn hm => ?_) hUpdate
    cases hPass n m hm with
    | new hDone =>
      have hTable := ih .nil hDone
      exact .table made hTable.keys hTable.nodes
    | table hDone =>
      cases hn _ rfl with
      | table _ hKeys hNodes =>
        have hTable := ih ⟨hKeys, hNodes⟩ hDone
        exact .table _ hTable.keys hTable.nodes
    | element hDone =>
      cases hn _ rfl with
      | tables hKeys hNodes =>
        -- the path goes on in the last element, and the earlier ones stay as they are
        obtain ⟨hItemKeys, hKeys⟩ := List.forall_mem_cons.mp hKeys
        obtain ⟨hItemNodes, hNodes⟩ := List.forall_mem_cons.mp hNodes
        have hItem := ih ⟨hItemKeys, hItemNodes⟩ hDone
        exact .tables (List.forall_mem_cons.mpr ⟨hItem.keys, hKeys⟩)
          (List.forall_mem_cons.mpr ⟨hItem.nodes, hNodes⟩)

end ProperChildren

-- ---------------------------------------------------------------------------
-- Pairs and sections
-- ---------------------------------------------------------------------------

theorem foldlM_keeps {α β : Type} {step : β → α → Option β} {P : β → Prop} {xs : List α} {b b' : β}
    (hStep : ∀ x ∈ xs, ∀ {b b'}, P b → step b x = some b' → P b') (hb : P b)
    (h : xs.foldlM step b = some b') : P b' := by
  induction xs generalizing b with
  | nil => exact Option.some.inj h ▸ hb
  | cons x xs ih =>
    rw [List.foldlM_cons] at h
    obtain ⟨b₁, hFirst, hRest⟩ := Option.bind_eq_some_iff.mp h
    exact ih (fun y hy => hStep y (List.mem_cons_of_mem _ hy)) (hStep x List.mem_cons_self hb hFirst)
      hRest

theorem addHere_eq_some {isDotted : Bool} {key : String} {v : Value} {origin : Origin}
    {entries after : Node.Children} (h : Node.addHere isDotted key v origin entries = some after) :
    key ∉ entries.map Prod.fst ∧ after = entries ++ [(key, .value v)] := by
  unfold Node.addHere at h
  split_ifs at h with hRefused
  refine ⟨Node.find?_eq_none_iff.mp ?_, (Option.some.inj h).symm⟩
  have hFree := (not_or.mp hRefused).2
  exact Option.not_isSome_iff_eq_none.mp hFree

/-- A table that is opened was not there, or it was made on the way of headers. It moves to the
end. -/
theorem openTable_eq_some {key : String} {pairs : Pairs} {entries after : Node.Children}
    (h : Node.openTable key pairs entries = some after) :
    ∃ inner filled, (inner = [] ∧ key ∉ entries.map Prod.fst ∨
        (key, .table .implied inner) ∈ entries) ∧
      Node.addPairs inner pairs = some filled ∧
      after = entries.filter (·.1 != key) ++ [(key, .table .opened filled)] := by
  unfold Node.openTable at h
  split at h
  case h_1 hNone =>
    obtain ⟨filled, hFilled, hAfter⟩ := Option.bind_eq_some_iff.mp h
    exact ⟨[], filled, .inl ⟨rfl, Node.find?_eq_none_iff.mp hNone⟩, hFilled,
      (Option.some.inj hAfter).symm⟩
  case h_2 inner hFound =>
    obtain ⟨filled, hFilled, hAfter⟩ := Option.bind_eq_some_iff.mp h
    exact ⟨inner, filled, .inr (Node.mem_of_find? hFound), hFilled, (Option.some.inj hAfter).symm⟩
  case h_3 => cases h

/-- A new element goes in front of those that are kept; the first makes the array. -/
theorem addElement_eq_some {key : String} {pairs : Pairs} {entries after : Node.Children}
    (h : Node.addElement key pairs entries = some after) :
    ∃ item adding, Node.addPairs [] pairs = some item ∧
      Node.update key adding entries = some after ∧
      ∀ n m, adding n = some m → n = none ∧ m = .tables [item] ∨
        ∃ items, n = some (.tables items) ∧ m = .tables (item :: items) := by
  obtain ⟨item, hItem, hUpdate⟩ := Option.bind_eq_some_iff.mp h
  refine ⟨item, _, hItem, hUpdate, fun n m hm => ?_⟩
  match n, hm with
  | none, hm => exact .inl ⟨rfl, (Option.some.inj hm).symm⟩
  | some (.tables items), hm => exact .inr ⟨items, rfl, (Option.some.inj hm).symm⟩

namespace ProperChildren

open Node

variable {key : String} {entries after : Children}

theorem append {n : Node} (hProper : ProperChildren entries) (hNew : key ∉ entries.map Prod.fst)
    (hn : n.IsProper) : ProperChildren (entries ++ [(key, n)]) := by
  refine ⟨?_, fun e he => ?_⟩
  · have hNodup := nodup_noted hProper.keys key
    rw [noted, if_neg hNew] at hNodup
    rwa [List.map_append]
  · rcases List.mem_append.mp he with hOld | hLast
    · exact hProper.nodes e hOld
    · obtain rfl := List.mem_singleton.mp hLast
      exact hn

theorem filter (hProper : ProperChildren entries) (p : String × Node → Bool) :
    ProperChildren (entries.filter p) :=
  ⟨hProper.keys.sublist (List.filter_sublist.map _),
    fun e he => hProper.nodes e (List.mem_of_mem_filter he)⟩

theorem addPair {pair : Path × Value} (hValue : pair.2.IsProper) (hProper : ProperChildren entries)
    (h : Node.addPair entries pair = some after) : ProperChildren after := by
  refine hProper.descend (fun hInner hAdd => ?_) _ h
  obtain ⟨hNew, rfl⟩ := addHere_eq_some hAdd
  exact hInner.append hNew (.value hValue)

theorem addPairs {pairs : Pairs} (hValues : ∀ pair ∈ pairs, pair.2.IsProper)
    (hProper : ProperChildren entries) (h : Node.addPairs entries pairs = some after) :
    ProperChildren after :=
  foldlM_keeps (fun pair hPair {_ _} => addPair (hValues pair hPair)) hProper h

theorem openTable {pairs : Pairs} (hValues : ∀ pair ∈ pairs, pair.2.IsProper)
    (hProper : ProperChildren entries) (h : Node.openTable key pairs entries = some after) :
    ProperChildren after := by
  obtain ⟨inner, filled, hInner, hFilled, rfl⟩ := openTable_eq_some h
  have hBefore : ProperChildren inner := by
    rcases hInner with ⟨rfl, -⟩ | hThere
    · exact .nil
    · cases hProper.nodes _ hThere with
      | table _ hKeys hNodes => exact ⟨hKeys, hNodes⟩
  have hTable := hBefore.addPairs hValues hFilled
  refine (hProper.filter _).append ?_ (.table .opened hTable.keys hTable.nodes)
  simp

theorem addElement {pairs : Pairs} (hValues : ∀ pair ∈ pairs, pair.2.IsProper)
    (hProper : ProperChildren entries) (h : Node.addElement key pairs entries = some after) :
    ProperChildren after := by
  obtain ⟨item, adding, hItem, hUpdate, hAdding⟩ := addElement_eq_some h
  have hNew := ProperChildren.nil.addPairs hValues hItem
  refine hProper.update (fun n m hn hm => ?_) hUpdate
  rcases hAdding n m hm with ⟨rfl, rfl⟩ | ⟨items, rfl, rfl⟩
  · exact .tables (List.forall_mem_singleton.mpr hNew.keys) (List.forall_mem_singleton.mpr hNew.nodes)
  · cases hn _ rfl with
    | tables hKeys hNodes =>
      exact .tables (List.forall_mem_cons.mpr ⟨hNew.keys, hKeys⟩)
        (List.forall_mem_cons.mpr ⟨hNew.nodes, hNodes⟩)

theorem addSection {s : Section} (hValues : ∀ pair ∈ s.pairs, pair.2.IsProper)
    (hProper : ProperChildren entries) (h : Node.addSection entries s = some after) :
    ProperChildren after := by
  unfold Node.addSection at h
  split at h
  · exact hProper.descend (fun hInner hOpen => hInner.openTable hValues hOpen) _ h
  · exact hProper.descend (fun hInner hAdd => hInner.addElement hValues hAdd) _ h

end ProperChildren

/-- Tables built of proper values are proper. -/
theorem properEntries_of_entriesOf? {pairs : Pairs} {sections : List Section} {entries : Entries}
    (hPairs : ∀ pair ∈ pairs, pair.2.IsProper)
    (hSections : ∀ s ∈ sections, ∀ pair ∈ s.pairs, pair.2.IsProper)
    (h : entriesOf? pairs sections = some entries) : ProperEntries entries := by
  obtain ⟨root, hRoot, h⟩ := Option.bind_eq_some_iff.mp h
  obtain ⟨whole, hWhole, h⟩ := Option.bind_eq_some_iff.mp h
  obtain rfl := Option.some.inj h
  have hBefore := ProperChildren.nil.addPairs hPairs hRoot
  exact (foldlM_keeps (fun s hs {_ _} => ProperChildren.addSection (hSections s hs)) hBefore
    hWhole).toEntries

-- ---------------------------------------------------------------------------
-- Values that are read
-- ---------------------------------------------------------------------------

section Values

variable {cs rest : List Char} {v : Value}

theorem isProper_of_integerValue? {n : Int} (h : integerValue? n cs = some (v, rest)) :
    v.IsProper := by
  unfold integerValue? at h
  split_ifs at h with hFits
  cases h
  exact .integer hFits

theorem isProper_of_readInteger? (h : readInteger? cs = some (v, rest)) : v.IsProper := by
  unfold readInteger? at h
  split at h
  all_goals
    obtain ⟨⟨ds, after⟩, -, hValue⟩ := Option.bind_eq_some_iff.mp h
    exact isProper_of_integerValue? hValue

theorem isProper_of_floatValue? {x : Binary64} (h : floatValue? x cs = some (v, rest)) :
    v.IsProper := by
  unfold floatValue? at h
  split_ifs at h
  cases h
  exact .float x

theorem isProper_of_readDecimalFloat? (h : readDecimalFloat? cs = some (v, rest)) :
    v.IsProper := by
  unfold readDecimalFloat? at h
  obtain ⟨⟨whole, after⟩, -, h⟩ := Option.bind_eq_some_iff.mp h
  dsimp only at h
  split at h
  · exact isProper_of_floatValue? h
  · obtain ⟨⟨power, after⟩, -, hValue⟩ := Option.bind_eq_some_iff.mp h
    exact isProper_of_floatValue? hValue

theorem isProper_of_readSpecialFloat? (h : readSpecialFloat? cs = some (v, rest)) :
    v.IsProper := by
  unfold readSpecialFloat? at h
  split at h <;> cases h <;> exact .float _

theorem isProper_of_readNumber? (h : readNumber? cs = some (v, rest)) : v.IsProper := by
  unfold readNumber? at h
  rcases (Option.orElse_eq_some _ _ _).mp h with h | ⟨-, h⟩
  · obtain ⟨after, -, hDate⟩ := Option.bind_eq_some_iff.mp h
    cases hDate
    exact .dateTime _
  rcases (Option.orElse_eq_some _ _ _).mp h with h | ⟨-, h⟩
  · exact isProper_of_readDecimalFloat? h
  rcases (Option.orElse_eq_some _ _ _).mp h with h | ⟨-, h⟩
  · exact isProper_of_readSpecialFloat? h
  · exact isProper_of_readInteger? h

theorem isProper_of_readScalar? (h : readScalar? cs = some (v, rest)) : v.IsProper := by
  unfold readScalar? at h
  split at h
  case h_1 => cases h
  case h_2 c cs =>
    -- by its first character: a text, a number or a word
    split_ifs at h
    · obtain ⟨⟨s, after⟩, -, hString⟩ := Option.map_eq_some_iff.mp h
      cases hString
      exact .string _
    · exact isProper_of_readNumber? h
    · unfold readWord? at h
      split at h
      · cases h
        exact .boolean true
      · cases h
        exact .boolean false
      · exact isProper_of_readSpecialFloat? h

end Values

/-- With so many steps, only what is proper is read. -/
structure ReadsProper (steps : Nat) : Prop where
  value : ∀ {levels cs v rest}, readValue? steps levels cs = some (v, rest) → v.IsProper
  items : ∀ {levels cs vs rest}, readItems? steps levels cs = some (vs, rest) →
    ∀ v ∈ vs, v.IsProper
  pairs : ∀ {levels cs ps rest}, readPairs? steps levels cs = some (ps, rest) →
    ∀ pair ∈ ps, pair.2.IsProper

namespace ReadsProper

variable {steps levels : Nat} {cs rest : List Char}

theorem value_succ (ih : ReadsProper steps) {v : Value}
    (h : readValue? (steps + 1) levels cs = some (v, rest)) : v.IsProper := by
  rw [readValue?.eq_def] at h
  dsimp only at h
  split at h
  case h_1 => cases h
  case h_2 => cases h
  case h_3 =>
    obtain ⟨⟨items, after⟩, hItems, hValue⟩ := Option.bind_eq_some_iff.mp h
    cases hValue
    exact .array (ih.items hItems)
  case h_4 =>
    -- the pairs are put into a table one after another
    have hTable {pairs : Pairs} {after : List Char} (hProper : ∀ pair ∈ pairs, pair.2.IsProper)
        (hTable : (entriesOf? pairs []).bind (fun es => some (Value.table es, after))
          = some (v, rest)) : v.IsProper := by
      obtain ⟨entries, hEntries, hValue⟩ := Option.bind_eq_some_iff.mp hTable
      cases hValue
      have hEach := properEntries_of_entriesOf? hProper (fun _ hs => (List.not_mem_nil hs).elim)
        hEntries
      exact .table hEach.keys hEach.values
    split at h
    · exact hTable (fun _ hp => (List.not_mem_nil hp).elim) h
    · obtain ⟨⟨pairs, after⟩, hPairs, h⟩ := Option.bind_eq_some_iff.mp h
      exact hTable (ih.pairs hPairs) h
  case h_5 => exact isProper_of_readScalar? h

theorem items_succ (ih : ReadsProper steps) {vs : List Value}
    (h : readItems? (steps + 1) levels cs = some (vs, rest)) : ∀ v ∈ vs, v.IsProper := by
  rw [readItems?.eq_def] at h
  dsimp only at h
  split at h
  case h_1 =>
    cases h
    exact fun _ hv => (List.not_mem_nil hv).elim
  case h_2 =>
    obtain ⟨⟨v, after⟩, hValue, h⟩ := Option.bind_eq_some_iff.mp h
    have hFirst := ih.value hValue
    dsimp only at h
    split at h
    case h_1 =>
      obtain ⟨⟨more, after⟩, hMore, h⟩ := Option.bind_eq_some_iff.mp h
      cases h
      exact List.forall_mem_cons.mpr ⟨hFirst, ih.items hMore⟩
    case h_2 =>
      cases h
      exact List.forall_mem_singleton.mpr hFirst
    case h_3 => cases h

theorem pairs_succ (ih : ReadsProper steps) {ps : Pairs}
    (h : readPairs? (steps + 1) levels cs = some (ps, rest)) : ∀ pair ∈ ps, pair.2.IsProper := by
  rw [readPairs?.eq_def] at h
  dsimp only at h
  obtain ⟨⟨path, after⟩, -, h⟩ := Option.bind_eq_some_iff.mp h
  obtain ⟨afterSign, -, h⟩ := Option.bind_eq_some_iff.mp h
  obtain ⟨⟨v, after⟩, hValue, h⟩ := Option.bind_eq_some_iff.mp h
  -- the value of the first pair was read in the steps that are left
  have hFirst : (path, v).2.IsProper := ih.value hValue
  dsimp only at h
  split at h
  case h_1 =>
    obtain ⟨⟨more, after⟩, hMore, h⟩ := Option.bind_eq_some_iff.mp h
    cases h
    exact List.forall_mem_cons.mpr ⟨hFirst, ih.pairs hMore⟩
  case h_2 =>
    cases h
    exact List.forall_mem_singleton.mpr hFirst
  case h_3 => cases h

end ReadsProper

theorem readsProper (steps : Nat) : ReadsProper steps := by
  induction steps with
  | zero =>
    constructor <;> intro _ _ _ _ h
    · rw [readValue?] at h
      cases h
    · rw [readItems?] at h
      cases h
    · rw [readPairs?] at h
      cases h
  | succ steps ih => exact ⟨ih.value_succ, ih.items_succ, ih.pairs_succ⟩

-- ---------------------------------------------------------------------------
-- Documents
-- ---------------------------------------------------------------------------

theorem isProper_of_readLine? {cs rest : List Char} {path : Path} {v : Value}
    (h : readLine? cs = some (some (.pair path v), rest)) : v.IsProper := by
  unfold readLine? at h
  split at h
  case h_1 => cases h
  case h_2 =>
    split_ifs at h
    · obtain ⟨after, -, hLine⟩ := Option.map_eq_some_iff.mp h
      cases hLine
    · obtain ⟨⟨header, after⟩, -, h⟩ := Option.bind_eq_some_iff.mp h
      obtain ⟨after, -, hLine⟩ := Option.bind_eq_some_iff.mp h
      cases hLine
    · -- only the third kind of line holds a value
      obtain ⟨⟨key, after⟩, -, h⟩ := Option.bind_eq_some_iff.mp h
      obtain ⟨afterSign, -, h⟩ := Option.bind_eq_some_iff.mp h
      obtain ⟨⟨value, after⟩, hValue, h⟩ := Option.bind_eq_some_iff.mp h
      obtain ⟨after, -, hLine⟩ := Option.bind_eq_some_iff.mp h
      cases hLine
      exact (readsProper _).value hValue

theorem isProper_of_readLines? {room : Nat} {cs : List Char} {lines : List Line}
    (h : readLines? room cs = some lines) {path : Path} {v : Value} (hv : .pair path v ∈ lines) :
    v.IsProper := by
  induction room generalizing cs lines with
  | zero =>
    rw [readLines?] at h
    split_ifs at h
    cases h
    exact (List.not_mem_nil hv).elim
  | succ room ih =>
    rw [readLines?] at h
    split at h
    · cases h
      exact (List.not_mem_nil hv).elim
    · obtain ⟨⟨line, rest⟩, hLine, h⟩ := Option.bind_eq_some_iff.mp h
      obtain ⟨more, hMore, hLines⟩ := Option.bind_eq_some_iff.mp h
      cases hLines
      rcases List.mem_append.mp hv with hHere | hLater
      · rw [Option.mem_toList] at hHere
        obtain rfl := Option.mem_def.mp hHere
        exact isProper_of_readLine? hLine
      · exact ih hMore hLater

/-- The pairs of a divided document are those of its lines. -/
theorem mem_of_divide (lines : List Line) :
    (∀ pair ∈ (divide lines).1, .pair pair.1 pair.2 ∈ lines) ∧
      ∀ s ∈ (divide lines).2, ∀ pair ∈ s.pairs, .pair pair.1 pair.2 ∈ lines := by
  induction lines with
  | nil => simp [divide]
  | cons line lines ih =>
    -- a pair belongs to the part before the next header
    obtain ⟨hPairs, hSections⟩ := ih
    cases line with
    | pair path v =>
      refine ⟨fun pair hp => ?_, fun s hs pair hp => List.mem_cons_of_mem _ (hSections s hs pair hp)⟩
      rcases List.mem_cons.mp hp with rfl | hp
      · exact List.mem_cons_self
      · exact List.mem_cons_of_mem _ (hPairs pair hp)
    | header header =>
      refine ⟨fun pair hp => (List.not_mem_nil hp).elim, fun s hs pair hp => ?_⟩
      refine List.mem_cons_of_mem _ ?_
      rcases List.mem_cons.mp hs with rfl | hs
      · exact hPairs pair hp
      · exact hSections s hs pair hp

/-- The lines of a text. -/
def linesOf? (text : String) : Option (List Line) :=
  readLines? (skipByteOrderMark text.toList).length (skipByteOrderMark text.toList)

theorem read?_eq (text : String) :
    read? text = (linesOf? text).bind fun lines => entriesOf? (divide lines).1 (divide lines).2 :=
  rfl

/-- **What is read is proper.** -/
theorem properEntries_of_read? {text : String} {entries : Entries} (h : read? text = some entries) :
    ProperEntries entries := by
  rw [read?_eq] at h
  obtain ⟨lines, hLines, hEntries⟩ := Option.bind_eq_some_iff.mp h
  obtain ⟨hPairs, hSections⟩ := mem_of_divide lines
  exact properEntries_of_entriesOf? (fun pair hp => isProper_of_readLines? hLines (hPairs pair hp))
    (fun s hs pair hp => isProper_of_readLines? hLines (hSections s hs pair hp)) hEntries

end ProxyAudit.Toml

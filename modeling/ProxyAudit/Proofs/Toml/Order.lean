import Mathlib
import ProxyAudit.Proofs.Toml.Proper

/-!
# The order of a document

The lines of a document name keys, and the keys of its tables stand in the order in which they are
named first. Only a header moves a table: it stands where its own header does, also if headers of
tables inside it came before. So a table has one place, and all that is said of it, by dotted keys
between other keys or under headers, counts there.

What the lines say is a list of paths. The paths that go through a key say, without that key, what
stands in its table, and in which order.

Main results:

* `Follows.update`   — a table that follows what was said of it still does when more is said.
* `inOrder_of_read?` — a document and the tables in it follow its lines.
-/

namespace ProxyAudit.Toml

-- ---------------------------------------------------------------------------
-- What is said of keys
-- ---------------------------------------------------------------------------

/-- What is said of the keys of a table: a path from it is named, or the table at the path is
opened. -/
structure Mention where
  path : List String
  opens : Bool

def Path.keys (path : Path) : List String :=
  path.parents ++ [path.key]

def Header.mention : Header → Mention
  | .table path => ⟨path.keys, true⟩
  | .element path => ⟨path.keys, false⟩

/-- What the lines say of the keys of a document, if the table at a path is open at first. -/
def mentions (opened : List String) : List Line → List Mention
  | [] => []
  | .pair path _ :: rest => ⟨opened ++ path.keys, false⟩ :: mentions opened rest
  | .header header :: rest => header.mention :: mentions header.mention.path rest

/-- The keys after something was said of them. A table that is opened moves to the end, and so does
a key that is new. -/
def note (keys : List String) : Mention → List String
  | ⟨[], _⟩ => keys
  | ⟨[key], true⟩ => keys.filter (· != key) ++ [key]
  | ⟨key :: _, _⟩ => noted keys key

/-- The keys in the order that was said. -/
def keyOrder (said : List Mention) : List String :=
  said.foldl note []

/-- What is said of the table at a key. -/
def inside (key : String) (said : List Mention) : List Mention :=
  said.filterMap fun m =>
    match m.path with
    | first :: more => if first = key then some ⟨more, m.opens⟩ else none
    | [] => none

/-- A document and the tables in it have their keys in the order of the lines, but for a table that
is the value of a line by itself. -/
structure InOrder (lines : List Line) (entries : Entries) : Prop where
  keys : entries.map Prod.fst = keyOrder (mentions [] lines)
  tables : ∀ key es, (key, .table es) ∈ entries → .pair ⟨[], key⟩ (.table es) ∈ lines ∨
    es.map Prod.fst = keyOrder (inside key (mentions [] lines))

-- ---------------------------------------------------------------------------
-- Keys in order
-- ---------------------------------------------------------------------------

variable {said more : List Mention} {keys : List String} {key : String}

theorem note_named (keys : List String) (key : String) (path : List String) :
    note keys ⟨key :: path, false⟩ = noted keys key := by
  cases path <;> rfl

theorem note_below (keys : List String) (key next : String) (path : List String) (opens : Bool) :
    note keys ⟨key :: next :: path, opens⟩ = noted keys key := by
  cases opens <;> rfl

theorem mem_noted {k : String} : k ∈ noted keys key ↔ k ∈ keys ∨ k = key := by
  unfold noted
  split_ifs with hMem
  · exact ⟨.inl, fun h => h.elim id fun hSame => hSame ▸ hMem⟩
  · rw [List.mem_append, List.mem_singleton]

theorem mem_note {m : Mention} : key ∈ note keys m ↔ key ∈ keys ∨ m.path.head? = some key := by
  unfold note
  split
  case h_1 => simp
  case h_2 opened =>
    by_cases hSame : key = opened
    · subst hSame
      simp
    · simp [hSame, Ne.symm hSame]
  case h_3 => rw [mem_noted, List.head?_cons, Option.some.injEq, eq_comm (a := key)]

theorem nodup_note (h : keys.Nodup) (m : Mention) : (note keys m).Nodup := by
  unfold note
  split
  · exact h
  · refine List.nodup_append.mpr ⟨h.filter _, List.nodup_singleton _, fun a ha b hb => ?_⟩
    rw [List.mem_singleton.mp hb]
    exact bne_iff_ne.mp (List.mem_filter.mp ha).2
  · exact nodup_noted h _

theorem mem_foldl_note :
    key ∈ said.foldl note keys ↔ key ∈ keys ∨ ∃ m ∈ said, m.path.head? = some key := by
  induction said generalizing keys with
  | nil => simp
  | cons m said ih => rw [List.foldl_cons, ih, mem_note, List.exists_mem_cons_iff, or_assoc]

theorem nodup_keyOrder (said : List Mention) : (keyOrder said).Nodup := by
  have hFold {keys : List String} (h : keys.Nodup) : (said.foldl note keys).Nodup := by
    induction said generalizing keys with
    | nil => exact h
    | cons m said ih => exact ih (nodup_note h m)
  exact hFold List.nodup_nil

theorem keyOrder_append : keyOrder (said ++ more) = more.foldl note (keyOrder said) :=
  List.foldl_append

theorem inside_append : inside key (said ++ more) = inside key said ++ inside key more :=
  List.filterMap_append

theorem inside_cons_self (path : List String) (opens : Bool) (said : List Mention) :
    inside key (⟨key :: path, opens⟩ :: said) = ⟨path, opens⟩ :: inside key said :=
  List.filterMap_cons_some (if_pos rfl)

/-- Nothing is said of the table at a key that is not named. -/
theorem inside_eq_nil (h : ∀ m ∈ said, m.path.head? ≠ some key) : inside key said = [] := by
  refine List.filterMap_eq_nil_iff.mpr fun m hm => ?_
  have hNe := h m hm
  obtain ⟨_ | ⟨first, path⟩, opens⟩ := m
  · rfl
  · exact if_neg fun hSame => hNe (congrArg some hSame)

theorem inside_eq_nil_of_notMem (h : key ∉ keyOrder said) : inside key said = [] := by
  rw [keyOrder, mem_foldl_note, not_or] at h
  exact inside_eq_nil fun m hm hHead => h.2 ⟨m, hm, hHead⟩

/-- What is said of tables below a key that is there leaves the keys as they are. -/
theorem foldl_note_below (hKey : key ∈ keys)
    (h : ∀ m ∈ said, ∃ next path, m.path = key :: next :: path) : said.foldl note keys = keys := by
  induction said with
  | nil => rfl
  | cons m said ih =>
    obtain ⟨next, path, hPath⟩ := h m List.mem_cons_self
    obtain ⟨_, opens⟩ := m
    subst hPath
    rw [List.foldl_cons, note_below, noted, if_pos hKey]
    exact ih fun m hm => h m (List.mem_cons_of_mem _ hm)

-- ---------------------------------------------------------------------------
-- Pairs and sections
-- ---------------------------------------------------------------------------

/-- What the pairs of the table at a path say. -/
def Pairs.mentions (path : List String) (pairs : Pairs) : List Mention :=
  pairs.map fun pair => ⟨path ++ pair.1.keys, false⟩

def Section.mentions (s : Section) : List Mention :=
  s.header.mention :: Pairs.mentions s.header.mention.path s.pairs

theorem mentions_eq (opened : List String) (lines : List Line) :
    mentions opened lines
      = Pairs.mentions opened (divide lines).1 ++ (divide lines).2.flatMap Section.mentions := by
  induction lines generalizing opened with
  | nil => rfl
  | cons line lines ih =>
    cases line with
    | pair path v =>
      rw [Toml.mentions, ih]
      rfl
    | header header =>
      rw [Toml.mentions, ih]
      rfl

theorem Path.exists_keys (path : Path) : ∃ first more, path.keys = first :: more := by
  obtain ⟨_ | ⟨first, more⟩, key⟩ := path
  · exact ⟨key, [], rfl⟩
  · exact ⟨first, more ++ [key], rfl⟩

/-- Pairs of a table say nothing of the keys above it that its path does not say. -/
theorem foldl_note_mentions (keys : List String) (key : String) (path : List String) (opens : Bool)
    (pairs : Pairs) :
    (Pairs.mentions (key :: path) pairs).foldl note (note keys ⟨key :: path, opens⟩)
      = note keys ⟨key :: path, opens⟩ := by
  refine foldl_note_below (mem_note.mpr (.inr rfl)) fun m hm => ?_
  obtain ⟨pair, -, rfl⟩ := List.mem_map.mp hm
  obtain ⟨first, more, hKeys⟩ := pair.1.exists_keys
  cases path with
  | nil => exact ⟨first, more, congrArg (key :: ·) hKeys⟩
  | cons next path => exact ⟨next, _, rfl⟩

theorem inside_mentions (key : String) (path : List String) (pairs : Pairs) :
    inside key (Pairs.mentions (key :: path) pairs) = Pairs.mentions path pairs := by
  rw [Pairs.mentions, inside, List.filterMap_map, Pairs.mentions, ← List.filterMap_eq_map]
  exact congrFun (congrArg _ (funext fun pair => if_pos rfl)) pairs

-- ---------------------------------------------------------------------------
-- Steps
-- ---------------------------------------------------------------------------

namespace Node

variable {entries after : Children} {made : Origin}
  {change : Origin → Children → Option Children} {opens : Bool}

/-- A change at the end of a path, of a key there, is a change of the first key of the path. -/
theorem keys_descend
    (hChange : ∀ {origin entries after}, change origin entries = some after →
      after.map Prod.fst = note (entries.map Prod.fst) ⟨[key], opens⟩)
    {path : List String} {origin : Origin}
    (h : descend made change path origin entries = some after) :
    after.map Prod.fst = note (entries.map Prod.fst) ⟨path ++ [key], opens⟩ := by
  cases path with
  | nil => exact hChange h
  | cons first path =>
    rw [keys_update h]
    cases path <;> exact (note_below _ _ _ _ _).symm

theorem keys_addHere {isDotted : Bool} {v : Value} {origin : Origin}
    (h : addHere isDotted key v origin entries = some after) :
    after.map Prod.fst = note (entries.map Prod.fst) ⟨[key], false⟩ := by
  obtain ⟨hNew, rfl⟩ := addHere_eq_some h
  rw [note_named, noted, if_neg hNew, List.map_append]
  rfl

theorem keys_addPair {pair : Path × Value} (h : addPair entries pair = some after) :
    after.map Prod.fst = note (entries.map Prod.fst) ⟨pair.1.keys, false⟩ :=
  keys_descend keys_addHere h

theorem keys_addPairs {pairs : Pairs} (h : addPairs entries pairs = some after) :
    after.map Prod.fst = (Pairs.mentions [] pairs).foldl note (entries.map Prod.fst) := by
  induction pairs generalizing entries with
  | nil =>
    obtain rfl := Option.some.inj h
    rfl
  | cons pair pairs ih =>
    rw [addPairs, List.foldlM_cons] at h
    obtain ⟨between, hFirst, hRest⟩ := Option.bind_eq_some_iff.mp h
    rw [ih hRest, keys_addPair hFirst]
    rfl

theorem keys_openTable {pairs : Pairs} (h : openTable key pairs entries = some after) :
    after.map Prod.fst = note (entries.map Prod.fst) ⟨[key], true⟩ := by
  obtain ⟨inner, filled, -, -, rfl⟩ := openTable_eq_some h
  rw [List.map_append, note, List.filter_map]
  rfl

theorem keys_addElement {pairs : Pairs} (h : addElement key pairs entries = some after) :
    after.map Prod.fst = note (entries.map Prod.fst) ⟨[key], false⟩ := by
  obtain ⟨item, adding, -, hUpdate, -⟩ := addElement_eq_some h
  rw [keys_update hUpdate, note_named]

end Node

-- ---------------------------------------------------------------------------
-- Documents
-- ---------------------------------------------------------------------------

/-- While a document is built, it and the tables in it follow what has been said, and the values in
it are known. -/
structure Follows (IsSaid : String → Value → Prop) (said : List Mention) (entries : Node.Children) :
    Prop where
  keys : entries.map Prod.fst = keyOrder said
  tables : ∀ key origin inner, (key, .table origin inner) ∈ entries →
    inner.map Prod.fst = keyOrder (inside key said)
  values : ∀ key v, (key, .value v) ∈ entries → IsSaid key v

/-- The keys of the table that stands at a key, if it is one, or may be made there. -/
def Node.innerKeys? : Option Node → Option (List String)
  | none => some []
  | some (.table _ inner) => some (inner.map Prod.fst)
  | some (.value _) | some (.tables _) => none

namespace Follows

variable {IsSaid : String → Value → Prop} {entries after : Node.Children}

theorem nil : Follows IsSaid [] [] :=
  ⟨rfl, fun _ _ _ h => (List.not_mem_nil h).elim, fun _ _ h => (List.not_mem_nil h).elim⟩

theorem innerKeys (h : Follows IsSaid said entries) {inner : List String}
    (hInner : Node.innerKeys? (Node.find? key entries) = some inner) :
    inner = keyOrder (inside key said) := by
  cases hFound : Node.find? key entries with
  | none =>
    rw [hFound] at hInner
    obtain rfl := Option.some.inj hInner
    -- nothing was said of a key that is not there
    have hKey := Node.find?_eq_none_iff.mp hFound
    rw [h.keys] at hKey
    rw [inside_eq_nil_of_notMem hKey]
    rfl
  | some n =>
    rw [hFound] at hInner
    match n, hFound, hInner with
    | .table origin entries, hFound, hInner =>
      obtain rfl := Option.some.inj hInner
      exact h.tables key origin entries (Node.mem_of_find? hFound)

/-- **More is said of one key.** If what its table becomes follows it, the whole does. -/
theorem update {change : Option Node → Option Node} (hFollows : Follows IsSaid said entries)
    (hFirst : ∀ m ∈ more, m.path.head? = some key)
    (hNamed : more.foldl note (entries.map Prod.fst) = noted (entries.map Prod.fst) key)
    (hTable : ∀ {n origin inner}, change n = some (.table origin inner) →
      ∃ ks, Node.innerKeys? n = some ks ∧ inner.map Prod.fst = (inside key more).foldl note ks)
    (hValue : ∀ {n v}, change n ≠ some (.value v))
    (h : Node.update key change entries = some after) : Follows IsSaid (said ++ more) after := by
  have hNodup : (entries.map Prod.fst).Nodup := hFollows.keys ▸ nodup_keyOrder said
  refine ⟨?keys, fun k origin inner hMem => ?tables, fun k v hMem => ?values⟩
  case keys => rw [Node.keys_update h, ← hNamed, hFollows.keys, keyOrder_append]
  case tables =>
    rw [inside_append]
    rcases Node.mem_update hNodup h hMem with ⟨hNe, hOld⟩ | ⟨rfl, hNew⟩
    · -- nothing that is said now is about this table, so it is as it was
      have hNothing : inside k more = [] :=
        inside_eq_nil fun m hm hHead => hNe (Option.some.inj (hHead.symm.trans (hFirst m hm)))
      rw [hNothing, List.append_nil]
      exact hFollows.tables k origin inner hOld
    · obtain ⟨ks, hBefore, hInner⟩ := hTable hNew
      rw [hInner, keyOrder_append, hFollows.innerKeys hBefore]
  case values =>
    rcases Node.mem_update hNodup h hMem with ⟨-, hOld⟩ | ⟨-, hNew⟩
    · exact hFollows.values k v hOld
    · exact (hValue hNew).elim

/-- A change at the end of a path, with what pairs there say. -/
theorem descend {made : Origin} {change : Origin → Node.Children → Option Node.Children}
    {opens : Bool} (hFollows : Follows IsSaid said entries)
    (hChange : ∀ {origin entries after}, change origin entries = some after →
      after.map Prod.fst = note (entries.map Prod.fst) ⟨[key], opens⟩)
    {first : String} {path : List String} {origin : Origin} (pairs : Pairs)
    (h : Node.descend made change (first :: path) origin entries = some after) :
    Follows IsSaid (said ++ ⟨first :: path ++ [key], opens⟩
      :: Pairs.mentions (first :: path ++ [key]) pairs) after := by
  obtain ⟨pass, hUpdate, hPass⟩ := Node.exists_update_of_descend h
  refine hFollows.update (fun m hm => ?first) ?named (fun {n origin inner} hn => ?table)
    (fun {n v} hn => ?value) hUpdate
  case first =>
    rcases List.mem_cons.mp hm with rfl | hm
    · rfl
    · obtain ⟨pair, -, rfl⟩ := List.mem_map.mp hm
      rfl
  case named =>
    rw [List.foldl_cons, List.cons_append, foldl_note_mentions]
    cases path <;> exact note_below _ _ _ _ _
  case table =>
    have hDone {origin : Origin} {before done : Node.Children}
        (hDescend : Node.descend made change path origin before = some done) :
        done.map Prod.fst = (inside first (⟨first :: path ++ [key], opens⟩
          :: Pairs.mentions (first :: path ++ [key]) pairs)).foldl note (before.map Prod.fst) := by
      -- inside the first table, the rest of the path is what is said
      obtain ⟨next, rest, hPath⟩ := Path.exists_keys ⟨path, key⟩
      have hPath : path ++ [key] = next :: rest := hPath
      rw [List.cons_append, inside_cons_self, inside_mentions, List.foldl_cons,
        Node.keys_descend hChange hDescend, hPath, foldl_note_mentions]
    -- a new table starts from nothing, one that was there from what was said of it before
    cases hPass n _ hn with
    | new hDescend => exact ⟨[], rfl, hDone hDescend⟩
    | table hDescend => exact ⟨_, rfl, hDone hDescend⟩
  case value => cases hPass n _ hn

/-- A new value at the end of a table. -/
theorem append_value {v : Value} (hFollows : Follows IsSaid said entries)
    (hNew : key ∉ entries.map Prod.fst) (hSaid : IsSaid key v) :
    Follows IsSaid (said ++ [⟨[key], false⟩]) (entries ++ [(key, .value v)]) := by
  refine ⟨?keys, fun k origin inner hMem => ?tables, fun k w hMem => ?values⟩
  case keys =>
    rw [keyOrder_append, ← hFollows.keys, List.foldl_cons, note_named, noted, if_neg hNew,
      List.map_append]
    rfl
  case tables =>
    rcases List.mem_append.mp hMem with hOld | hLast
    · -- another key than the new one, of which nothing was said
      have hNe : key ≠ k := fun hSame => hNew (hSame ▸ List.mem_map_of_mem hOld)
      have hNothing : inside k [⟨[key], false⟩] = [] := List.filterMap_cons_none (if_neg hNe)
      rw [inside_append, hNothing, List.append_nil]
      exact hFollows.tables k origin inner hOld
    · cases List.mem_singleton.mp hLast
  case values =>
    rcases List.mem_append.mp hMem with hOld | hLast
    · exact hFollows.values k w hOld
    · cases List.mem_singleton.mp hLast
      exact hSaid

theorem addPair {pair : Path × Value} (hFollows : Follows IsSaid said entries)
    (hSaid : pair.1.parents = [] → IsSaid pair.1.key pair.2)
    (h : Node.addPair entries pair = some after) :
    Follows IsSaid (said ++ [⟨pair.1.keys, false⟩]) after := by
  obtain ⟨⟨_ | ⟨first, path⟩, key⟩, v⟩ := pair
  · obtain ⟨hNew, rfl⟩ := addHere_eq_some h
    exact hFollows.append_value hNew (hSaid rfl)
  · exact hFollows.descend Node.keys_addHere [] h

/-- A table that is opened follows what its header and its pairs say. -/
theorem openTable {pairs : Pairs} (hFollows : Follows IsSaid said entries)
    (h : Node.openTable key pairs entries = some after) :
    Follows IsSaid (said ++ ⟨[key], true⟩ :: Pairs.mentions [key] pairs) after := by
  have hKeys := Node.keys_openTable h
  obtain ⟨inner, filled, hInner, hFilled, rfl⟩ := openTable_eq_some h
  -- an opened table is new, and nothing was said of it, or it was there by its path
  have hBefore : inner.map Prod.fst = keyOrder (inside key said) := by
    rcases hInner with ⟨rfl, hNew⟩ | hThere
    · rw [hFollows.keys] at hNew
      rw [inside_eq_nil_of_notMem hNew]
      rfl
    · exact hFollows.tables key _ inner hThere
  -- all other entries stay, and what is said now is not about them
  have hOther {e : String × Node} (he : e ∈ entries.filter (·.1 != key)) :
      e ∈ entries ∧ inside e.1 (⟨[key], true⟩ :: Pairs.mentions [key] pairs) = [] := by
    obtain ⟨hOld, hNe⟩ := List.mem_filter.mp he
    refine ⟨hOld, inside_eq_nil fun m hm hHead => bne_iff_ne.mp hNe ?_⟩
    rcases List.mem_cons.mp hm with rfl | hm
    · exact (Option.some.inj hHead).symm
    · obtain ⟨pair, -, rfl⟩ := List.mem_map.mp hm
      exact (Option.some.inj hHead).symm
  refine ⟨?keys, fun k origin inner' hMem => ?tables, fun k v hMem => ?values⟩
  case keys =>
    rw [keyOrder_append, ← hFollows.keys, List.foldl_cons, foldl_note_mentions]
    exact hKeys
  case tables =>
    rw [inside_append]
    rcases List.mem_append.mp hMem with hOld | hLast
    · obtain ⟨hOld, hNothing⟩ := hOther hOld
      rw [hNothing, List.append_nil]
      exact hFollows.tables k origin inner' hOld
    · cases List.mem_singleton.mp hLast
      rw [inside_cons_self, inside_mentions, keyOrder_append, List.foldl_cons, ← hBefore]
      exact Node.keys_addPairs hFilled
  case values =>
    rcases List.mem_append.mp hMem with hOld | hLast
    · exact hFollows.values k v (hOther hOld).1
    · cases List.mem_singleton.mp hLast

theorem addElement {pairs : Pairs} (hFollows : Follows IsSaid said entries)
    (h : Node.addElement key pairs entries = some after) :
    Follows IsSaid (said ++ ⟨[key], false⟩ :: Pairs.mentions [key] pairs) after := by
  obtain ⟨item, adding, -, hUpdate, hAdding⟩ := addElement_eq_some h
  refine hFollows.update (fun m hm => ?first) ?named (fun {n origin inner} hn => ?table)
    (fun {n v} hn => ?value) hUpdate
  case first =>
    rcases List.mem_cons.mp hm with rfl | hm
    · rfl
    · obtain ⟨pair, -, rfl⟩ := List.mem_map.mp hm
      rfl
  case named => rw [List.foldl_cons, foldl_note_mentions, note_named]
  case table => rcases hAdding n _ hn with ⟨-, hTables⟩ | ⟨items, -, hTables⟩ <;> cases hTables
  case value => rcases hAdding n _ hn with ⟨-, hTables⟩ | ⟨items, -, hTables⟩ <;> cases hTables

theorem addSection {s : Section} (hFollows : Follows IsSaid said entries)
    (h : Node.addSection entries s = some after) : Follows IsSaid (said ++ s.mentions) after := by
  obtain ⟨header, pairs⟩ := s
  match header, h with
  | .table ⟨[], key⟩, h => exact hFollows.openTable h
  | .table ⟨first :: path, key⟩, h =>
    have h : Node.descend .implied (fun _ es => Node.openTable key pairs es) (first :: path) .opened
      entries = some after := h
    exact hFollows.descend Node.keys_openTable pairs h
  | .element ⟨[], key⟩, h => exact hFollows.addElement h
  | .element ⟨first :: path, key⟩, h =>
    have h : Node.descend .implied (fun _ es => Node.addElement key pairs es) (first :: path) .opened
      entries = some after := h
    exact hFollows.descend Node.keys_addElement pairs h

/-- Step by step, what is built follows what is said at each step. -/
theorem foldlM {α : Type} {step : Node.Children → α → Option Node.Children}
    {told : α → List Mention} {xs : List α} (hFollows : Follows IsSaid said entries)
    (hStep : ∀ x ∈ xs, ∀ {said entries after}, Follows IsSaid said entries →
      step entries x = some after → Follows IsSaid (said ++ told x) after)
    (h : xs.foldlM step entries = some after) : Follows IsSaid (said ++ xs.flatMap told) after := by
  induction xs generalizing said entries with
  | nil =>
    obtain rfl := Option.some.inj h
    rw [List.flatMap_nil, List.append_nil]
    exact hFollows
  | cons x xs ih =>
    rw [List.foldlM_cons] at h
    obtain ⟨between, hFirst, hRest⟩ := Option.bind_eq_some_iff.mp h
    rw [List.flatMap_cons, ← List.append_assoc]
    exact ih (hStep x List.mem_cons_self hFollows hFirst)
      (fun y hy => hStep y (List.mem_cons_of_mem _ hy)) hRest

end Follows

/-- **A document follows its lines**, and so do the tables in it. -/
theorem inOrder_of_read? {text : String} {entries : Entries} (h : read? text = some entries) :
    ∃ lines, linesOf? text = some lines ∧ InOrder lines entries := by
  rw [read?_eq] at h
  obtain ⟨lines, hLines, hEntries⟩ := Option.bind_eq_some_iff.mp h
  obtain ⟨root, hRoot, hEntries⟩ := Option.bind_eq_some_iff.mp hEntries
  obtain ⟨whole, hWhole, hEntries⟩ := Option.bind_eq_some_iff.mp hEntries
  obtain rfl := Option.some.inj hEntries
  let IsSaid (key : String) (v : Value) : Prop := .pair ⟨[], key⟩ v ∈ lines
  have hPairs : Follows IsSaid ((divide lines).1.flatMap fun pair => [⟨pair.1.keys, false⟩]) root := by
    refine Follows.nil.foldlM (fun pair hp {_ _ _} hBefore => hBefore.addPair fun hPlain => ?_) hRoot
    have hLine := (mem_of_divide lines).1 pair hp
    obtain ⟨⟨parents, key⟩, v⟩ := pair
    obtain rfl : parents = [] := hPlain
    exact hLine
  have hSections : ∀ s ∈ (divide lines).2, ∀ {said entries after}, Follows IsSaid said entries →
      Node.addSection entries s = some after → Follows IsSaid (said ++ s.mentions) after :=
    fun s _ {_ _ _} hBefore hAdd => hBefore.addSection hAdd
  have hFollows := hPairs.foldlM hSections hWhole
  -- both parts together are the mentions of all lines
  have hSaid : ((divide lines).1.flatMap fun pair => [⟨pair.1.keys, false⟩])
      ++ (divide lines).2.flatMap Section.mentions = mentions [] lines := by
    rw [mentions_eq, ← List.map_eq_flatMap]
    rfl
  rw [hSaid] at hFollows
  refine ⟨lines, hLines, ?_, fun key es hMem => ?_⟩
  · -- the same keys and values, without how each table came to be
    rw [Node.keys_toEntries]
    exact hFollows.keys
  · rw [Node.toEntries_eq_map, List.mem_map] at hMem
    obtain ⟨⟨k, n⟩, hNode, hSame⟩ := hMem
    cases n with
    | value v =>
      rw [Node.toValue] at hSame
      cases hSame
      exact .inl (hFollows.values _ _ hNode)
    | table origin inner =>
      rw [Node.toValue] at hSame
      cases hSame
      rw [Node.keys_toEntries]
      exact .inr (hFollows.tables _ origin inner hNode)
    | tables items =>
      rw [Node.toValue] at hSame
      cases hSame

end ProxyAudit.Toml

import Mathlib
import ProxyAudit.Proofs.Digest.Standard

/-!
# Families of sinks

Sinks are made, fed, copied and finished in any order, and each goes its own way. A family is kept
by numbers, in the order in which its members came to be; a member that is finished is gone. What a
member should be is what it has received: its own pieces after those that it took over from the
member of which it is a copy. Both are runs of one machine, once with sinks and once with lists of
pieces.

Main results:

* `run_map`            — a map of members that respects what is done to them respects runs.
* `runFrom_other`          — a member stays as it is while things are done to others.
* `streaming_digests`  — the digest and the count of every member of a family.
-/

namespace ProxyAudit

-- ---------------------------------------------------------------------------
-- Families
-- ---------------------------------------------------------------------------

/-- Members by their numbers, those that are finished left out. -/
abbrev Family (α : Type) := List (Option α)

namespace Family

variable {α β : Type}

/-- What is done to a family. -/
inductive Deed where
  | make
  | update (member : Nat) (piece : Bytes)
  | clone (member : Nat)
  | finish (member : Nat)
  deriving DecidableEq, Repr

/-- The member that a deed changes. A copy leaves its model as it is. -/
def Deed.subject? : Deed → Option Nat
  | update member _ | finish member => some member
  | make | clone _ => none

/-- A kind of members: how they begin, and what a piece makes of them. -/
structure Kind (α : Type) where
  fresh : α
  update : α → Bytes → α

def member? (f : Family α) (i : Nat) : Option α :=
  f[i]?.join

/-- A family after a deed. A copy of a member that is gone is gone too. -/
def step (k : Kind α) (f : Family α) : Deed → Family α
  | .make => f ++ [some k.fresh]
  | .update i piece => f.modify i (Option.map (k.update · piece))
  | .clone i => f ++ [f.member? i]
  | .finish i => f.set i none

/-- A family after some deeds. -/
def runFrom (k : Kind α) (f : Family α) (deeds : List Deed) : Family α :=
  deeds.foldl (step k) f

/-- The family that some deeds make. -/
def run (k : Kind α) (deeds : List Deed) : Family α :=
  runFrom k [] deeds

theorem run_append (k : Kind α) (deeds more : List Deed) :
    run k (deeds ++ more) = runFrom k (run k deeds) more :=
  List.foldl_append

theorem member?_map (h : α → β) (f : Family α) (i : Nat) :
    member? (f.map (Option.map h)) i = (f.member? i).map h := by
  rw [member?, member?, List.getElem?_map]
  cases f[i]? <;> rfl

-- ---------------------------------------------------------------------------
-- Maps of members
-- ---------------------------------------------------------------------------

theorem step_map {k : Kind α} {k' : Kind β} {h : α → β} (hFresh : h k.fresh = k'.fresh)
    (hUpdate : ∀ a piece, h (k.update a piece) = k'.update (h a) piece) (f : Family α) (d : Deed) :
    (step k f d).map (Option.map h) = step k' (f.map (Option.map h)) d := by
  cases d with
  | make => simp [step, hFresh]
  | clone i => simp [step, member?_map]
  | finish i => simp [step, List.map_set]
  | update i piece =>
    refine List.ext_getElem? fun j => ?_
    simp only [step, List.getElem?_map, List.getElem?_modify]
    rcases f[j]? with _ | (_ | a)
    · rfl
    · split <;> rfl
    · split <;> simp [hUpdate]

/-- **Maps of members.** -/
theorem run_map {k : Kind α} {k' : Kind β} {h : α → β} (hFresh : h k.fresh = k'.fresh)
    (hUpdate : ∀ a piece, h (k.update a piece) = k'.update (h a) piece) (deeds : List Deed) :
    (run k deeds).map (Option.map h) = run k' deeds := by
  -- by induction from the last deed backwards
  induction deeds using List.reverseRecOn with
  | nil => rfl
  | append_singleton deeds d ih =>
    rw [run_append, run_append, ← ih]
    exact step_map hFresh hUpdate _ d

-- ---------------------------------------------------------------------------
-- Other members
-- ---------------------------------------------------------------------------

theorem lt_length_of_member? {f : Family α} {i : Nat} {a : α} (h : f.member? i = some a) :
    i < f.length := by
  exact (List.getElem?_eq_some_iff.mp (Option.join_eq_some_iff.mp h)).1

/-- A deed leaves the members as they are that it does not change. -/
theorem step_other {k : Kind α} {f : Family α} {d : Deed} {i : Nat} (hSubject : d.subject? ≠ some i)
    (h : i < f.length) : (step k f d).member? i = f.member? i := by
  cases d with
  | make | clone j => simp [step, member?, List.getElem?_append_left h]
  | update j piece | finish j =>
    have hOther : j ≠ i := fun hSame => hSubject (congrArg some hSame)
    simp [step, member?, hOther]

/-- **A member stays as it is while things are done to others.** -/
theorem runFrom_other {k : Kind α} {f : Family α} {deeds : List Deed} {i : Nat} {a : α}
    (h : f.member? i = some a) (hOthers : ∀ d ∈ deeds, d.subject? ≠ some i) :
    (runFrom k f deeds).member? i = some a := by
  induction deeds generalizing f with
  | nil => exact h
  | cons d deeds ih =>
    have hKept := step_other (k := k) (hOthers d List.mem_cons_self) (lt_length_of_member? h)
    exact ih (hKept.trans h) fun e he => hOthers e (List.mem_cons_of_mem _ he)

end Family

-- ---------------------------------------------------------------------------
-- Sinks
-- ---------------------------------------------------------------------------

/-- Members that keep the pieces that they have received. -/
def receivers : Family.Kind (List Bytes) where
  fresh := []
  update pieces piece := pieces ++ [piece]

namespace DigestSink

/-- Members that hash. -/
def sinks : Family.Kind DigestSink where
  fresh := empty
  update := update

/-- A sink is made of what it has received. -/
theorem member?_sinks (deeds : List Family.Deed) (i : Nat) :
    (Family.run sinks deeds).member? i
      = ((Family.run receivers deeds).member? i).map empty.updateAll := by
  have hUpdate : ∀ pieces piece, empty.updateAll (receivers.update pieces piece)
      = sinks.update (empty.updateAll pieces) piece := fun pieces piece => List.foldl_append
  have hFresh : empty.updateAll receivers.fresh = sinks.fresh := rfl
  rw [← Family.member?_map, Family.run_map hFresh hUpdate]

/--
**Streaming is hashing at once.** However a family of sinks came about, a member that has received
certain pieces, those of the sinks included of which it is a copy, has

* the digest that the whole gives in one piece, which is the hash of the standard, written in lower
  case;
* the count of all bytes, if they are fewer than 2^64;
* the same state as a sink that was fed the same bytes in other pieces;

and what is done to other members does not change it.
-/
theorem streaming_digests (deeds : List Family.Deed) {i : Nat} {pieces : List Bytes}
    (h : (Family.run receivers deeds).member? i = some pieces) :
    ∃ sink, (Family.run sinks deeds).member? i = some sink ∧
      sink.finish = (empty.update pieces.flatten).finish ∧
      sink.finish = Digest.ofBytes pieces.flatten ∧
      sink.finish.text = String.ofList (Hex.write (Sha256.Standard.hash pieces.flatten)) ∧
      (pieces.flatten.length < 2 ^ 64 → sink.bytes.toNat = pieces.flatten.length) ∧
      (∀ pieces' : List Bytes, pieces'.flatten = pieces.flatten → empty.updateAll pieces' = sink) ∧
      ∀ more : List Family.Deed, (∀ d ∈ more, d.subject? ≠ some i) →
        (Family.run sinks (deeds ++ more)).member? i = some sink := by
  -- the receiver and the sink of one number have been given the same pieces
  have hMember : (Family.run sinks deeds).member? i = some (empty.updateAll pieces) := by
    rw [member?_sinks, h, Option.map_some]
  have hFinish : (empty.updateAll pieces).finish = Digest.ofBytes pieces.flatten := by
    rw [updateAll_eq_after, finish_after]
  refine ⟨_, hMember, ?_, hFinish, ?_, ?_, ?_, ?_⟩
  · have hOnce : empty.update pieces.flatten = after pieces.flatten := by
      simpa [updateAll] using updateAll_eq_after [pieces.flatten]
    rw [hFinish, hOnce, finish_after]
  · rw [hFinish, ← Sha256.hash_eq]
    rfl
  · intro hFits
    rw [updateAll_eq_after]
    exact UInt64.toNat_ofNat_of_lt' hFits
  · intro pieces' hSame
    rw [updateAll_eq_after, updateAll_eq_after, hSame]
  · intro more hOthers
    rw [Family.run_append]
    exact Family.runFrom_other hMember hOthers

/-- A copy that goes on while its model takes another piece and is finished. -/
theorem streaming_digests_of_copy :
    let deeds : List Family.Deed :=
      [.make, .update 0 [1], .clone 0, .update 0 [9], .update 1 [2, 3], .finish 0, .update 1 []]
    (Family.run receivers deeds).member? 1 = some [[1], [2, 3], []] ∧
    ∃ sink, (Family.run sinks deeds).member? 1 = some sink ∧
      sink.finish = Digest.ofBytes [1, 2, 3] ∧ sink.bytes.toNat = 3 ∧
      sink.finish.text = String.ofList (Hex.write (Sha256.Standard.hash [1, 2, 3])) ∧
      (Family.run sinks (deeds ++ [.make, .clone 1, .update 3 [7]])).member? 1 = some sink := by
  intro deeds
  have hReceived : (Family.run receivers deeds).member? 1 = some [[1], [2, 3], []] := rfl
  obtain ⟨sink, hMember, -, hFinish, hText, hBytes, -, hKept⟩ := streaming_digests deeds hReceived
  exact ⟨hReceived, sink, hMember, hFinish, hBytes (by decide), hText, hKept _ (by decide)⟩

end DigestSink

end ProxyAudit

import Mathlib
import ProxyAudit.Proofs.Audit.Observed
import ProxyAudit.World

/-!
# What is recorded in a world

The trace of a world only grows. What a computation may add to it can be read off the steps that it
is made of: transfers add their traffic, workers the spans that they sleep, file tasks nothing, and
the log its lines. None of them writes to the standard output or complains.

Main results:

* `Records.bind`         — what is recorded by one step after another.
* `records_transfer`     — transfers record their traffic.
* `records_task`         — file tasks record nothing.
* `Records.printed_eq`, `Records.complaints_eq`  — what leaves the two outputs as they are.
-/

namespace ProxyAudit

variable {σ β γ : Type}

namespace Event

/-- A fetch begins, or a request is sent. -/
def IsTraffic : Event → Prop
  | fetching _ _ _ | asked _ => True
  | _ => False

def IsLogLine : Event → Prop
  | logged _ _ => True
  | _ => False

/-- Nothing is written to the standard output, and nothing is complained of. -/
def IsSilent : Event → Prop
  | printed _ | complained _ => False
  | _ => True

theorem IsTraffic.isSilent {e : Event} (h : e.IsTraffic) : e.IsSilent := by
  cases e <;> trivial

theorem IsLogLine.isSilent {e : Event} (h : e.IsLogLine) : e.IsSilent := by
  cases e <;> trivial

end Event

namespace World

-- ---------------------------------------------------------------------------
-- Steps
-- ---------------------------------------------------------------------------

/-- A computation adds nothing to the trace but events of a kind. -/
def Records (kind : Event → Prop) (x : StateM (World σ) β) : Prop :=
  ∀ w, ∃ events, (x.run w).2.trace = w.trace ++ events ∧ ∀ e ∈ events, kind e

variable {kind : Event → Prop} {x : StateM (World σ) β}

theorem Records.mono {kind' : Event → Prop} (h : Records kind x) (hKind : ∀ e, kind e → kind' e) :
    Records kind' x := by
  intro w
  obtain ⟨events, hTrace, hEvents⟩ := h w
  exact ⟨events, hTrace, fun e he => hKind e (hEvents e he)⟩

theorem Records.of_trace_eq (h : ∀ w, (x.run w).2.trace = w.trace) : Records kind x :=
  fun w => ⟨[], by rw [h, List.append_nil], by simp⟩

theorem Records.pure (b : β) : Records kind (pure b : StateM (World σ) β) :=
  .of_trace_eq fun _ => rfl

theorem Records.bind {f : β → StateM (World σ) γ} (h : Records kind x)
    (hNext : ∀ b, Records kind (f b)) : Records kind (x >>= f) := by
  intro w
  obtain ⟨events, hTrace, hEvents⟩ := h w
  obtain ⟨more, hMore, hMoreEvents⟩ := hNext (x.run w).1 (x.run w).2
  refine ⟨events ++ more, ?_, List.forall_mem_append.mpr ⟨hEvents, hMoreEvents⟩⟩
  rw [StateM.run_bind, hMore, hTrace, List.append_assoc]

theorem records_record {e : Event} (h : kind e) : Records kind (record e : StateM (World σ) Unit) :=
  fun _ => ⟨[e], rfl, by simpa using h⟩

theorem records_tick : Records kind (tick : StateM (World σ) Nat) :=
  .of_trace_eq fun _ => rfl

theorem records_onFar (act : StateM σ β) : Records kind (onFar act) :=
  .of_trace_eq fun _ => rfl

theorem records_onTree (act : StateM FileTree β) :
    Records kind (onTree act : StateM (World σ) β) :=
  .of_trace_eq fun _ => rfl

-- ---------------------------------------------------------------------------
-- Outputs
-- ---------------------------------------------------------------------------

theorem filterMap_append_of_none {f : Event → Option γ} {events more : List Event}
    (h : ∀ e ∈ more, f e = none) : (events ++ more).filterMap f = events.filterMap f := by
  rw [List.filterMap_append, List.filterMap_eq_nil_iff.mpr h, List.append_nil]

theorem Records.printed_eq (h : Records Event.IsSilent x) (w : World σ) :
    (x.run w).2.printed = w.printed := by
  obtain ⟨events, hTrace, hEvents⟩ := h w
  rw [printed, hTrace]
  refine filterMap_append_of_none fun e he => ?_
  cases e with
  | printed => exact (hEvents _ he).elim
  | _ => rfl

theorem Records.complaints_eq (h : Records Event.IsSilent x) (w : World σ) :
    (x.run w).2.complaints = w.complaints := by
  obtain ⟨events, hTrace, hEvents⟩ := h w
  rw [complaints, hTrace]
  refine filterMap_append_of_none fun e he => ?_
  cases e with
  | complained => exact (hEvents _ he).elim
  | _ => rfl

@[simp] theorem printed_record_printed (text : String) (w : World σ) :
    ((record (.printed text)).run w).2.printed = w.printed ++ [text] := by
  simp [printed, trace_record]

@[simp] theorem complaints_record_printed (text : String) (w : World σ) :
    ((record (.printed text)).run w).2.complaints = w.complaints := by
  simp [complaints, trace_record]

@[simp] theorem printed_record_complained (text : String) (w : World σ) :
    ((record (.complained text)).run w).2.printed = w.printed := by
  simp [printed, trace_record]

@[simp] theorem complaints_record_complained (text : String) (w : World σ) :
    ((record (.complained text)).run w).2.complaints = w.complaints ++ [text] := by
  simp [complaints, trace_record]

end World

-- ---------------------------------------------------------------------------
-- Transfers and files
-- ---------------------------------------------------------------------------

namespace Surroundings

open World

variable (s : Surroundings σ)

theorem records_runIn (limits : TimeoutSection) (t : Transfer) :
    Records Event.IsTraffic (t.runIn s.network limits) := by
  induction t with
  | done delivery => exact .pure delivery
  | watch next ih => exact ih s.isWatchable
  | look path next ih =>
    refine Records.bind ?_ ih
    simp only [network]
    split
    · exact .pure false
    · exact (records_onTree _).bind fun _ => .pure _
  | ask request next ih =>
    refine Records.bind ?_ ih
    exact (records_record trivial).bind fun _ => records_onFar _

theorem records_transfer (url : String) (route : Route) (limits : TimeoutSection) :
    Records Event.IsTraffic (s.setting.transfer url route limits) :=
  (records_record trivial).bind fun _ => s.records_runIn limits _

theorem records_task (task : FileTask β) {kind : Event → Prop} :
    Records kind (task.runIn s.platform.files) := by
  induction task with
  | done result => exact .pure result
  | makeDirectories path next ih | seek path next ih | read path next ih | write path content next ih
  | touch path next ih =>
    exact (records_onTree _).bind ih

theorem records_openLog (l : Locations) :
    Records Event.IsLogLine (Session.openLog s.platform l) := by
  refine (s.records_task _).bind fun opened => ?_
  cases opened with
  | ok => exact records_record trivial
  | error fault => exact records_record trivial

end Surroundings

end ProxyAudit

import Mathlib.Data.List.Nodup

/-!
# Dirty tracking

`DirtyTracker` keeps the `HashSet` of the items whose plan must be
recomputed. The model keeps the set as a list without repeats, a field of the
tracker, so no tracker lists an item twice; where a new item lands in the
set's iteration order is left unspecified, and nothing below depends on it.

After any sequence of `mark_dirty` and `clear` calls from a new tracker, an
item is dirty, and listed by `get_dirty_components`, exactly when it was
marked after the last clear (`run_new_isDirty`).
-/

namespace NexusMrp

/-- `DirtyTracker`: its set of dirty items, without repeats. -/
structure DirtyTracker where
  dirtyComponents : List String
  nodup : dirtyComponents.Nodup

namespace DirtyTracker

/-- `DirtyTracker::new`. -/
def new : DirtyTracker :=
  ⟨[], List.nodup_nil⟩

/-- `DirtyTracker::mark_dirty`: insert the item into the set. -/
def markDirty (tracker : DirtyTracker) (componentId : String) : DirtyTracker :=
  if marked : componentId ∈ tracker.dirtyComponents then tracker
  else ⟨componentId :: tracker.dirtyComponents, List.nodup_cons.mpr ⟨marked, tracker.nodup⟩⟩

/-- `DirtyTracker::is_dirty`. -/
def isDirty (tracker : DirtyTracker) (componentId : String) : Bool :=
  decide (componentId ∈ tracker.dirtyComponents)

/-- `DirtyTracker::clear`. -/
def clear (_tracker : DirtyTracker) : DirtyTracker :=
  new

/-- `DirtyTracker::get_dirty_components`. -/
def getDirtyComponents (tracker : DirtyTracker) : List String :=
  tracker.dirtyComponents

/-- A call that changes a tracker. -/
inductive Call
  | markDirty (componentId : String)
  | clear
  deriving DecidableEq, Repr

/-- A call applied to a tracker. -/
def Call.apply : Call → DirtyTracker → DirtyTracker
  | .markDirty componentId, tracker => tracker.markDirty componentId
  | .clear, tracker => tracker.clear

/-- The tracker a sequence of calls leaves, each made on the one the previous
call left. -/
def run (tracker : DirtyTracker) : List Call → DirtyTracker
  | [] => tracker
  | call :: calls => run (call.apply tracker) calls

/-- An item was marked after the last clear of a sequence of calls. -/
def MarkedSinceClear (calls : List Call) (componentId : String) : Prop :=
  ∃ before after, calls = before ++ .markDirty componentId :: after ∧ Call.clear ∉ after

theorem mem_markDirty {tracker : DirtyTracker} {componentId other : String} :
    other ∈ (tracker.markDirty componentId).dirtyComponents ↔
      other ∈ tracker.dirtyComponents ∨ other = componentId := by
  unfold markDirty
  split_ifs with marked
  · exact ⟨.inl, fun member => member.elim id (· ▸ marked)⟩
  · rw [List.mem_cons, or_comm]

theorem markedSinceClear_cons (call : Call) (calls : List Call) (componentId : String) :
    MarkedSinceClear (call :: calls) componentId ↔
      MarkedSinceClear calls componentId ∨
        (call = .markDirty componentId ∧ Call.clear ∉ calls) := by
  constructor
  · rintro ⟨before, after, split, noClear⟩
    cases before with
    | nil =>
        obtain ⟨rfl, rfl⟩ := List.cons.inj split
        exact .inr ⟨rfl, noClear⟩
    | cons first before =>
        obtain ⟨-, rest⟩ := List.cons.inj split
        exact .inl ⟨before, after, rest, noClear⟩
  · rintro (⟨before, after, rfl, noClear⟩ | ⟨rfl, noClear⟩)
    · exact ⟨call :: before, after, rfl, noClear⟩
    · exact ⟨[], calls, rfl, noClear⟩

/-- From any tracker, an item is dirty after a sequence of calls when it was
marked after the last clear, or was dirty before and nothing was cleared. -/
theorem mem_run (tracker : DirtyTracker) (calls : List Call) (componentId : String) :
    componentId ∈ (tracker.run calls).dirtyComponents ↔
      MarkedSinceClear calls componentId ∨
        (componentId ∈ tracker.dirtyComponents ∧ Call.clear ∉ calls) := by
  induction calls generalizing tracker with
  | nil => simp [run, MarkedSinceClear]
  | cons call calls inductionHypothesis =>
      rw [run, inductionHypothesis, markedSinceClear_cons]
      cases call with
      | markDirty marked =>
          simp only [Call.apply, mem_markDirty, List.mem_cons, reduceCtorEq, false_or,
            Call.markDirty.injEq]
          constructor
          · rintro (since | ⟨member | rfl, noClear⟩)
            · exact .inl (.inl since)
            · exact .inr ⟨member, noClear⟩
            · exact .inl (.inr ⟨rfl, noClear⟩)
          · rintro ((since | ⟨rfl, noClear⟩) | ⟨member, noClear⟩)
            · exact .inl since
            · exact .inr ⟨.inr rfl, noClear⟩
            · exact .inr ⟨.inl member, noClear⟩
      | clear => simp [Call.apply, clear, new]

/-- After any sequence of `mark_dirty` and `clear` calls from a new tracker, an
item is dirty, and listed once by `get_dirty_components`, exactly when it was
marked after the last clear. -/
theorem run_new_isDirty (calls : List Call) (componentId : String) :
    ((new.run calls).isDirty componentId = true ↔ MarkedSinceClear calls componentId) ∧
      (new.run calls).getDirtyComponents.Nodup ∧
      (componentId ∈ (new.run calls).getDirtyComponents ↔ MarkedSinceClear calls componentId) := by
  have marked : componentId ∈ (new.run calls).dirtyComponents ↔
      MarkedSinceClear calls componentId := by
    simp [mem_run, new]
  exact ⟨decide_eq_true_iff.trans marked, (new.run calls).nodup, marked⟩

end DirtyTracker

end NexusMrp

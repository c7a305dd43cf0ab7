/-!
# Module locks

A module lock as its depth: `lock` raises it and `unlock` lowers it. A depth that has been below
zero is remembered: some other caller's lock was released then.
-/

namespace OpxSai

/-- The depth of a lock, and whether it has been below zero. -/
structure LockDepth where
  depth : Int
  below : Bool
deriving DecidableEq

namespace LockDepth

def lock (l : LockDepth) : LockDepth := { l with depth := l.depth + 1 }

def unlock (l : LockDepth) : LockDepth :=
  { depth := l.depth - 1, below := l.below || decide (l.depth - 1 < 0) }

/-- A lock below zero is known to have been there. -/
def Valid (l : LockDepth) : Prop := l.depth < 0 → l.below = true

theorem Valid.lock {l : LockDepth} (h : l.Valid) : l.lock.Valid := by
  intro hneg
  have hneg' : l.depth + 1 < 0 := hneg
  exact h (by omega)

theorem Valid.unlock (l : LockDepth) : l.unlock.Valid := by
  intro hneg
  have hneg' : l.depth - 1 < 0 := hneg
  simp [LockDepth.unlock, hneg']

/-- What is done between taking a lock and giving it back leaves no trace on it. -/
theorem unlock_lock {l : LockDepth} (h : l.Valid) : l.lock.unlock = l := by
  obtain ⟨depth, below⟩ := l
  by_cases hneg : depth < 0
  · have hbelow : below = true := h hneg
    simp [LockDepth.lock, LockDepth.unlock, hbelow]
  · simp [LockDepth.lock, LockDepth.unlock, hneg]

/-- A lock that is taken and not given back. -/
theorem lock_ne (l : LockDepth) : l.lock ≠ l := by
  intro h
  have hdepth : l.depth + 1 = l.depth := congrArg LockDepth.depth h
  omega

/-- A lock that is given back and was not taken. -/
theorem unlock_ne (l : LockDepth) : l.unlock ≠ l := by
  intro h
  have hdepth : l.depth - 1 = l.depth := congrArg LockDepth.depth h
  omega

end LockDepth

end OpxSai

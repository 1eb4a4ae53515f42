import Mathlib.Init

/-!
# Counting semaphores

A semaphore counts the permits that are out and never hands out more than its
capacity.  A permit is returned when its holder drops it; `matchTryAcquire` is
the case of a permit that nobody keeps.
-/

/-- The permits that are out. -/
structure Semaphore (capacity : Nat) where
  acquired : Nat
  acquired_le : acquired ≤ capacity

namespace Semaphore

variable {capacity : Nat}

def new (capacity : Nat) : Semaphore capacity where
  acquired := 0
  acquired_le := Nat.zero_le capacity

/-- Take a permit when one is left. -/
def tryAcquire (semaphore : Semaphore capacity) :
    Option (Semaphore capacity) :=
  if room : semaphore.acquired < capacity then
    some { acquired := semaphore.acquired + 1, acquired_le := room }
  else
    none

/-- Drop a permit. -/
def release (semaphore : Semaphore capacity) : Semaphore capacity where
  acquired := semaphore.acquired - 1
  acquired_le := Nat.le_trans (Nat.sub_le _ _) semaphore.acquired_le

/-- A `match` on `try_acquire` that does not bind the permit: whether it was
granted, and the semaphore after the match, at whose end the permit is
dropped. -/
def matchTryAcquire (semaphore : Semaphore capacity) :
    Bool × Semaphore capacity :=
  match semaphore.tryAcquire with
  | some taken => (true, taken.release)
  | none => (false, semaphore)

theorem matchTryAcquire_granted (semaphore : Semaphore capacity) :
    semaphore.matchTryAcquire.1 = decide (semaphore.acquired < capacity) := by
  unfold matchTryAcquire tryAcquire
  by_cases room : semaphore.acquired < capacity
  · simp [room]
  · simp [room]

/-- A permit that nobody keeps does not count. -/
theorem matchTryAcquire_unchanged (semaphore : Semaphore capacity) :
    semaphore.matchTryAcquire.2 = semaphore := by
  unfold matchTryAcquire tryAcquire
  by_cases room : semaphore.acquired < capacity
  · simp [room, release]
  · simp [room]

end Semaphore

import Mathlib

/-!
# A lock that is served in order

Jobs take a lock in the order in which they come: each takes it when it comes, or when the one
before it lets go, and holds it for a while (`Served`).  A job waits no longer than the jobs that
hold the lock after it has come (`taken_le`): what was let go before that does not count, however
long it was held. -/

namespace ChronosHFT.FifoLock

variable {R : Type*} [Field R] [LinearOrder R] [IsStrictOrderedRing R]

/-- When a job comes, when it takes the lock and when it lets go. -/
structure Job (R : Type*) where
  arrival : R
  taken : R
  released : R

/-- The time for which the lock is held. -/
def Job.held (job : Job R) : R := job.released - job.taken

/-- The jobs take a lock that is free from `free` on, one after the other. -/
def Served (free : R) : List (Job R) → Prop
  | [] => True
  | job :: rest =>
    job.taken = max job.arrival free ∧ job.taken ≤ job.released ∧ Served job.released rest

variable {free : R} {ahead behind : List (Job R)} {job : Job R}

/-- **The wait for the lock**: the jobs that are ahead and let go after the job has come. -/
theorem taken_le (h : Served free (ahead ++ job :: behind))
    (horder : ∀ other ∈ ahead, other.arrival ≤ job.arrival) :
    job.taken ≤ max job.arrival free
      + ((ahead.filter fun other => job.arrival < other.released).map Job.held).sum := by
  induction ahead generalizing free with
  | nil =>
    rw [h.1, List.filter_nil, List.map_nil, List.sum_nil, add_zero]
  | cons first ahead ih =>
    obtain ⟨htaken, hheld, hrest⟩ := h
    rw [List.forall_mem_cons] at horder
    have hwait := ih hrest horder.2
    by_cases hlate : job.arrival < first.released
    · rw [List.filter_cons_of_pos (by simpa using hlate), List.map_cons, List.sum_cons]
      rw [max_eq_right hlate.le] at hwait
      have hfirst : first.taken ≤ max job.arrival free := htaken ▸ max_le_max_right free horder.1
      unfold Job.held at hwait ⊢
      linarith
    · rw [List.filter_cons_of_neg (by simpa using hlate)]
      rw [max_eq_left (not_lt.mp hlate)] at hwait
      linarith [le_max_left job.arrival free]

end ChronosHFT.FifoLock

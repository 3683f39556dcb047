import StorageGauges.Target

/-!
# The Pool of Workers

A scrape needs a worker from beginning to end. There are only so many, and a
target that finds none idle is left out of its tick; nothing waits in line.

## Main definitions

* `Pool`: How many workers there are and how many of them are idle.
* `Pool.take?`, `Pool.release`: A worker takes up a scrape, and is done with it.
* `Dispatch`: The targets of a tick, split by whether they got a worker.
* `dispatch`: Gives the idle workers to targets.

## Theorems

* `dispatch_started`: A tick starts as many as there are idle workers.
-/

namespace StorageGauges

/-- How many workers there are, and how many of them are idle. -/
structure Pool where
  size : Nat
  idle : Nat
  idle_le : idle ≤ size
deriving DecidableEq, Repr

namespace Pool

/-- A pool in which everyone is idle. -/
def ofSize (size : Nat) : Pool :=
  { size, idle := size, idle_le := Nat.le_refl size }

/-- A worker takes up a scrape, if one is idle. -/
def take? (p : Pool) : Option Pool :=
  if 0 < p.idle then
    some { size := p.size, idle := p.idle - 1, idle_le := by have := p.idle_le; omega }
  else none

/-- A worker is done with a scrape. -/
def release (p : Pool) : Pool :=
  { size := p.size, idle := min (p.idle + 1) p.size, idle_le := Nat.min_le_right _ _ }

end Pool

/-- The targets of a tick: those that got a worker, and how many did not. -/
structure Dispatch where
  started : List Target
  dropped : Nat
deriving DecidableEq, Repr, Inhabited

/-- Gives the idle workers to targets. -/
def dispatch (pool : Pool) : List Target → Dispatch × Pool
  | [] => ({ started := [], dropped := 0 }, pool)
  | t :: rest =>
    match pool.take? with
    | some left =>
      let (d, after) := dispatch left rest
      ({ d with started := t :: d.started }, after)
    | none =>
      let (d, after) := dispatch pool rest
      ({ d with dropped := d.dropped + 1 }, after)

theorem dispatch_started (pool : Pool) (targets : List Target) :
    (dispatch pool targets).1.started = targets.take pool.idle := by
  induction targets generalizing pool with
  | nil => simp [dispatch]
  | cons t rest ih =>
      simp only [dispatch, Pool.take?]
      by_cases h : 0 < pool.idle
      · simp only [h, if_true, ih]
        obtain ⟨n, hn⟩ := Nat.exists_eq_succ_of_ne_zero (Nat.pos_iff_ne_zero.mp h)
        simp [hn]
      · have hn : pool.idle = 0 := by omega
        simp [hn, ih]

end StorageGauges

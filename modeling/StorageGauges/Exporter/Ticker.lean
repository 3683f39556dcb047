import StorageGauges.Duration

/-!
# Tickers

What a loop waits for between its rounds. The first tick is due at once, and
every later one a period after the tick before. A tick that is taken up late
moves all that follow: the next one is due a period after it was taken up. A
few milliseconds do not count as late, so that ticks do not drift.

Times are milliseconds.

## Main definitions

* `Ticker`: A period, and when the next tick is due.
* `Ticker.start?`: A ticker whose first tick is due.
* `Ticker.next`: The ticker after a tick was taken up.

## Theorems

* `Ticker.start?_eq_none_iff`: Only an interval of less than a millisecond has
  no ticker.
-/

namespace StorageGauges

/-- A period, and when the next tick is due. -/
structure Ticker where
  period : Nat
  due : Nat
  period_pos : 0 < period
deriving DecidableEq, Repr

namespace Ticker

/-- How late a tick can be and still count as on time. -/
def tolerance : Nat := 5

/-- A ticker whose first tick is due, if its period is any time at all. -/
def start? (interval : Duration) (now : Nat) : Option Ticker :=
  if h : 0 < interval.milliseconds then
    some { period := interval.milliseconds, due := now, period_pos := h }
  else none

/-- The ticker after a tick was taken up. -/
def next (t : Ticker) (now : Nat) : Ticker :=
  { t with due := if t.due + tolerance < now then now + t.period else t.due + t.period }

theorem start?_eq_none_iff (interval : Duration) (now : Nat) :
    start? interval now = none ↔ interval.milliseconds = 0 := by
  simp only [start?, dite_eq_right_iff, reduceCtorEq, imp_false, Nat.not_lt, Nat.le_zero]

end Ticker

end StorageGauges

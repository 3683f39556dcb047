/-!
# Durations

A span of time in nanoseconds. Seconds are words of 64 bits, so there is a
longest span, and whatever would be longer is cut to it. A setting can
therefore ask for any number of seconds or minutes.

## Main definitions

* `Duration`: A span of time that is not too long.
* `Duration.ofSeconds`, `Duration.ofMilliseconds`: Spans of a given length.
* `Duration.times`: Several times a span.
* `Duration.seconds`, `Duration.milliseconds`: How long a span is.

## Theorems

* `Duration.milliseconds_ofSeconds`: Seconds are a thousand milliseconds.
-/

namespace StorageGauges

/-- The greatest word of 64 bits. -/
def greatestWord : Nat := 18446744073709551615

/-- The nanoseconds in a second. -/
def nanosecondsPerSecond : Nat := 1000000000

/-- The longest span in nanoseconds. -/
def longestSpan : Nat := greatestWord * nanosecondsPerSecond + 999999999

/-- A span of time. -/
structure Duration where
  nanoseconds : Nat
  le_longest : nanoseconds ≤ longestSpan
deriving DecidableEq, Repr

namespace Duration

/-- A span of some nanoseconds, or the longest. -/
def ofNanoseconds (n : Nat) : Duration :=
  { nanoseconds := min n longestSpan, le_longest := Nat.min_le_right n longestSpan }

instance : Inhabited Duration := ⟨ofNanoseconds 0⟩

/-- A span of some seconds, or of the most that a word can hold. -/
def ofSeconds (n : Nat) : Duration :=
  ofNanoseconds (min n greatestWord * nanosecondsPerSecond)

/-- A span of some milliseconds, or the longest. -/
def ofMilliseconds (n : Nat) : Duration :=
  ofNanoseconds (n * 1000000)

/-- Several times a span, or the longest. -/
def times (d : Duration) (n : Nat) : Duration :=
  ofNanoseconds (d.nanoseconds * n)

/-- The whole seconds of a span. -/
def seconds (d : Duration) : Nat :=
  d.nanoseconds / nanosecondsPerSecond

/-- The nanoseconds of a span behind its whole seconds. -/
def subsecond (d : Duration) : Nat :=
  d.nanoseconds % nanosecondsPerSecond

/-- The whole milliseconds of a span. -/
def milliseconds (d : Duration) : Nat :=
  d.nanoseconds / 1000000

theorem longestSpan_eq : longestSpan = 18446744073709551615999999999 := by
  decide

theorem nanoseconds_ofSeconds (n : Nat) (h : n ≤ greatestWord) :
    (ofSeconds n).nanoseconds = n * nanosecondsPerSecond := by
  have hfit : n * nanosecondsPerSecond ≤ longestSpan := by
    rw [longestSpan_eq]
    unfold greatestWord at h
    unfold nanosecondsPerSecond
    omega
  show min (min n greatestWord * nanosecondsPerSecond) longestSpan = n * nanosecondsPerSecond
  rw [Nat.min_eq_left h, Nat.min_eq_left hfit]

theorem seconds_ofSeconds (n : Nat) (h : n ≤ greatestWord) : (ofSeconds n).seconds = n := by
  rw [seconds, nanoseconds_ofSeconds n h]
  exact Nat.mul_div_cancel n (by decide)

theorem milliseconds_ofSeconds (n : Nat) (h : n ≤ greatestWord) :
    (ofSeconds n).milliseconds = 1000 * n := by
  rw [milliseconds, nanoseconds_ofSeconds n h]
  unfold nanosecondsPerSecond
  omega

end Duration

end StorageGauges

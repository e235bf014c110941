import OrderDesk.Timestamp.Calendar

/-!
# Points in time

A point in time is a day, a second of that day and a nanosecond, in universal time.  A leap second
is the second before it with a nanosecond of 1000000000 or more.
-/

namespace OrderDesk

/-- A point in time. -/
structure Timestamp where
  /-- Days since the first of January 1970. -/
  day : Int
  second : Nat
  nano : Nat
deriving DecidableEq

namespace Timestamp

instance : Inhabited Timestamp := ⟨⟨0, 0, 0⟩⟩

/-- The seconds of a day. -/
def secondsPerDay : Nat := 86400

/-- The point in time that is a number of nanoseconds after the first of January 1970. -/
def ofNanoseconds (n : Int) : Timestamp :=
  let seconds := n / 1000000000
  ⟨seconds / secondsPerDay, (seconds % secondsPerDay).toNat, (n % 1000000000).toNat⟩

/-- Counts nanoseconds, with room for a leap second in every second, so that the count orders points
in time. -/
def rank (t : Timestamp) : Int := (t.day * secondsPerDay + t.second) * 2000000000 + t.nano

/-- Is the first point in time before the second? -/
def isBefore (a b : Timestamp) : Bool := decide (a.rank < b.rank)

/-- The same time of day a number of days earlier. -/
def minusDays (t : Timestamp) (n : Nat) : Timestamp := { t with day := t.day - n }

/-- The whole days from `a` to `b`. -/
def wholeDays (a b : Timestamp) : Int :=
  let seconds (t : Timestamp) : Int := t.day * secondsPerDay + t.second
  let nanoseconds := (seconds b - seconds a) * 1000000000 + ((b.nano : Int) - a.nano)
  nanoseconds.tdiv (secondsPerDay * 1000000000)

end Timestamp

end OrderDesk

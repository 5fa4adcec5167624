import Viewpoint.Named

/-! How measured values are put together: over a group, and over time. -/

namespace Viewpoint

/-- A way to reduce the values of a group to one value. -/
inductive Aggregation where
  | avg
  | sum
  | min
  | max
  | count
  deriving DecidableEq, Repr, Inhabited

namespace Aggregation

/-- All aggregations. -/
def all : List Aggregation :=
  [avg, sum, min, max, count]

/-- The name of an aggregation. -/
def name : Aggregation → String
  | avg => "avg"
  | sum => "sum"
  | min => "min"
  | max => "max"
  | count => "count"

/-- The aggregation that is used when none is named. -/
def standard : Aggregation := avg

instance : Named Aggregation where
  all := all
  name := name
  find_name a := by cases a <;> rfl

end Aggregation

/-- The width of a bucket of a time series. -/
inductive Interval where
  | oneMinute
  | fiveMinutes
  | fifteenMinutes
  | oneHour
  | sixHours
  | oneDay
  deriving DecidableEq, Repr

namespace Interval

/-- All intervals, from the narrowest to the widest. -/
def all : List Interval :=
  [oneMinute, fiveMinutes, fifteenMinutes, oneHour, sixHours, oneDay]

/-- The name of an interval. -/
def name : Interval → String
  | oneMinute => "1m"
  | fiveMinutes => "5m"
  | fifteenMinutes => "15m"
  | oneHour => "1h"
  | sixHours => "6h"
  | oneDay => "1d"

/-- The width of an interval in minutes. -/
def minutes : Interval → Nat
  | oneMinute => 1
  | fiveMinutes => 5
  | fifteenMinutes => 15
  | oneHour => 60
  | sixHours => 360
  | oneDay => 1440

instance : Named Interval where
  all := all
  name := name
  find_name i := by cases i <;> rfl

end Interval

end Viewpoint

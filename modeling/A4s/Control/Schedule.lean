/-
Schedules (`control/schedule.go`): the five fields of a cron expression, and what a scheduled
workload may declare.

A field is a list of terms, and a term is `*`, a value or a range, with a step or without.

* `parseCronField`: the values a field denotes, or which of its terms is refused.
* `parseCron`: the five fields, each with the bounds of its unit.
* `Schedule.validate`: the checks on a declared schedule.
-/
import A4s.Control.Types

namespace A4s

open Go

/-! ### Cron expressions -/

/-- The values `for value := low; value <= high; value += step` visits, where the sum wraps.
An `int` has `2 ^ 64` values, so a loop that ends has no more rounds than that. -/
def cronValues (high step : Int64) : ℕ → Int64 → List Int64
  | 0, _ => []
  | rounds + 1, value =>
    if value ≤ high then value :: cronValues high step rounds (value + step) else []

/-- The step of a term, and the term without it. -/
def parseCronStep (part : String) : Result (Int64 × String) :=
  match cut part '/' with
  | none => .ok (1, part)
  | some (range, text) => do
      let step ← require (atoi text) s!"invalid step in {quote part}"
      refuseIf (step ≤ 0) s!"invalid step in {quote part}"
      return (step, range)

/-- The first and the last value of a term. -/
def parseCronRange (min max : Int64) (part : String) : Result (Int64 × Int64) :=
  if part = "*" then .ok (min, max)
  else
    match cut part '-' with
    | some (start, stop) => do
        let low ← require (atoi start) s!"invalid range start in {quote part}"
        let high ← require (atoi stop) s!"invalid range end in {quote part}"
        return (low, high)
    | none => do
        let value ← require (atoi part) s!"invalid value {quote part}"
        return (value, value)

/-- One term between the commas of a field. -/
def parseCronTerm (min max : Int64) (term : String) : Result (List Int64) := do
  let (step, part) ← parseCronStep term
  let (low, high) ← parseCronRange min max part
  refuseIf (low < min ∨ max < high ∨ high < low)
    s!"value {quote part} is outside {sprintInt min}-{sprintInt max}"
  return cronValues high step (2 ^ 64) low

/-- `parseCronField`: the set of values, sorted. -/
def parseCronField (field : String) (min max : Int64) : Result (List Int64) := do
  refuseIf (field = "") "empty field"
  let values ← (split field ',').mapM (parseCronTerm min max)
  return values.flatten.dedup.insertionSort (· ≤ ·)

structure CronSchedule where
  minutes : List Int64
  hours : List Int64
  days : List Int64
  months : List Int64
  weekdays : List Int64
  deriving DecidableEq

/-- `ParseCron`. -/
def parseCron (expression : String) : Result CronSchedule :=
  match fields expression with
  | [first, second, third, fourth, fifth] => do
      let minutes ← wrapError "cron minute: " (parseCronField first 0 59)
      let hours ← wrapError "cron hour: " (parseCronField second 0 23)
      let days ← wrapError "cron day of month: " (parseCronField third 1 31)
      let months ← wrapError "cron month: " (parseCronField fourth 1 12)
      let weekdays ← wrapError "cron day of week: " (parseCronField fifth 0 6)
      return { minutes, hours, days, months, weekdays }
  | parts => fail ("cron expression needs five fields (minute hour day month weekday), " ++
      s!"got {parts.length}")

example : (parseCronField "1-10/4,3" 0 59).toOption = some [1, 3, 5, 9] := by decide +kernel

/-! ### Schedules -/

namespace Schedule

/-- `Schedule.Validate`. -/
def validate (s : Schedule) : Result Unit := do
  let _ ← parseCron s.cron
  refuseIf (s.deadline < 0) "schedule deadline cannot be negative"
  refuseIf (s.completions < 0) "schedule completions cannot be negative"
  refuseIf (s.retries < 0) "schedule retries cannot be negative"
  match s.concurrency with
  | .unset | .forbid | .allow | .replace => .ok ()
  | .other text => fail s!"unknown concurrency policy {quote text}"

/-- `RequiredCompletions`: how many successful exits complete a run. -/
def requiredCompletions (s : Schedule) : Int64 := if s.completions ≤ 0 then 1 else s.completions

end Schedule

end A4s

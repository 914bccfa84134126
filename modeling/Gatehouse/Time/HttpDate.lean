import Gatehouse.Time.Rfc3339

/-!
# Dates of HTTP headers

`Thu, 01 Jan 1970 00:00:00 GMT`: weekday, day, month by name, year, and the clock to the second.
-/

namespace Gatehouse.Time

open Gatehouse.Text

def Weekday.shortName : Weekday → String
  | .sunday => "Sun"
  | .monday => "Mon"
  | .tuesday => "Tue"
  | .wednesday => "Wed"
  | .thursday => "Thu"
  | .friday => "Fri"
  | .saturday => "Sat"

def monthShortName : Nat → String
  | 1 => "Jan"
  | 2 => "Feb"
  | 3 => "Mar"
  | 4 => "Apr"
  | 5 => "May"
  | 6 => "Jun"
  | 7 => "Jul"
  | 8 => "Aug"
  | 9 => "Sep"
  | 10 => "Oct"
  | 11 => "Nov"
  | _ => "Dec"

def httpDate (t : Instant) : String :=
  let date := Date.ofDayNumber t.dayNumber
  (weekday t.dayNumber).shortName ++ ", " ++ String.ofList (padded 2 date.day) ++ " " ++
    monthShortName date.month ++ " " ++ String.ofList (yearText date.year) ++ " " ++
    String.ofList (clockText t.secondOfDay.toNat (if t.leap then 1 else 0)) ++ " GMT"

end Gatehouse.Time

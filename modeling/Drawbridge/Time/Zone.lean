import Drawbridge.Double
import Drawbridge.Time.Calendar

/-!
# Time zones

A zone as a line of text: a name and an offset, and where clocks change, a second name with the
dates and times at which daylight saving begins and ends. `Zone.offsetAt` is the offset of local
time in force at an instant.
-/

namespace Drawbridge.Time

/-- The `week`-th day of that weekday in a month, the last one if there is no fifth, and a number
of seconds on the clock in force before it. -/
structure Switch where
  month : Nat
  week : Nat
  weekday : Nat
  clock : Nat
  deriving DecidableEq, Repr

/-- Offsets are seconds east of UTC. -/
inductive Zone where
  | fixed (offset : Int)
  | daylight (standard summer : Int) (start stop : Switch)
  deriving DecidableEq, Repr

/-! ## Offsets -/

/-- The day of a switch in a year. -/
def Switch.day (s : Switch) (year : Int) : Int :=
  let first := monthStart year s.month
  let dayOfMonth := (s.weekday + 7 - Time.weekday first) % 7 + 7 * (s.week - 1)
  first + (if dayOfMonth < daysInMonth year s.month then dayOfMonth else dayOfMonth - 7 : Nat)

/-- The instant of a switch from clocks that show `before`. -/
def Switch.instant (s : Switch) (year before : Int) : Int := 86400 * s.day year + s.clock - before

namespace Zone

/-- The zone whose clocks show UTC. -/
def utc : Zone := fixed 0

/-- Whether summer time holds at `t`, an instant of a year, where `start` and `stop` give the
instants at which it begins and ends in a year. Those of the years beside it count where they lie
within the year. -/
def isSummer (start stop : Int → Int) (year t : Int) : Bool :=
  if start year ≤ stop year then
    if t < start year then start (year - 1) ≤ t && t < stop (year - 1)
    else t < stop year || (start (year + 1) ≤ t && t < stop (year + 1))
  else
    if t < stop year then start (year - 1) ≤ t || t < stop (year - 1)
    else start year ≤ t && (t < stop (year + 1) || start (year + 1) ≤ t)

/-- The offset at a number of seconds since 1970. -/
def offsetAt (z : Zone) (t : Int) : Int :=
  match z with
  | fixed offset => offset
  | daylight standard summer start stop =>
    let isSummer := isSummer (start.instant · standard) (stop.instant · summer)
      (yearOf (t / 86400)) t
    if isSummer then summer else standard

/-! ## Reading -/

/-- A number of digits at the head of a text. -/
def number? (cs : List Char) : Option (Nat × List Char) :=
  let digits := cs.takeWhile Char.isDigit
  if digits.isEmpty then none
  else some (digits.foldl (fun n d => 10 * n + (d.toNat - '0'.toNat)) 0, cs.dropWhile Char.isDigit)

/-- A number after a mark, if the mark is there. -/
def optional (mark : Char) (cs : List Char) : Option (Nat × List Char) :=
  match cs with
  | c :: rest => if c = mark then number? rest else some (0, cs)
  | [] => some (0, [])

/-- `h`, `h:m` or `h:m:s` in seconds, up to 24 hours. -/
def clock? (cs : List Char) : Option (Nat × List Char) := do
  let (h, cs) ← number? cs
  let (m, cs) ← optional ':' cs
  let (s, cs) ← optional ':' cs
  if h ≤ 24 && m ≤ 59 && s ≤ 59 then some (3600 * h + 60 * m + s, cs) else none

/-- An offset in seconds, west of UTC positive. -/
def west? (cs : List Char) : Option (Int × List Char) :=
  match cs with
  | '-' :: rest => (clock? rest).map fun (n, rest) => (-(n : Int), rest)
  | '+' :: rest => (clock? rest).map fun (n, rest) => ((n : Int), rest)
  | _ => (clock? cs).map fun (n, rest) => ((n : Int), rest)

/-- The text after a name of three to seven characters, which is letters, or in angle brackets also
digits and signs. -/
def afterName? (cs : List Char) : Option (List Char) :=
  let named (name rest : List Char) : Option (List Char) :=
    if 3 ≤ name.length && name.length ≤ 7 then some rest else none
  match cs with
  | '<' :: rest =>
    let name := rest.takeWhile (· ≠ '>')
    match rest.dropWhile (· ≠ '>') with
    | _ :: rest =>
      if name.all fun c => c.isAlphanum || c = '+' || c = '-' then named name rest else none
    | [] => none
  | _ => named (cs.takeWhile Char.isAlpha) (cs.dropWhile Char.isAlpha)

/-- A comma and a switch, `Mm.w.d` with the time after a slash; two o'clock if there is none. -/
def switch? (cs : List Char) : Option (Switch × List Char) :=
  match cs with
  | ',' :: 'M' :: cs => do
    let (month, cs) ← number? cs
    let (week, cs) ← optional '.' cs
    let (weekday, cs) ← match cs with
      | '.' :: cs => number? cs
      | _ => none
    let (clock, cs) ← match cs with
      | '/' :: cs => clock? cs
      | _ => some (7200, cs)
    if 1 ≤ month && month ≤ 12 && 1 ≤ week && week ≤ 5 && weekday ≤ 6 then
      some (⟨month, week, weekday, clock⟩, cs)
    else none
  | _ => none

/-- The zone that a text writes. Summer time is one hour ahead unless it has an offset. -/
def ofString? (s : String) : Option Zone := do
  let cs ← afterName? s.trimAscii.toString.toList
  let (standard, cs) ← west? cs
  if cs.isEmpty then some (fixed (-standard))
  else
    let cs ← afterName? cs
    let (summer, cs) ← match cs with
      | ',' :: _ => some (standard - 3600, cs)
      | _ => west? cs
    let (start, cs) ← switch? cs
    let (stop, cs) ← switch? cs
    if cs.isEmpty then some (daylight (-standard) (-summer) start stop) else none

/-- The zone that a text writes, UTC if it writes none. -/
def ofString (s : String) : Zone := (ofString? s).getD utc

/-! ## Instants -/

/-- The first millisecond of the year -262143, where the calendar begins. -/
def firstMilli : Int := -8334601228800000

/-- The last millisecond of the year 262142, where the calendar ends. -/
def lastMilli : Int := 8210266876799999

/-- The offset at a number of milliseconds since 1970, of which the fraction is dropped; 0 at no
instant of the calendar. -/
def offsetAtMillis (z : Zone) (x : Double) : Int :=
  if !x.isFinite then 0
  else
    let millis := x.truncate
    if millis < firstMilli || lastMilli < millis then 0
    else z.offsetAt (millis / 1000)

end Zone

end Drawbridge.Time

import ReverseReplication.Text.Blank
import ReverseReplication.Text.Decimal

/-!
# Instants

A moment in universal time, as a date and a time of day, to the nanosecond. An instant is written
by the rules of RFC 3339 (`Instant.render`) and read by laxer ones (`Instant.parse`): blanks may
stand between the parts, the year may have a sign and more digits, and the date may be followed by
a blank. A time with an offset is brought to universal time.
-/

namespace ReverseReplication

open ReverseReplication.Text (trimStart isBlank)
open ReverseReplication.Text.Decimal (isDigit digits padded value)

/-- A moment in universal time. A leap second is second 60 of its minute. -/
structure Instant where
  year : Int
  month : Nat
  day : Nat
  hour : Nat
  minute : Nat
  second : Nat
  nanosecond : Nat
  deriving DecidableEq, Repr

namespace Instant

/-- The moment that times are counted from. -/
def epoch : Instant := ⟨1970, 1, 1, 0, 0, 0, 0⟩

instance : Inhabited Instant := ⟨epoch⟩

/-! ## The calendar -/

/-- Is the year a leap year? -/
def isLeapYear (year : Int) : Bool := year % 4 = 0 && (year % 100 ≠ 0 || year % 400 = 0)

/-- The number of days of a month. -/
def monthLength (year : Int) (month : Nat) : Nat :=
  if month = 2 then (if isLeapYear year then 29 else 28)
  else if month = 4 ∨ month = 6 ∨ month = 9 ∨ month = 11 then 30
  else 31

/-- The years that have dates. -/
def yearInRange (year : Int) : Bool := -262143 ≤ year && year ≤ 262142

/-- Does the date exist? -/
def isDate (year : Int) (month day : Nat) : Bool :=
  yearInRange year && 1 ≤ month && month ≤ 12 && 1 ≤ day && day ≤ monthLength year month

/-- The day before, at the same time of day. -/
def dayBefore (t : Instant) : Instant :=
  if 1 < t.day then { t with day := t.day - 1 }
  else if 1 < t.month then
    { t with month := t.month - 1, day := monthLength t.year (t.month - 1) }
  else { t with year := t.year - 1, month := 12, day := 31 }

/-- The day after, at the same time of day. -/
def dayAfter (t : Instant) : Instant :=
  if t.day < monthLength t.year t.month then { t with day := t.day + 1 }
  else if t.month < 12 then { t with month := t.month + 1, day := 1 }
  else { t with year := t.year + 1, month := 1, day := 1 }

/-- The moment when clocks that are `offset` minutes ahead of universal time show `t`, for an
offset of less than a day. -/
def atOffset (offset : Int) (t : Instant) : Instant :=
  let minutes := 60 * (t.hour : Int) + t.minute - offset
  let ofDay := (minutes % 1440).toNat
  let t' := { t with hour := ofDay / 60, minute := ofDay % 60 }
  if minutes < 0 then t'.dayBefore else if 1440 ≤ minutes then t'.dayAfter else t'

/-! ## Writing -/

/-- A year has four digits; outside of these years it also has a sign. -/
def renderYear (year : Int) : List Char :=
  if 0 ≤ year ∧ year ≤ 9999 then padded 4 year.toNat
  else (if year < 0 then '-' else '+') :: padded 4 year.natAbs

/-- The fraction of a second, with no, three, six or nine places, as few as hold it. -/
def renderFraction (nanosecond : Nat) : List Char :=
  if nanosecond = 0 then []
  else if nanosecond % 1000000 = 0 then '.' :: padded 3 (nanosecond / 1000000)
  else if nanosecond % 1000 = 0 then '.' :: padded 6 (nanosecond / 1000)
  else '.' :: padded 9 nanosecond

/-- The instant as a text. -/
def render (t : Instant) : String :=
  String.ofList <| renderYear t.year ++ '-' :: padded 2 t.month ++ '-' :: padded 2 t.day
    ++ 'T' :: padded 2 t.hour ++ ':' :: padded 2 t.minute ++ ':' :: padded 2 t.second
    ++ renderFraction t.nanosecond ++ ['Z']

/-- The instant to the second, as it stands at the beginning of job ids. -/
def stamp (t : Instant) : String :=
  String.ofList <| renderYear t.year ++ '-' :: padded 2 t.month ++ '-' :: padded 2 t.day
    ++ '_' :: padded 2 t.hour ++ '_' :: padded 2 t.minute ++ '_' :: padded 2 t.second

/-! ## Reading -/

/-- Why a text spells no instant. -/
inductive Fault where
  | outOfRange
  | impossible
  | invalid
  | tooShort
  | tooLong
  deriving DecidableEq, Repr

def Fault.message : Fault → String
  | .outOfRange => "input is out of range"
  | .impossible => "no possible date and time matching input"
  | .invalid => "input contains invalid characters"
  | .tooShort => "premature end of input"
  | .tooLong => "trailing input"

/-- Takes a part off the front of a text. -/
abbrev Scan (α : Type) := StateT (List Char) (Except Fault) α

/-- Passes over blanks. -/
def blanks : Scan Unit := modify trimStart

/-- Takes one given character. -/
def mark (c : Char) : Scan Unit := do
  match ← get with
  | [] => throw .tooShort
  | d :: rest => if d = c then set rest else throw .invalid

/-- Takes a run of digits, of at most `width` digits where a width is given. -/
def run (width : Option Nat) : Scan (List Char) := do
  let cs ← get
  let ds := (match width with
    | some n => cs.take n
    | none => cs).takeWhile isDigit
  match cs, ds with
  | [], _ => throw .tooShort
  | _, [] => throw .invalid
  | _, _ =>
    if Int64.maxValue.toInt < value ds then throw .outOfRange
    set (cs.drop ds.length)
    pure ds

/-- Takes a number of at most `width` digits. -/
def number (width : Option Nat) : Scan Nat := value <$> run width

/-- Takes a number of at most two digits, in a range, after blanks. -/
def twoDigits (least most : Nat) : Scan Nat := do
  blanks
  let n ← number (some 2)
  if n < least ∨ most < n then throw .outOfRange
  pure n

/-- Takes a year: up to four digits, or a sign and any number of them. -/
def scanYear : Scan Int := do
  blanks
  let year : Int ← match ← get with
    | '-' :: rest => do
      set rest
      pure (-((← number none) : Int))
    | '+' :: rest => do
      set rest
      pure (← number none)
    | _ => do pure (← number (some 4))
  if year < Int32.minValue.toInt ∨ Int32.maxValue.toInt < year then throw .outOfRange
  pure year

/-- Takes a fraction of a second, if a point stands here. Places beyond the ninth are dropped. -/
def scanFraction : Scan Nat := do
  match ← get with
  | '.' :: rest =>
    set rest
    let ds ← run (some 9)
    modify (·.dropWhile isDigit)
    pure (value (ds.rightpad 9 '0'))
  | _ => pure 0

/-- Takes two digits of an offset. -/
def offsetDigits : Scan (Nat × Nat) := do
  match ← get with
  | [] => throw .tooShort
  | [c] => throw (if c.utf8Size < 2 then .tooShort else .invalid)
  | c :: d :: rest =>
    if isDigit c ∧ isDigit d then
      set rest
      pure (c.toNat - '0'.toNat, d.toNat - '0'.toNat)
    else throw .invalid

/-- Takes the offset from universal time, in minutes. -/
def scanOffset : Scan Int := do
  let cs ← get
  if (cs.take 3).map Char.toLower = ['u', 't', 'c'] then
    set (cs.drop 3)
    return 0
  match cs with
  | [] => throw .tooShort
  | c :: rest =>
    set rest
    if c = 'Z' ∨ c = 'z' then return 0
    if c ≠ '+' ∧ c ≠ '-' ∧ c ≠ '\u2212' then throw .invalid
    let (h₁, h₂) ← offsetDigits
    modify (·.dropWhile fun c => c = ':' || isBlank c)
    let (m₁, m₂) ← offsetDigits
    if 5 < m₁ then throw .outOfRange
    let minutes : Int := 60 * (10 * h₁ + h₂) + (10 * m₁ + m₂)
    pure (if c = '+' then minutes else -minutes)

/-- Takes an instant. -/
def scan : Scan Instant := do
  let year ← scanYear
  blanks
  mark '-'
  let month ← twoDigits 1 12
  blanks
  mark '-'
  let day ← twoDigits 1 31
  match ← get with
  | [] => throw .tooShort
  | c :: rest => if c = 't' ∨ c = 'T' ∨ c = ' ' then set rest else throw .invalid
  let hour ← twoDigits 0 23
  blanks
  mark ':'
  let minute ← twoDigits 0 59
  blanks
  mark ':'
  let second ← twoDigits 0 60
  let nanosecond ← scanFraction
  blanks
  let offset ← scanOffset
  if (trimStart (← get)) ≠ [] then throw .tooLong
  if !isDate year month day then throw .outOfRange
  if offset ≤ -1440 ∨ 1440 ≤ offset then throw .outOfRange
  let t := atOffset offset ⟨year, month, day, hour, minute, second, nanosecond⟩
  if !yearInRange t.year then throw .impossible
  pure t

/-- The instant that a text spells. -/
def parse (s : String) : Except Fault Instant := (scan.run s.toList).map Prod.fst

end Instant

end ReverseReplication

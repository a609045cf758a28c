import ReverseReplication.Text.Alphanumeric
import ReverseReplication.Text.Blank
import ReverseReplication.Text.Decimal
import ReverseReplication.Text.Pattern.Fault

/-!
# Log filters

A log filter is a list of directives with commas between them. A directive may name a target, a
span in brackets with a field in braces, and, after an equals sign, a level. A field may have a
value, which is a number or a pattern. Only whether a filter is well formed is of interest here
(`LogFilter.fault?`); what it lets through is up to the log.
-/

namespace ReverseReplication.LogFilter

open ReverseReplication.Text (isAlphanumeric trim)

/-- What is wrong with a filter. -/
inductive Fault where
  | directive
  | level
  /-- The value of a field is no pattern that can be used. -/
  | value (fault : Text.Pattern.Fault)
  deriving DecidableEq, Repr

def Fault.message : Fault → String
  | .directive => "invalid filter directive"
  | .level =>
    "error parsing level filter: expected one of \"off\", \"error\", \"warn\", \"info\", "
      ++ "\"debug\", \"trace\", or a number 0-5"
  | .value fault => "invalid field filter: " ++ fault.message

/-! ## Levels -/

/-- The names of the levels. -/
def levels : List String := ["off", "error", "warn", "info", "debug", "trace"]

/-- Is it a level? A level is a name, in any case, or a number. -/
def isLevel (cs : List Char) : Bool :=
  cs = [] || (Text.Decimal.unsigned? 5 cs).isSome
    || levels.contains (String.ofList (cs.map Char.toLower))

/-! ## Fields -/

/-- Is it nothing, or the exponent of a number? -/
def isExponent : List Char → Bool
  | [] => true
  | e :: cs =>
    let ds := match cs with
      | '+' :: rest | '-' :: rest => rest
      | _ => cs
    (e == 'e' || e == 'E') && !ds.isEmpty && ds.all Text.Decimal.isDigit

/-- Is it a number, maybe with a sign, a fraction and an exponent? The infinities and what is not a
number have names. -/
def isNumber (cs : List Char) : Bool :=
  let body := match cs with
    | '+' :: rest | '-' :: rest => rest
    | _ => cs
  let whole := body.takeWhile Text.Decimal.isDigit
  let (fraction, rest) := match body.drop whole.length with
    | '.' :: rest => (rest.takeWhile Text.Decimal.isDigit, rest.dropWhile Text.Decimal.isDigit)
    | rest => ([], rest)
  ["inf", "infinity", "nan"].contains (String.ofList (body.map Char.toLower))
    || (!(whole ++ fraction).isEmpty && isExponent rest)

/-- What is wrong with a field. It is a name, then maybe an equals sign and a value; what follows a
second equals sign does not count. -/
def fieldFault? (cs : List Char) : Option Text.Pattern.Fault :=
  match cs.splitOn '=' with
  | _ :: value :: _ => if isNumber value then none else Text.Pattern.fault? value
  | _ => none

/-! ## Directives -/

/-- What follows the first `n` bytes. -/
def dropBytes : Nat → List Char → List Char
  | _, [] => []
  | n, c :: cs => if n = 0 then c :: cs else dropBytes (n - c.utf8Size) cs

/-- The first `n` bytes. -/
def takeBytes : Nat → List Char → List Char
  | _, [] => []
  | n, c :: cs => if n = 0 then [] else c :: takeBytes (n - c.utf8Size) cs

/-- Which part of a directive is being read. -/
inductive Part where
  | start
  | target
  | span
  /-- In the field, which begins at the given place. -/
  | field (first : Nat)
  | afterField
  | afterSpan
  /-- In the level, which begins at the given place. -/
  | level (first : Nat)
  deriving DecidableEq, Repr

/-- Takes the character at a place of the directive `text`. -/
def step (text : List Char) (place : Nat) : Part → Char → Except Fault Part
  | .start, c =>
    if c = '[' then .ok .span
    else if c = '-' ∨ c = ':' ∨ c = '_' ∨ isAlphanumeric c then .ok .target
    else .error .directive
  | .target, c =>
    if c = '=' then .ok (.level (place + 1)) else if c = '[' then .ok .span else .ok .target
  | .span, c =>
    if c = ']' then .ok .afterSpan
    else if c = '\x7b' then .ok (.field (place + 1))
    else .ok .span
  | .field first, c =>
    if c ≠ '\x7d' then .ok (.field first)
    else if place = first then .error .directive
    else
      match fieldFault? (takeBytes (place - first) (dropBytes first text)) with
      | some fault => .error (.value fault)
      | none => .ok .afterField
  | .afterField, c => if c = ']' then .ok .afterSpan else .error .directive
  | .afterSpan, c => if c = '=' then .ok (.level (place + 1)) else .error .directive
  | .level first, _ => .ok (.level first)

/-- Reads the directive `text` from a place on. -/
def partFrom (text : List Char) : Nat → Part → List Char → Except Fault Part
  | _, part, [] => .ok part
  | place, part, c :: cs =>
    match step text place part c with
    | .ok part => partFrom text (place + c.utf8Size) part cs
    | .error fault => .error fault

/-- What is wrong with a directive. The blanks around it are passed over, but places count bytes
from the first character that is not blank, and the field and the level are taken from the whole
text. -/
def directiveFault? (cs : List Char) : Option Fault :=
  match partFrom cs 0 .start (trim cs) with
  | .error fault => some fault
  | .ok (.level first) => if isLevel (dropBytes first cs) then none else some .level
  | .ok .target | .ok .afterSpan => none
  | .ok _ => some .directive

/-- What is wrong with a filter: the fault of its first directive that has one. Nothing between two
commas is no directive. -/
def fault? (filter : String) : Option Fault :=
  ((filter.toList.splitOn ',').filter (· ≠ [])).findSome? directiveFault?

end ReverseReplication.LogFilter

import HyperEvolve.Decimal.Integer
import HyperEvolve.Text.Quoted

/-!
# Faults of a settings text
-/

namespace HyperEvolve

namespace Yaml

/-- Why a text has no value. All faults of form are one; values that have a form but no meaning are
named. -/
inductive Fault where
  | malformed
  | codePointRange
  | codePointOverflow
  | integer (base : Nat) (digits : Text)
  | integerLength (digits : Nat)
  | number (digits : Text)
  | truth (word : Text)
  | emptyNumber
  | timestamp
  | notText
  | numberRange
  | year (n : Nat)
  | month
  | day
  | hour
  | minute
  | second
  | offset (days : Int) (seconds : Nat)
deriving DecidableEq, Repr

/-- A span of time as days and seconds; seconds are named if there are any. -/
def spanText (days : Int) (seconds : Nat) : String :=
  let rest := if seconds = 0 then "" else s!", seconds={seconds}"
  s!"datetime.timedelta(days={days}" ++ rest ++ ")"

/-- How much of a text that is no integer is shown, its quotes included. -/
def shownDigits : Nat := 200

def Fault.message : Fault → Text
  | .malformed => "malformed"
  | .codePointRange => "chr() arg not in range(0x110000)"
  | .codePointOverflow => "Python int too large to convert to C int"
  | .integer base digits =>
    s!"invalid literal for int() with base {base}: " ++ digits.quoted.take shownDigits
  | .integerLength digits => Decimal.tooManyDigits digits
  | .number digits => "could not convert string to float: " ++ digits.quoted
  | .truth word => word
  | .emptyNumber => "string index out of range"
  | .timestamp => "'NoneType' object has no attribute 'groupdict'"
  | .notText => "expected string or bytes-like object, got 'list'"
  | .numberRange => "int too large to convert to float"
  | .year n => s!"year {n} is out of range"
  | .month => "month must be in 1..12"
  | .day => "day is out of range for month"
  | .hour => "hour must be in 0..23"
  | .minute => "minute must be in 0..59"
  | .second => "second must be in 0..59"
  | .offset days seconds =>
    "offset must be a timedelta strictly between -timedelta(hours=24) and timedelta(hours=24), not " ++
      spanText days seconds ++ "."

end Yaml

end HyperEvolve

import Mathlib.Data.List.Basic

/-!
# Intervals as parameters

A `Duration` becomes a number of seconds, with three decimals if there are milliseconds. The
seconds and the milliseconds are cut towards zero and written one behind the other.
-/

namespace OdbcFast.Dart

structure Duration where
  inMicroseconds : Int
  deriving DecidableEq, Repr

namespace Duration

def inMilliseconds (d : Duration) : Int := d.inMicroseconds.tdiv 1000

def inSeconds (d : Duration) : Int := d.inMicroseconds.tdiv 1000000

end Duration

/-- A value for an interval. Of anything but a `Duration` or a text only the type matters. -/
inductive IntervalValue where
  | duration (d : Duration)
  | string (s : String)
  | other (runtimeType : String)
  deriving DecidableEq, Repr

structure IntervalArgumentError where
  message : String
  deriving DecidableEq, Repr

def padLeft (width : Nat) (padding : Char) (text : String) : String :=
  String.ofList (text.toList.leftpad width padding)

def toIntervalString : IntervalValue → Except IntervalArgumentError String
  | .duration d =>
    let wholeSeconds := d.inSeconds
    let remainderMillis := (d.inMilliseconds.tmod 1000).natAbs
    if remainderMillis = 0 then .ok (toString wholeSeconds ++ " seconds")
    else
      let pad := padLeft 3 '0' (toString remainderMillis)
      .ok (toString wholeSeconds ++ "." ++ pad ++ " seconds")
  | .string s => .ok s
  | .other runtimeType =>
    .error ⟨"SqlDataType.interval expects Duration or String, " ++ s!"got {runtimeType}"⟩

end OdbcFast.Dart

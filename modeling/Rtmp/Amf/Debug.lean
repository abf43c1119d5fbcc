import Rtmp.Amf.Value
import Rtmp.Lib.Quote

/-!
AMF0 values as error texts show them: `Amf0Value.debug`, with numbers and strings in the notation of the
language.
-/

/-- The shortest digits of a finite number and their power of ten. -/
def Binary64.digits (x : Binary64) : ℕ × ℤ :=
  let unit : ℚ := 1 / 2 ^ grain
  let q := x.magnitude * unit
  let gap := 2 ^ (x.exponent - 1) * unit
  let below := if x.fraction = 0 ∧ 1 < x.exponent then gap / 4 else gap / 2
  shortestDecimal q (q - below) (q + gap / 2) (x.significand % 2 = 0) (decimalExponent 400 q) 17 1

/-- A digit string times a power of ten, with an exponent. -/
def Binary64.scientific (n : ℕ) (t : ℤ) : String :=
  let ds := n.repr.toList
  let rest := ds.drop 1
  String.ofList (ds.take 1 ++ (if rest.isEmpty then [] else '.' :: rest))
    ++ "e" ++ toString (t + rest.length)

/-- The text of a number with a fraction part, or with an exponent if it is very large or small. -/
def Binary64.debug (x : Binary64) : String :=
  let sign := if x.negative then "-" else ""
  if x.isNaN then "NaN"
  else if !x.isFinite then sign ++ "inf"
  else if x.magnitude = 0 then sign ++ "0.0"
  else
    let (n, t) := x.digits
    let q : ℚ := x.magnitude / 2 ^ grain
    if 10 ^ 16 ≤ q ∨ q < 1 / 10 ^ 4 then sign ++ scientific n t
    else if 0 ≤ t then sign ++ plainDecimal n t ++ ".0"
    else sign ++ plainDecimal n t

namespace Rtmp

namespace Amf0Value

open Quote (quote)

mutual

/-- A value as an error text shows it. -/
def debug : Amf0Value → String
  | number n => "Number(" ++ n.debug ++ ")"
  | boolean b => "Boolean(" ++ toString b ++ ")"
  | string s => "String(" ++ quote s ++ ")"
  | object ps => "Object([" ++ debugPairs ps ++ "])"
  | null => "Null"
  | undefined => "Undefined"
  | ecmaArray ps => "EcmaArray([" ++ debugPairs ps ++ "])"
  | strictArray vs => "StrictArray([" ++ debugItems vs ++ "])"
  | date millis timezone =>
      "Date \x7b millis: " ++ millis.debug ++ ", timezone: " ++ toString timezone ++ " \x7d"
  | unsupported => "Unsupported"
  | xmlDocument s => "XmlDocument(" ++ quote s ++ ")"
  | typedObject className ps =>
      "TypedObject \x7b class_name: " ++ quote className ++ ", properties: [" ++ debugPairs ps
        ++ "] \x7d"

def debugPairs : List (String × Amf0Value) → String
  | [] => ""
  | [(k, v)] => "(" ++ quote k ++ ", " ++ debug v ++ ")"
  | (k, v) :: ps => "(" ++ quote k ++ ", " ++ debug v ++ "), " ++ debugPairs ps

def debugItems : List Amf0Value → String
  | [] => ""
  | [v] => debug v
  | v :: vs => debug v ++ ", " ++ debugItems vs

end

end Amf0Value

/-- A value that may be missing, as an error text shows it. -/
def debugOption : Option Amf0Value → String
  | some v => "Some(" ++ v.debug ++ ")"
  | none => "None"

example : debugOption (some (.object [("code", .string "a\"b"), ("n", .null)]))
    = "Some(Object([(\"code\", String(\"a\\\"b\")), (\"n\", Null)]))" := by decide +kernel

end Rtmp

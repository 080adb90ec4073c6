import VirtHost.Data.Value
import VirtHost.Text.Scan

/-! # Plain scalars

A scalar without quotes stands for nothing, a truth value, a number or itself.

* `integer?`: decimal, or behind `0x`, `0o` and `0b`; digits behind a leading zero are text.
* `isFraction`: a decimal number with a point or an exponent that is not too large for 64 bits of
  floating point, or infinity, or no number.
* `resolve`: what a plain scalar stands for.
-/

namespace VirtHost.Yaml
open Text
set_option autoImplicit false

def isDigit (c : Char) : Bool :=
  decide ('0' ≤ c ∧ c ≤ '9')

/-- A text without a sign at its head. -/
def dropSign : List Char → List Char
  | '+' :: s => s
  | '-' :: s => s
  | s => s

/-- Whether a text is digits behind a superfluous leading zero. -/
def isZeroPadded (s : List Char) : Bool :=
  match dropSign s with
  | '0' :: c :: rest => (c :: rest).all isDigit
  | _ => false

/-! ## Integers -/

def unsigned? (base : Nat) (s : List Char) : Option Nat :=
  match s with
  | '+' :: _ => none
  | s => readNumeral? base (Nat.pow 2 128) s

/-- A number with its base in front, or in decimal. -/
def magnitude? (s : List Char) : Option Nat :=
  match s with
  | '0' :: 'x' :: digits => unsigned? 16 digits
  | '0' :: 'o' :: digits => unsigned? 8 digits
  | '0' :: 'b' :: digits => unsigned? 2 digits
  | s => unsigned? 10 s

def integer? (s : List Char) : Option Int :=
  if isZeroPadded s then none
  else
    let value :=
      match s with
      | '+' :: rest => (magnitude? rest).map Int.ofNat
      | '-' :: rest => (magnitude? rest).map fun n => -Int.ofNat n
      | s => (magnitude? s).map Int.ofNat
    value.filter fun n => -Int.ofNat (Nat.pow 2 127) ≤ n ∧ n < Int.ofNat (Nat.pow 2 128)

/-! ## Fractions -/

/-- The largest sum of two powers of two above which a number counts as infinite. -/
def infiniteFrom : Nat :=
  Nat.pow 2 1024 - Nat.pow 2 970

/-- Whether `m * 10 ^ e` is small enough to be told from infinity. -/
def isFinite (m : Nat) (e : Int) : Bool :=
  let digits := (digitsOf 10 m).length
  if m = 0 then true
  else if (digits : Int) + e ≤ 308 then true
  else if 309 < (digits : Int) + e then false
  else
    match e with
    | .ofNat n => decide (m * Nat.pow 10 n < infiniteFrom)
    | .negSucc n => decide (m < infiniteFrom * Nat.pow 10 (n + 1))

/-- The number that digits denote, of which there may be none. -/
def digitsValue (s : List Char) : Nat :=
  s.foldl (fun n c => n * 10 + (c.toNat - '0'.toNat)) 0

/-- The exponent behind the letter `e`, or zero. -/
def exponent? (s : List Char) : Option Int :=
  match s with
  | [] => some 0
  | c :: rest =>
    if c = 'e' ∨ c = 'E' then
      let digits := dropSign rest
      if digits ≠ [] ∧ digits.all isDigit then
        some (if rest.head? = some '-' then -Int.ofNat (digitsValue digits)
          else Int.ofNat (digitsValue digits))
      else none
    else none

/-- Whether a text is a finite decimal number with an optional sign. -/
def isDecimal (s : List Char) : Bool :=
  let s := dropSign s
  let whole := s.takeWhile isDigit
  let afterWhole := s.dropWhile isDigit
  let places :=
    match afterWhole with
    | '.' :: rest => rest.takeWhile isDigit
    | _ => []
  let afterPlaces :=
    match afterWhole with
    | '.' :: rest => rest.dropWhile isDigit
    | rest => rest
  if whole = [] ∧ places = [] then false
  else
    match exponent? afterPlaces with
    | some e => isFinite (digitsValue (whole ++ places)) (e - places.length)
    | none => false

/-- The spellings of infinity and of no number. -/
def specialFractions : List String :=
  [".inf", ".Inf", ".INF", "+.inf", "+.Inf", "+.INF", "-.inf", "-.Inf", "-.INF", ".nan", ".NaN",
   ".NAN"]

/-- Whether a text denotes a number that is not an integer. -/
def isFraction (s : String) : Bool :=
  specialFractions.contains s || (!isZeroPadded s.toList && isDecimal s.toList)

/-! ## All plain scalars -/

def nullSpellings : List String :=
  ["", "~", "null", "Null", "NULL"]

def flag? (s : String) : Option Bool :=
  if s = "true" ∨ s = "True" ∨ s = "TRUE" then some true
  else if s = "false" ∨ s = "False" ∨ s = "FALSE" then some false
  else none

def resolve (s : String) : Data.Scalar :=
  if nullSpellings.contains s then .null
  else
    match flag? s with
    | some b => .flag b
    | none =>
      match integer? s.toList with
      | some n => .integer n
      | none => if isFraction s then .fraction else .text s

/-- Whether a text, written plain, would not be read back as it is. -/
def needsQuotes (s : String) : Bool :=
  resolve s != .text s || isZeroPadded s.toList

end VirtHost.Yaml

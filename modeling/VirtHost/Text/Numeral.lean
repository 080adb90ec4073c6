/-! # Numerals

* `digitsOf`: the digits of a number in a base, without leading zeros; `decimal`, `hexadecimal`.
* `readNumeral`: a number read from digits with an optional plus sign, at most a given limit. Any
  number of leading zeros is accepted.
* `NumeralError`: why a text is no such number. The first offending character decides.
* `uuidOf`: numbered UUIDs, for hosts that give them out in order.
-/

namespace VirtHost.Text
set_option autoImplicit false

/-! ## Writing -/

/-- The digit with value `n`, in lower case above nine. -/
def digitChar (n : Nat) : Char :=
  if n < 10 then Char.ofNat (0x30 + n) else Char.ofNat (0x57 + n)

def digitsOf (base n : Nat) : List Char :=
  if _h : 2 ≤ base ∧ base ≤ n then digitsOf base (n / base) ++ [digitChar (n % base)]
  else [digitChar n]
termination_by n
decreasing_by exact Nat.div_lt_self (by omega) (by omega)

/-- The text filled up with zeros at its head to `width` characters. -/
def zeroFill (width : Nat) (s : List Char) : List Char :=
  List.replicate (width - s.length) '0' ++ s

def decimal (n : Nat) : String :=
  String.ofList (digitsOf 10 n)

def signedDecimal : Int → String
  | .ofNat n => decimal n
  | .negSucc n => "-" ++ decimal (n + 1)

def hexadecimal (width n : Nat) : List Char :=
  zeroFill width (digitsOf 16 n)

/-! ## Reading -/

inductive NumeralError
  | empty
  | invalidDigit
  | tooLarge
  deriving DecidableEq

def NumeralError.message : NumeralError → String
  | .empty => "cannot parse integer from empty string"
  | .invalidDigit => "invalid digit found in string"
  | .tooLarge => "number too large to fit in target type"

/-- The value of a digit of either case in base `base`. -/
def digitValue? (base : Nat) (c : Char) : Option Nat :=
  let n := c.toNat
  let value :=
    if 0x30 ≤ n ∧ n ≤ 0x39 then n - 0x30
    else if 0x41 ≤ n ∧ n ≤ 0x5a then n - 0x37
    else if 0x61 ≤ n ∧ n ≤ 0x7a then n - 0x57
    else base
  if value < base then some value else none

/-- Appends the digits of a text to the number `acc`, none of the results above `limit`. -/
def readDigits (base limit acc : Nat) : List Char → Except NumeralError Nat
  | [] => .ok acc
  | c :: rest =>
    match digitValue? base c with
    | none => .error .invalidDigit
    | some d =>
      if acc * base + d ≤ limit then readDigits base limit (acc * base + d) rest
      else .error .tooLarge

/-- The number up to `limit` that a text denotes in base `base`. -/
def readNumeral (base limit : Nat) : List Char → Except NumeralError Nat
  | [] => .error .empty
  | ['+'] => .error .invalidDigit
  | '+' :: rest => readDigits base limit 0 rest
  | s => readDigits base limit 0 s

def readNumeral? (base limit : Nat) (s : List Char) : Option Nat :=
  (readNumeral base limit s).toOption

/-- The largest number of 8, 16, 32 and 64 bits. -/
def limit8 : Nat := 0xff

@[inherit_doc limit8]
def limit16 : Nat := 0xffff

@[inherit_doc limit8]
def limit32 : Nat := 0xffffffff

@[inherit_doc limit8]
def limit64 : Nat := 0xffffffffffffffff

end VirtHost.Text

namespace VirtHost
set_option autoImplicit false

def uuidOf (n : Nat) : String :=
  "9d2f61c4-7be0-4f35-a" ++ String.ofList (Text.hexadecimal 3 (n / Nat.pow 16 12))
    ++ "-" ++ String.ofList (Text.hexadecimal 12 (n % Nat.pow 16 12))

end VirtHost

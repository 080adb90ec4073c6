import VirtHost.Text.Numeral

/-! # Durations

A duration is a whole number of milliseconds. The clock is idealised: there is no largest time and
nothing is lost below a millisecond. `Duration.text` writes it in its largest fitting unit:
seconds with up to three decimal places and no trailing zeros, else milliseconds, and nothing as
`0ns`.
-/

namespace VirtHost
set_option autoImplicit false

structure Duration where
  millis : Nat
  deriving DecidableEq

namespace Duration

def ofSeconds (s : Nat) : Duration :=
  ⟨s * 1000⟩

/-- The decimal places of a number of thousandths below one, without trailing zeros. -/
def places (thousandths : Nat) : List Char :=
  ((Text.zeroFill 3 (Text.digitsOf 10 thousandths)).reverse.dropWhile (· = '0')).reverse

def text (d : Duration) : String :=
  if d.millis = 0 then "0ns"
  else if d.millis < 1000 then Text.decimal d.millis ++ "ms"
  else if d.millis % 1000 = 0 then Text.decimal (d.millis / 1000) ++ "s"
  else Text.decimal (d.millis / 1000) ++ "." ++ String.ofList (places (d.millis % 1000)) ++ "s"

end Duration
end VirtHost

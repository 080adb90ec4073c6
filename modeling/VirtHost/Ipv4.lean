import VirtHost.Text.Numeral

/-! # IPv4 addresses

* `Ipv4.read?`: four decimal numbers up to 255 between points, without signs and leading zeros.
* `Ipv4.text`: the same form.
* `Ipv4.isLocal`: loopback and link-local addresses, which no other host can reach.
-/

namespace VirtHost
set_option autoImplicit false

structure Ipv4 where
  first : UInt8
  second : UInt8
  third : UInt8
  fourth : UInt8
  deriving DecidableEq

namespace Ipv4

def text (ip : Ipv4) : String :=
  Text.decimal ip.first.toNat ++ "." ++ Text.decimal ip.second.toNat ++ "."
    ++ Text.decimal ip.third.toNat ++ "." ++ Text.decimal ip.fourth.toNat

/-- One number of a dotted form: one to three digits, without a leading zero unless it is zero. -/
def octet? (s : List Char) : Option UInt8 :=
  match s with
  | [] => none
  | '+' :: _ => none
  | '0' :: _ :: _ => none
  | _ => (Text.readNumeral? 10 Text.limit8 s).map UInt8.ofNat

def read? (s : List Char) : Option Ipv4 :=
  match s.splitOn '.' with
  | [a, b, c, d] => do
    let a ← octet? a
    let b ← octet? b
    let c ← octet? c
    let d ← octet? d
    pure ⟨a, b, c, d⟩
  | _ => none

def isLocal (ip : Ipv4) : Bool :=
  ip.first = 127 || (ip.first = 169 && ip.second = 254)

end Ipv4
end VirtHost

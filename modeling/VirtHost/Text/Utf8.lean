/-! # UTF-8

* `encode`: the octets of a text.
* `decode`: the characters of a sequence of octets. An ill-formed part gives no character; the longest
  head of a well-formed sequence counts as one part.
* `decodeStrict`, `decodeLossy`: the text of well-formed octets only, or of any octets with U+FFFD in
  place of each ill-formed part.
-/

namespace VirtHost.Text.Utf8
set_option autoImplicit false

def encode (s : String) : List UInt8 :=
  s.toUTF8.toList

/-- What the first octet of a longer sequence tells: its share of the value, the range of the second
octet and the number of octets that follow. -/
structure Lead where
  share : Nat
  least : UInt8
  most : UInt8
  more : Nat

def lead? (b : UInt8) : Option Lead :=
  let n := b.toNat
  if 0xc2 ≤ n ∧ n ≤ 0xdf then some ⟨n - 0xc0, 0x80, 0xbf, 1⟩
  else if n = 0xe0 then some ⟨0, 0xa0, 0xbf, 2⟩
  else if n = 0xed then some ⟨0xd, 0x80, 0x9f, 2⟩
  else if 0xe1 ≤ n ∧ n ≤ 0xef then some ⟨n - 0xe0, 0x80, 0xbf, 2⟩
  else if n = 0xf0 then some ⟨0, 0x90, 0xbf, 3⟩
  else if n = 0xf4 then some ⟨4, 0x80, 0x8f, 3⟩
  else if 0xf1 ≤ n ∧ n ≤ 0xf3 then some ⟨n - 0xf0, 0x80, 0xbf, 3⟩
  else none

/-- Reads `more` further octets of a sequence, the first of them between two limits; gives the
character, if they are all there, and the rest. -/
def follow (value : Nat) (least most : UInt8) : Nat → List UInt8 → Option Char × List UInt8
  | 0, rest => (some (Char.ofNat value), rest)
  | _ + 1, [] => (none, [])
  | more + 1, b :: rest =>
    if least ≤ b ∧ b ≤ most then follow (value * 64 + b.toNat % 64) 0x80 0xbf more rest
    else (none, b :: rest)

theorem follow_length (value : Nat) (least most : UInt8) (more : Nat) (s : List UInt8) :
    (follow value least most more s).2.length ≤ s.length := by
  induction more generalizing value least most s with
  | zero => simp [follow]
  | succ more ih =>
    cases s with
    | nil => simp [follow]
    | cons b rest =>
      unfold follow
      split
      · exact Nat.le_trans (ih _ _ _ _) (Nat.le_succ _)
      · exact Nat.le_refl _

/-- The character that begins with octet `b`, if it is well-formed, and the rest. -/
def decodeOne (b : UInt8) (rest : List UInt8) : Option Char × List UInt8 :=
  if b < 0x80 then (some (Char.ofNat b.toNat), rest)
  else
    match lead? b with
    | some l => follow l.share l.least l.most l.more rest
    | none => (none, rest)

theorem decodeOne_length (b : UInt8) (rest : List UInt8) :
    (decodeOne b rest).2.length ≤ rest.length := by
  unfold decodeOne
  split
  · exact Nat.le_refl _
  · split
    · exact follow_length _ _ _ _ _
    · exact Nat.le_refl _

def decode : List UInt8 → List (Option Char)
  | [] => []
  | b :: rest => (decodeOne b rest).1 :: decode (decodeOne b rest).2
termination_by s => s.length
decreasing_by exact Nat.lt_succ_of_le (decodeOne_length b rest)

def decodeStrict (bytes : List UInt8) : Option String :=
  ((decode bytes).mapM id).map String.ofList

/-- The text of any octets, with U+FFFD in place of what is ill-formed. -/
def decodeLossy (bytes : List UInt8) : String :=
  String.ofList ((decode bytes).map fun c => c.getD '\ufffd')

end VirtHost.Text.Utf8

import VirtHost.Text.LetterCase

/-! # Lowercase texts

`lowercase` maps every character to its lowercase form. Two characters need more than the simple
mapping: the dotted capital I becomes two characters, and a capital sigma is written in its final
form where a letter precedes it and none follows.
-/

namespace VirtHost.Text
set_option autoImplicit false

def LowerRun.covers (run : LowerRun) (n : Nat) : Bool :=
  decide (run.first ≤ n) && decide (n ≤ run.last) && decide ((n - run.first) % run.step = 0)

def lowerChar (c : Char) : Char :=
  match lowerRuns.find? (·.covers c.toNat) with
  | some run => Char.ofNat (Int.toNat ((c.toNat : Int) + run.shift))
  | none => c

/-- Whether the first character that is not skipped is a letter with a case. -/
def startsCased (s : List Char) : Bool :=
  match s.dropWhile isCaseIgnorable with
  | [] => false
  | c :: _ => isCased c

/-- The lowercase form of a capital sigma between the texts `before` (nearest first) and `after`. -/
def lowerSigma (before after : List Char) : Char :=
  if startsCased before && !startsCased after then 'ς' else 'σ'

def lowerAt (before : List Char) (c : Char) (after : List Char) : List Char :=
  if c = 'Σ' then [lowerSigma before after]
  else if c = 'İ' then ['i', '\u0307']
  else [lowerChar c]

/-- The lowercase form of a text whose already read part is `before`, nearest character first. -/
def lowercaseAfter (before : List Char) : List Char → List Char
  | [] => []
  | c :: rest => lowerAt before c rest ++ lowercaseAfter (c :: before) rest

def lowercase (s : List Char) : List Char :=
  lowercaseAfter [] s

def lower (s : String) : String :=
  String.ofList (lowercase s.toList)

end VirtHost.Text

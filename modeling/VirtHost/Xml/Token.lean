import VirtHost.Text.Scan
import VirtHost.Xml.Attribute

/-! # Tags

`Token.ofText?` reads the tags of a text, in order. Text between tags, comments, character data,
processing instructions and document types are passed over. Malformed markup has no result.

The end of the text also ends an end tag or a processing instruction, and a `<` with nothing after
it is passed over; any other markup must be complete.
-/

namespace VirtHost.Xml
open Text
set_option autoImplicit false

inductive Token
  | start (name : String) (attributes : List (String × String))
  /-- An element without content. -/
  | empty (name : String) (attributes : List (String × String))
  | finish (name : String)
  deriving DecidableEq

namespace Token

/-! ## Cutting -/

/-- The text before the first `stop` and the text after it. -/
def cut (stop : Char) (s : List Char) : List Char × List Char :=
  (s.takeWhile (· != stop), (s.dropWhile (· != stop)).drop 1)

/-- The text after the first occurrence of `mark`. -/
def after? (mark : List Char) : List Char → Option (List Char)
  | [] => none
  | c :: rest => (dropHead? mark (c :: rest)).or (after? mark rest)

/-- The text after the `>` that ends a document type, with `depth` brackets open. -/
def afterDoctype? : Nat → List Char → Option (List Char)
  | _, [] => none
  | depth, c :: rest =>
    if c = '<' then afterDoctype? (depth + 1) rest
    else if c = '>' then
      match depth with
      | 0 => some rest
      | depth + 1 => afterDoctype? depth rest
    else afterDoctype? depth rest

/-- The inside of a tag up to the first `>` outside quotes, and the text after it; `quote` is the
quote that is open. -/
def cutTag? : Option Char → List Char → Option (List Char × List Char)
  | _, [] => none
  | none, c :: rest =>
    if c = '>' then some ([], rest)
    else
      (cutTag? (if c = '"' ∨ c = '\'' then some c else none) rest).map fun p => (c :: p.1, p.2)
  | some quote, c :: rest =>
    (cutTag? (if c = quote then none else some quote) rest).map fun p => (c :: p.1, p.2)

/-! ## Tags -/

/-- The tag with a given inside, which ends in a slash for an element without content. -/
def ofInside? (inside : List Char) : Option Token :=
  let closed := inside.getLast? = some '/'
  let body := if closed then inside.dropLast else inside
  let name := String.ofList (body.takeWhile fun c => !isMarkupBlank c)
  (attributes? (body.dropWhile fun c => !isMarkupBlank c)).map fun attributes =>
    if closed then empty name attributes else start name attributes

/-- The name of an end tag, without the blanks after it. -/
def endName (inside : List Char) : List Char :=
  if inside.all isMarkupBlank then inside
  else (inside.reverse.dropWhile isMarkupBlank).reverse

def asciiUpper (s : List Char) : List Char :=
  s.map Char.toUpper

/-- The text after a comment, character data or a document type, given the text after `<!`. -/
def afterBang? : List Char → Option (List Char)
  | '-' :: rest => dropHead? ['-'] rest >>= after? "-->".toList
  | '[' :: rest =>
    if asciiUpper (rest.take 6) = "CDATA[".toList then after? "]]>".toList (rest.drop 6) else none
  | rest =>
    if asciiUpper (rest.take 7) = "DOCTYPE".toList
        ∧ ((rest.drop 7).dropWhile isMarkupBlank).head?.any (· != '>') then
      afterDoctype? 0 (rest.drop 7)
    else none

/-- Whether the inside of a processing instruction is complete: it ends in a question mark of its
own. -/
def isInstruction (inside : List Char) : Bool :=
  inside.getLast? = some '?'

/-- What stands after a `<`: a tag or something passed over, and the text after it. -/
def markup? : List Char → Option (Option Token × List Char)
  | [] => some (none, [])
  | '!' :: rest => (afterBang? rest).map fun after => (none, after)
  | '/' :: rest =>
    let p := cut '>' rest
    some (some (finish (String.ofList (endName p.1))), p.2)
  | '?' :: rest =>
    let p := cut '>' rest
    if isInstruction p.1 then some (none, p.2) else none
  | rest => do
    let (inside, after) ← cutTag? none rest
    let token ← ofInside? inside
    pure (some token, after)

/-! ## Lengths -/

theorem length_cut (stop : Char) (s : List Char) : (cut stop s).2.length ≤ s.length := by
  have := (List.dropWhile_sublist (· != stop) (l := s)).length_le
  simp only [cut, List.length_drop]
  omega

theorem length_dropHead? {head s rest : List Char} (h : dropHead? head s = some rest) :
    rest.length ≤ s.length := by
  induction head generalizing s with
  | nil => simp only [dropHead?, Option.some.injEq] at h; simp [h]
  | cons c head ih =>
    cases s with
    | nil => simp [dropHead?] at h
    | cons d s =>
      simp only [dropHead?] at h
      split at h
      · have := ih h
        simp only [List.length_cons]
        omega
      · cases h

theorem length_after? {mark s rest : List Char} (h : after? mark s = some rest) :
    rest.length ≤ s.length := by
  induction s with
  | nil => cases h
  | cons c s ih =>
    simp only [after?, Option.or_eq_some_iff] at h
    rcases h with h | ⟨_, h⟩
    · exact length_dropHead? h
    · have := ih h
      simp only [List.length_cons]
      omega

theorem length_afterDoctype? {depth : Nat} {s rest : List Char}
    (h : afterDoctype? depth s = some rest) : rest.length ≤ s.length := by
  induction s generalizing depth with
  | nil => cases h
  | cons c s ih =>
    simp only [afterDoctype?] at h
    simp only [List.length_cons]
    split at h
    · have := ih h; omega
    · split at h
      · split at h
        · injection h with h; subst h; omega
        · have := ih h; omega
      · have := ih h; omega

theorem length_cutTag? {quote : Option Char} {s inside rest : List Char}
    (h : cutTag? quote s = some (inside, rest)) : rest.length ≤ s.length := by
  induction s generalizing quote inside rest with
  | nil => cases quote <;> cases h
  | cons c s ih =>
    simp only [List.length_cons]
    cases quote with
    | none =>
      simp only [cutTag?] at h
      split at h
      · simp only [Option.some.injEq, Prod.mk.injEq] at h
        rw [← h.2]; omega
      · obtain ⟨⟨inner, after⟩, hp, e⟩ := Option.map_eq_some_iff.1 h
        simp only [Prod.mk.injEq] at e
        rw [← e.2]
        exact Nat.le_succ_of_le (ih hp)
    | some q =>
      simp only [cutTag?] at h
      obtain ⟨⟨inner, after⟩, hp, e⟩ := Option.map_eq_some_iff.1 h
      simp only [Prod.mk.injEq] at e
      rw [← e.2]
      exact Nat.le_succ_of_le (ih hp)

theorem length_afterBang? {s rest : List Char} (h : afterBang? s = some rest) :
    rest.length ≤ s.length := by
  unfold afterBang? at h
  split at h
  · obtain ⟨r, hr, h⟩ := Option.bind_eq_some_iff.1 h
    have h1 := length_dropHead? hr
    have h2 := length_after? h
    simp only [List.length_cons]
    omega
  · split at h
    · have := length_after? h
      simp only [List.length_drop] at this
      simp only [List.length_cons]
      omega
    · cases h
  · split at h
    · have := length_afterDoctype? h
      simp only [List.length_drop] at this
      omega
    · cases h

/-- Reading markup never lengthens the text. -/
theorem length_markup? {s rest : List Char} {token : Option Token}
    (h : markup? s = some (token, rest)) : rest.length ≤ s.length := by
  unfold markup? at h
  split at h
  · simp only [Option.some.injEq, Prod.mk.injEq] at h
    simp [← h.2]
  · obtain ⟨r, hr, h⟩ := Option.map_eq_some_iff.1 h
    simp only [Prod.mk.injEq] at h
    have := length_afterBang? hr
    simp only [List.length_cons, ← h.2]
    omega
  · next rest' =>
    simp only [Option.some.injEq, Prod.mk.injEq] at h
    have := length_cut '>' rest'
    simp only [List.length_cons, ← h.2]
    omega
  · next rest' =>
    have := length_cut '>' rest'
    simp only at h
    split at h
    · simp only [Option.some.injEq, Prod.mk.injEq] at h
      simp only [List.length_cons, ← h.2]
      omega
    · cases h
  · obtain ⟨p, hp, h⟩ := Option.bind_eq_some_iff.1 h
    obtain ⟨t, _, h⟩ := Option.bind_eq_some_iff.1 h
    simp only [pure, Option.some.injEq, Prod.mk.injEq] at h
    rw [← h.2]
    exact length_cutTag? hp

/-! ## The tags of a text -/

/-- The text after the first `<`. -/
def afterOpen? (s : List Char) : Option (List Char) :=
  match s.dropWhile (· != '<') with
  | [] => none
  | _ :: rest => some rest

theorem length_afterOpen? {s rest : List Char} (h : afterOpen? s = some rest) :
    rest.length < s.length := by
  unfold afterOpen? at h
  split at h
  · cases h
  · next heq =>
    injection h with h
    subst h
    have := (List.dropWhile_sublist (· != '<') (l := s)).length_le
    rw [heq, List.length_cons] at this
    omega

/-- The tags of a text, in order. -/
def ofText? (s : List Char) : Option (List Token) :=
  match _ho : afterOpen? s with
  | none => some []
  | some inside =>
    match _hm : markup? inside with
    | none => none
    | some (token, rest) => (ofText? rest).map (token.toList ++ ·)
termination_by s.length
decreasing_by
  have h1 := length_afterOpen? _ho
  have h2 := length_markup? _hm
  omega

end Token
end VirtHost.Xml

import VirtHost.Text.Scan

/-! # Scripts

What the shell of a simulated machine can run, and how it is written.

* `Word`, `Redirection`, `Script`: commands, pipelines, lists of commands and groups of them.
* `Token.read?`: the tokens of a text.
* `Script.read`: the script in a text.

There are no substitutions of commands, no patterns for names of files and no loops.
-/

namespace VirtHost.Machine
set_option autoImplicit false

/-! ## Scripts -/

/-- A part of a word. -/
inductive Piece
  | text (s : List Char)
  /-- The value of a variable. Between double quotes it is not split into words. -/
  | parameter (name : String) (quoted : Bool)
  deriving DecidableEq

abbrev Word :=
  List Piece

/-- Where a command reads from or writes to. -/
inductive Redirection
  | input (file : Word)
  | output (descriptor : Nat) (file : Word) (append : Bool)
  /-- One descriptor becomes the same as another one. -/
  | same (descriptor source : Nat)
  deriving DecidableEq

/-- A script. -/
inductive Script
  | nothing
  | simple (assignments : List (String × Word)) (words : List Word)
      (redirections : List Redirection)
  | group (body : Script) (redirections : List Redirection)
  /-- What happens to variables stays inside, and so does the end of the shell. -/
  | subshell (body : Script) (redirections : List Redirection)
  | pipe (first second : Script)
  /-- The second one follows if the first one succeeds. -/
  | both (first second : Script)
  /-- The second one follows if the first one fails. -/
  | either (first second : Script)
  | negated (body : Script)
  | sequence (first second : Script)

/-! ## Words -/

def isNameChar (c : Char) : Bool :=
  c.isAlphanum || c = '_'

/-- The name of a variable at the head of a text, and what follows it. -/
def variableName? (s : List Char) : Option (String × List Char) :=
  match s with
  | '\x7b' :: rest =>
    (Text.splitOnce '\x7d' rest).bind fun p =>
      if p.1 ≠ [] ∧ (p.1.all isNameChar ∨ p.1.length = 1) then some (String.ofList p.1, p.2)
      else none
  | c :: rest =>
    if ['$', '?', '#', '@', '*', '!', '-'].contains c || c.isDigit then
      some (String.singleton c, rest)
    else if isNameChar c then
      some (String.ofList ((c :: rest).takeWhile isNameChar), rest.dropWhile isNameChar)
    else none
  | [] => none

def endsWord (c : Char) : Bool :=
  [' ', '\t', '\n', ';', '&', '|', '<', '>', '(', ')'].contains c

/-- Whether a backslash between double quotes takes the meaning from a character. -/
def losesMeaning (c : Char) : Bool :=
  c = '$' || c = '\x60' || c = '"' || c = '\\'

/-- Reads the pieces up to the end of a word or, between double quotes, up to the closing one. The
first argument bounds the number of steps. -/
def pieces? : Nat → (quoted : Bool) → List Char → Option (Word × List Char)
  | 0, _, _ => none
  | _ + 1, quoted, [] => if quoted then none else some ([], [])
  | fuel + 1, quoted, c :: rest =>
    let behind (before : Word) (s : List Char) : Option (Word × List Char) :=
      (pieces? fuel quoted s).map fun p => (before ++ p.1, p.2)
    if c = '$' then
      match variableName? rest with
      | some (name, after) => behind [.parameter name quoted] after
      | none => if rest.head? = some '(' then none else behind [.text [c]] rest
    else if c = '\x60' then none
    else if c = '\\' then
      match rest with
      | '\n' :: after => behind [] after
      | d :: after =>
        behind [.text (if quoted && !losesMeaning d then [c, d] else [d])] after
      | [] => behind [.text [c]] []
    else if c = '"' then
      if quoted then some ([], rest)
      else do
        let (inside, after) ← pieces? fuel true rest
        behind (.text [] :: inside) after
    else if quoted then behind [.text [c]] rest
    else if c = '\'' then (Text.splitOnce '\'' rest).bind fun p => behind [.text p.1] p.2
    else if endsWord c then some ([], c :: rest)
    else behind [.text [c]] rest

/-! ## Tokens -/

/-- A token. What a word looks like tells whether it is a reserved one. -/
inductive Token
  | word (spelling : List Char) (content : Word)
  | sign (s : String)
  | redirection (descriptor : Option Nat) (s : String)
  deriving DecidableEq

namespace Token

/-- The signs between commands, longer ones first. -/
def signs : List String :=
  ["&&", "||", ";", "&", "|", "(", ")", "\n"]

/-- The signs in front of the name of a file or of a descriptor, longer ones first. -/
def arrows : List String :=
  [">>", ">&", ">|", "<&", "<", ">"]

/-- The first of some texts with which a text begins, and what follows it. -/
def firstOf? (heads : List String) (s : List Char) : Option (String × List Char) :=
  heads.findSome? fun h => (Text.dropHead? h.toList s).map fun rest => (h, rest)

/-- The descriptor and the sign of a redirection at the head of a text. -/
def redirection? (s : List Char) : Option (Token × List Char) :=
  match s with
  | d :: rest =>
    if d.isDigit then
      (firstOf? arrows rest).map fun p => (.redirection (some (d.toNat - '0'.toNat)) p.1, p.2)
    else (firstOf? arrows s).map fun p => (.redirection none p.1, p.2)
  | [] => none

/-- The tokens of a text. The first argument bounds their number. -/
def read? : Nat → List Char → Option (List Token)
  | 0, _ => none
  | _ + 1, [] => some []
  | fuel + 1, c :: rest =>
    if c = ' ' ∨ c = '\t' then read? fuel rest
    else if c = '#' then read? fuel (rest.dropWhile (· != '\n'))
    else if c = '\\' ∧ rest.head? = some '\n' then read? fuel rest.tail
    else
      match redirection? (c :: rest) with
      | some (token, after) => (read? fuel after).map (token :: ·)
      | none =>
        match firstOf? signs (c :: rest) with
        | some (mark, after) => (read? fuel after).map (.sign mark :: ·)
        | none => do
          let (content, after) ← pieces? (2 * rest.length + 4) false (c :: rest)
          let spelling := (c :: rest).take (rest.length + 1 - after.length)
          let more ← read? fuel after
          some (.word spelling content :: more)

end Token

/-! ## Grammar -/

/-- Why a text is no script. -/
inductive ScriptError
  | openQuote
  | unexpected (token : String)
  | unexpectedEnd
  deriving DecidableEq

def ScriptError.message : ScriptError → String
  | .openQuote => "Syntax error: Unterminated quoted string"
  | .unexpected token => "Syntax error: \"" ++ token ++ "\" unexpected"
  | .unexpectedEnd => "Syntax error: end of file unexpected"

namespace Script

/-- The error of tokens that cannot go on. -/
def unexpected {α : Type} : List Token → Except ScriptError α
  | [] => .error .unexpectedEnd
  | .word spelling _ :: _ => .error (.unexpected (String.ofList spelling))
  | .sign s :: _ => .error (.unexpected s)
  | .redirection _ s :: _ => .error (.unexpected s)

/-- The name and the value of an assignment. -/
def assignment? (spelling : List Char) (content : Word) : Option (String × Word) :=
  let name := spelling.takeWhile isNameChar
  if name ≠ [] ∧ !(name.head?.map Char.isDigit).getD true
      ∧ (spelling.drop name.length).head? = some '=' then
    some (String.ofList name, content.drop (name.length + 1))
  else none

/-- The redirection of a sign and the word behind it. -/
def redirectionOf? (descriptor : Option Nat) (sign : String) (spelling : List Char)
    (content : Word) : Option Redirection :=
  if sign = "<" then some (.input content)
  else if sign = ">&" ∨ sign = "<&" then
    match spelling with
    | [d] =>
      if d.isDigit then
        some (.same (descriptor.getD (if sign = ">&" then 1 else 0)) (d.toNat - '0'.toNat))
      else none
    | _ => none
  else some (.output (descriptor.getD 1) content (sign = ">>"))

/-- Reads the words and redirections of a command. -/
def simpleFrom (assignments : List (String × Word)) (words : List Word)
    (redirections : List Redirection) : List Token → Except ScriptError (Script × List Token)
  | .redirection descriptor sign :: .word spelling content :: rest =>
    match redirectionOf? descriptor sign spelling content with
    | some r => simpleFrom assignments words (redirections ++ [r]) rest
    | none => .error (.unexpected (String.ofList spelling))
  | .redirection _ _ :: rest => unexpected rest
  | .word spelling content :: rest =>
    match words, assignment? spelling content with
    | [], some a => simpleFrom (assignments ++ [a]) words redirections rest
    | _, _ => simpleFrom assignments (words ++ [content]) redirections rest
  | rest =>
    if assignments = [] ∧ words = [] ∧ redirections = [] then unexpected rest
    else .ok (.simple assignments words redirections, rest)

/-- Reads the redirections behind a group. -/
def redirectionsFrom (redirections : List Redirection) :
    List Token → Except ScriptError (List Redirection × List Token)
  | .redirection descriptor sign :: .word spelling content :: rest =>
    match redirectionOf? descriptor sign spelling content with
    | some r => redirectionsFrom (redirections ++ [r]) rest
    | none => .error (.unexpected (String.ofList spelling))
  | .redirection _ _ :: rest => unexpected rest
  | rest => .ok (redirections, rest)

/-- The tokens without line breaks at their head. -/
def dropBreaks (tokens : List Token) : List Token :=
  tokens.dropWhile (· = .sign "\n")

mutual

def command : Nat → List Token → Except ScriptError (Script × List Token)
  | 0, tokens => unexpected tokens
  | fuel + 1, tokens =>
    match tokens with
    | .sign "(" :: rest => do
      let (body, rest) ← list fuel rest
      match rest with
      | .sign ")" :: rest =>
        let (redirections, rest) ← redirectionsFrom [] rest
        .ok (.subshell body redirections, rest)
      | rest => unexpected rest
    | .word ['\x7b'] _ :: rest => do
      let (body, rest) ← list fuel rest
      match rest with
      | .word ['\x7d'] _ :: rest =>
        let (redirections, rest) ← redirectionsFrom [] rest
        .ok (.group body redirections, rest)
      | rest => unexpected rest
    | .word ['\x7d'] _ :: _ => unexpected tokens
    | tokens => simpleFrom [] [] [] tokens

def pipeline : Nat → List Token → Except ScriptError (Script × List Token)
  | 0, tokens => unexpected tokens
  | fuel + 1, tokens =>
    match tokens with
    | .word ['!'] _ :: rest => do
      let (body, rest) ← pipeline fuel rest
      .ok (.negated body, rest)
    | tokens => do
      let (first, rest) ← command fuel tokens
      match rest with
      | .sign "|" :: rest =>
        let (second, rest) ← pipeline fuel (dropBreaks rest)
        .ok (.pipe first second, rest)
      | rest => .ok (first, rest)

/-- Reads what follows a pipeline up to the end of a list. -/
def continued : Nat → Script → List Token → Except ScriptError (Script × List Token)
  | 0, _, tokens => unexpected tokens
  | fuel + 1, first, tokens =>
    match tokens with
    | .sign "&&" :: rest => do
      let (second, rest) ← pipeline fuel (dropBreaks rest)
      continued fuel (.both first second) rest
    | .sign "||" :: rest => do
      let (second, rest) ← pipeline fuel (dropBreaks rest)
      continued fuel (.either first second) rest
    | .sign ";" :: rest => further fuel first rest
    | .sign "&" :: rest => further fuel first rest
    | .sign "\n" :: rest => further fuel first rest
    | rest => .ok (first, rest)

/-- Reads the list behind a separator, which may be empty. -/
def further : Nat → Script → List Token → Except ScriptError (Script × List Token)
  | 0, _, tokens => unexpected tokens
  | fuel + 1, first, tokens =>
    match dropBreaks tokens with
    | [] => .ok (first, [])
    | .sign ")" :: rest => .ok (first, .sign ")" :: rest)
    | .word ['\x7d'] w :: rest => .ok (first, .word ['\x7d'] w :: rest)
    | tokens => do
      let (second, rest) ← list fuel tokens
      .ok (.sequence first second, rest)

def list : Nat → List Token → Except ScriptError (Script × List Token)
  | 0, tokens => unexpected tokens
  | fuel + 1, tokens => do
    let (first, rest) ← pipeline fuel (dropBreaks tokens)
    continued fuel first rest

end

def read (text : String) : Except ScriptError Script :=
  let s := text.toList
  match Token.read? (s.length + 1) s with
  | none => .error .openQuote
  | some tokens =>
    match dropBreaks tokens with
    | [] => .ok .nothing
    | tokens => do
      let (script, rest) ← list (4 * tokens.length + 8) tokens
      match rest with
      | [] => .ok script
      | rest => unexpected rest

end Script
end VirtHost.Machine

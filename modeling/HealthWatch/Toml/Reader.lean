import HealthWatch.Toml.Literal
/-!
# Reading TOML documents

A document is a sequence of lines: comments, headers, and keys with their values. Arrays may run
over several lines and end with a comma, inline tables may not. Values and keys are nested less
than eighty deep.
-/

namespace HealthWatch.Toml

/-- How deep values are nested, and how many parts a key has, at most; both stay below. -/
def depthLimit : Nat := 80

/-- The text after the blanks at its front. -/
def skipSpaces (cs : List Char) : List Char := cs.dropWhile isSpace

/-- The text after a comment, if one stands at its front. -/
def skipComment : List Char → List Char
  | '#' :: rest => rest.dropWhile isPlain
  | cs => cs

/-- The text after a line end, or nothing at the end of the text. -/
def cutLineEndOrEnd (cs : List Char) : Option (List Char) :=
  if cs = [] then some [] else cutLineEnd cs

/-- The text after the rest of a line: blanks, a comment and the line end. -/
def cutRestOfLine (cs : List Char) : Option (List Char) :=
  cutLineEndOrEnd (skipComment (skipSpaces cs))

/-- The text after blanks, line ends and comments. A comment needs its line end. -/
def skipTrivia : Nat → List Char → List Char
  | 0, cs => cs
  | fuel + 1, cs =>
    let cs := skipLines cs.length cs
    match cs with
    | '#' :: _ =>
      match cutLineEnd (skipComment cs) with
      | some rest => skipTrivia fuel rest
      | none => cs
    | _ => cs

/-! ## Keys -/

/-- Whether a character may stand in a key without quotes. -/
def isBare (c : Char) : Bool := c.isAlphanum || c = '_' || c = '-'

def cutKeyPart : Reader String
  | '"' :: rest => (cutBasic (rest.length + 1) rest).map fun p => (String.ofList p.1, p.2)
  | '\'' :: rest => (cutLiteral rest).map fun p => (String.ofList p.1, p.2)
  | cs =>
    let (name, rest) := span isBare cs
    if name = [] then none else some (String.ofList name, rest)

/-- The parts of a key, with blanks around each. -/
def cutKeyParts : Nat → Reader (List String)
  | 0, _ => none
  | fuel + 1, cs => do
    let (part, rest) ← cutKeyPart (skipSpaces cs)
    match skipSpaces rest with
    | '.' :: rest => (cutKeyParts fuel rest).map fun p => (part :: p.1, p.2)
    | rest => some ([part], rest)

/-- A key: the parts that lead to its table, and its name there. -/
def cutKey (cs : List Char) : Option ((List String × String) × List Char) := do
  let (parts, rest) ← cutKeyParts (cs.length + 1) cs
  if parts.length < depthLimit then
    let name ← parts.getLast?
    return ((parts.dropLast, name), rest)
  else none

/-! ## Values -/

/-- The rest of a text that begins with a word. -/
def cutWord (word : List Char) (cs : List Char) : Option (List Char) :=
  if word.isPrefixOf cs then some (cs.drop word.length) else none

mutual

/-- A value that contains others at most `depth` deep. -/
def cutValue : Nat → (depth : Nat) → Reader Toml
  | 0, _, _ => none
  | fuel + 1, depth, cs =>
    match cs with
    | '"' :: _ | '\'' :: _ => (cutString cs).map fun p => (.string (String.ofList p.1), p.2)
    | 't' :: _ => (cutWord "true".toList cs).map (.boolean true, ·)
    | 'f' :: _ => (cutWord "false".toList cs).map (.boolean false, ·)
    | '[' :: rest =>
      match depth with
      | 0 => none
      | depth + 1 =>
        match skipTrivia rest.length rest with
        | ']' :: rest => some (.array [], rest)
        | rest => (cutItems fuel depth rest).map fun p => (.array p.1, p.2)
    | '\x7b' :: rest =>
      match depth with
      | 0 => none
      | depth + 1 =>
        match skipSpaces rest with
        | '\x7d' :: rest => some (.table [], rest)
        | _ => do
          let (pairs, rest) ← cutPairs fuel depth rest
          return (← inlineTable pairs, rest)
    | _ => cutNumberOrDate cs

/-- The items of an array up to its end; a comma may stand before the end. -/
def cutItems : Nat → (depth : Nat) → Reader (List Toml)
  | 0, _, _ => none
  | fuel + 1, depth, cs =>
    let cs := skipTrivia cs.length cs
    do
      let (item, rest) ← cutValue fuel depth cs
      match skipTrivia rest.length rest with
      | ']' :: rest => some ([item], rest)
      | ',' :: rest =>
        match skipTrivia rest.length rest with
        | ']' :: rest => some ([item], rest)
        | _ => (cutItems fuel depth rest).map fun p => (item :: p.1, p.2)
      | _ => none

/-- The keys and values of an inline table up to its end. -/
def cutPairs : Nat → (depth : Nat) → Reader (List (List String × String × Toml))
  | 0, _, _ => none
  | fuel + 1, depth, cs => do
    let ((keys, name), rest) ← cutKey cs
    let rest ← cutChar '=' rest
    let (v, rest) ← cutValue fuel depth (skipSpaces rest)
    match skipSpaces rest with
    | '\x7d' :: rest => some ([(keys, name, v)], rest)
    | ',' :: rest => (cutPairs fuel depth rest).map fun p => ((keys, name, v) :: p.1, p.2)
    | _ => none

end

/-! ## Lines -/

/-- A header, from its bracket on. -/
def cutHeader : Reader Statement
  | '[' :: '[' :: rest => do
    let ((path, name), rest) ← cutKey rest
    let rest ← cutWord [']', ']'] rest
    return (.elementHeader path name, rest)
  | '[' :: rest => do
    let ((path, name), rest) ← cutKey rest
    let rest ← cutChar ']' rest
    return (.header path name, rest)
  | _ => none

def cutAssignment : Reader Statement := fun cs => do
  let ((keys, name), rest) ← cutKey cs
  let rest ← cutChar '=' rest
  let (v, rest) ← cutValue (2 * rest.length + 1) (depthLimit - 1) (skipSpaces rest)
  return (.assignment keys name v, rest)

/-- The header or the assignment of a line. -/
def cutStatement (cs : List Char) : Option (Statement × List Char) :=
  match cs with
  | '[' :: _ => cutHeader cs
  | _ => cutAssignment cs

def readLines : Nat → Draft → List Char → Option Draft
  | 0, _, _ => none
  | fuel + 1, draft, cs =>
    let cs := skipSpaces cs
    match cs with
    | [] => some draft
    | '#' :: _ => do readLines fuel draft (← cutLineEndOrEnd (skipComment cs))
    | c :: _ =>
      if c = '\n' || c = '\r' then do readLines fuel draft (← cutLineEnd cs)
      else do
        let (s, rest) ← cutStatement cs
        let rest ← cutRestOfLine rest
        readLines fuel (← draft.add s) rest

/-- The members of the document of a text; a byte order mark at its front is passed over. -/
def read? (cs : List Char) : Option (List (String × Toml)) :=
  let cs := match cs with
    | '\uFEFF' :: rest => rest
    | cs => cs
  (readLines (cs.length + 1) {} cs).map fun d => Node.memberValues d.root

end HealthWatch.Toml

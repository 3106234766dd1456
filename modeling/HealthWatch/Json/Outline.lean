import HealthWatch.Json.Token
/-!
# JSON texts as far as they can be read

An outline is what a reader that goes through a text from left to right has seen of a value. A
container that does not end well is not `closed`, and where no value can be read at all the outline
is `broken`. Whoever decodes an outline from left to right therefore finds the faults of the text
in the order of the text. Literals are kept as they are written.
-/

namespace HealthWatch.Json

/-- What can be read of a value. -/
inductive Outline where
  | word (w : Word)
  | number (n : NumberText)
  | string (raw : List Char)
  | array (items : List Outline) (closed : Bool)
  | object (members : List (List Char × Outline)) (closed : Bool)
  | broken
  deriving Inhabited

namespace Outline

mutual

/-- The value at the front of the tokens, and the tokens after it. -/
def readValue : Nat → List Token → Outline × List Token
  | 0, _ => (broken, [])
  | fuel + 1, ts =>
    match ts with
    | .word w :: rest => (word w, rest)
    | .number n :: rest => (number n, rest)
    | .string raw :: rest => (string raw, rest)
    | .openArray :: .closeArray :: rest => (array [] true, rest)
    | .openArray :: rest =>
      let (items, closed, rest) := readItems fuel rest
      (array items closed, rest)
    | .openObject :: .closeObject :: rest => (object [] true, rest)
    | .openObject :: rest =>
      let (members, closed, rest) := readMembers fuel rest
      (object members closed, rest)
    | _ => (broken, [])

/-- The items of an array up to its end. -/
def readItems : Nat → List Token → List Outline × Bool × List Token
  | 0, _ => ([], false, [])
  | fuel + 1, ts =>
    let (item, rest) := readValue fuel ts
    match rest with
    | .closeArray :: rest => ([item], true, rest)
    | .comma :: rest =>
      let (items, closed, rest) := readItems fuel rest
      (item :: items, closed, rest)
    | _ => ([item], false, [])

/-- The members of an object up to its end. -/
def readMembers : Nat → List Token → List (List Char × Outline) × Bool × List Token
  | 0, _ => ([], false, [])
  | fuel + 1, ts =>
    match ts with
    | .string name :: .colon :: rest =>
      let (value, rest) := readValue fuel rest
      match rest with
      | .closeObject :: rest => ([(name, value)], true, rest)
      | .comma :: rest =>
        let (members, closed, rest) := readMembers fuel rest
        ((name, value) :: members, closed, rest)
      | _ => ([(name, value)], false, [])
    | _ => ([], false, [])

end

/-- The value at the front of the tokens, and the tokens after it. Every two steps take a token. -/
def ofTokens (ts : List Token) : Outline × List Token := readValue (2 * ts.length + 1) ts

/-- What can be read of the value of a text, and whether the text ends after it. -/
def ofText (cs : List Char) : Outline × Bool :=
  let (value, rest) := ofTokens (tokens cs)
  (value, rest.isEmpty)

mutual

/-- Whether the value was read to its end. -/
def isWhole : Outline → Bool
  | word _ | number _ | string _ => true
  | array items closed => closed && areWhole items
  | object members closed => closed && membersAreWhole members
  | broken => false

/-- Whether all items were read to their ends. -/
def areWhole : List Outline → Bool
  | [] => true
  | item :: items => isWhole item && areWhole items

/-- Whether all members were read to their ends. -/
def membersAreWhole : List (List Char × Outline) → Bool
  | [] => true
  | (_, value) :: members => isWhole value && membersAreWhole members

end

end Outline

/-- Whether a text is a JSON text. -/
def isText (cs : List Char) : Bool :=
  let (value, ended) := Outline.ofText cs
  value.isWhole && ended

end HealthWatch.Json

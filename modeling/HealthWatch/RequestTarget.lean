import HealthWatch.Text.Percent
import HealthWatch.Text.Split
/-!
# Request targets

A request names a path and, after a question mark, a form of pairs. The path is taken as it is
written. In a form the pairs are separated by ampersands, a key ends at the first equals sign, a
plus sign stands for a space, and everything else may be percent-encoded.
-/

namespace HealthWatch

namespace Form

/-- The text that an encoded key or value stands for. -/
def text (cs : List Char) : String :=
  String.ofList (Text.percentDecodeText (cs.map fun c => if c = '+' then ' ' else c))

/-- The pair that a piece of a form stands for; without an equals sign the value is empty. -/
def pair (piece : List Char) : String × String :=
  match Text.cutFirst '=' piece with
  | some (key, value) => (text key, text value)
  | none => (text piece, "")

/-- The pairs of a form; empty pieces are passed over. -/
def pairs (cs : List Char) : List (String × String) :=
  ((Text.fields '&' cs).filter (· ≠ [])).map pair

/-- The values of a key, in order. -/
def values (key : String) (pairs : List (String × String)) : List String :=
  (pairs.filter fun p => p.1 = key).map (·.2)

theorem mem_values {key value : String} {pairs : List (String × String)} :
    value ∈ values key pairs ↔ (key, value) ∈ pairs := by
  simp only [values, List.mem_map, List.mem_filter, decide_eq_true_eq]
  constructor
  · rintro ⟨⟨k, v⟩, ⟨h, rfl⟩, rfl⟩; exact h
  · exact fun h => ⟨(key, value), ⟨h, rfl⟩, rfl⟩

end Form

/-- What a request asks for. -/
structure RequestTarget where
  path : List Char
  pairs : List (String × String)

namespace RequestTarget

def before (c : Char) (cs : List Char) : List Char := cs.takeWhile (· ≠ c)

/-- The part after a scheme with its colon and slashes, if a text begins with one. -/
def afterScheme? (cs : List Char) : Option (List Char) :=
  match Text.cutFirst ':' cs with
  | some (_, '/' :: '/' :: rest) => some rest
  | _ => none

/-- The path of an address: what follows the host where one is named. -/
def pathOf (address : List Char) : List Char :=
  match address with
  | '/' :: _ => address
  | _ =>
    match afterScheme? address with
    | some rest =>
      let path := rest.dropWhile (· ≠ '/')
      if path = [] then ['/'] else path
    | none => []

/-- The target that a text names; what follows a number sign is for the client alone. -/
def read (cs : List Char) : RequestTarget :=
  let whole := before '#' cs
  match Text.cutFirst '?' whole with
  | some (address, form) => ⟨pathOf address, Form.pairs form⟩
  | none => ⟨pathOf whole, []⟩

end RequestTarget

end HealthWatch

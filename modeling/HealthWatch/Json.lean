import HealthWatch.Binary64
import HealthWatch.NameMap
/-!
# JSON values

Numbers are integers of 64 bits, with or without sign, or doubles. A value is ordered when the
members of each of its objects have strictly increasing names. `Datum` is an ordered value, the
kind that reports carry, and `Datum.ofJson` orders any value, a later member of a name replacing
the earlier ones.
-/

namespace HealthWatch

/-- An integer that fits into 64 bits, with or without sign. -/
structure Integer where
  val : Int
  inRange : -0x8000_0000_0000_0000 ≤ val ∧ val < 0x1_0000_0000_0000_0000
  deriving DecidableEq

instance : Inhabited Integer := ⟨⟨0, by decide⟩⟩

/-- The integer, if it fits. -/
def Integer.ofInt? (i : Int) : Option Integer :=
  if h : -0x8000_0000_0000_0000 ≤ i ∧ i < 0x1_0000_0000_0000_0000 then some ⟨i, h⟩ else none

/-- A number of a JSON text. -/
inductive JsonNumber where
  | integer (i : Integer)
  | real (x : Binary64)
  deriving DecidableEq

/-- A JSON value; the members of an object are in the order of the text. -/
inductive Json where
  | null
  | bool (b : Bool)
  | number (n : JsonNumber)
  | string (s : String)
  | array (items : List Json)
  | object (members : List (String × Json))
  deriving Inhabited

namespace Json

/-- The integer `i`, which has to fit into 64 bits; null otherwise. -/
def ofInt (i : Int) : Json :=
  match Integer.ofInt? i with
  | some i => number (.integer i)
  | none => null

/-- The natural number `n`, which has to fit into 64 bits; null otherwise. -/
def ofNat (n : Nat) : Json := ofInt n

/-- A text, or null. -/
def ofString? : Option String → Json
  | some s => string s
  | none => null

/-- The text of each name, as an array. -/
def ofStrings (names : List String) : Json := array (names.map string)

/-- Whether each object within the value lists its members by strictly increasing names. -/
inductive Ordered : Json → Prop
  | null : Ordered null
  | bool (b : Bool) : Ordered (bool b)
  | number (n : JsonNumber) : Ordered (number n)
  | string (s : String) : Ordered (string s)
  | array {items : List Json} (h : ∀ j ∈ items, Ordered j) : Ordered (array items)
  | object {members : List (String × Json)} (sorted : members.Pairwise fun a b => a.1 < b.1)
      (h : ∀ m ∈ members, Ordered m.2) : Ordered (object members)

mutual

/-- The value with the members of each object ordered, the last of a name standing for all. -/
def ordered : Json → Json
  | null => null
  | bool b => bool b
  | number n => number n
  | string s => string s
  | array items => array (orderedItems items)
  | object members => object (NameMap.ofList (orderedMembers members)).toList

def orderedItems : List Json → List Json
  | [] => []
  | j :: js => ordered j :: orderedItems js

/-- The members with the ordered forms of their values. -/
def orderedMembers : List (String × Json) → List (String × Json)
  | [] => []
  | (name, j) :: ms => (name, ordered j) :: orderedMembers ms

end

mutual

theorem ordered_ordered : (j : Json) → Ordered j.ordered
  | .null => .null
  | .bool b => .bool b
  | .number n => .number n
  | .string s => .string s
  | .array items => .array (ordered_orderedItems items)
  | .object members =>
    .object (NameMap.sorted _) fun _ hm =>
      ordered_orderedMembers members _ (NameMap.mem_of_mem_ofList hm)

theorem ordered_orderedItems : (js : List Json) → ∀ j ∈ orderedItems js, Ordered j
  | [], _, h => nomatch h
  | j :: js, k, h => by
    rcases List.mem_cons.1 h with rfl | h
    · exact ordered_ordered j
    · exact ordered_orderedItems js k h

theorem ordered_orderedMembers :
    (ms : List (String × Json)) → ∀ m ∈ orderedMembers ms, Ordered m.2
  | [], _, h => nomatch h
  | (_, j) :: ms, m, h => by
    rcases List.mem_cons.1 h with rfl | h
    · exact ordered_ordered j
    · exact ordered_orderedMembers ms m h

end

end Json

/-- A JSON value whose objects are ordered. -/
structure Datum where
  json : Json
  ordered : json.Ordered

namespace Datum

def ofJson (j : Json) : Datum := ⟨j.ordered, j.ordered_ordered⟩

def ofString (s : String) : Datum := ⟨.string s, .string s⟩

def ofBool (b : Bool) : Datum := ⟨.bool b, .bool b⟩

/-- A natural number, which has to fit into 64 bits. -/
def ofNat (n : Nat) : Datum := ofJson (.ofNat n)

def ofStrings (names : List String) : Datum := ofJson (.ofStrings names)

end Datum

end HealthWatch

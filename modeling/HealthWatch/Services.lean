/-!
# Services for probe factories

Shared objects that factories ask for when they make a probe. There is at most one of each kind,
and a later one replaces an earlier one.
-/

namespace HealthWatch

/-- The kinds of services. -/
inductive ServiceKind where
  | unsigned
  | signed
  | flag
  | text
  deriving DecidableEq, Repr

namespace ServiceKind

def Value : ServiceKind → Type
  | unsigned => UInt32
  | signed => Int64
  | flag => Bool
  | text => String

def typeName : ServiceKind → String
  | unsigned => "u32"
  | signed => "i64"
  | flag => "bool"
  | text => "alloc::string::String"

def every : List ServiceKind := [unsigned, signed, flag, text]

end ServiceKind

/-- The services at hand. -/
structure Services where
  /-- The service of a kind. -/
  get? : (k : ServiceKind) → Option k.Value

namespace Services

/-- No services. -/
def empty : Services := ⟨fun _ => none⟩

instance : Inhabited Services := ⟨empty⟩

/-- The services with one more, in place of an earlier one of its kind. -/
def insert (s : Services) (k : ServiceKind) (v : k.Value) : Services where
  get? j := if h : j = k then some (h ▸ v) else s.get? j

/-- The service of a kind, or the name of the kind that is missing. -/
def require (s : Services) (k : ServiceKind) : Except String k.Value :=
  match s.get? k with
  | some v => .ok v
  | none => .error k.typeName

def size (s : Services) : Nat := (ServiceKind.every.filter fun k => (s.get? k).isSome).length

def describe (s : Services) : String := "Services \x7b len: " ++ toString s.size ++ " \x7d"

@[simp] theorem get?_insert_self (s : Services) (k : ServiceKind) (v : k.Value) :
    (s.insert k v).get? k = some v := by simp [insert]

theorem get?_insert_of_ne (s : Services) {j k : ServiceKind} (v : k.Value) (h : j ≠ k) :
    (s.insert k v).get? j = s.get? j := by simp [insert, h]

end Services

end HealthWatch

import HealthWatch.IpAddress
import HealthWatch.NameMap
/-!
# The network

All that the service does outside itself, as a function of what it asks: what comes of a request, of
opening a connection, and of looking up a name, and how many milliseconds it takes. The number of
the question is an argument, so that the same question can be answered differently later on.
-/

namespace HealthWatch

/-- A request over HTTP. -/
structure HttpRequest where
  method : String
  url : String
  headers : List (String × String) := []
  body : List Char := []

/-- What comes of a request. -/
inductive HttpReply where
  /-- A response; its body is missing when it ends too early. -/
  | response (code : Nat) (body : Option String)
  /-- No response: the request cannot be made, or the connection fails. -/
  | failed (detail : String)

/-- What comes of a request, and when. -/
structure HttpExchange where
  reply : HttpReply
  /-- The milliseconds until the response begins or the failure shows, none when neither does. -/
  after : Option Nat := some 0
  /-- The further milliseconds until the body is complete or cut off, none when it never is. -/
  bodyAfter : Option Nat := some 0

/-- What comes of opening a connection, or of a look-up, and when. -/
structure Attempt (α : Type) where
  /-- The result, or the detail of the failure. -/
  result : Except String α
  after : Option Nat := some 0

/-- The network, as it answers numbered questions. -/
structure Network where
  send : (number : Nat) → HttpRequest → HttpExchange
  /-- Opens a connection to a host and a port; the result is the address that it leads to. -/
  connect : (number : Nat) → (host : String) → (port : Nat) → Attempt String
  resolve : (number : Nat) → (host : String) → Attempt (List IpAddress)

namespace Network

/-- A network in which nothing can be reached. -/
def isolated : Network where
  send _ _ := { reply := .failed "unreachable" }
  connect _ _ _ := { result := .error "unreachable" }
  resolve _ _ := { result := .error "unreachable" }

instance : Inhabited Network := ⟨isolated⟩

/-- The addresses of a host: a literal address stands for itself, any other name is looked up. -/
def addresses (net : Network) (number : Nat) (host : String) : Attempt (List IpAddress) :=
  match IpAddress.read? host.toList with
  | some a => { result := .ok [a] }
  | none => net.resolve number host

end Network

/-- The sum of two times, either of which may be never. -/
def plusTime : Option Nat → Option Nat → Option Nat
  | some a, some b => some (a + b)
  | _, _ => none

/-- The milliseconds until a request is over. The body of a response is read to its end only where
something is made of it. -/
def HttpExchange.finishedAfter (x : HttpExchange) (readsBody : Nat → Bool) : Option Nat :=
  match x.reply with
  | .failed _ => x.after
  | .response code _ => if readsBody code then plusTime x.after x.bodyAfter else x.after

end HealthWatch

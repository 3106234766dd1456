import HealthWatch.Network
import HealthWatch.Probe
/-!
# Probing an HTTP endpoint

One request is made. The endpoint is healthy when the code of the response lies in the expected
range and the body, if one is expected, is exactly that.
-/

namespace HealthWatch

/-- What is asked of an endpoint and what is expected of it. -/
structure HttpTarget where
  url : String
  method : String := "GET"
  headers : List (String × String) := []
  /-- The least and the greatest code that is accepted. -/
  expectedStatus : Nat × Nat := (200, 299)
  expectedContent : Option String := none

namespace HttpTarget

/-- The request that the probe makes. -/
def request (p : HttpTarget) : HttpRequest where
  method := p.method
  url := p.url
  headers := p.headers

/-- Whether a code is accepted. -/
def acceptsCode (p : HttpTarget) (code : Nat) : Bool :=
  p.expectedStatus.1 ≤ code && code ≤ p.expectedStatus.2

/-- What a response comes to; the body is asked for only when the code is accepted and a body is
expected. -/
def judge (p : HttpTarget) (ctx : Context) (code : Nat) (body : Option String) : Ending :=
  let withCode (o : Outcome) : Ending := .outcome (o.withData "statusCode" (.ofNat code))
  if !p.acceptsCode code then
    withCode (ctx.failure ("Endpoint responded with " ++ Numeral.text code ++ ", expected " ++
      Numeral.text p.expectedStatus.1 ++ "..=" ++ Numeral.text p.expectedStatus.2))
  else
    match p.expectedContent with
    | none => withCode { status := .healthy }
    | some expected =>
      match body with
      | none => .error (.http "the body ended early")
      | some body =>
        if body = expected then withCode { status := .healthy }
        else withCode (ctx.failure ("The expected value '" ++ expected ++
          "' was not found in the response body"))

/-- Whether the body of a response is waited for. -/
def readsBody (p : HttpTarget) (code : Nat) : Bool := p.acceptsCode code && p.expectedContent.isSome

def call (p : HttpTarget) (net : Network) (number : Nat) (ctx : Context) : Call :=
  if ctx.cancelled then ⟨some 0, .error .cancelled⟩
  else
    let exchange := net.send number p.request
    match exchange.reply with
    | .failed detail => ⟨exchange.after, .error (.http detail)⟩
    | .response code body =>
      { endsAfter :=
          if p.readsBody code then plusTime exchange.after exchange.bodyAfter else exchange.after
        ending := p.judge ctx code body }

def probe (p : HttpTarget) (net : Network) : Probe where
  call := p.call net

end HttpTarget

end HealthWatch

import HealthWatch.Network
import HealthWatch.Text.Numeral
/-!
# Failures to publish

What is sent to another service may not arrive, or the service may reject it. A response with any code
other than those of success is a rejection, and its body says why.
-/

namespace HealthWatch

/-- Why something could not be published. -/
inductive PublishFailure where
  | http (detail : String)
  | rejected (target : String) (status : Nat) (body : String)
  | invalidEndpoint (endpoint : String)
  deriving DecidableEq, Repr

def PublishFailure.message : PublishFailure → String
  | http detail => "HTTP request failed: " ++ detail
  | rejected target status body =>
    target ++ " rejected the report with status " ++ Numeral.text status ++ ": " ++ body
  | invalidEndpoint endpoint => "invalid endpoint '" ++ endpoint ++ "'"

/-- Whether a response code means success. -/
def isSuccess (code : Nat) : Bool := 200 ≤ code && code ≤ 299

/-- What the reply to a request comes to, for a target. -/
def HttpReply.judge (target : String) : HttpReply → Except PublishFailure Unit
  | .failed detail => .error (.http detail)
  | .response code body =>
    if isSuccess code then .ok () else .error (.rejected target code (body.getD ""))

end HealthWatch

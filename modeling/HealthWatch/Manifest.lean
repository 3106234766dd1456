import HealthWatch.ConfigFault
import HealthWatch.Duration.Notation
import HealthWatch.Probe.Dns
import HealthWatch.Probe.Http
import HealthWatch.Probe.Tcp
/-!
# The manifest

What the manifest says of each check and of each webhook, as it is written, and the registry that
comes of it. Checks are registered in the order of the manifest, and the first fault is reported;
within a check the method comes first, then the range of codes, the timeout, the failure status and
the name.
-/

namespace HealthWatch

/-- What the manifest says of the probe of a check. -/
inductive ProbeItem where
  | http (url : String) (method : Option String) (expectedStatus : Option (Nat × Nat))
      (expectedContent : Option String) (headers : NameMap String)
  | tcp (host : String) (port : Nat)
  | dns (host : String) (minAddresses : Option Nat)

/-- What the manifest says of a check. -/
structure CheckItem where
  name : String
  timeout : Option String
  failureStatus : Option String
  tags : List String
  probe : ProbeItem

/-- A webhook: where notifications go, and the templates of their texts. -/
structure Webhook where
  name : String
  url : String
  payload : String
  restorePayload : String
  deriving DecidableEq

/-- The checks and the webhooks that the service is to have. -/
structure Manifest where
  checks : List CheckItem := []
  webhooks : List Webhook := []

instance : Inhabited Manifest := ⟨{}⟩

/-- Whether a character may stand in the method of a request. -/
def isMethodChar (c : Char) : Bool :=
  c.isAlphanum ||
    c ∈ ['!', '#', '$', '%', '&', '\'', '*', '+', '-', '.', '^', '_', '\x60', '|', '~']

/-- The method that a text means, in capital letters. -/
def readMethod? (s : String) : Option String :=
  let method := s.toList.map Char.toUpper
  if method ≠ [] ∧ method.all isMethodChar then some (String.ofList method) else none

namespace CheckItem

/-- The name of a field of the check in reports of faults. -/
def fieldName (item : CheckItem) (field : String) : String :=
  "check '" ++ item.name ++ "' " ++ field

/-- The method of a request, as far as one is given. -/
def readMethod (item : CheckItem) : Option String → Except ConfigFault (Option String)
  | none => .ok none
  | some method =>
    match readMethod? method with
    | some m => .ok (some m)
    | none => .error (.invalid (item.fieldName "method") method "invalid HTTP method")

/-- The accepted codes, as far as they are given. -/
def readExpectedStatus (item : CheckItem) :
    Option (Nat × Nat) → Except ConfigFault (Option (Nat × Nat))
  | none => .ok none
  | some (low, high) =>
    if low ≤ high then .ok (some (low, high))
    else .error (.invalid (item.fieldName "expected_status")
      ("[" ++ Numeral.text low ++ ", " ++ Numeral.text high ++ "]") "min must not exceed max")

/-- The probe of the check, over a network. -/
def readProbe (item : CheckItem) (net : Network) : Except ConfigFault Probe :=
  match item.probe with
  | .http url method expectedStatus expectedContent headers => do
    let method ← item.readMethod method
    let expectedStatus ← item.readExpectedStatus expectedStatus
    let probe : HttpTarget := {
      url
      method := method.getD "GET"
      headers := headers.toList
      expectedStatus := expectedStatus.getD (200, 299)
      expectedContent }
    return probe.probe net
  | .tcp host port => .ok (TcpTarget.probe { host, port } net)
  | .dns host minAddresses =>
    .ok (DnsTarget.probe { host, minAddresses := minAddresses.getD 1 } net)

/-- The timeout of the check, if it has one. -/
def readTimeout (item : CheckItem) : Except ConfigFault (Option Duration) :=
  match item.timeout with
  | none => .ok none
  | some text =>
    match Duration.read? text.toList with
    | some d => .ok (some d)
    | none => .error (.invalid (item.fieldName "timeout") text "expected a duration like 5s")

def readFailureStatus (item : CheckItem) : Except ConfigFault Status :=
  match item.failureStatus with
  | none => .ok .unhealthy
  | some text =>
    match Status.read? text with
    | some s => .ok s
    | none =>
      .error (.invalid (item.fieldName "failure_status") text (Status.unknownMessage text))

/-- The registration of the check, over a network. -/
def registration (item : CheckItem) (net : Network) : Except ConfigFault Registration := do
  let probe ← item.readProbe net
  let timeout ← item.readTimeout
  let failureStatus ← item.readFailureStatus
  return {
    name := item.name
    source := .shared probe
    failureStatus
    tags := .ofList item.tags
    timeout }

end CheckItem

/-- The registry with one more check of a manifest. -/
def Registry.addItem (net : Network) (g : Registry) (item : CheckItem) :
    Except ConfigFault Registry := do
  let r ← item.registration net
  match g.register r with
  | .ok g => .ok g
  | .error e => .error (.registry e)

/-- The registry of the checks of a manifest, over a network. -/
def Manifest.registry (m : Manifest) (net : Network) : Except ConfigFault Registry :=
  m.checks.foldlM (Registry.addItem net) .empty

end HealthWatch

import HealthWatch.Network
import HealthWatch.Probe
/-!
# Probing a name

A name is healthy when it stands for enough different addresses.
-/

namespace HealthWatch

/-- A name and the number of addresses that it needs. -/
structure DnsTarget where
  host : String
  minAddresses : Nat := 1

namespace DnsTarget

/-- Different addresses in their order. -/
def distinct (addresses : List IpAddress) : List IpAddress :=
  (addresses.mergeSort fun a b => a.rank ≤ b.rank).eraseDups

/-- What the addresses of the name come to. -/
def judge (p : DnsTarget) (ctx : Context) (addresses : List IpAddress) : Outcome :=
  let found := distinct addresses
  let o : Outcome :=
    if found.length < p.minAddresses then
      ctx.failure (p.host ++ " resolved to " ++ Numeral.text found.length ++
        " address(es), expected at least " ++ Numeral.text p.minAddresses)
    else { status := .healthy }
  o.withData "addresses" (.ofStrings (found.map fun a => String.ofList a.text))

def call (p : DnsTarget) (net : Network) (number : Nat) (ctx : Context) : Call :=
  if ctx.cancelled then ⟨some 0, .error .cancelled⟩
  else
    let attempt := net.addresses number p.host
    { endsAfter := attempt.after
      ending := match attempt.result with
        | .ok addresses => .outcome (p.judge ctx addresses)
        | .error detail => .error (.io detail) }

def probe (p : DnsTarget) (net : Network) : Probe where
  call := p.call net

end DnsTarget

end HealthWatch

import HealthWatch.Network
import HealthWatch.Probe
/-!
# Probing a TCP port

A port is healthy when a connection to it can be opened.
-/

namespace HealthWatch

/-- The port of a host. -/
structure TcpTarget where
  host : String
  port : Nat

namespace TcpTarget

def call (p : TcpTarget) (net : Network) (number : Nat) (ctx : Context) : Call :=
  if ctx.cancelled then ⟨some 0, .error .cancelled⟩
  else
    let attempt := net.connect number p.host p.port
    { endsAfter := attempt.after
      ending := match attempt.result with
        | .ok peer =>
          .outcome ({ status := .healthy : Outcome }.withData "address" (.ofString peer))
        | .error detail => .error (.io detail) }

def probe (p : TcpTarget) (net : Network) : Probe where
  call := p.call net

end TcpTarget

end HealthWatch

/-!
# Shutting down

Everything that runs listens on one channel. Its controller signals the shutdown, once and for all;
when the controller is gone without a signal, those who wait for one are let go as well.
-/

namespace HealthWatch

/-- A channel for the shutdown. -/
structure Termination where
  /-- Whether the shutdown was signalled. -/
  signalled : Bool := false
  /-- Whether the controller is gone. -/
  abandoned : Bool := false
  listeners : Nat := 1
  deriving DecidableEq, Repr

namespace Termination

/-- Signals the shutdown, as long as there is a controller to do so. -/
def signal (c : Termination) : Termination :=
  { c with signalled := c.signalled || !c.abandoned }

/-- Takes the controller away. -/
def abandon (c : Termination) : Termination := { c with abandoned := true }

/-- Adds a listener, which hears what the others hear. -/
def listen (c : Termination) : Termination := { c with listeners := c.listeners + 1 }

/-- Whether waiting for the shutdown is over. -/
def isOver (c : Termination) : Bool := c.signalled || c.abandoned

end Termination

end HealthWatch

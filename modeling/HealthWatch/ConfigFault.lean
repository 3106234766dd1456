import HealthWatch.Registry
/-!
# Faults of the configuration

Why the settings or the manifest are not accepted. A value that means nothing, or nothing
allowed, is reported with the name of its field and the reason.
-/

namespace HealthWatch

/-- Why a configuration is not accepted. -/
inductive ConfigFault where
  /-- The manifest cannot be read. -/
  | unreadable (path reason : String)
  /-- The manifest is not of the right form. -/
  | unparsable
  | invalid (field value reason : String)
  | registry (e : RegistrationFault)
  deriving DecidableEq, Repr

/-- The wording of a fault. -/
def ConfigFault.message : ConfigFault → String
  | unreadable path reason => "failed to read " ++ path ++ ": " ++ reason
  | unparsable => "failed to parse checks file"
  | invalid field value reason => "invalid value '" ++ value ++ "' for " ++ field ++ ": " ++ reason
  | registry e => e.message

end HealthWatch

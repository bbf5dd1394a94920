/-
  Parley.Telemetry
  ────────────────
  **HOW A SERVICE REPORTS ON ITSELF.**
-/
namespace Parley

/-- What a service reports under, and how much. -/
structure Telemetry where
  /-- The name of the service. -/
  service : String
  /-- Which log lines are kept. -/
  level : String := "info"
  /-- Whether log lines are structured. -/
  structured : Bool := false
  deriving DecidableEq, Repr

namespace Telemetry

/-- The reporting of a service. -/
def ofService (service : String) : Telemetry := { service }

/-- The reporting of a service that was given no name. -/
def standard : Telemetry := ofService "colloquy"

/-- Keep other log lines. -/
def withLevel (t : Telemetry) (level : String) : Telemetry := { t with level }

/-- Structure log lines, or not. -/
def withStructure (t : Telemetry) (structured : Bool) : Telemetry := { t with structured }

end Telemetry

end Parley

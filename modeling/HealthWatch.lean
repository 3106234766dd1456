import HealthWatch.Dashboard.Reader
import HealthWatch.Evaluation.Sequence
import HealthWatch.Main
import HealthWatch.Termination
import HealthWatch.Proofs.Courses
import HealthWatch.Proofs.Gathering
import HealthWatch.Proofs.Verdicts
import HealthWatch.Proofs.Reports
import HealthWatch.Proofs.Deadlines
import HealthWatch.Proofs.Configuration
import HealthWatch.Proofs.Isolation
import HealthWatch.Proofs.Notices
import HealthWatch.Proofs.Exposition
import HealthWatch.Proofs.Rounds
import HealthWatch.Proofs.Json.Literals
import HealthWatch.Proofs.Json.Lexing
import HealthWatch.Proofs.Json.Grammar
import HealthWatch.Proofs.Templates
import HealthWatch.Proofs.Readings
import HealthWatch.Proofs.Timespans
import HealthWatch.Proofs.Json.Values
import HealthWatch.Proofs.Dashboards
import HealthWatch.Proofs.Requests
import HealthWatch.Proofs.Restriction
import HealthWatch.Evaluation.Interleaving
import HealthWatch.Proofs.Interleaving
import HealthWatch.Proofs.Independence
import HealthWatch.Proofs.Publication
import HealthWatch.Proofs.Reporters
import HealthWatch.Proofs.Orders
import HealthWatch.Proofs.Cancellation
import HealthWatch.Proofs.Overflows
import HealthWatch.Proofs.Substitution
import HealthWatch.Proofs.Deliveries
import HealthWatch.Proofs.Manifests
import HealthWatch.Proofs.Environments
import HealthWatch.Proofs.Encodings
import HealthWatch.Proofs.Gateways
import HealthWatch.Proofs.Endpoints
import HealthWatch.Proofs.Registrations
import HealthWatch.Proofs.Amounts

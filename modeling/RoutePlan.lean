import RoutePlan.Main
import RoutePlan.Pattern
import RoutePlan.Program
import RoutePlan.Proofs.Definition.Reference
import RoutePlan.Proofs.Definition.WellFormed
import RoutePlan.Proofs.Definition.Truncation
import RoutePlan.Proofs.Program.Script
import RoutePlan.Proofs.Singular
import RoutePlan.Proofs.Singular.Ending
import RoutePlan.Proofs.Definition.Distinct
import RoutePlan.Proofs.Definition.Dispatch
import RoutePlan.Proofs.Definition.Constraint
import RoutePlan.Proofs.Definition.Parameters
import RoutePlan.Proofs.Program.Place
import RoutePlan.Proofs.Program.Template
import RoutePlan.Proofs.Definition.Siblings
import RoutePlan.Proofs.Definition.Flattened
import RoutePlan.Proofs.Program.Spelled
import RoutePlan.Proofs.Scope.Extension
import RoutePlan.Proofs.Pattern.Matching
import RoutePlan.Proofs.Target.Spelling
import RoutePlan.Proofs.Target.HandlerName
import RoutePlan.Proofs.Pattern.Braces
import RoutePlan.Proofs.Pattern.IdSegment
import RoutePlan.Proofs.Scope.StaticRoute
import RoutePlan.Proofs.Scope.Addresses
import RoutePlan.Proofs.Scope.Filtering
import RoutePlan.Proofs.Document
import RoutePlan.Proofs.Command
import RoutePlan.Proofs.RouteTable.Lines
import RoutePlan.Proofs.Program.Log

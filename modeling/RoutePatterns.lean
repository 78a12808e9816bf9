import RoutePatterns.Interchange
import RoutePatterns.Proofs.Pattern.Canonical
import RoutePatterns.Proofs.Route.RoundTrip
import RoutePatterns.Proofs.Scenario.RoundTrip
import RoutePatterns.Proofs.Table.Clients
import RoutePatterns.Proofs.Table.Lookup
import RoutePatterns.Router
import RoutePatterns.Proofs.Scenario.Format
import RoutePatterns.Proofs.Matcher.Captured
import RoutePatterns.Proofs.Matcher.Values
import RoutePatterns.Proofs.Matcher.Walk
import RoutePatterns.Proofs.Route.Groups
import RoutePatterns.Proofs.Table.Links
import RoutePatterns.Proofs.Pattern.Concatenation
import RoutePatterns.Proofs.Pattern.Faults
import RoutePatterns.Proofs.Table.Refinement
import RoutePatterns.Proofs.Table.Counting
import RoutePatterns.Proofs.Route.Strictness
import RoutePatterns.Proofs.Route.TakenValues
import RoutePatterns.Proofs.Score.Composite
import RoutePatterns.Proofs.Score.PlainParameters
import RoutePatterns.Proofs.Score.SingleSegments
import RoutePatterns.Proofs.Score.Specificity
import RoutePatterns.Proofs.Text.ByteSearch
import RoutePatterns.Proofs.Pattern.Splitting
import RoutePatterns.Proofs.Scenario.Spelling
import RoutePatterns.Proofs.Matcher.Drafting
import RoutePatterns.Proofs.Matcher.StaticText
import RoutePatterns.Proofs.Regex.ByteClasses

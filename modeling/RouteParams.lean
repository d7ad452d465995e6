import RouteParams.Interface
import RouteParams.Main
import RouteParams.Session
import RouteParams.Proofs.Resolution.Again
import RouteParams.Proofs.Resolution.Deciders
import RouteParams.Proofs.Resolution.Exchange
import RouteParams.Proofs.Resolution.Exhaustion
import RouteParams.Proofs.Resolution.Repetition
import RouteParams.Proofs.Route.Halves
import RouteParams.Proofs.Route.Normalized
import RouteParams.Proofs.Fallback.PageKeys
import RouteParams.Proofs.Resolution.Calls
import RouteParams.Proofs.Resolution.Independence
import RouteParams.Proofs.Resolution.Lowering
import RouteParams.Proofs.Resolution.Noninterference
import RouteParams.Proofs.Resolution.ParamVisits
import RouteParams.Proofs.Resolution.Wrapping
import RouteParams.Proofs.Resolution.Invisible
import RouteParams.Proofs.Resolution.Increments
import RouteParams.Proofs.Resolution.Seeding
import RouteParams.Proofs.Resolution.Relaxing
import RouteParams.Proofs.Route.Agreement
import RouteParams.Proofs.Tree.Faults
import RouteParams.Proofs.Tree.Rendering
import RouteParams.Proofs.Route.Alignment
import RouteParams.Proofs.Fallback.OwnPattern
import RouteParams.Proofs.Route.Views
import RouteParams.Proofs.Route.Nesting
import RouteParams.Proofs.Tree.Canonical
import RouteParams.Proofs.Json.Escape
import RouteParams.Proofs.Json.RoundTrip
import RouteParams.Proofs.CommandLine.Answer
import RouteParams.Proofs.CommandLine.SeedItems
import RouteParams.Proofs.Fallback.KeyTables
import RouteParams.Proofs.Resolution.PrimaryLast
import RouteParams.Proofs.Resolution.Chronicle
import RouteParams.Proofs.CommandLine.TableLines
import RouteParams.Proofs.Sessions

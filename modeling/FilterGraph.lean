import FilterGraph.CommandLine.Outcome
import FilterGraph.Main
import FilterGraph.Proofs.Reading
import FilterGraph.Proofs.Routes
import FilterGraph.Rehearsal.Host
import FilterGraph.Proofs.Json.Scalars
import FilterGraph.Proofs.Json.Spacing
import FilterGraph.Proofs.Refusals
import FilterGraph.Proofs.Streams
import FilterGraph.Proofs.Json.Understanding
import FilterGraph.Proofs.Json.Values
import FilterGraph.Proofs.Json.Skipping
import FilterGraph.Proofs.Json.Records
import FilterGraph.Proofs.Json.Drafts
import FilterGraph.Proofs.Descriptions
import FilterGraph.Proofs.Parameters
import FilterGraph.Proofs.Reloading
import FilterGraph.Proofs.Schema
import FilterGraph.Proofs.Commands
import FilterGraph.Proofs.ShownLines
import FilterGraph.Proofs.Words
import FilterGraph.Proofs.Invocations
import FilterGraph.Proofs.FirstFailure
import FilterGraph.Proofs.Modes
import FilterGraph.Proofs.Shorthands
import FilterGraph.Proofs.Arguments
import FilterGraph.Proofs.FirstFault
import FilterGraph.Proofs.Reordering
import FilterGraph.Proofs.Building
import FilterGraph.Proofs.Renaming
import FilterGraph.Proofs.Noninterference
import FilterGraph.Proofs.Layouts
import FilterGraph.Proofs.Lookups
import FilterGraph.Proofs.Overlays
import FilterGraph.Proofs.Repetitions
import FilterGraph.Proofs.Events
import FilterGraph.Proofs.Json.Choices
import FilterGraph.Proofs.Json.Defaults
import FilterGraph.Proofs.Json.Endings
import FilterGraph.Proofs.Numerals
import FilterGraph.Proofs.Options
import FilterGraph.Proofs.Switches
import FilterGraph.Proofs.Overrides
import FilterGraph.Proofs.Truncation

import SdkGraft.Text.Basic
import SdkGraft.Text.Blank
import SdkGraft.Text.WordChar
import SdkGraft.Text.CharName
import SdkGraft.Text.Lower
import SdkGraft.Text.Quoted
import SdkGraft.Text.Breaks
import SdkGraft.Text.Utf8
import SdkGraft.Number.Shortest
import SdkGraft.Value.Moment
import SdkGraft.Value.Basic
import SdkGraft.Value.Whole
import SdkGraft.Value.Display
import SdkGraft.Value.Compact
import SdkGraft.Source.Code
import SdkGraft.Source.Import
import SdkGraft.Source.Indent
import SdkGraft.Source.Anchor
import SdkGraft.Source.Document
import SdkGraft.Credentials
import SdkGraft.Source.Snippet
import SdkGraft.Source.Graft
import SdkGraft.Patch.Script
import SdkGraft.Patch.Hunk
import SdkGraft.Patch.Unified
import SdkGraft.Ignore.Piece
import SdkGraft.Ignore.Pattern
import SdkGraft.Ignore.Exclusions
import SdkGraft.Tree.Path
import SdkGraft.Tree.Basic
import SdkGraft.Tree.Walk
import SdkGraft.Tree.Write
import SdkGraft.Tree.Plant
import SdkGraft.Toml.Scan
import SdkGraft.Toml.Quote
import SdkGraft.Toml.Number
import SdkGraft.Toml.Nest
import SdkGraft.Toml.Value
import SdkGraft.Toml.Document
import SdkGraft.Fault
import SdkGraft.Settings.Basic
import SdkGraft.Settings.Discovery
import SdkGraft.Install.Progress
import SdkGraft.Install.Locate
import SdkGraft.Install.Mutation
import SdkGraft.Install.Run
import SdkGraft.Install.Detect
import SdkGraft.Console.Width
import SdkGraft.Console.Painted
import SdkGraft.Console.Wrap
import SdkGraft.Console.Spread
import SdkGraft.Console.Emoji
import SdkGraft.Console.Literal
import SdkGraft.Console.Style
import SdkGraft.Console.Markup
import SdkGraft.Console.Screen
import SdkGraft.Console.Machine
import SdkGraft.Console.Table
import SdkGraft.CommandLine.Options
import SdkGraft.CommandLine.Command
import SdkGraft.Install.Rendering
import SdkGraft.CommandLine.Run
import SdkGraft.Service.Tools
import SdkGraft.Main
import SdkGraft.Proofs.Source.Lexing
import SdkGraft.Proofs.Text.Occurrence
import SdkGraft.Proofs.Text.Transcoding
import SdkGraft.Proofs.Source.SnippetLines
import SdkGraft.Proofs.Source.SnippetCode
import SdkGraft.Proofs.Source.GraftEffect
import SdkGraft.Proofs.Source.Injection
import SdkGraft.Proofs.Source.Neutrality
import SdkGraft.Proofs.Bind
import SdkGraft.Proofs.Install.Calls
import SdkGraft.Proofs.Install.Frame
import SdkGraft.Proofs.Install.Sources
import SdkGraft.Proofs.Install.Bytes
import SdkGraft.Proofs.Install.Detection
import SdkGraft.Proofs.Source.CommentText
import SdkGraft.Proofs.Install.DryRun
import SdkGraft.Proofs.Install.Independence
import SdkGraft.Proofs.Install.Progress
import SdkGraft.Proofs.Source.GraftCode
import SdkGraft.Proofs.Source.Inside
import SdkGraft.Proofs.Source.Liveness
import SdkGraft.Proofs.Source.NewConstructor
import SdkGraft.Proofs.Source.Reanalysis
import SdkGraft.Proofs.Install.StepStates
import SdkGraft.Proofs.Patch.Correct
import SdkGraft.Proofs.Source.EnsuredImport
import SdkGraft.Proofs.Source.ReportedPlaces
import SdkGraft.Proofs.Source.ConstructorSearch
import SdkGraft.Proofs.Install.RoundTrip
import SdkGraft.Proofs.Install.AllOrNothing
import SdkGraft.Proofs.Settings.Precedence
import SdkGraft.Proofs.Ignore.Exact
import SdkGraft.Proofs.Install.Accepted
import SdkGraft.Proofs.Source.Levels
import SdkGraft.Proofs.Install.Credentials
import SdkGraft.Proofs.CommandLine.Detect

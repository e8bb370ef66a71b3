import HttpConformance.Suite.Json
import HttpConformance.Assertion.Run
import HttpConformance.Log.Logger
import HttpConformance.Json.Printer
import HttpConformance.Report
import HttpConformance.Suite.Run
import HttpConformance.CommandLine.Message
import HttpConformance.Program
import HttpConformance.Simulation.World
import HttpConformance.Main
import HttpConformance.Proofs.Hexadecimal
import HttpConformance.Proofs.Decimal
import HttpConformance.Proofs.Text.Trim
import HttpConformance.Proofs.Message.Interim
import HttpConformance.Proofs.Message.RoundTrip
import HttpConformance.Proofs.Message.ChunkedStep
import HttpConformance.Proofs.Message.ChunkedGrammar
import HttpConformance.Proofs.Message.Growth
import HttpConformance.Proofs.Network.Collecting
import HttpConformance.Proofs.Message.Outcome
import HttpConformance.Proofs.Message.StatusLine
import HttpConformance.Proofs.Message.Folding
import HttpConformance.Proofs.Message.Truncation
import HttpConformance.Proofs.Network.Segmentation
import HttpConformance.Proofs.Network.ShortBody
import HttpConformance.Proofs.ContentType
import HttpConformance.Proofs.Check.Requirement
import HttpConformance.Proofs.Check.Evaluate
import HttpConformance.Proofs.Network.Url
import HttpConformance.Proofs.Network.Faults
import HttpConformance.Proofs.Assertion.Surroundings
import HttpConformance.Proofs.Assertion.OverNetwork
import HttpConformance.Proofs.Assertion.Redirects
import HttpConformance.Proofs.Assertion.FatalVerdict
import HttpConformance.Proofs.Substitution.Idempotence
import HttpConformance.Proofs.Substitution.Lines
import HttpConformance.Proofs.Message.RequestText
import HttpConformance.Proofs.Substitution.Request
import HttpConformance.Proofs.Expectation.Refusal
import HttpConformance.Proofs.Assertion.Building
import HttpConformance.Proofs.Text.Words
import HttpConformance.Proofs.Text.Join
import HttpConformance.Proofs.Expectation.PredicateList
import HttpConformance.Proofs.Substitution.PredicateList
import HttpConformance.Proofs.Variables
import HttpConformance.Proofs.Configuration.RunVariables
import HttpConformance.Proofs.Message.RequestDraft
import HttpConformance.Proofs.Redirect.FollowUp
import HttpConformance.Proofs.Redirect.Chain
import HttpConformance.Proofs.Cookie.Quoting
import HttpConformance.Proofs.Cookie.PairList
import HttpConformance.Proofs.Cookie.SentBack
import HttpConformance.Proofs.Check.GoldenLines
import HttpConformance.Proofs.Configuration.Precedence
import HttpConformance.Proofs.Text.Ascii
import HttpConformance.Proofs.Text.Lowercase
import HttpConformance.Proofs.Check.GoldenModes
import HttpConformance.Proofs.Check.HeaderMatching
import HttpConformance.Proofs.Message.ChunkedFinality
import HttpConformance.Proofs.Message.Acceptance
import HttpConformance.Proofs.Resource.Confinement
import HttpConformance.Proofs.Redirect.Place
import HttpConformance.Proofs.Redirect.Reference
import HttpConformance.Proofs.Redirect.RootedTarget
import HttpConformance.Proofs.Expectation.WrittenList
import HttpConformance.Proofs.Cookie.Attributes
import HttpConformance.Proofs.Message.ReadBack
import HttpConformance.Proofs.Suite.WellFormed
import HttpConformance.Proofs.Check.FirstDifference
import HttpConformance.Proofs.Configuration.Sanitizing
import HttpConformance.Proofs.Simulation.FileContent
import HttpConformance.Proofs.Log.Logbook

import TokenPattern.Unicode.CaseFolding
import TokenPattern.Program
import TokenPattern.Document.Json
import TokenPattern.PatternConfig.Decode
import TokenPattern.Registry.Characters
import TokenPattern.Unicode.PropertyName
import TokenPattern.Matcher.CharClass
import TokenPattern.Matcher.IgnoreCase
import TokenPattern.Catalog
import TokenPattern.Regex
import TokenPattern.Regex.Escape
import TokenPattern.Matcher.WholeText
import TokenPattern.Registry.Words
import TokenPattern.Yaml.Scalar
import TokenPattern.Yaml.Node
import TokenPattern.Fixture
import TokenPattern.Fixture.Decode
import TokenPattern.CommandLine.Arguments
import TokenPattern.CommandLine.Report
import TokenPattern.Main
import TokenPattern.Proofs.Derivations
import TokenPattern.Proofs.Groups
import TokenPattern.Proofs.Repetition
import TokenPattern.Proofs.Frontier.Limit
import TokenPattern.Proofs.Program.Agreement
import TokenPattern.Proofs.Position.Neighbours
import TokenPattern.Proofs.Position.Automaton
import TokenPattern.Proofs.Captured
import TokenPattern.Proofs.Registry.Validity
import TokenPattern.Proofs.Registry.Meaning
import TokenPattern.Proofs.Match.Reconstruction
import TokenPattern.Proofs.Catalog.Unambiguous
import TokenPattern.Proofs.Net.Site
import TokenPattern.Proofs.Graph.Operators
import TokenPattern.Proofs.Frontier.Crossings
import TokenPattern.Proofs.Program.Algebra
import TokenPattern.Proofs.Program.Splits
import TokenPattern.Proofs.Match.Misfit
import TokenPattern.Proofs.Frontier.DepthFirst
import TokenPattern.Proofs.Program.Account
import TokenPattern.Proofs.Program.Ungrouped
import TokenPattern.Proofs.Program.Choices
import TokenPattern.Proofs.Repetition.Compositions
import TokenPattern.Proofs.Catalog.DomainName
import TokenPattern.Proofs.Catalog.Email
import TokenPattern.Proofs.Fixture.Verdicts
import TokenPattern.Proofs.Draft.Schedules
import TokenPattern.Proofs.Draft.Turns
import TokenPattern.Proofs.Regex.WholeText

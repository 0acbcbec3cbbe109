import BrowserScript.Assertion
import BrowserScript.Baseline.PageScan
import BrowserScript.Main
import BrowserScript.Proofs.Program.Accepted
import BrowserScript.Proofs.Program.Source
import BrowserScript.Proofs.Baseline.Occurrence
import BrowserScript.Proofs.Baseline.Analysis
import BrowserScript.Proofs.Baseline.Candidate
import BrowserScript.Proofs.Baseline.Lookup
import BrowserScript.Proofs.Baseline.Site
import BrowserScript.Proofs.Baseline.Provenance
import BrowserScript.Proofs.Baseline.Loosening
import BrowserScript.Proofs.Text.Lines
import BrowserScript.Proofs.Value.OneLine
import BrowserScript.Proofs.Value.Quoted
import BrowserScript.Proofs.Value.Reader
import BrowserScript.Proofs.Value.RoundTrip
import BrowserScript.Proofs.Baseline.PageScan
import BrowserScript.Proofs.Css.Continuation
import BrowserScript.Proofs.Css.Lexemes
import BrowserScript.Proofs.Css.Sheet
import BrowserScript.Proofs.Baseline.Sheets
import BrowserScript.Proofs.Number.Whole
import BrowserScript.Proofs.Schema.Truth
import BrowserScript.Proofs.Number.Notation
import BrowserScript.Proofs.Schema.Number
import BrowserScript.Proofs.Program.Truth
import BrowserScript.Proofs.Program.Number
import BrowserScript.Proofs.Program.Uniform
import BrowserScript.Proofs.Baseline.AtRule
import BrowserScript.Proofs.Text.Wrap
import BrowserScript.Proofs.Baseline.ReportText
import BrowserScript.Proofs.Number.Shortest
import BrowserScript.Proofs.Value.Token
import BrowserScript.Proofs.Value.Evaluate
import BrowserScript.Proofs.Program.SelfContained
import BrowserScript.Proofs.Program.Skipped
import BrowserScript.Proofs.Script.Plan
import BrowserScript.Proofs.Baseline.Accumulator
import BrowserScript.Proofs.Effect
import BrowserScript.Proofs.Files
import BrowserScript.Proofs.CommandLine.Compile
import BrowserScript.Proofs.Baseline.Absorption
import BrowserScript.Proofs.Baseline.Order
import BrowserScript.Proofs.Json.ReadBack
import BrowserScript.Proofs.Baseline.ReportData
import BrowserScript.Proofs.Baseline.Recursion
import BrowserScript.Proofs.Baseline.Request
import BrowserScript.Proofs.Program.Goto
import BrowserScript.Proofs.Yaml.Reading
import BrowserScript.Proofs.Yaml.Scalar
import BrowserScript.Proofs.Yaml.Property
import BrowserScript.Proofs.Yaml.TokenSequence
import BrowserScript.Proofs.Yaml.Content
import BrowserScript.Proofs.Schema.Script
import BrowserScript.Proofs.Baseline.Highlight
import BrowserScript.Proofs.Baseline.Listing
import BrowserScript.Proofs.Baseline.Malformed
import BrowserScript.Proofs.Css.Spelling
import BrowserScript.Proofs.Baseline.Grouping
import BrowserScript.Proofs.Assertion
import BrowserScript.Proofs.Duration.Grammar
import BrowserScript.Proofs.Schema.FirstFault
import BrowserScript.Proofs.Schema.UnknownKeys
import BrowserScript.Proofs.Baseline.Version
import BrowserScript.Proofs.Baseline.PseudoNames
import BrowserScript.Proofs.Baseline.Registry

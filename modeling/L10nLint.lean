import L10nLint.Unicode.RangeTable
import L10nLint.Unicode.DecimalDigit
import L10nLint.Unicode.CaseMapping
import L10nLint.Unicode.GraphemeBreak
import L10nLint.Unicode.Printable
import L10nLint.Unicode.BidiClass
import L10nLint.Unicode.JoiningType
import L10nLint.Unicode.CombiningClass
import L10nLint.Unicode.IdnaMapping
import L10nLint.Unicode.WhiteSpace
import L10nLint.Text.Trim
import L10nLint.Text.Case
import L10nLint.Key.Accessor
import L10nLint.Placeholder
import L10nLint.Text.Quoted
import L10nLint.Severity
import L10nLint.Number.Binary64
import L10nLint.Json.Value
import L10nLint.Json.Read
import L10nLint.Json.Write
import L10nLint.Violation
import L10nLint.Comment.Vocabulary
import L10nLint.Preset
import L10nLint.Text.Grapheme
import L10nLint.Url.Punycode
import L10nLint.Url.Idna
import L10nLint.Url.Host
import L10nLint.Url.Valid
import L10nLint.Record
import L10nLint.Comment.Problem
import L10nLint.Comment.Structured
import L10nLint.Comment.Validator
import L10nLint.Toml.Value
import L10nLint.Toml.Document
import L10nLint.Toml.Read
import L10nLint.Config
import L10nLint.Path
import L10nLint.Source
import L10nLint.Ignore
import L10nLint.JsonRecords
import L10nLint.Rule.Reason
import L10nLint.Rule.Comment
import L10nLint.Rule.Usage
import L10nLint.Rule
import L10nLint.LintResult
import L10nLint.Linter
import L10nLint.Proofs.UsageReport
import L10nLint.Proofs.KeyMatching
import L10nLint.Proofs.ByteOrder
import L10nLint.Proofs.CommentVerdict
import L10nLint.Proofs.ReportOrder
import L10nLint.Proofs.ReportTies
import L10nLint.Proofs.FileOrder
import L10nLint.Proofs.SourceComposition
import L10nLint.Proofs.CommentRuleReport
import L10nLint.Proofs.AsciiAccessor
import L10nLint.Proofs.PlaceholderScan
import L10nLint.Proofs.LegacyProfile
import L10nLint.Proofs.VocabularyWidening
import L10nLint.Proofs.SeverityResolution
import L10nLint.Proofs.SortedReport

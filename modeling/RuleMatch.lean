import RuleMatch.Cursor.Lemmas
import RuleMatch.Grammar.Building
import RuleMatch.Grammar.Inspect
import RuleMatch.Match.Operation
import RuleMatch.Rule.Combine
import RuleMatch.Settings.Loader
import RuleMatch.Settings.Toml.Backend
import RuleMatch.Proofs.Faults
import RuleMatch.Proofs.MatchedText
import RuleMatch.Proofs.PinFree
import RuleMatch.Proofs.Reports
import RuleMatch.Proofs.Splicing
import RuleMatch.Proofs.Termination
import RuleMatch.Proofs.Touching
import RuleMatch.Proofs.Correspondence
import RuleMatch.Proofs.TextInFront
import RuleMatch.Proofs.SeriesText
import RuleMatch.Proofs.Exactness
import RuleMatch.Proofs.Contexts
import RuleMatch.Proofs.Following
import RuleMatch.Proofs.Completion
import RuleMatch.Proofs.WithoutBlanks
import RuleMatch.Proofs.Names
import RuleMatch.Proofs.Sessions
import RuleMatch.Proofs.Alternatives
import RuleMatch.Proofs.Keywords
import RuleMatch.Proofs.FailingPart
import RuleMatch.Proofs.Repetition
import RuleMatch.Proofs.FirstMatch
import RuleMatch.Proofs.NestedRepetition
import RuleMatch.Proofs.RepeatedKeywords
import RuleMatch.Proofs.ListLanguage
import RuleMatch.Proofs.OtherSettings
import RuleMatch.Proofs.Logs
import RuleMatch.Proofs.Bracketings
import RuleMatch.Proofs.Advancing
import RuleMatch.Proofs.SkippingBlanks
import RuleMatch.Proofs.NestedFailures
import RuleMatch.Proofs.Flatness
import RuleMatch.Proofs.Descriptions
import RuleMatch.Proofs.Cells
import RuleMatch.Proofs.LayerOrder

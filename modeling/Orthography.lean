import Orthography.Affix.Compound
import Orthography.Affix.Condition
import Orthography.Affix.Grammar
import Orthography.Affix.Replacement
import Orthography.Affix.Rule
import Orthography.Affix.Settings
import Orthography.Affix.Statement
import Orthography.Character.AgeData
import Orthography.Character.Break
import Orthography.Character.Case
import Orthography.Character.CaseData
import Orthography.Character.CategoryData
import Orthography.Character.Flag
import Orthography.Character.FlagData
import Orthography.Character.LetterData
import Orthography.Character.Property
import Orthography.Character.Run
import Orthography.Character.ScriptData
import Orthography.Checking
import Orthography.CommandLine.Arguments
import Orthography.CommandLine.Files
import Orthography.CommandLine.Tool
import Orthography.Derivation
import Orthography.Dictionary.Frequency
import Orthography.Dictionary.Stems
import Orthography.Dictionary.Weight
import Orthography.EditDistance
import Orthography.Journal
import Orthography.Lexicon
import Orthography.Main
import Orthography.Normalization
import Orthography.Pattern.ClassScan
import Orthography.Pattern.Fault
import Orthography.Pattern.Flags
import Orthography.Pattern.Match
import Orthography.Pattern.Node
import Orthography.Pattern.Reader
import Orthography.Pattern.Scan
import Orthography.Proofs.Affix.Anchoring
import Orthography.Proofs.Affix.Blocks
import Orthography.Proofs.Affix.Concatenation
import Orthography.Proofs.Affix.Entries
import Orthography.Proofs.Affix.Gathered
import Orthography.Proofs.Affix.Layout
import Orthography.Proofs.Affix.Literal
import Orthography.Proofs.Affix.Occurrences
import Orthography.Proofs.Affix.Removal
import Orthography.Proofs.Affix.Spacing
import Orthography.Proofs.Affix.Truncation
import Orthography.Proofs.Affix.Written
import Orthography.Proofs.CacheHistory
import Orthography.Proofs.CacheLookup
import Orthography.Proofs.Checking
import Orthography.Proofs.CommandLine.Encoded
import Orthography.Proofs.CommandLine.Lines
import Orthography.Proofs.CommandLine.Options
import Orthography.Proofs.Compounds
import Orthography.Proofs.CompoundsOnly
import Orthography.Proofs.Derivation
import Orthography.Proofs.Derivation.Recursive
import Orthography.Proofs.Derivation.Stopping
import Orthography.Proofs.Derivation.Trails
import Orthography.Proofs.Dictionary.Written
import Orthography.Proofs.EditDistance.Bounded
import Orthography.Proofs.EditDistance.Changes
import Orthography.Proofs.EditDistance.Script
import Orthography.Proofs.Growth
import Orthography.Proofs.Pattern.ClassEmbedding
import Orthography.Proofs.Pattern.ClassScanning
import Orthography.Proofs.Pattern.Embedding
import Orthography.Proofs.Pattern.FixedWidth
import Orthography.Proofs.Pattern.Framing
import Orthography.Proofs.Pattern.Language
import Orthography.Proofs.Pattern.OpeningEmbedding
import Orthography.Proofs.Pattern.Progress
import Orthography.Proofs.Pattern.Reading
import Orthography.Proofs.Pattern.Scanning
import Orthography.Proofs.Pattern.Spelling
import Orthography.Proofs.Pattern.Width
import Orthography.Proofs.Reach.Closure
import Orthography.Proofs.Reach.Prefilter
import Orthography.Proofs.Reach.Root
import Orthography.Proofs.Reach.Totals
import Orthography.Proofs.Reach.Worklist
import Orthography.Proofs.Session.Accepted
import Orthography.Proofs.Session.Distances
import Orthography.Proofs.Session.History
import Orthography.Proofs.Session.Listed
import Orthography.Proofs.Session.Reordered
import Orthography.Proofs.Session.Run
import Orthography.Proofs.Session.Suggested
import Orthography.Proofs.Session.Widened
import Orthography.Proofs.Session.Withheld
import Orthography.Proofs.Suggestion.Collected
import Orthography.Proofs.Suggestion.Corrections
import Orthography.Proofs.Suggestion.Offered
import Orthography.Proofs.Suggestion.Recorded
import Orthography.Proofs.Suggestion.Run
import Orthography.Proofs.Suggestion.Weighed
import Orthography.Proofs.Text.Cutting
import Orthography.Proofs.Text.Recasing
import Orthography.Proofs.Text.Written
import Orthography.Reach
import Orthography.ResultCache
import Orthography.Session
import Orthography.Suggestion.Candidates
import Orthography.Suggestion.Ranking
import Orthography.Suggestion.Source
import Orthography.Table
import Orthography.Text.Basic
import Orthography.Text.Case
import Orthography.Text.Order

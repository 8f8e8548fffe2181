import AttributeRules.Main
import AttributeRules.Proofs.Evaluation
import AttributeRules.Proofs.Grammar
import AttributeRules.Proofs.Nesting
import AttributeRules.Proofs.Reading
import AttributeRules.Proofs.RoundTrip
import AttributeRules.Proofs.Trim
import AttributeRules.Proofs.Joining
import AttributeRules.Proofs.ContextShape
import AttributeRules.Proofs.Rounding
import AttributeRules.Proofs.SavedConfig
import AttributeRules.Proofs.ConfigProblems
import AttributeRules.Proofs.Files
import AttributeRules.Proofs.ConfigCommands
import AttributeRules.Proofs.NumericSettings
import AttributeRules.Proofs.SavedFiles
import AttributeRules.Proofs.Checks
import AttributeRules.Proofs.RuleChanges
import AttributeRules.Proofs.FileEffects
import AttributeRules.Proofs.OutputModes
import AttributeRules.Proofs.Runs
import AttributeRules.Proofs.JsonText
import AttributeRules.Proofs.Responses
import AttributeRules.Proofs.TreeOfText
import AttributeRules.Proofs.Combination
import AttributeRules.Proofs.Operands
import AttributeRules.Proofs.Words
import AttributeRules.Proofs.ByteOrder
import AttributeRules.Proofs.Comparators
import AttributeRules.Proofs.Thresholds
import AttributeRules.Proofs.Edits
import AttributeRules.Proofs.Suggestions
import AttributeRules.Proofs.Numerals
import AttributeRules.Proofs.ConfigEntries
import AttributeRules.Proofs.Drawing
import AttributeRules.Proofs.ByteReading
import AttributeRules.Proofs.Spelling
import AttributeRules.Proofs.ContextText

import GreedyMatch.Capture.Display
import GreedyMatch.CharSet.Reading
import GreedyMatch.Matcher.Build
import GreedyMatch.Matcher.Description
import GreedyMatch.Matcher.Lemmas
import GreedyMatch.Matcher.Search
import GreedyMatch.Quantifier.Reading
import GreedyMatch.Proofs.Attempts
import GreedyMatch.Proofs.Construction
import GreedyMatch.Proofs.Extent
import GreedyMatch.Proofs.PlainLoop
import GreedyMatch.Proofs.CapturedText
import GreedyMatch.Proofs.CaptureShape
import GreedyMatch.Proofs.Offsets
import GreedyMatch.Proofs.EndingCharacter
import GreedyMatch.Proofs.SingleChild
import GreedyMatch.Proofs.Alternatives
import GreedyMatch.Proofs.Regrouping
import GreedyMatch.Proofs.RepeatedAgain
import GreedyMatch.Proofs.SetGrammar
import GreedyMatch.Proofs.SetReading
import GreedyMatch.Proofs.SetWriting
import GreedyMatch.Proofs.CountedAttempts
import GreedyMatch.Proofs.Unrolling
import GreedyMatch.Proofs.Limits
import GreedyMatch.Proofs.ExecutedCalls
import GreedyMatch.Proofs.LoggedCalls
import GreedyMatch.Proofs.Fallbacks
import GreedyMatch.Proofs.ReadingErrors
import GreedyMatch.Proofs.Searching
import GreedyMatch.Proofs.Widths
import GreedyMatch.Proofs.QuantifierGrammar
import GreedyMatch.Proofs.QuantifierReading
import GreedyMatch.Proofs.SetUnion
import GreedyMatch.Proofs.WrittenCaptures
import GreedyMatch.Proofs.LeafRuns
import GreedyMatch.Proofs.OneCharacter
import GreedyMatch.Proofs.LetterByLetter
import GreedyMatch.Proofs.Acceptance
import GreedyMatch.Proofs.BoundedProgress

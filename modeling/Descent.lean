import Descent.Evaluation
import Descent.Text.Quoted
import Descent.Vocabulary.Check
import Descent.Vocabulary.Continuation
import Descent.Vocabulary.Handwritten
import Descent.Proofs.Cursor
import Descent.Proofs.Evaluation.Comparison
import Descent.Proofs.Leaf
import Descent.Proofs.Evaluation.Correspondence
import Descent.Proofs.Evaluation.Answer
import Descent.Proofs.Evaluation.Ensures
import Descent.Proofs.Safety
import Descent.Proofs.Peg
import Descent.Proofs.Pattern.Escape
import Descent.Proofs.Pattern.Class
import Descent.Proofs.Pattern.Group
import Descent.Proofs.Pattern.Anchored
import Descent.Proofs.ExplicitSkip
import Descent.Proofs.Wrapping
import Descent.Proofs.Regex.Search
import Descent.Proofs.SkipSearch
import Descent.Proofs.Regex.Reads
import Descent.Proofs.Termination
import Descent.Proofs.Spacing
import Descent.Proofs.Relocation
import Descent.Proofs.Renaming
import Descent.Proofs.FailureTrace
import Descent.Proofs.Arithmetic
import Descent.Proofs.Matching
import Descent.Proofs.FilteredSearch
import Descent.Proofs.Repetition
import Descent.Proofs.DerivedForms
import Descent.Proofs.Sequencing
import Descent.Proofs.Choice
import Descent.Proofs.Tokens
import Descent.Proofs.Rejection
import Descent.Proofs.Pattern.Acceptance.Anchored
import Descent.Proofs.Integers
import Descent.Proofs.Decimals
import Descent.Proofs.Delimiter
import Descent.Proofs.Parentheses
import Descent.Proofs.Addresses
import Descent.Proofs.SeparatedList
import Descent.Proofs.Text.Context
import Descent.Proofs.Literals

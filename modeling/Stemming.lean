import Stemming.Stem.Cascade
import Stemming.Main
import Stemming.Proofs.FixedPoint
import Stemming.Proofs.Locality
import Stemming.Proofs.Concatenation
import Stemming.Proofs.AbbreviationTable
import Stemming.Proofs.Casing
import Stemming.Proofs.Alphabet
import Stemming.Proofs.LineFilter
import Stemming.Proofs.Endpoints
import Stemming.Proofs.Precedence
import Stemming.Proofs.DeadRules
import Stemming.Proofs.EmptyTokens
import Stemming.Proofs.TokenGrammar
import Stemming.Proofs.StripNormalForm
import Stemming.Proofs.ExpansionClosure
import Stemming.Proofs.KeptCase
import Stemming.Proofs.Growth
import Stemming.Proofs.ConfigNumbers
import Stemming.Proofs.VowelRuns
import Stemming.Proofs.Cuts

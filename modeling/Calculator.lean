import Calculator.Main
import Calculator.Proofs.Literals
import Calculator.Proofs.Rendering
import Calculator.Proofs.Substitution
import Calculator.Tree.Record
import Calculator.Proofs.Numerals
import Calculator.Proofs.Guards
import Calculator.Proofs.Totality
import Calculator.Proofs.Precedence
import Calculator.Proofs.LexerRuns
import Calculator.Proofs.Lines
import Calculator.Proofs.Verbosity
import Calculator.Proofs.PostOrder
import Calculator.Proofs.Prospects
import Calculator.Proofs.Independence
import Calculator.Proofs.Sessions
import Calculator.Proofs.Chains
import Calculator.Proofs.Decomposition
import Calculator.Proofs.Blanks
import Calculator.Proofs.Rounding
import Calculator.Proofs.Classification
import Calculator.Proofs.Outlines
import Calculator.Proofs.Maximum
import Calculator.Proofs.Traces
import Calculator.Proofs.LeafTexts
import Calculator.Proofs.ExactValues
import Calculator.Proofs.PowerSigns
import Calculator.Proofs.Propagation
import Calculator.Proofs.UndefinedPowers
import Calculator.Proofs.Signs
import Calculator.Proofs.Switches
import Calculator.Proofs.Termination
import Calculator.Proofs.OddIntegers

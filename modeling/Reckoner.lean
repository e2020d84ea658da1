import Reckoner.Proofs.Grammar.LifeCycle
import Reckoner.Main
import Reckoner.Proofs.Evaluation.Discipline
import Reckoner.Proofs.Evaluation.Interference
import Reckoner.Proofs.Evaluation.Rollback
import Reckoner.Proofs.Settings.ReadBack
import Reckoner.Proofs.Syntax.Offence
import Reckoner.Proofs.Evaluation.Frame
import Reckoner.Proofs.Grammar.Likeness
import Reckoner.Proofs.Grammar.Growth
import Reckoner.Proofs.Grammar.Registration
import Reckoner.Proofs.Toml.Reading
import Reckoner.Proofs.Toml.Scalar
import Reckoner.Proofs.Toml.Document
import Reckoner.Proofs.Settings.Loading
import Reckoner.Proofs.CommandLine.Session
import Reckoner.Proofs.CommandLine.Evaluate
import Reckoner.Proofs.CommandLine.TokenTable
import Reckoner.Proofs.Evaluation.Climbing
import Reckoner.Proofs.Evaluation.Layout
import Reckoner.Proofs.Evaluation.Placement
import Reckoner.Proofs.Evaluation.Display
import Reckoner.Proofs.Evaluation.Erasure
import Reckoner.Proofs.Evaluation.Overflow
import Reckoner.Proofs.Number.HalfUp
import Reckoner.Proofs.Number.Power

import LogicTutor.Campus.Accounts
import LogicTutor.Campus.Action
import LogicTutor.Campus.Answers
import LogicTutor.Campus.Areas
import LogicTutor.Campus.Classes
import LogicTutor.Campus.Contents
import LogicTutor.Campus.Entry
import LogicTutor.Campus.Exercises
import LogicTutor.Campus.Fields
import LogicTutor.Campus.Lessons
import LogicTutor.Campus.Questions
import LogicTutor.Campus.Row
import LogicTutor.Campus.Search
import LogicTutor.Campus.Setup
import LogicTutor.Campus.Store
import LogicTutor.Campus.Students
import LogicTutor.Campus.View
import LogicTutor.Chance
import LogicTutor.Console.Demonstration
import LogicTutor.Console.Dialogue
import LogicTutor.Console.Trial
import LogicTutor.Credential.Basic
import LogicTutor.Decimal.Fixed
import LogicTutor.Decimal.Scaled
import LogicTutor.Decimal.Shortest
import LogicTutor.Digest.Sha256
import LogicTutor.Feature.Row
import LogicTutor.Feature.Usefulness
import LogicTutor.Form.Admin
import LogicTutor.Form.Basic
import LogicTutor.Form.Email
import LogicTutor.Form.Moment
import LogicTutor.Form.Platform
import LogicTutor.Formula.Basic
import LogicTutor.Formula.Parser
import LogicTutor.Formula.Proposition
import LogicTutor.Formula.Token
import LogicTutor.Formula.Valuation
import LogicTutor.Json.Basic
import LogicTutor.Json.Reader
import LogicTutor.Json.Writer
import LogicTutor.Latex
import LogicTutor.Law.Application
import LogicTutor.Law.Basic
import LogicTutor.Law.Position
import LogicTutor.Main
import LogicTutor.Prover.Advisor
import LogicTutor.Prover.Optimiser
import LogicTutor.Prover.Predictor
import LogicTutor.Prover.Report
import LogicTutor.Prover.Run
import LogicTutor.Prover.Strategy
import LogicTutor.Prover.Transcript
import LogicTutor.Reply.Basic
import LogicTutor.Reply.Outcome
import LogicTutor.Semantics.Equivalence
import LogicTutor.Semantics.Table
import LogicTutor.Settings
import LogicTutor.Text.Base64
import LogicTutor.Text.Blank
import LogicTutor.Text.Digit
import LogicTutor.Text.Letter
import LogicTutor.Text.Range
import LogicTutor.Time.Calendar
import LogicTutor.Training.Absurdity
import LogicTutor.Training.Constants
import LogicTutor.Training.Dataset
import LogicTutor.Training.Implication
import LogicTutor.Training.Sample
import LogicTutor.Training.Transformation
import LogicTutor.Tutor.Guide
import LogicTutor.Tutor.Verdict
import LogicTutor.Video
import LogicTutor.Web.App
import LogicTutor.Web.Request
import LogicTutor.Web.Route
import LogicTutor.Proofs.Formula.Meaning
import LogicTutor.Proofs.Law.Rewriting
import LogicTutor.Proofs.Law.Simplification
import LogicTutor.Proofs.Law.Soundness
import LogicTutor.Proofs.Prover.Moves
import LogicTutor.Proofs.Prover.Trail
import LogicTutor.Proofs.Prover.Soundness
import LogicTutor.Proofs.Formula.Grammar
import LogicTutor.Proofs.Formula.Lexing
import LogicTutor.Proofs.Formula.RoundTrip
import LogicTutor.Proofs.Prover.Rereading
import LogicTutor.Proofs.Semantics.Equivalence
import LogicTutor.Proofs.Prover.Progress
import LogicTutor.Proofs.Tutor.Verdict
import LogicTutor.Proofs.Formula.Spelling
import LogicTutor.Proofs.Prover.Entailment
import LogicTutor.Proofs.Prover.Derivation
import LogicTutor.Proofs.Semantics.Decision
import LogicTutor.Proofs.Formula.Parts
import LogicTutor.Proofs.Semantics.Tabulation
import LogicTutor.Proofs.Semantics.Negation
import LogicTutor.Formula.Glossary
import LogicTutor.Proofs.Feature.Usefulness
import LogicTutor.Proofs.Formula.Glossary
import LogicTutor.Proofs.Law.Locality
import LogicTutor.Proofs.Semantics.InnerOrder
import LogicTutor.Proofs.Law.Reach
import LogicTutor.Proofs.Prover.Optimisation
import LogicTutor.Proofs.Prover.StepCount
import LogicTutor.Proofs.Feature.Absurdity
import LogicTutor.Proofs.Feature.Agreement
import LogicTutor.Proofs.Campus.Frame
import LogicTutor.Proofs.Campus.Table
import LogicTutor.Proofs.Campus.Tree
import LogicTutor.Proofs.Campus.Forest
import LogicTutor.Proofs.Campus.Setup
import LogicTutor.Proofs.Campus.Effect
import LogicTutor.Proofs.Campus.Register
import LogicTutor.Proofs.Campus.Isolation
import LogicTutor.Proofs.Campus.Membership
import LogicTutor.Proofs.Campus.Syllabus
import LogicTutor.Proofs.Form.Loading
import LogicTutor.Proofs.Web.Reach
import LogicTutor.Proofs.Web.Classification
import LogicTutor.Proofs.Campus.Kind
import LogicTutor.Proofs.Campus.Cells
import LogicTutor.Proofs.Web.PartialUpdate
import LogicTutor.Proofs.Feature.Exactness
import LogicTutor.Proofs.Campus.Lessons
import LogicTutor.Proofs.Campus.Constraints
import LogicTutor.Proofs.Web.Constraints
import LogicTutor.Proofs.Formula.Identifier
import LogicTutor.Proofs.Training.Balance
import LogicTutor.Proofs.Latex.Braces
import LogicTutor.Proofs.Latex.Signs
import LogicTutor.Proofs.Latex.Arrows

import Repunits.Main
import Repunits.Repunit.Session
import Repunits.Proofs.Numeral.Carry
import Repunits.Proofs.Repunit.Residue
import Repunits.Proofs.Repunit.Table
import Repunits.Proofs.Repunit.Outcome
import Repunits.Proofs.Schedule
import Repunits.Proofs.Repunit.Access
import Repunits.Proofs.Repunit.Shared
import Repunits.Proofs.Repunit.Worker
import Repunits.Proofs.Repunit.Session
import Repunits.Proofs.Numeral.NormalForm
import Repunits.Proofs.Repunit.Queries
import Repunits.Proofs.Repunit.Verdict
import Repunits.Proofs.Repunit.Order
import Repunits.Proofs.Repunit.Footprint
import Repunits.Proofs.Exercise.Sink
import Repunits.Proofs.Exercise.Delivery
import Repunits.Proofs.Exercise.LeastLengths
import Repunits.Proofs.Exercise.PairResults
import Repunits.Proofs.Exercise.Answers
import Repunits.Proofs.Exercise.Cut
import Repunits.Proofs.Steps
import Repunits.Proofs.Pair
import Repunits.Proofs.Text.Words
import Repunits.Proofs.Text.Integer
import Repunits.Proofs.Text.Quoted
import Repunits.Proofs.Exercise.FirstFailure
import Repunits.Proofs.Exercise.PairLines
import Repunits.Proofs.Exercise.Recovery
import Repunits.Proofs.Program.Buffer
import Repunits.Proofs.Program.CommandLine
import Repunits.Proofs.Program.Run
import Repunits.Proofs.Repunit.InTurn
import Repunits.Proofs.Log.Search
import Repunits.Proofs.Exercise.Journal
import Repunits.Proofs.Program.Log
import Repunits.Proofs.Numeral.Reading
import Repunits.Proofs.Numeral.Arithmetic
import Repunits.Proofs.Numeral.Checked
import Repunits.Proofs.Repunit.Checked
import Repunits.Proofs.Exercise.Divisors
import Repunits.Proofs.Exercise.Pairs
import Repunits.Proofs.Repunit.Lockstep
import Repunits.Proofs.Repunit.Period

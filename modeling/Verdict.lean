import Verdict.Main
import Verdict.Plugin.Script
import Verdict.Proofs.Config.Enabled
import Verdict.Proofs.Config.Failure
import Verdict.Proofs.Document.Json
import Verdict.Proofs.Evaluation.Address
import Verdict.Proofs.Evaluation.Cache
import Verdict.Proofs.Evaluation.Negation
import Verdict.Proofs.Evaluation.Recall
import Verdict.Proofs.Evaluation.Reordering
import Verdict.Proofs.Evaluation.Target
import Verdict.Proofs.Fixture.Failure
import Verdict.Proofs.Fixture.Listing
import Verdict.Proofs.Fixture.Selection
import Verdict.Proofs.Log.Completeness
import Verdict.Proofs.Plugin.Positions
import Verdict.Proofs.Plugin.Registration
import Verdict.Proofs.Plugin.Required
import Verdict.Proofs.Project.Overlay
import Verdict.Proofs.Result.Wire
import Verdict.Proofs.Rule.Grammar
import Verdict.Proofs.Rule.Writing
import Verdict.Proofs.Simulation.Attempt
import Verdict.Proofs.Simulation.Forewarning
import Verdict.Proofs.Simulation.Isolation
import Verdict.Proofs.Simulation.Locality
import Verdict.Proofs.Simulation.Search
import Verdict.Proofs.Simulation.Usable
import Verdict.Proofs.Simulation.Verbosity
import Verdict.Proofs.Value.Equivalence
import Verdict.Proofs.Value.Selection
import Verdict.Proofs.Value.Spelling
import Verdict.Result.Reading

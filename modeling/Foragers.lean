import Foragers.Main
import Foragers.Proofs.EnergyShare
import Foragers.Proofs.Ledger
import Foragers.Proofs.Lineage
import Foragers.Proofs.Safety
import Foragers.Proofs.Trace
import Foragers.Proofs.Translation
import Foragers.Proofs.Balance
import Foragers.Proofs.RunLength
import Foragers.Proofs.Conduct
import Foragers.Proofs.Course
import Foragers.Proofs.Regrowth
import Foragers.Proofs.Refusal
import Foragers.Proofs.Denotation
import Foragers.Proofs.Listing
import Foragers.Proofs.Surplus
import Foragers.Proofs.Reach
import Foragers.Proofs.Certainty
import Foragers.Proofs.Sinks
import Foragers.Proofs.Concatenation
import Foragers.Proofs.Feeding
import Foragers.Proofs.Foraging
import Foragers.Proofs.Famine
import Foragers.Proofs.FirstFault
import Foragers.Proofs.Tracking
import Foragers.Proofs.Depiction
import Foragers.Proofs.Rotation
import Foragers.Proofs.Diagnosis
import Foragers.Proofs.Trials
import Foragers.Proofs.Attempt
import Foragers.Proofs.Numeral
import Foragers.Proofs.LineEnds
import Foragers.Proofs.Seeding

import Criteria.Service.Basic
import Criteria.Service.Publication
import Criteria.Settings.Load
import Criteria.Settings.LogFilter
import Criteria.Proofs.Evaluation.Duality
import Criteria.Proofs.Evaluation.Numerals
import Criteria.Proofs.Evaluation.Reliance
import Criteria.Proofs.Evaluation.Replay
import Criteria.Proofs.Outline.Findings
import Criteria.Proofs.Rule.Economy
import Criteria.Proofs.Rule.Ending
import Criteria.Proofs.Rule.Gathering
import Criteria.Proofs.Rule.Viability
import Criteria.Proofs.Service.Clarity
import Criteria.Proofs.Service.Counting
import Criteria.Proofs.Service.Return
import Criteria.Proofs.Service.Tracing
import Criteria.Proofs.Settings.Layers
import Criteria.Proofs.Store.Interleaving
import Criteria.Proofs.Store.Ledger
import Criteria.Proofs.Token.Spacing

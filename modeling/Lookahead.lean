import Lookahead.Source.Reading
import Lookahead.Report
import Lookahead.Main
import Lookahead.Proofs.Follow.Derivation
import Lookahead.Proofs.Follow.Start
import Lookahead.Proofs.Source.RoundTrip
import Lookahead.Proofs.Source.ReaderFaults
import Lookahead.First.InPlace
import Lookahead.Proofs.First.InPlace
import Lookahead.Proofs.Simulation
import Lookahead.Proofs.Renaming
import Lookahead.Proofs.Invariance
import Lookahead.Proofs.Source.Relocation
import Lookahead.Proofs.Source.Spacing
import Lookahead.Proofs.Source.Gaps
import Lookahead.Proofs.Report.Suffixes
import Lookahead.Proofs.Report.ReadBack
import Lookahead.Proofs.Source.Quotes
import Lookahead.Proofs.Source.Alternatives
import Lookahead.Proofs.Text.Numbering
import Lookahead.Proofs.Program.Messages
import Lookahead.Proofs.Calls
import Lookahead.Proofs.Lookups

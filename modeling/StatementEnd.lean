import StatementEnd.Session.Reader
import StatementEnd.Session.Text
import StatementEnd.Session.Units
import StatementEnd.Text.Boundary
import StatementEnd.Proofs.Octets
import StatementEnd.Proofs.KeptText
import StatementEnd.Proofs.Reading
import StatementEnd.Proofs.Progress
import StatementEnd.Proofs.Walk
import StatementEnd.Proofs.FillerGrammar
import StatementEnd.Proofs.FillerPrefix
import StatementEnd.Proofs.CommentTokens
import StatementEnd.Proofs.HostAgreement
import StatementEnd.Proofs.NextLine
import StatementEnd.Proofs.StatementEnds
import StatementEnd.Proofs.Operations
import StatementEnd.Proofs.CallOrder
import StatementEnd.Proofs.Consumption
import StatementEnd.Proofs.CommentReadings
import StatementEnd.Proofs.ScanContract
import StatementEnd.Proofs.UnitLockstep
import StatementEnd.Proofs.EndAtZero
import StatementEnd.Proofs.SessionRuns
import StatementEnd.Proofs.TokenOrder
import StatementEnd.Proofs.Restart
import StatementEnd.Proofs.Lookahead
import StatementEnd.Proofs.LineSearch
import StatementEnd.Proofs.EntryCalls
import StatementEnd.Proofs.ReadOut
import StatementEnd.Proofs.SafeReads
import StatementEnd.Proofs.DecisionStop
import StatementEnd.Proofs.AddedRangeStarts
import StatementEnd.Proofs.InsertedFiller
import StatementEnd.Proofs.InvalidUnits
import StatementEnd.Proofs.TextSlices
import StatementEnd.Proofs.RegionMembership
import StatementEnd.Proofs.CommentRounds
import StatementEnd.Proofs.CommentDepth
import StatementEnd.Proofs.ScanTrace

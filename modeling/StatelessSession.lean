import StatelessSession.Session.Workspace
import StatelessSession.Transaction.Bench
import StatelessSession.Options.Reader
import StatelessSession.Proofs.Transaction.Refinement
import StatelessSession.Proofs.Transaction.Invariant
import StatelessSession.Proofs.Transaction.Stack
import StatelessSession.Proofs.Sql.Declaration
import StatelessSession.Proofs.Sql.ReadBack
import StatelessSession.Proofs.Sql.Decision
import StatelessSession.Proofs.Transaction.Validity
import StatelessSession.Proofs.Transaction.Report
import StatelessSession.Proofs.Transaction.Isolation
import StatelessSession.Proofs.Session.Run
import StatelessSession.Proofs.Session.ServerFacts
import StatelessSession.Proofs.Session.Slot
import StatelessSession.Proofs.Session.Failures
import StatelessSession.Proofs.Session.Turns
import StatelessSession.Proofs.Session.Closed
import StatelessSession.Proofs.Session.Holders
import StatelessSession.Proofs.Session.Shutdown
import StatelessSession.Proofs.Session.Ids
import StatelessSession.Proofs.Session.Open
import StatelessSession.Proofs.Session.Prepared
import StatelessSession.Proofs.Session.Validation
import StatelessSession.Proofs.Session.Redaction
import StatelessSession.Proofs.Session.Secrecy
import StatelessSession.Proofs.Session.Probe
import StatelessSession.Proofs.Sql.Vacant
import StatelessSession.Proofs.Sql.Names
import StatelessSession.Proofs.Sql.Layout
import StatelessSession.Proofs.Sql.Escapes
import StatelessSession.Proofs.Sql.Lines
import StatelessSession.Proofs.Sql.InRange
import StatelessSession.Proofs.Sql.Balance
import StatelessSession.Proofs.Sql.Instants
import StatelessSession.Proofs.Session.Rows
import StatelessSession.Proofs.Session.ClientInfo
import StatelessSession.Proofs.Sql.Arguments
import StatelessSession.Proofs.Sql.Segments
import StatelessSession.Proofs.Version.RoundTrip
import StatelessSession.Proofs.ResultSet

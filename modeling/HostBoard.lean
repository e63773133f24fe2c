import HostBoard.Client.Routes
import HostBoard.Main
import HostBoard.Proofs.Client.Tables
import HostBoard.Proofs.Config.Effective
import HostBoard.Proofs.Config.Layering
import HostBoard.Proofs.Config.Loading
import HostBoard.Proofs.Config.Timeout
import HostBoard.Proofs.Net.Redirects
import HostBoard.Proofs.Page.History
import HostBoard.Proofs.Page.Report
import HostBoard.Proofs.Payload.Canonical
import HostBoard.Proofs.Payload.RoundTrip
import HostBoard.Proofs.Payload.Shapes
import HostBoard.Proofs.Program.ExitCode
import HostBoard.Proofs.Service.AppendOnly
import HostBoard.Proofs.Service.Combined
import HostBoard.Proofs.Service.Endings
import HostBoard.Proofs.Service.Flight
import HostBoard.Proofs.Service.HostsError
import HostBoard.Proofs.Service.Isolation
import HostBoard.Proofs.Service.LogHistory
import HostBoard.Proofs.Service.LogLines
import HostBoard.Proofs.Service.Provenance
import HostBoard.Proofs.Service.Rejection
import HostBoard.Proofs.Service.Reports
import HostBoard.Proofs.Service.Statuses
import HostBoard.Proofs.Service.Trace
import HostBoard.Proofs.Text.Utf8
import HostBoard.Proofs.Toml.Integers
import HostBoard.Proofs.Url.Bases
import HostBoard.Proofs.Url.References
import HostBoard.Proofs.Web.Agreement
import HostBoard.Proofs.Web.Escaping
import HostBoard.Service.Operation
import HostBoard.Web.Component

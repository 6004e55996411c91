import HostedModules.Admin.Named
import HostedModules.Channel.Named
import HostedModules.Operation.Named
import HostedModules.Registry
import HostedModules.Session
import HostedModules.Proofs.Future.Evolution
import HostedModules.Proofs.Future.Run
import HostedModules.Proofs.Future.Reference
import HostedModules.Proofs.Future.Ended
import HostedModules.Proofs.Future.Chain
import HostedModules.Proofs.Future.Waiting
import HostedModules.Proofs.Future.Suppressed
import HostedModules.Proofs.Future.Preorder
import HostedModules.Proofs.Future.Turns
import HostedModules.Proofs.Admin.Trace
import HostedModules.Proofs.Admin.Segments
import HostedModules.Proofs.Admin.FirstFailure
import HostedModules.Proofs.Admin.Pages
import HostedModules.Proofs.Admin.Hostnames
import HostedModules.Proofs.Admin.Layout
import HostedModules.Proofs.Admin.Unambiguous
import HostedModules.Proofs.Admin.Update
import HostedModules.Proofs.Traffic.Selection
import HostedModules.Proofs.Dispatch.Start
import HostedModules.Proofs.Dispatch.Refused
import HostedModules.Proofs.Dispatch.Exclusive
import HostedModules.Proofs.Dispatch.Seen
import HostedModules.Proofs.Dispatch.Sent
import HostedModules.Proofs.Channel.Failures
import HostedModules.Proofs.Channel.Readable
import HostedModules.Proofs.Channel.Agreement
import HostedModules.Proofs.Channel.RoundTrip
import HostedModules.Proofs.Channel.Arguments
import HostedModules.Proofs.Operation.Documented
import HostedModules.Proofs.Operation.Defaults
import HostedModules.Proofs.Number.Numerals
import HostedModules.Proofs.Session.Run
import HostedModules.Proofs.Session.Carried
import HostedModules.Proofs.Session.Flight
import HostedModules.Proofs.Session.Waiting
import HostedModules.Proofs.Session.StandAlone
import HostedModules.Proofs.Session.Escapes
import HostedModules.Proofs.Session.Updates
import HostedModules.Proofs.Session.Counts
import HostedModules.Proofs.Session.Counted
import HostedModules.Proofs.Session.Instances
import HostedModules.Proofs.Session.Addresses
import HostedModules.Proofs.Session.Defaults
import HostedModules.Proofs.Session.Unread
import HostedModules.Proofs.Session.Fields
import HostedModules.Proofs.Session.Blocks

import Runbook.Chain.Compile
import Runbook.Chain.Debug
import Runbook.Chain.Execute
import Runbook.Chain.Load
import Runbook.Chain.Outline
import Runbook.CommandLine
import Runbook.Config.Load
import Runbook.Document.Value
import Runbook.Main
import Runbook.Network.Pump
import Runbook.Rehearsal.Stage
import Runbook.Rehearsal.Streams
import Runbook.Proofs.Chain.Scope
import Runbook.Proofs.Session.Conduct
import Runbook.Proofs.Session.Place
import Runbook.Proofs.Discovery.Quiet
import Runbook.Proofs.Chain.Listing
import Runbook.Proofs.Chain.Visit
import Runbook.Proofs.Chain.Compiled
import Runbook.Proofs.Chain.FailFast
import Runbook.Proofs.Chain.Connections
import Runbook.Proofs.Chain.Moments
import Runbook.Proofs.Chain.Credentials
import Runbook.Proofs.Chain.Watch
import Runbook.Proofs.Chain.Lifecycle
import Runbook.Proofs.Chain.Paired
import Runbook.Proofs.Session.Likeness
import Runbook.Proofs.Chain.Secrets
import Runbook.Proofs.Chain.Inline
import Runbook.Proofs.Chain.Invisible
import Runbook.Proofs.Session.Actions
import Runbook.Proofs.Session.Targets
import Runbook.Proofs.Chain.Meaning
import Runbook.Proofs.Chain.Output
import Runbook.Proofs.Chain.Preview
import Runbook.Proofs.Discovery.Steady
import Runbook.Proofs.Chain.Repeat
import Runbook.Proofs.Session.Grammar
import Runbook.Proofs.Session.Unaddressed
import Runbook.Proofs.Session.Sinks
import Runbook.Proofs.Chain.Borrowed
import Runbook.Proofs.Network.Pump
import Runbook.Proofs.Network.Window
import Runbook.Proofs.Chain.Configured
import Runbook.Proofs.Discovery.Interview
import Runbook.Proofs.Document
import Runbook.Proofs.Network.HostKeys
import Runbook.Proofs.Shell.Reading
import Runbook.Proofs.Shell.Arguments
import Runbook.Proofs.Discovery.Commands

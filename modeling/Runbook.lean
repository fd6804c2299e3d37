import Runbook.CommandLine.Run
import Runbook.Main
import Runbook.Proofs.Execution.Delivery
import Runbook.Proofs.Execution.Received
import Runbook.Proofs.Invocation.Arguments
import Runbook.Proofs.RecipeFile.Concatenation
import Runbook.Proofs.RecipeFile.Prefix
import Runbook.Proofs.RecipeFile.RoundTrip
import Runbook.Proofs.RecipeFile.WellFormed
import Runbook.RecipeFile.Printer
import Runbook.Shell.Host
import Runbook.Proofs.Execution.Start
import Runbook.Proofs.Invocation.DryRun
import Runbook.Proofs.Invocation.Arity
import Runbook.Proofs.Invocation.Rebinding
import Runbook.Proofs.Invocation.Agreement
import Runbook.Proofs.RecipeFile.Heading
import Runbook.Proofs.RecipeFile.Lists
import Runbook.Proofs.RecipeFile.Trailing
import Runbook.Proofs.RecipeFile.Layout
import Runbook.Proofs.RecipeFile.Signature
import Runbook.Proofs.RecipeFile.Bytes
import Runbook.Proofs.CommandLine.Options
import Runbook.Proofs.Settings.Table
import Runbook.Proofs.Settings.Winners
import Runbook.Proofs.Settings.Resolved
import Runbook.Proofs.Execution.Relay
import Runbook.Proofs.CommandLine.Outcome
import Runbook.Proofs.Discovery
import Runbook.Proofs.Invocation.OnHost

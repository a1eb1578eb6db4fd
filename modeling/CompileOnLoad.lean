import CompileOnLoad.Controller
import CompileOnLoad.Host.Rule
import CompileOnLoad.Text.Lines
import CompileOnLoad.Proofs.Correspondence
import CompileOnLoad.Proofs.Watching
import CompileOnLoad.Proofs.Quiet
import CompileOnLoad.Proofs.Bare
import CompileOnLoad.Proofs.Compilation
import CompileOnLoad.Proofs.LogIndependence
import CompileOnLoad.Proofs.Execution
import CompileOnLoad.Proofs.CompilerCalls
import CompileOnLoad.Proofs.Switching
import CompileOnLoad.Proofs.Completion
import CompileOnLoad.Proofs.HostCalls
import CompileOnLoad.Proofs.Continuation
import CompileOnLoad.Proofs.HookInstallation
import CompileOnLoad.Proofs.Account
import CompileOnLoad.Proofs.Nesting
import CompileOnLoad.Proofs.QueueAccounting
import CompileOnLoad.Proofs.Rounds
import CompileOnLoad.Proofs.RunningOrder
import CompileOnLoad.Proofs.Attribution
import CompileOnLoad.Proofs.DocumentText
import CompileOnLoad.Proofs.Retention
import CompileOnLoad.Proofs.DocumentPolicy
import CompileOnLoad.Proofs.SinkPaths
import CompileOnLoad.Proofs.Recording
import CompileOnLoad.Proofs.Orders
import CompileOnLoad.Proofs.FacadeRefinement
import CompileOnLoad.Proofs.Judging
import CompileOnLoad.Proofs.CompileEffects
import CompileOnLoad.Proofs.Displacement
import CompileOnLoad.Proofs.JsonGrammar
import CompileOnLoad.Proofs.DocumentObject
import CompileOnLoad.Proofs.JsonLayouts
import CompileOnLoad.Proofs.DocumentFields
import CompileOnLoad.Proofs.ExclusionSet
import CompileOnLoad.Proofs.LossyText
import CompileOnLoad.Proofs.RegexSearch
import CompileOnLoad.Proofs.RegexLanguages
import CompileOnLoad.Proofs.GeneratedFiles
import CompileOnLoad.Proofs.NoPanic
import CompileOnLoad.Proofs.Depth
import CompileOnLoad.Proofs.Dispatching
import CompileOnLoad.Proofs.LogLines
import CompileOnLoad.Proofs.Guards
import CompileOnLoad.Proofs.Reloading
import CompileOnLoad.Proofs.Bookkeeping
import CompileOnLoad.Proofs.BookedAccounts
import CompileOnLoad.Proofs.SweepReports
import CompileOnLoad.Proofs.TimeOfDay
import CompileOnLoad.Proofs.Spelling
import CompileOnLoad.Proofs.ConfigBuilding
import CompileOnLoad.Proofs.ConfigInstallation

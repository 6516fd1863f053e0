import Stylesheet.Callable
import Stylesheet.Decimal.Double
import Stylesheet.Decimal.Positional
import Stylesheet.Decimal.Shortest
import Stylesheet.Diagnostic.CompileError
import Stylesheet.Diagnostic.Logger
import Stylesheet.Diagnostic.Severity
import Stylesheet.Import.Expansion
import Stylesheet.Import.Options
import Stylesheet.Import.Path
import Stylesheet.Import.Resolution
import Stylesheet.Import.Resolver
import Stylesheet.Import.Sheet
import Stylesheet.Location
import Stylesheet.Name
import Stylesheet.Scope.Bindings
import Stylesheet.Scope.Captures
import Stylesheet.Scope.Chain
import Stylesheet.Scope.DebugText
import Stylesheet.Scope.Env
import Stylesheet.Scope.Lifetime
import Stylesheet.Scope.Selectors
import Stylesheet.Scope.Store
import Stylesheet.Scope.Warnings
import Stylesheet.Selector
import Stylesheet.Session
import Stylesheet.Text.Quoted
import Stylesheet.Trace
import Stylesheet.Trace.Frame
import Stylesheet.Value
import Stylesheet.Proofs.Moments
import Stylesheet.Proofs.Agreement
import Stylesheet.Proofs.Termination
import Stylesheet.Proofs.Writes
import Stylesheet.Proofs.Transparency
import Stylesheet.Proofs.Marking
import Stylesheet.Proofs.Ownership
import Stylesheet.Proofs.Attempts
import Stylesheet.Proofs.Turns
import Stylesheet.Proofs.Paths
import Stylesheet.Proofs.Runs
import Stylesheet.Proofs.Texts
import Stylesheet.Proofs.Leaves
import Stylesheet.Proofs.Visibility
import Stylesheet.Proofs.CacheKeys
import Stylesheet.Proofs.Misses
import Stylesheet.Proofs.Replay
import Stylesheet.Proofs.Repetition
import Stylesheet.Proofs.Ledgers
import Stylesheet.Proofs.Numbers
import Stylesheet.Proofs.Parallel
import Stylesheet.Proofs.Lexical
import Stylesheet.Proofs.Declarations
import Stylesheet.Proofs.Invocations
import Stylesheet.Proofs.Confinement
import Stylesheet.Proofs.SearchOrder
import Stylesheet.Proofs.Substitution
import Stylesheet.Proofs.ResolvedSelectors
import Stylesheet.Proofs.Globals
import Stylesheet.Proofs.Commutation
import Stylesheet.Proofs.FirstMatch
import Stylesheet.Proofs.MemoCells
import Stylesheet.Proofs.ViewIdentity
import Stylesheet.Proofs.Spelling
import Stylesheet.Proofs.Wrappings
import Stylesheet.Proofs.Roots
import Stylesheet.Proofs.Owners

import ChatFlow.Expression.Operator
import ChatFlow.Host.Script
import ChatFlow.Main
import ChatFlow.Proofs.Acceptance
import ChatFlow.Proofs.Answers
import ChatFlow.Proofs.Arguments
import ChatFlow.Proofs.Arrangement
import ChatFlow.Proofs.Assignment
import ChatFlow.Proofs.Blanks
import ChatFlow.Proofs.Bracing
import ChatFlow.Proofs.Bypass
import ChatFlow.Proofs.Calls
import ChatFlow.Proofs.Clock
import ChatFlow.Proofs.Compilation
import ChatFlow.Proofs.Components
import ChatFlow.Proofs.Conditions
import ChatFlow.Proofs.Contexts
import ChatFlow.Proofs.Conversion
import ChatFlow.Proofs.Course
import ChatFlow.Proofs.Coverage
import ChatFlow.Proofs.Cuts
import ChatFlow.Proofs.Dates
import ChatFlow.Proofs.Dealings
import ChatFlow.Proofs.Decimals
import ChatFlow.Proofs.Documents
import ChatFlow.Proofs.Draws
import ChatFlow.Proofs.Equality
import ChatFlow.Proofs.Failures
import ChatFlow.Proofs.Fields
import ChatFlow.Proofs.Figures
import ChatFlow.Proofs.Files
import ChatFlow.Proofs.Findings
import ChatFlow.Proofs.Formatting
import ChatFlow.Proofs.Frames
import ChatFlow.Proofs.Histories
import ChatFlow.Proofs.Influence
import ChatFlow.Proofs.Instants
import ChatFlow.Proofs.Integers
import ChatFlow.Proofs.Iteration
import ChatFlow.Proofs.Lists
import ChatFlow.Proofs.Lookups
import ChatFlow.Proofs.Narrowing
import ChatFlow.Proofs.Nesting
import ChatFlow.Proofs.NodeLimit
import ChatFlow.Proofs.Numerals
import ChatFlow.Proofs.Passage
import ChatFlow.Proofs.Paths
import ChatFlow.Proofs.Permissions
import ChatFlow.Proofs.Quotes
import ChatFlow.Proofs.Ratios
import ChatFlow.Proofs.Reading
import ChatFlow.Proofs.Reads
import ChatFlow.Proofs.Recipients
import ChatFlow.Proofs.Reloading
import ChatFlow.Proofs.Rendering
import ChatFlow.Proofs.Results
import ChatFlow.Proofs.Rounding
import ChatFlow.Proofs.Scaling
import ChatFlow.Proofs.Scopes
import ChatFlow.Proofs.Spelling
import ChatFlow.Proofs.Stores
import ChatFlow.Proofs.Switches
import ChatFlow.Proofs.Tables
import ChatFlow.Proofs.Trace
import ChatFlow.Proofs.Trees
import ChatFlow.Proofs.Visits
import ChatFlow.Proofs.Wires
import ChatFlow.Proofs.Wiring
import ChatFlow.Proofs.Yields
import ChatFlow.Store.Memory
import ChatFlow.Store.Recorded

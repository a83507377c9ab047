import InteropBridge.Main
import InteropBridge.Host.Run
import InteropBridge.Managed.Optional
import InteropBridge.Proofs.Computation
import InteropBridge.Proofs.Objects
import InteropBridge.Proofs.Crossing.Running
import InteropBridge.Proofs.Crossing.Atomicity
import InteropBridge.Proofs.Boundary.Validation
import InteropBridge.Proofs.Boundary.FirstFault
import InteropBridge.Proofs.Crossing.Faults
import InteropBridge.Proofs.Text.Utf16
import InteropBridge.Proofs.Text.Utf8
import InteropBridge.Proofs.Text.ValidPrefix
import InteropBridge.Proofs.Boundary.View
import InteropBridge.Proofs.Managed.Text
import InteropBridge.Proofs.Managed.Asking
import InteropBridge.Proofs.Crossing.Entering
import InteropBridge.Proofs.Managed.TypedCall
import InteropBridge.Proofs.Managed.Calling
import InteropBridge.Proofs.Managed.Lending
import InteropBridge.Proofs.Managed.Rejection
import InteropBridge.Proofs.Managed.Joining
import InteropBridge.Proofs.Managed.Soundness
import InteropBridge.Proofs.Ledger
import InteropBridge.Proofs.Ledger.History
import InteropBridge.Proofs.Ledger.Holding
import InteropBridge.Proofs.Ledger.Recording
import InteropBridge.Proofs.Ledger.Crossing
import InteropBridge.Proofs.Ledger.Managed
import InteropBridge.Proofs.Host.History
import InteropBridge.Proofs.Host.Custody
import InteropBridge.Proofs.Host.Ownership
import InteropBridge.Proofs.Host.Proxies
import InteropBridge.Proofs.Crossing.Subject
import InteropBridge.Proofs.Host.Lifetime
import InteropBridge.Proofs.Host.Accounting
import InteropBridge.Proofs.Crossing.Heeding
import InteropBridge.Proofs.Managed.Mirroring
import InteropBridge.Proofs.Managed.DirectCall
import InteropBridge.Proofs.Managed.Refinement
import InteropBridge.Proofs.Managed.ManagedCall
import InteropBridge.Proofs.Managed.OwnErrors
import InteropBridge.Proofs.Threads
import InteropBridge.Proofs.Threads.Accounts
import InteropBridge.Proofs.Threads.Booking
import InteropBridge.Proofs.Threads.LastError
import InteropBridge.Proofs.Threads.Counting
import InteropBridge.Proofs.Handle.Finding
import InteropBridge.Proofs.Ledger.Values
import InteropBridge.Proofs.Threads.History
import InteropBridge.Proofs.Threads.Values
import InteropBridge.Proofs.Crossing.Effect
import InteropBridge.Proofs.Managed.Heeding
import InteropBridge.Proofs.Crossing.Allocation
import InteropBridge.Proofs.Threads.Allocation
import InteropBridge.Proofs.Threads.Bare
import InteropBridge.Proofs.Threads.Limit
import InteropBridge.Proofs.Host.Notes
import InteropBridge.Proofs.Host.Captures
import InteropBridge.Proofs.Managed.Releasing
import InteropBridge.Proofs.Threads.Life
import InteropBridge.Proofs.Threads.Harmless
import InteropBridge.Proofs.Managed.Steadiness
import InteropBridge.Proofs.Crossing.Policy
import InteropBridge.Proofs.Threads.Policy
import InteropBridge.Proofs.Crossing.Adding
import InteropBridge.Proofs.Threads.Interleaving
import InteropBridge.Proofs.Logging
import InteropBridge.Proofs.Threads.Logging
import InteropBridge.Proofs.Handle.Books
import InteropBridge.Proofs.Handle.Sharing
import InteropBridge.Proofs.Handle.Balance
import InteropBridge.Proofs.Handle.Registry
import InteropBridge.Proofs.Handle.Representing
import InteropBridge.Proofs.Boundary.TypeNames
import InteropBridge.Proofs.Managed.Mismatch
import InteropBridge.Proofs.Config.Defaults
import InteropBridge.Proofs.Config.Discovery
import InteropBridge.Proofs.Config.Sources
import InteropBridge.Proofs.Threads.Message
import InteropBridge.Proofs.Log.Filter
import InteropBridge.Proofs.Command.Run
import InteropBridge.Proofs.Text.Concatenation
import InteropBridge.Proofs.Managed.Sizes
import InteropBridge.Proofs.Log.Trail
import InteropBridge.Proofs.Ledger.Trail
import InteropBridge.Proofs.Crossing.Trail
import InteropBridge.Proofs.Managed.Trail
import InteropBridge.Proofs.Threads.Trail

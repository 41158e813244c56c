import Multiplexer.Session
import Multiplexer.System.Bench
import Multiplexer.System.Script
import Multiplexer.Proofs.History.Watchlist
import Multiplexer.Proofs.History.Associations
import Multiplexer.Proofs.History.Provenance
import Multiplexer.Proofs.History.Polls
import Multiplexer.Proofs.History.Rejections
import Multiplexer.Proofs.History.Transients
import Multiplexer.Proofs.History.Filters
import Multiplexer.Proofs.History.Liveness
import Multiplexer.Proofs.History.Isolation
import Multiplexer.Proofs.Port.Waking
import Multiplexer.Proofs.Port.Turns
import Multiplexer.Proofs.History.Routing
import Multiplexer.Proofs.History.Completions
import Multiplexer.Proofs.History.Batches
import Multiplexer.Proofs.History.Blocking
import Multiplexer.Proofs.History.Listing
import Multiplexer.Proofs.History.Sets
import Multiplexer.Proofs.Fallback
import Multiplexer.Proofs.History.Endings
import Multiplexer.Proofs.Timeouts
import Multiplexer.Proofs.Pipe.Bytes
import Multiplexer.Proofs.Pipe.Waking
import Multiplexer.Proofs.Pipe.Coalescing
import Multiplexer.Proofs.History.Lists
import Multiplexer.Proofs.History.Fairness
import Multiplexer.Proofs.History.Resuming
import Multiplexer.Proofs.History.Deferral
import Multiplexer.Proofs.Ring.Draining
import Multiplexer.Proofs.Registry.Directory
import Multiplexer.Proofs.History.Joining
import Multiplexer.Proofs.Slots
import Multiplexer.Proofs.Ring.Deadlines
import Multiplexer.Proofs.History.Handles
import Multiplexer.Proofs.Names
import Multiplexer.Proofs.Kernel.Runs

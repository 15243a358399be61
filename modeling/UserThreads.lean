import UserThreads.Demo.Stress
import UserThreads.Ensure
import UserThreads.Main
import UserThreads.Proofs.Arming
import UserThreads.Proofs.Atomicity
import UserThreads.Proofs.Conservation
import UserThreads.Proofs.Counting
import UserThreads.Proofs.Destroying
import UserThreads.Proofs.Destruction
import UserThreads.Proofs.Destructors
import UserThreads.Proofs.Exits
import UserThreads.Proofs.Fairness
import UserThreads.Proofs.Faults
import UserThreads.Proofs.Gating
import UserThreads.Proofs.Identity
import UserThreads.Proofs.IllTyped
import UserThreads.Proofs.Isolation
import UserThreads.Proofs.Joining
import UserThreads.Proofs.Numbering
import UserThreads.Proofs.Policy
import UserThreads.Proofs.Priority
import UserThreads.Proofs.Unlocking
import UserThreads.Proofs.WakeUp
import UserThreads.Proofs.Yielding
import UserThreads.Session.Queueing
import UserThreads.Session.Scheduling
import UserThreads.Session.Start

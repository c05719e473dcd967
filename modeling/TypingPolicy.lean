import TypingPolicy.Binary64.Shortest
import TypingPolicy.Desk
import TypingPolicy.Edit
import TypingPolicy.Engine
import TypingPolicy.Proofs.Chronicle
import TypingPolicy.Proofs.Exclusion
import TypingPolicy.Proofs.Fallback
import TypingPolicy.Proofs.Growth
import TypingPolicy.Proofs.Independence
import TypingPolicy.Proofs.Interleaving
import TypingPolicy.Proofs.Interruption
import TypingPolicy.Proofs.Repetition
import TypingPolicy.Proofs.Strictness
import TypingPolicy.Proofs.Resolution
import TypingPolicy.Proofs.Parentage
import TypingPolicy.Proofs.Reuse
import TypingPolicy.Proofs.Tracing
import TypingPolicy.Proofs.Fields
import TypingPolicy.Proofs.Pairs
import TypingPolicy.Proofs.Absorption
import TypingPolicy.Proofs.Inspection
import TypingPolicy.Proofs.Enforcement
import TypingPolicy.Proofs.ProjectRoot
import TypingPolicy.Proofs.Logging
import TypingPolicy.Proofs.Nearest
import TypingPolicy.Proofs.Displacement
import TypingPolicy.Proofs.Routing
import TypingPolicy.Proofs.Fragments

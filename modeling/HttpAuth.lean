import HttpAuth.Authenticator.Send
import HttpAuth.Challenge.Render
import HttpAuth.Http.TransportError
import HttpAuth.Proofs.BearerRun
import HttpAuth.Proofs.Overtaking
import HttpAuth.Proofs.RoundTrip
import HttpAuth.Proofs.BearerKnowledge
import HttpAuth.Proofs.Lessons
import HttpAuth.Proofs.Relearning
import HttpAuth.Proofs.Unaccepted
import HttpAuth.Proofs.SequentialCalls
import HttpAuth.Proofs.Hosts
import HttpAuth.Proofs.Opacity
import HttpAuth.Proofs.Retrying
import HttpAuth.Proofs.Candidates
import HttpAuth.Proofs.Growth
import HttpAuth.Proofs.HandlerTable
import HttpAuth.Proofs.Lockstep
import HttpAuth.Proofs.RetryBudget
import HttpAuth.Proofs.Secrecy
import HttpAuth.Proofs.Refusals
import HttpAuth.Proofs.TokenOutcome
import HttpAuth.Proofs.TokenQuery
import HttpAuth.Proofs.FaultPosition
import HttpAuth.Proofs.Folding
import HttpAuth.Proofs.Rearrangement
import HttpAuth.Proofs.TokenCache
import HttpAuth.Proofs.BasicValue
import HttpAuth.Proofs.Configuration
import HttpAuth.Proofs.Respelling
import HttpAuth.Proofs.Conversions
import HttpAuth.Proofs.HostKeys

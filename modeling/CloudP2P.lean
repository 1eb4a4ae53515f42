import CloudP2P.TransitionSystem
import CloudP2P.F64
import CloudP2P.MaxBy
import CloudP2P.Election.Node
import CloudP2P.Election.Process
import CloudP2P.Election.Term
import CloudP2P.Election.ServiceGate
import CloudP2P.Election.Cluster
import CloudP2P.Election.WellFormed
import CloudP2P.Bookkeeping
import CloudP2P.Election.Leadership
import CloudP2P.Election.Chronicle
import CloudP2P.Election.ElectionPool
import CloudP2P.Election.FailedLeader
import CloudP2P.Election.VoteProvenance
import CloudP2P.Election.LeaderView
import CloudP2P.Provider.Admission
import CloudP2P.Provider.Steganographer
import CloudP2P.Provider.ConnectionLimit
import CloudP2P.Provider.Sweep
import CloudP2P.Provider.HealthCheck
import CloudP2P.Client.Retry
import CloudP2P.Client.Portions
import CloudP2P.Provider.RoundTrip
import CloudP2P.Provider.Handshake
import CloudP2P.Election.Criteria
import CloudP2P.Election.Noise
import CloudP2P.Election.Reelection
import CloudP2P.Election.Timer
import CloudP2P.Election.VoteMetrics
import CloudP2P.Election.Scores
import CloudP2P.Provider.Cleanup
import CloudP2P.Provider.RequestQueue
import CloudP2P.ByteFormat
import CloudP2P.Rpc.Packet
import CloudP2P.Election.Wire
import CloudP2P.Rpc.Forwarder
import CloudP2P.Rpc.Client
import CloudP2P.Rpc.Multiplexer
import CloudP2P.Rpc.Server
import CloudP2P.Rpc.Connection
import CloudP2P.AtMostOnce
import CloudP2P.Rpc.Exchange
import CloudP2P.Rpc.Directions
import CloudP2P.Rpc.Guarantees
import CloudP2P.Rpc.Threads
import CloudP2P.Rpc.Progress
import CloudP2P.Rpc.Completion
import CloudP2P.Rpc.Handling
import CloudP2P.Rpc.Proxy
import CloudP2P.Rpc.Answers
import CloudP2P.Rpc.Service
import CloudP2P.Rpc.Garbage

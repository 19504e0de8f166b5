import Rerank.Session
import Rerank.Proofs.Scoring
import Rerank.Proofs.Ranking.Basic
import Rerank.Proofs.Ranking.Soundness
import Rerank.Proofs.Ranking.EarlyCut
import Rerank.Proofs.Ranking.Pointwise
import Rerank.Proofs.Ranking.Requests
import Rerank.Proofs.Discovery.Basic
import Rerank.Proofs.Discovery.Found
import Rerank.Proofs.Batch.Fault
import Rerank.Proofs.Ranking.Failures
import Rerank.Proofs.Ranking.Provider
import Rerank.Proofs.Ranking.Announcements
import Rerank.Proofs.Ranking.Limit
import Rerank.Proofs.Ranking.Order
import Rerank.Proofs.Secrecy.Alike
import Rerank.Proofs.Secrecy.Sessions
import Rerank.Proofs.Url.Encoding
import Rerank.Proofs.Url.Path
import Rerank.Proofs.Url.Address
import Rerank.Proofs.Url.Host
import Rerank.Proofs.Url.Authority
import Rerank.Proofs.Url.RoundTrip
import Rerank.Proofs.Url.Located
import Rerank.Proofs.Endpoint
import Rerank.Proofs.HostedEndpoint
import Rerank.Proofs.Destinations
import Rerank.Proofs.Configuration
import Rerank.Proofs.Listings
import Rerank.Proofs.Json.WellFormed
import Rerank.Proofs.Json.Shape
import Rerank.Proofs.Reply.Acceptance
import Rerank.Proofs.Reply.Rankings
import Rerank.Proofs.Reply.Models
import Rerank.Proofs.Endpoint.Normal
import Rerank.Proofs.Discovery.Faults
import Rerank.Proofs.Endpoint.Operations
import Rerank.Proofs.Discovery.Selection
import Rerank.Proofs.Discovery.Hosted
import Rerank.Proofs.Text.ByteOrder
import Rerank.Proofs.Keyed
import Rerank.Proofs.Chunk
import Rerank.Proofs.Batch.FirstFault
import Rerank.Proofs.Ranking.Words

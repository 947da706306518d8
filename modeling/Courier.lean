import Courier.Http.Web
import Courier.Main
import Courier.Service.Notification
import Courier.Service.Verification
import Courier.Proofs.Collection.OrderedSet
import Courier.Proofs.Collection.Row
import Courier.Proofs.Collection.Step
import Courier.Proofs.Text.Base64
import Courier.Proofs.Text.Blank
import Courier.Proofs.Text.Utf8
import Courier.Proofs.Iri.Reference
import Courier.Proofs.Json.Lexeme
import Courier.Proofs.Json.Record
import Courier.Proofs.Json.RoundTrip
import Courier.Proofs.Rdf.Pattern
import Courier.Proofs.Rdf.Store
import Courier.Proofs.Turtle.Document
import Courier.Proofs.Turtle.Node
import Courier.Proofs.Http.Document
import Courier.Proofs.Query.Bindings
import Courier.Proofs.Query.Knowledge
import Courier.Proofs.Query.Match
import Courier.Proofs.Query.Wire
import Courier.Proofs.Crawl.Pass
import Courier.Proofs.Crawl.Schedule
import Courier.Proofs.Crawl.Batch
import Courier.Proofs.Crawl.Reach
import Courier.Proofs.Crawl.Convergence
import Courier.Proofs.Crawl.Partial
import Courier.Proofs.Crawl.Timeline
import Courier.Proofs.Crawl.Accounting
import Courier.Proofs.Crawl.Independence
import Courier.Proofs.Crawl.Truncation
import Courier.Proofs.Crawl.Budget
import Courier.Proofs.Crawl.Provenance
import Courier.Proofs.Crawl.Ending
import Courier.Proofs.Crawl.Termination
import Courier.Proofs.Crawl.Barrier
import Courier.Proofs.Crawl.Failure
import Courier.Proofs.Crawl.Node
import Courier.Proofs.Crawl.Inclusion
import Courier.Proofs.Crawl.Turns
import Courier.Proofs.Token.Claim
import Courier.Proofs.Token.Codec
import Courier.Proofs.Token.Lifetime
import Courier.Proofs.Access.Permission
import Courier.Proofs.Access.Writable
import Courier.Proofs.Access.Probing
import Courier.Proofs.Access.Membership
import Courier.Proofs.Service.Delivery
import Courier.Proofs.Service.Signing
import Courier.Proofs.Service.History
import Courier.Proofs.Service.Verdict
import Courier.Proofs.Service.Writing
import Courier.Proofs.Service.Kept
import Courier.Proofs.Service.Answers
import Courier.Proofs.Service.Relay
import Courier.Proofs.Service.Purpose
import Courier.Proofs.Service.Search
import Courier.Proofs.Service.Patch
import Courier.Proofs.Service.Restriction
import Courier.Proofs.Service.Copies
import Courier.Proofs.Service.Wire

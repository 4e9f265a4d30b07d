import Pubsub.Main
import Pubsub.Session.Step
import Pubsub.Work.Queue
import Pubsub.Proofs.Token
import Pubsub.Proofs.Callbacks
import Pubsub.Proofs.Alike
import Pubsub.Proofs.Bystanders
import Pubsub.Proofs.Attendance
import Pubsub.Proofs.Tolerance
import Pubsub.Proofs.Loss
import Pubsub.Proofs.Registry
import Pubsub.Proofs.Course
import Pubsub.Proofs.Rollback
import Pubsub.Proofs.Link
import Pubsub.Proofs.Turns
import Pubsub.Proofs.Latest
import Pubsub.Proofs.Requests
import Pubsub.Proofs.Serving
import Pubsub.Proofs.Orderly
import Pubsub.Proofs.Agreement
import Pubsub.Proofs.Phases
import Pubsub.Proofs.Finality
import Pubsub.Proofs.Listing
import Pubsub.Proofs.Namesakes
import Pubsub.Proofs.Stretch
import Pubsub.Proofs.Resubscription
import Pubsub.Proofs.Share
import Pubsub.Proofs.Independence
import Pubsub.Proofs.RoundTrip
import Pubsub.Proofs.Labour
import Pubsub.Proofs.Queueing
import Pubsub.Proofs.Tandem
import Pubsub.Proofs.Interchange
import Pubsub.Proofs.Settling
import Pubsub.Proofs.Journal
import Pubsub.Proofs.Completion
import Pubsub.Proofs.Undecoded
import Pubsub.Proofs.Outline
import Pubsub.Proofs.Watching
import Pubsub.Proofs.Departure
import Pubsub.Proofs.Reporting
import Pubsub.Proofs.Admission
import Pubsub.Proofs.Audience
import Pubsub.Proofs.Reentrance
import Pubsub.Proofs.Closings
import Pubsub.Proofs.Dealings
import Pubsub.Proofs.Teardown
import Pubsub.Proofs.Splicing
import Pubsub.Proofs.Encoding
import Pubsub.Proofs.Traversal
import Pubsub.Proofs.Roster

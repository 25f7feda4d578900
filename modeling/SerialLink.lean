import SerialLink.Host.Tree
import SerialLink.Main
import SerialLink.Series.Listing
import SerialLink.Proofs.Scan.Delivery
import SerialLink.Proofs.Scan.Damage
import SerialLink.Proofs.Scan.Chunking
import SerialLink.Proofs.Scan.Resynchronization
import SerialLink.Proofs.Wire.PrefixFree
import SerialLink.Proofs.Wire.BitErrors
import SerialLink.Proofs.Engine.Following
import SerialLink.Proofs.Engine.Lifecycle
import SerialLink.Proofs.Link.Order
import SerialLink.Proofs.Message.Bijection
import SerialLink.Proofs.Dispatch.Handling
import SerialLink.Proofs.Scan.FailedReads
import SerialLink.Proofs.Scan.Accounting
import SerialLink.Proofs.Scan.CutShort
import SerialLink.Proofs.Engine.Turns
import SerialLink.Proofs.Engine.Stopping
import SerialLink.Proofs.Engine.Panicking
import SerialLink.Proofs.Engine.Collecting
import SerialLink.Proofs.Series.Histories
import SerialLink.Proofs.Command.Decoding
import SerialLink.Proofs.Command.Capturing
import SerialLink.Proofs.Command.Listening
import SerialLink.Proofs.Link.Pipe
import SerialLink.Proofs.Wire.Bursts
import SerialLink.Proofs.Wire.Bitwise
import SerialLink.Proofs.Scan.Answering
import SerialLink.Proofs.Engine.Connecting
import SerialLink.Proofs.Engine.Refusing
import SerialLink.Proofs.Message.Labels
import SerialLink.Proofs.Document.Configurations
import SerialLink.Proofs.Command.Settings
import SerialLink.Proofs.Series.Bounds
import SerialLink.Proofs.Line.Managed
import SerialLink.Proofs.Transport.Calls

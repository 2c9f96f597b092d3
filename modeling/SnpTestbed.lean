import SnpTestbed.Client
import SnpTestbed.Device.Scripted
import SnpTestbed.Fixture.Device
import SnpTestbed.Fixture.Fetcher
import SnpTestbed.Proofs.Certificate.Extension
import SnpTestbed.Proofs.Certificate.Grammar
import SnpTestbed.Proofs.Certificate.Layout
import SnpTestbed.Proofs.Certificate.Order
import SnpTestbed.Proofs.Certificate.PlatformRecord
import SnpTestbed.Proofs.Certificate.RoundTrip
import SnpTestbed.Proofs.Client.Calls
import SnpTestbed.Proofs.Client.CanonicalOrder
import SnpTestbed.Proofs.Client.Errors
import SnpTestbed.Proofs.Client.ExtendedReport
import SnpTestbed.Proofs.Device.CallerBuffer
import SnpTestbed.Proofs.Device.FailureFrame
import SnpTestbed.Proofs.Device.Refusals
import SnpTestbed.Proofs.Fetch.Cancellation
import SnpTestbed.Proofs.Fetch.Completion
import SnpTestbed.Proofs.Fetch.Stream
import SnpTestbed.Proofs.Firmware.Messages
import SnpTestbed.Proofs.Fixture.Building
import SnpTestbed.Proofs.Fixture.RoundTrip
import SnpTestbed.Proofs.Json.Decoding
import SnpTestbed.Proofs.Json.Reading
import SnpTestbed.Proofs.Json.Tokens
import SnpTestbed.Proofs.Kds.Fetches
import SnpTestbed.Proofs.Kds.Urls
import SnpTestbed.Proofs.Product.SignatureWord
import SnpTestbed.Proofs.Quote.Agreement
import SnpTestbed.Proofs.Report.Embedding
import SnpTestbed.Proofs.Report.Resigning
import SnpTestbed.Proofs.Report.Served
import SnpTestbed.Proofs.Report.Signature
import SnpTestbed.Proofs.Report.Verification
import SnpTestbed.Proofs.Request.FieldBits
import SnpTestbed.Proofs.Request.LookupKey
import SnpTestbed.Proofs.Session.Accounting
import SnpTestbed.Proofs.Session.DerivedKeys
import SnpTestbed.Proofs.Session.History
import SnpTestbed.Session.Bench
import SnpTestbed.Session.Fetching
import SnpTestbed.Proofs.Device.Consultation

import BareProxy.Base.Bytes
import BareProxy.Base.Chunks
import BareProxy.Base.Copy
import BareProxy.Base.CurveOrder
import BareProxy.Base.Dialogue
import BareProxy.Base.Endian
import BareProxy.Base.Fips180
import BareProxy.Base.Framer
import BareProxy.Base.Hostname
import BareProxy.Base.Indexing
import BareProxy.Base.IpAddr
import BareProxy.Base.Jacobian
import BareProxy.Base.KeyStream
import BareProxy.Base.Limbs
import BareProxy.Base.Lines
import BareProxy.Base.Link
import BareProxy.Base.LittleEndian
import BareProxy.Base.Lucas
import BareProxy.Base.Permutation
import BareProxy.Base.PrefixFree
import BareProxy.Base.ReadLoop
import BareProxy.Base.Result
import BareProxy.Base.Rfc5869
import BareProxy.Base.Rfc6979
import BareProxy.Base.Run
import BareProxy.Base.Socket
import BareProxy.Base.Stream
import BareProxy.Base.Text
import BareProxy.Base.Words
import BareProxy.Config.Hostname
import BareProxy.Config.LineOrder
import BareProxy.Config.Load
import BareProxy.Config.Parse
import BareProxy.Config.Route
import BareProxy.Config.RouteLookup
import BareProxy.Config.UpstreamAddress
import BareProxy.Crypto.Aead
import BareProxy.Crypto.Base64
import BareProxy.Crypto.ChaCha20Stream
import BareProxy.Crypto.Hkdf
import BareProxy.Crypto.HkdfStream
import BareProxy.Crypto.MacData
import BareProxy.Crypto.Poly1305
import BareProxy.Crypto.Poly1305Checked
import BareProxy.Crypto.Sha256
import BareProxy.Crypto.Sha256Standard
import BareProxy.Der.Base128
import BareProxy.Der.Base64Canonical
import BareProxy.Der.Canonical
import BareProxy.Der.Certificate
import BareProxy.Der.CertificateInspection
import BareProxy.Der.CertificateRequest
import BareProxy.Der.DnsName
import BareProxy.Der.Encode
import BareProxy.Der.ObjectIdentifier
import BareProxy.Der.Pem
import BareProxy.Der.PemChain
import BareProxy.Der.PrivateKey
import BareProxy.Der.Reader
import BareProxy.Der.Signature
import BareProxy.Der.Time
import BareProxy.Der.Values
import BareProxy.Http.Grammar
import BareProxy.Http.Parse
import BareProxy.Http.Request
import BareProxy.Http.Response
import BareProxy.P256.Canonical
import BareProxy.P256.Curve
import BareProxy.P256.Ecdsa
import BareProxy.P256.Group
import BareProxy.P256.LimbArithmetic
import BareProxy.P256.Nonces
import BareProxy.P256.Order
import BareProxy.P256.Point
import BareProxy.P256.Prime
import BareProxy.P256.Residue
import BareProxy.P256.Sec1
import BareProxy.P256.Uint256
import BareProxy.P256.Verification
import BareProxy.Proxy.Body
import BareProxy.Proxy.ChunkedRelay
import BareProxy.Proxy.CleanReads
import BareProxy.Proxy.Exchange
import BareProxy.Proxy.FieldLines
import BareProxy.Proxy.Forward
import BareProxy.Proxy.Forwarded
import BareProxy.Proxy.ForwardedTrailers
import BareProxy.Proxy.OwnResponse
import BareProxy.Proxy.Persistence
import BareProxy.Proxy.PooledUpstream
import BareProxy.Proxy.Pooling
import BareProxy.Proxy.ReceivedFields
import BareProxy.Proxy.RequestFields
import BareProxy.Proxy.RequestFraming
import BareProxy.Proxy.RequestHead
import BareProxy.Proxy.ResponseHead
import BareProxy.Proxy.ResponseLines
import BareProxy.Proxy.ResponseSegmentation
import BareProxy.Proxy.ResponseStarted
import BareProxy.Proxy.Sanitized
import BareProxy.Proxy.Session
import BareProxy.Proxy.Switching
import BareProxy.Proxy.TrailerRelay
import BareProxy.Proxy.TransferCodings
import BareProxy.Proxy.Tunnel
import BareProxy.Server.AcceptLoop
import BareProxy.Server.AcceptedConnection
import BareProxy.Server.Connection
import BareProxy.Server.Disk
import BareProxy.Server.KeepAlive
import BareProxy.Server.OneResponse
import BareProxy.Server.Reload
import BareProxy.Server.Segmentation
import BareProxy.Server.Slots
import BareProxy.Tls.Alert
import BareProxy.Tls.Application
import BareProxy.Tls.ApplicationData
import BareProxy.Tls.ApplicationLink
import BareProxy.Tls.ApplicationRun
import BareProxy.Tls.AuthenticationFlight
import BareProxy.Tls.ClientFlight
import BareProxy.Tls.ClientHello
import BareProxy.Tls.ClientHelloIndexed
import BareProxy.Tls.ClientHelloLossless
import BareProxy.Tls.ClientProbe
import BareProxy.Tls.Deframer
import BareProxy.Tls.ErrorText
import BareProxy.Tls.HandshakeAgreement
import BareProxy.Tls.HandshakeCompletion
import BareProxy.Tls.HandshakeErrorText
import BareProxy.Tls.HandshakeExact
import BareProxy.Tls.HandshakeWire
import BareProxy.Tls.HelloRetry
import BareProxy.Tls.HonestHandshake
import BareProxy.Tls.Identity
import BareProxy.Tls.IdentityFiles
import BareProxy.Tls.KeyAgreement
import BareProxy.Tls.KeySchedule
import BareProxy.Tls.Negotiation
import BareProxy.Tls.NegotiationExact
import BareProxy.Tls.Probe
import BareProxy.Tls.Record
import BareProxy.Tls.RecordChannel
import BareProxy.Tls.RecordDecoders
import BareProxy.Tls.RecordProtection
import BareProxy.Tls.RecordRun
import BareProxy.Tls.ServerAuthentication
import BareProxy.Tls.ServerConnection
import BareProxy.Tls.ServerFlights
import BareProxy.Tls.ServerHello
import BareProxy.Tls.Transport
import BareProxy.Tls.TransportPlain
import BareProxy.Tls.TransportStream
import BareProxy.Tls.WireRecords

import Mrtd.Asn1.Element
import Mrtd.Asn1.Name
import Mrtd.Asn1.ObjectIdentifier
import Mrtd.Asn1.Reader
import Mrtd.Authentication
import Mrtd.Bytes
import Mrtd.Certificate.Basic
import Mrtd.Certificate.Reader
import Mrtd.Cli.Arguments
import Mrtd.Cli.Command
import Mrtd.Cli.DataGroupArgument
import Mrtd.Cli.Help
import Mrtd.Cli.Program
import Mrtd.Cli.Result
import Mrtd.Cli.Settings
import Mrtd.Cms.SignedData
import Mrtd.Cms.SignerInfo
import Mrtd.Der.Algorithm
import Mrtd.Der.Canonical
import Mrtd.Der.Element
import Mrtd.Der.Fields
import Mrtd.Der.Name
import Mrtd.Der.SetOrder
import Mrtd.Der.Value
import Mrtd.Digest.Algorithm
import Mrtd.Digest.Padding
import Mrtd.Digest.Sha1
import Mrtd.Digest.Sha256
import Mrtd.Digest.Sha512
import Mrtd.DistinguishedName
import Mrtd.Error
import Mrtd.FileTree
import Mrtd.Finding
import Mrtd.Format.Boxed
import Mrtd.Format.Json
import Mrtd.Format.Scan
import Mrtd.Format.Toml
import Mrtd.Format.Value
import Mrtd.Main
import Mrtd.OrderedTable
import Mrtd.Policy.Basic
import Mrtd.Policy.Settings
import Mrtd.Proofs.AnchorResolution
import Mrtd.Proofs.Asn1.Element
import Mrtd.Proofs.Asn1.Name
import Mrtd.Proofs.Cms.Written
import Mrtd.Proofs.DataGroupKeys
import Mrtd.Proofs.Der.Canonical
import Mrtd.Proofs.Der.Elements
import Mrtd.Proofs.Der.Fields
import Mrtd.Proofs.Der.Oid
import Mrtd.Proofs.Der.SetOrder
import Mrtd.Proofs.Der.Written
import Mrtd.Proofs.Diagnostics
import Mrtd.Proofs.DistinguishedName
import Mrtd.Proofs.Identity
import Mrtd.Proofs.NameSpelling
import Mrtd.Proofs.Outcomes
import Mrtd.Proofs.PassiveAuthentication
import Mrtd.Proofs.Refusals
import Mrtd.Proofs.SerialNumber
import Mrtd.Proofs.SerialValue
import Mrtd.Proofs.SideBySide
import Mrtd.Proofs.SignerSource
import Mrtd.Proofs.Sod.DataGroups
import Mrtd.Proofs.Sod.DecodeErrors
import Mrtd.Proofs.Sod.EmbeddedSigner
import Mrtd.Proofs.Sod.Itemization
import Mrtd.Proofs.Sod.NamedSigner
import Mrtd.Proofs.Sod.RawFields
import Mrtd.Proofs.Sod.RoundTrip
import Mrtd.Proofs.Sod.SecurityTable
import Mrtd.Proofs.Sod.Signers
import Mrtd.Proofs.Sod.Verdict
import Mrtd.Proofs.Sod.Wrapper
import Mrtd.Proofs.Sorting
import Mrtd.Proofs.Store.Files
import Mrtd.Proofs.Store.History
import Mrtd.Proofs.Store.Insertions
import Mrtd.Proofs.Store.Loading
import Mrtd.Proofs.Store.Newest
import Mrtd.Proofs.Store.Slots
import Mrtd.Proofs.StoreOrder
import Mrtd.Proofs.Text.Blank
import Mrtd.Proofs.Text.Case
import Mrtd.Proofs.Text.Utf8
import Mrtd.Proofs.Tolerance
import Mrtd.Proofs.Trust.Candidates
import Mrtd.Proofs.Trust.Consistency
import Mrtd.Proofs.Trust.Decoys
import Mrtd.Proofs.Trust.Depth
import Mrtd.Proofs.Trust.DirectIssuer
import Mrtd.Proofs.Trust.Filing
import Mrtd.Proofs.Trust.Namesakes
import Mrtd.Proofs.Trust.Ranking
import Mrtd.Proofs.Trust.Report
import Mrtd.Proofs.Trust.Revocation
import Mrtd.Proofs.Trust.Roots
import Mrtd.Proofs.Trust.Selection
import Mrtd.Proofs.Trust.SignatureFindings
import Mrtd.Proofs.Trust.Unambiguous
import Mrtd.Proofs.Trust.Walk
import Mrtd.Record
import Mrtd.Repository
import Mrtd.RevocationList.Basic
import Mrtd.RevocationList.Reader
import Mrtd.SerialNumber
import Mrtd.Signature.Algorithm
import Mrtd.Signature.Ed25519
import Mrtd.Signature.EllipticCurve
import Mrtd.Signature.Modular
import Mrtd.Signature.Rsa
import Mrtd.Signature.Verifier
import Mrtd.Sod.DataGroups
import Mrtd.Sod.SecurityObject
import Mrtd.Sod.SecurityTable
import Mrtd.Sod.Verification
import Mrtd.Sorting
import Mrtd.Store.Certificates
import Mrtd.Store.Directory
import Mrtd.Store.RevocationLists
import Mrtd.Text.Base64
import Mrtd.Text.Blank
import Mrtd.Text.Case
import Mrtd.Text.CaseTable
import Mrtd.Text.Pem
import Mrtd.Text.Utf8
import Mrtd.Text.Width
import Mrtd.Text.WidthTable
import Mrtd.Timestamp
import Mrtd.Trust.Chain
import Mrtd.Trust.Revocation
import Mrtd.Trust.Validation
import Mrtd.Uuid

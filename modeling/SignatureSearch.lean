import SignatureSearch.Main
import SignatureSearch.Calls
import SignatureSearch.Proofs.Scan.Hits
import SignatureSearch.Proofs.Scan.Single
import SignatureSearch.Proofs.Scan.Block
import SignatureSearch.Proofs.Scan.Matches
import SignatureSearch.Proofs.Signature.Element
import SignatureSearch.Proofs.Signature.Grammar
import SignatureSearch.Proofs.Signature.RoundTrip
import SignatureSearch.Proofs.Scan.Subregion
import SignatureSearch.Proofs.Handle.Table
import SignatureSearch.Proofs.Handle.Interleaving
import SignatureSearch.Proofs.Signature.Encoded
import SignatureSearch.Proofs.Handle.Building
import SignatureSearch.Proofs.Handle.History
import SignatureSearch.Proofs.Scan.Checked
import SignatureSearch.Proofs.Signature.Subsumption
import SignatureSearch.Proofs.Scan.Iterators
import SignatureSearch.Proofs.Program.FileScan
import SignatureSearch.Proofs.Scan.Excerpt
import SignatureSearch.Proofs.Image.Headers
import SignatureSearch.Proofs.Image.Fileless
import SignatureSearch.Proofs.Image.Exact
import SignatureSearch.Proofs.Scan.Selection
import SignatureSearch.Proofs.Match.Displacement
import SignatureSearch.Proofs.Scan.FirstMatch
import SignatureSearch.Proofs.Image.NamedRegion
import SignatureSearch.Proofs.Handle.Ownership
import SignatureSearch.Proofs.Region.Views
import SignatureSearch.Proofs.Signature.Constructors
import SignatureSearch.Proofs.Module.Sections
import SignatureSearch.Proofs.Path.FileName
import SignatureSearch.Proofs.Module.Lookup
import SignatureSearch.Proofs.Module.Holding

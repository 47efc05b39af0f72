import BlobRemote.Act
import BlobRemote.Config.Ini
import BlobRemote.Config.Settings
import BlobRemote.Console.Command
import BlobRemote.Console.Files
import BlobRemote.Console.Grammar
import BlobRemote.Console.Help
import BlobRemote.Console.Logging
import BlobRemote.Console.Program
import BlobRemote.Console.Reading
import BlobRemote.Data.Dict
import BlobRemote.Data.Names
import BlobRemote.Database
import BlobRemote.Failure
import BlobRemote.Http.Address
import BlobRemote.Http.Exchange
import BlobRemote.Http.Listing
import BlobRemote.Http.Pool
import BlobRemote.Http.Scripted
import BlobRemote.Http.Store
import BlobRemote.Key
import BlobRemote.Log
import BlobRemote.Manifest
import BlobRemote.Number.Binary64
import BlobRemote.Number.Decimal
import BlobRemote.Number.Hex
import BlobRemote.Number.HexDigit
import BlobRemote.Number.Literal
import BlobRemote.Pack
import BlobRemote.Property.Escape
import BlobRemote.Property.File
import BlobRemote.Property.Line
import BlobRemote.Ref.Basic
import BlobRemote.Ref.Content
import BlobRemote.Ref.Packed
import BlobRemote.Ref.Scan
import BlobRemote.Remote.Host
import BlobRemote.Remote.Location
import BlobRemote.Session
import BlobRemote.Store.Basic
import BlobRemote.Store.Buffer
import BlobRemote.Store.Memory
import BlobRemote.Store.Upload
import BlobRemote.Text.Base64
import BlobRemote.Text.Blank
import BlobRemote.Text.Cut
import BlobRemote.Text.Digit
import BlobRemote.Text.Latin
import BlobRemote.Text.Lowercase
import BlobRemote.Text.Percent
import BlobRemote.Text.Printable
import BlobRemote.Text.Quoted
import BlobRemote.Text.Range
import BlobRemote.Text.Utf16
import BlobRemote.Text.Utf8
import BlobRemote.Xml.Doctype
import BlobRemote.Xml.Document
import BlobRemote.Xml.Element
import BlobRemote.Xml.NameChar
import BlobRemote.Xml.Token
import BlobRemote.Main
import BlobRemote.Proofs.Number.Hex
import BlobRemote.Proofs.Property.Escape
import BlobRemote.Proofs.Text.Utf8
import BlobRemote.Proofs.Property.Body
import BlobRemote.Proofs.Property.Pairing
import BlobRemote.Proofs.Data.Dict
import BlobRemote.Proofs.Property.RoundTrip
import BlobRemote.Proofs.Act
import BlobRemote.Proofs.Session.Operation
import BlobRemote.Proofs.Session.Client
import BlobRemote.Proofs.Session.Lifetime
import BlobRemote.Proofs.Manifest
import BlobRemote.Proofs.Session.Consistency
import BlobRemote.Proofs.Session.Reading
import BlobRemote.Proofs.Session.Command
import BlobRemote.Proofs.Session.Persistence
import BlobRemote.Proofs.Ref.Scanning
import BlobRemote.Proofs.Ref.Coherence
import BlobRemote.Proofs.Store.Recorded
import BlobRemote.Proofs.Session.Pinning
import BlobRemote.Proofs.Ref.Content
import BlobRemote.Proofs.Ref.Merging
import BlobRemote.Proofs.Text.Exact
import BlobRemote.Proofs.Key
import BlobRemote.Proofs.Store.History
import BlobRemote.Proofs.Session.Files
import BlobRemote.Proofs.Ref.Ending
import BlobRemote.Proofs.Ref.Success
import BlobRemote.Proofs.Ref.Place
import BlobRemote.Proofs.Ref.Pushing
import BlobRemote.Proofs.Ref.Packed
import BlobRemote.Proofs.Ref.Packing
import BlobRemote.Proofs.Store.Watched
import BlobRemote.Proofs.Session.Uploading
import BlobRemote.Proofs.Ref.Containment
import BlobRemote.Proofs.Http.Overheard
import BlobRemote.Proofs.Console.Program
import BlobRemote.Proofs.Session.Closing
import BlobRemote.Proofs.Store.Versions
import BlobRemote.Proofs.Session.Packs
import BlobRemote.Proofs.Http.Listing
import BlobRemote.Proofs.Ref.Legible
import BlobRemote.Proofs.Console.References
import BlobRemote.Proofs.Ref.Grammar
import BlobRemote.Proofs.Ref.Filing
import BlobRemote.Proofs.Session.Loading
import BlobRemote.Proofs.Store.Steady
import BlobRemote.Proofs.Ref.Chain
import BlobRemote.Proofs.Ref.Following
import BlobRemote.Proofs.Key.Segments
import BlobRemote.Proofs.Text.Percent
import BlobRemote.Proofs.Http.Address
import BlobRemote.Proofs.Property.Spelling
import BlobRemote.Proofs.Property.Layout
import BlobRemote.Proofs.Property.Uncut
import BlobRemote.Proofs.Key.Normal
import BlobRemote.Proofs.Remote.Url
import BlobRemote.Proofs.Remote.Namespace

import RefData.Json.Reader
import RefData.Json.Writer
import RefData.Text.Quoted
import RefData.Record.Payload
import RefData.Directory
import RefData.Link.Stitch
import RefData.Calendar
import RefData.Url.Address
import RefData.Exchange.Body
import RefData.Exchange.Envelope
import RefData.Exchange.Session
import RefData.Catalog.Section
import RefData.Catalog.Parameter
import RefData.Catalog.Defect
import RefData.Catalog.Source
import RefData.Catalog.ObjectType
import RefData.Catalog.Component.Repository
import RefData.Catalog.Dashboard
import RefData.Catalog.Measure
import RefData.Catalog.Search
import RefData.Toml.Reader
import RefData.Console.Run
import RefData.Http.Client
import RefData.Proxy.Forward
import RefData.Main
import RefData.Proofs.Dict
import RefData.Proofs.Collation
import RefData.Proofs.Exchange
import RefData.Proofs.Link.Stitch
import RefData.Proofs.Component.Run
import RefData.Proofs.Component.Numbering
import RefData.Proofs.Component.Snapshot
import RefData.Proofs.Parameter.Enrichment
import RefData.Proofs.Defect.Parts
import RefData.Proofs.Component.Merge
import RefData.Proofs.Envelope
import RefData.Proofs.Component.Isolation
import RefData.Proofs.Component.Saving
import RefData.Proofs.Dialogue
import RefData.Proofs.Listing
import RefData.Proofs.Search
import RefData.Proofs.Http.Headers
import RefData.Proofs.Proxy.Cookie
import RefData.Proofs.Proxy.Filter
import RefData.Proofs.Url.Address
import RefData.Proofs.Url.Origin
import RefData.Proofs.Url.Append
import RefData.Proofs.Proxy.Confinement
import RefData.Proofs.Link.Compound
import RefData.Proofs.Text.Fold
import RefData.Proofs.Link.Spelling
import RefData.Proofs.Component.Naming
import RefData.Proofs.Component.Repetition
import RefData.Proofs.Measure
import RefData.Proofs.Number.Rounding
import RefData.Proofs.Record.Integer
import RefData.Proofs.Proxy.Readdress
import RefData.Proofs.Proxy.Chain
import RefData.Proofs.Settings.Base
import RefData.Proofs.Component.Exhaustion
import RefData.Proofs.Defect.Naming
import RefData.Proofs.ObjectType
import RefData.Proofs.Proxy.Privacy
import RefData.Proofs.Settings.Login
import RefData.Proofs.Calendar.Era
import RefData.Proofs.Calendar.Moment
import RefData.Proofs.Proxy.Passage
import RefData.Proofs.Text.Projection
import RefData.Proofs.Source
import RefData.Proofs.Component.Relations
import RefData.Proofs.Console.Session
import RefData.Proofs.Json.Fields
import RefData.Proofs.Record.Text
import RefData.Proofs.Dashboard
import RefData.Proofs.CommaList
import RefData.Proofs.Record.Lines

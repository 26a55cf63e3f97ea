import Tagwire.Arguments
import Tagwire.CallSites
import Tagwire.Client
import Tagwire.Command
import Tagwire.Commands
import Tagwire.Config
import Tagwire.Context
import Tagwire.Endpoint
import Tagwire.Error
import Tagwire.Etags
import Tagwire.Host.Buffer
import Tagwire.Host.Disk
import Tagwire.Host.Memory
import Tagwire.Host.Program
import Tagwire.Host.Servers
import Tagwire.Json
import Tagwire.Language
import Tagwire.Listing
import Tagwire.Main
import Tagwire.Manager
import Tagwire.Mixer
import Tagwire.Path
import Tagwire.Pattern
import Tagwire.Proofs.CallSites.Callees
import Tagwire.Proofs.CallSites.Reread
import Tagwire.Proofs.Client.Resolving
import Tagwire.Proofs.Client.Routing
import Tagwire.Proofs.Command.Framing
import Tagwire.Proofs.Command.Reading
import Tagwire.Proofs.Commands.Appending
import Tagwire.Proofs.Commands.Querying
import Tagwire.Proofs.Commands.Replacing
import Tagwire.Proofs.Context.Candidates
import Tagwire.Proofs.Endpoint.HostPort
import Tagwire.Proofs.Etags.Appended
import Tagwire.Proofs.Etags.FirstFault
import Tagwire.Proofs.Etags.Lines
import Tagwire.Proofs.Etags.RoundTrip
import Tagwire.Proofs.Host.Disk
import Tagwire.Proofs.Host.Files
import Tagwire.Proofs.Host.Lockstep
import Tagwire.Proofs.Host.Requests
import Tagwire.Proofs.Listing.Names
import Tagwire.Proofs.Listing.ViFile
import Tagwire.Proofs.Manager.Answered
import Tagwire.Proofs.Manager.Cursor
import Tagwire.Proofs.Manager.DirectSend
import Tagwire.Proofs.Manager.Failover
import Tagwire.Proofs.Manager.History
import Tagwire.Proofs.Manager.Isolation
import Tagwire.Proofs.Manager.Launches
import Tagwire.Proofs.Manager.Lockstep
import Tagwire.Proofs.Manager.Retrying
import Tagwire.Proofs.Manager.Walk
import Tagwire.Proofs.Mixer.Starting
import Tagwire.Proofs.Pattern.Captured
import Tagwire.Proofs.Pattern.Named
import Tagwire.Proofs.Reply.Agreement
import Tagwire.Proofs.Reply.Records
import Tagwire.Proofs.Sexp.Alist
import Tagwire.Proofs.Sexp.Grammar
import Tagwire.Proofs.Sexp.Joining
import Tagwire.Proofs.Sexp.Reading
import Tagwire.Proofs.Sexp.RoundTrip
import Tagwire.Proofs.Sexp.Scan
import Tagwire.Proofs.Sexp.Spelling
import Tagwire.Proofs.TagsFile.Edited
import Tagwire.Proofs.TagsFile.Joining
import Tagwire.Proofs.TagsFile.Literal
import Tagwire.Proofs.TagsFile.Quoting
import Tagwire.Proofs.TagsFile.RoundTrip
import Tagwire.Proofs.TagsFile.Written
import Tagwire.Proofs.Text.Decimal
import Tagwire.Proofs.Text.Lossy
import Tagwire.Proofs.Text.Pieces
import Tagwire.Proofs.Text.Split
import Tagwire.Proofs.Text.Utf8
import Tagwire.Proofs.Wire.Reassembly
import Tagwire.Render
import Tagwire.Reply
import Tagwire.Sexp.Alist
import Tagwire.Sexp.Basic
import Tagwire.Sexp.Reader
import Tagwire.Sexp.Token
import Tagwire.TagsFile
import Tagwire.Text.Blank
import Tagwire.Text.Decimal
import Tagwire.Text.Escaped
import Tagwire.Text.Letters
import Tagwire.Text.Ranges
import Tagwire.Text.Split
import Tagwire.Text.Utf8
import Tagwire.Toml.Quoted
import Tagwire.Toml.Reader
import Tagwire.Toml.Scalar
import Tagwire.Toml.Value
import Tagwire.Toon
import Tagwire.Wire

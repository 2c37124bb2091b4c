import Companion.Language
import Companion.Code.Shown
import Companion.Helper.Build
import Companion.Source.File
import Companion.FileSystem.Listing
import Companion.Xml.Reference
import Companion.Xml.Token
import Companion.Xml.Scan
import Companion.Xml.Document
import Companion.Execution.Member
import Companion.Descriptor.Document
import Companion.Generation
import Companion.Main
import Companion.Execution.Session
import Companion.Proofs.Execution.Guarded
import Companion.Proofs.Helper.Members
import Companion.Proofs.Execution.Rethrow
import Companion.Proofs.Execution.Resources
import Companion.Proofs.Execution.Store
import Companion.Proofs.Path.Directory
import Companion.Proofs.FileSystem.Directories
import Companion.Proofs.Execution.Writing
import Companion.Proofs.Execution.Accounts
import Companion.Proofs.Execution.Activity
import Companion.Proofs.Source.Comments
import Companion.Proofs.Execution.Storage
import Companion.Proofs.Execution.Typing
import Companion.Proofs.Xml.Reread
import Companion.Proofs.Descriptor.Clashes
import Companion.Proofs.Helper.Edits
import Companion.Proofs.Execution.Levels
import Companion.Proofs.Execution.Finally
import Companion.Proofs.CommandLine.Printed
import Companion.Proofs.Xml.Variants
import Companion.Proofs.Source.CSharp
import Companion.Proofs.Source.VisualBasic
import Companion.Proofs.Helper.Siblings
import Companion.Proofs.Helper.Identifiers
import Companion.Proofs.Descriptor.Written
import Companion.Proofs.Execution.Buffered
import Companion.Proofs.Source.Nesting
import Companion.Proofs.FileSystem.Parents
import Companion.Proofs.Helper.Markup
import Companion.Proofs.Execution.Resolution
import Companion.Proofs.Helper.Names
import Companion.Proofs.Xml.References
import Companion.Proofs.Helper.Extension
import Companion.Proofs.Source.Regions
import Companion.Proofs.Execution.Identity
import Companion.Proofs.Source.Literals

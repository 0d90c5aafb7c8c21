import FirmwareTables.Bytes.Hex
import FirmwareTables.Bytes.LittleEndian
import FirmwareTables.CommandLine.Arguments
import FirmwareTables.CommandLine.Outcome
import FirmwareTables.Description.Fraction
import FirmwareTables.Description.Record
import FirmwareTables.Description.Section
import FirmwareTables.Description.Tree
import FirmwareTables.Disk
import FirmwareTables.Generator.Build
import FirmwareTables.Generator.Iort
import FirmwareTables.Generator.Madt
import FirmwareTables.Generator.Mcfg
import FirmwareTables.Generator.Registry
import FirmwareTables.Generator.Srat
import FirmwareTables.Identifier.GeneratorId
import FirmwareTables.Identifier.NameError
import FirmwareTables.Identifier.ObjectId
import FirmwareTables.Identifier.Revision
import FirmwareTables.Identifier.Signature
import FirmwareTables.Identifier.Token
import FirmwareTables.Json.Number
import FirmwareTables.Json.Printer
import FirmwareTables.Json.Reader
import FirmwareTables.Layout.Node
import FirmwareTables.Layout.Plan
import FirmwareTables.Main
import FirmwareTables.Manager.Basic
import FirmwareTables.Manager.Machine
import FirmwareTables.Platform.Application
import FirmwareTables.Platform.Basic
import FirmwareTables.Platform.Error
import FirmwareTables.Platform.Population
import FirmwareTables.Platform.Reading
import FirmwareTables.Platform.Section
import FirmwareTables.Platform.Validation
import FirmwareTables.Record.Affinity
import FirmwareTables.Record.Basic
import FirmwareTables.Record.Field
import FirmwareTables.Record.Interrupt
import FirmwareTables.Record.Manager
import FirmwareTables.Record.Remapping
import FirmwareTables.Repository.Access
import FirmwareTables.Repository.Descriptor
import FirmwareTables.Repository.Error
import FirmwareTables.Repository.Reading
import FirmwareTables.Repository.Store
import FirmwareTables.Table.Basic
import FirmwareTables.Table.Duplicate
import FirmwareTables.Table.Error
import FirmwareTables.Table.Generator
import FirmwareTables.Table.Header
import FirmwareTables.Table.Writer
import FirmwareTables.Text.Blank
import FirmwareTables.Text.Digits
import FirmwareTables.Text.Glyph
import FirmwareTables.Text.Quoted
import FirmwareTables.Text.Reader
import FirmwareTables.Text.Utf8
import FirmwareTables.Toml.Document
import FirmwareTables.Toml.Moment
import FirmwareTables.Toml.Number
import FirmwareTables.Toml.Table
import FirmwareTables.Toml.Text
import FirmwareTables.Toml.Value
import FirmwareTables.Proofs.Outcome
import FirmwareTables.Proofs.Table.Pieces
import FirmwareTables.Proofs.Layout.Filling
import FirmwareTables.Proofs.Generator.Assembly
import FirmwareTables.Proofs.Layout.Instances
import FirmwareTables.Proofs.Iort.Source
import FirmwareTables.Proofs.Table.Forms
import FirmwareTables.Proofs.Table.Walk
import FirmwareTables.Proofs.Iort.Inventory
import FirmwareTables.Proofs.Layout.Walking
import FirmwareTables.Proofs.Iort.References
import FirmwareTables.Proofs.Iort.Contents
import FirmwareTables.Proofs.Generator.Structures
import FirmwareTables.Proofs.Generator.Walks
import FirmwareTables.Proofs.Generator.Failures
import FirmwareTables.Proofs.Record.Codec
import FirmwareTables.Proofs.Repository.Finding
import FirmwareTables.Proofs.Repository.Adding
import FirmwareTables.Proofs.Platform.Running
import FirmwareTables.Proofs.Platform.Lots
import FirmwareTables.Proofs.Platform.Nodes
import FirmwareTables.Proofs.Platform.Storing
import FirmwareTables.Proofs.Platform.Populating
import FirmwareTables.Proofs.Platform.Configured
import FirmwareTables.Proofs.Platform.Listing
import FirmwareTables.Proofs.Platform.References
import FirmwareTables.Proofs.Platform.Handles
import FirmwareTables.Proofs.Platform.Tables
import FirmwareTables.Proofs.Platform.Counting
import FirmwareTables.Proofs.Platform.Retained
import FirmwareTables.Proofs.Repository.Traces
import FirmwareTables.Proofs.Repository.Typed
import FirmwareTables.Proofs.Layout.Frame
import FirmwareTables.Proofs.Manager.Ledger
import FirmwareTables.Proofs.Manager.Conservation
import FirmwareTables.Proofs.Manager.Installs
import FirmwareTables.Proofs.Manager.Callbacks
import FirmwareTables.Proofs.Renaming.Tables
import FirmwareTables.Proofs.Repository.Deposits
import FirmwareTables.Proofs.Platform.Drafts
import FirmwareTables.Proofs.Platform.Applying
import FirmwareTables.Proofs.Text.Spellings
import FirmwareTables.Proofs.Identifier.Naming
import FirmwareTables.Proofs.Platform.Requested
import FirmwareTables.Proofs.Disk
import FirmwareTables.Proofs.Generator.Registered
import FirmwareTables.Proofs.CommandLine.Files
import FirmwareTables.Proofs.Iort.Untagged
import FirmwareTables.Proofs.Repository.Holding
import FirmwareTables.Proofs.Manager.Finishing
import FirmwareTables.Proofs.Platform.Firing
import FirmwareTables.Proofs.Platform.Deferral
import FirmwareTables.Proofs.Repository.Separation
import FirmwareTables.Proofs.Repository.Calls
import FirmwareTables.Proofs.Repository.Appending
import FirmwareTables.Proofs.Repository.Bulk
import FirmwareTables.Proofs.Manager.Refusals
import FirmwareTables.Proofs.Generator.Reads
import FirmwareTables.Proofs.Table.Checksum
import FirmwareTables.Proofs.Generator.Finished
import FirmwareTables.Proofs.Generator.Acceptance
import FirmwareTables.Proofs.Generator.Revised
import FirmwareTables.Proofs.Record.Exactness
import FirmwareTables.Proofs.Record.Requests
import FirmwareTables.Proofs.Generator.Shapes
import FirmwareTables.Proofs.Generator.Initiators
import FirmwareTables.Proofs.Generator.Decoded
import FirmwareTables.Proofs.Table.Header
import FirmwareTables.Proofs.Platform.Labels
import FirmwareTables.Proofs.Generator.Vendors
import FirmwareTables.Proofs.Table.Duplicate
import FirmwareTables.Proofs.Generator.Membership
import FirmwareTables.Proofs.Table.Steps

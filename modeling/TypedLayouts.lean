import TypedLayouts.CommandLine.Arguments
import TypedLayouts.CommandLine.Program
import TypedLayouts.Config.Check
import TypedLayouts.Config.Format
import TypedLayouts.Config.Settings
import TypedLayouts.Decimal.Shortest
import TypedLayouts.EnvFile.Assignment
import TypedLayouts.EnvFile.Line
import TypedLayouts.EnvFile.Value
import TypedLayouts.Environment
import TypedLayouts.Files.Disk
import TypedLayouts.Files.FileError
import TypedLayouts.Files.Memory
import TypedLayouts.Files.Path
import TypedLayouts.Files.Sink
import TypedLayouts.Json.Decoder
import TypedLayouts.Json.Number
import TypedLayouts.Json.Reading
import TypedLayouts.Json.Value
import TypedLayouts.Layout.FetchError
import TypedLayouts.Layout.Metadata
import TypedLayouts.Layout.MetadataFormat
import TypedLayouts.Layout.Schema
import TypedLayouts.Main
import TypedLayouts.Module.Blueprint
import TypedLayouts.Module.ClientModule
import TypedLayouts.Module.FieldType
import TypedLayouts.Module.Index
import TypedLayouts.Module.Name
import TypedLayouts.Module.SchemaModule
import TypedLayouts.OrderedMap
import TypedLayouts.Proofs.Chains
import TypedLayouts.Proofs.CommandLine.EnvSearch
import TypedLayouts.Proofs.CommandLine.Preconditions
import TypedLayouts.Proofs.Config.Connection
import TypedLayouts.Proofs.Config.Names
import TypedLayouts.Proofs.Config.Offenders
import TypedLayouts.Proofs.Config.ReadBack
import TypedLayouts.Proofs.Config.Written
import TypedLayouts.Proofs.Files.Components
import TypedLayouts.Proofs.Files.Directories
import TypedLayouts.Proofs.Files.Mirror
import TypedLayouts.Proofs.Files.Tree
import TypedLayouts.Proofs.Json.Integers
import TypedLayouts.Proofs.Json.Records
import TypedLayouts.Proofs.Json.Rendering
import TypedLayouts.Proofs.Json.Shapes
import TypedLayouts.Proofs.Json.Spelling
import TypedLayouts.Proofs.Layout.Catalog
import TypedLayouts.Proofs.Layout.Entries
import TypedLayouts.Proofs.Layout.Fields
import TypedLayouts.Proofs.Layout.Firsts
import TypedLayouts.Proofs.Module.AcceptedTexts
import TypedLayouts.Proofs.Module.Backends
import TypedLayouts.Proofs.Module.CarriedStore
import TypedLayouts.Proofs.Module.Exports
import TypedLayouts.Proofs.Module.Identifiers
import TypedLayouts.Proofs.Module.ListDeclarations
import TypedLayouts.Proofs.Module.Openings
import TypedLayouts.Proofs.Module.References
import TypedLayouts.Proofs.Module.SchemaScope
import TypedLayouts.Proofs.Module.VariableReads
import TypedLayouts.Proofs.OrderedMaps
import TypedLayouts.Proofs.Run.Account
import TypedLayouts.Proofs.Run.ClientSettings
import TypedLayouts.Proofs.Run.FailedFetch
import TypedLayouts.Proofs.Run.Failure
import TypedLayouts.Proofs.Run.Imports
import TypedLayouts.Proofs.Run.Independence
import TypedLayouts.Proofs.Run.MadeDirectories
import TypedLayouts.Proofs.Run.Overwrites
import TypedLayouts.Proofs.Run.Program
import TypedLayouts.Proofs.Run.Regeneration
import TypedLayouts.Proofs.Run.Trace
import TypedLayouts.Proofs.Run.Visits
import TypedLayouts.Proofs.Server.Discipline
import TypedLayouts.Proofs.Server.Envelopes
import TypedLayouts.Proofs.Server.History
import TypedLayouts.Proofs.Server.Hosts
import TypedLayouts.Proofs.Server.MetadataTexts
import TypedLayouts.Proofs.Server.Missing
import TypedLayouts.Proofs.Server.Origin
import TypedLayouts.Proofs.Server.ProxyPort
import TypedLayouts.Proofs.Server.RequestUrls
import TypedLayouts.Proofs.Server.Secrecy
import TypedLayouts.Proofs.Text.Cuts
import TypedLayouts.Proofs.Text.Fragment
import TypedLayouts.Proofs.Text.Percent
import TypedLayouts.Proofs.Toml.Sections
import TypedLayouts.Proofs.Toml.Tables
import TypedLayouts.Proofs.TypeScript.Flattened
import TypedLayouts.Proofs.TypeScript.IndentCounter
import TypedLayouts.Proofs.TypeScript.Indentation
import TypedLayouts.Proofs.TypeScript.Induction
import TypedLayouts.Proofs.TypeScript.Literals
import TypedLayouts.Proofs.TypeScript.Plain.Objects
import TypedLayouts.Proofs.TypeScript.Plain.ReadStore
import TypedLayouts.Proofs.TypeScript.Plain.Values
import TypedLayouts.Proofs.TypeScript.Plain.Words
import TypedLayouts.Proofs.TypeScript.ReadBack.Documents
import TypedLayouts.Proofs.TypeScript.ReadBack.Expressions
import TypedLayouts.Proofs.TypeScript.ReadBack.Lists
import TypedLayouts.Proofs.TypeScript.ReadBack.Types
import TypedLayouts.Proofs.TypeScript.ReadBack.Words
import TypedLayouts.Proofs.TypeScript.SameType
import TypedLayouts.Proofs.TypeScript.Scope
import TypedLayouts.Proofs.TypeScript.StoreLookup
import TypedLayouts.Run.Generation
import TypedLayouts.Run.OnServer
import TypedLayouts.Run.Report
import TypedLayouts.Server.Address
import TypedLayouts.Server.ApiError
import TypedLayouts.Server.Envelope
import TypedLayouts.Server.LayoutResponse
import TypedLayouts.Server.Session
import TypedLayouts.Text.Alphanumeric
import TypedLayouts.Text.Base64
import TypedLayouts.Text.Blank
import TypedLayouts.Text.Identifier
import TypedLayouts.Text.Percent
import TypedLayouts.Text.Ranges
import TypedLayouts.Text.Reader
import TypedLayouts.Text.Separator
import TypedLayouts.Text.Shown
import TypedLayouts.Text.Visibility
import TypedLayouts.Toml.Document
import TypedLayouts.Toml.Node
import TypedLayouts.Toml.Token
import TypedLayouts.TypeScript.File
import TypedLayouts.TypeScript.Language.Automaton
import TypedLayouts.TypeScript.Language.Construct
import TypedLayouts.TypeScript.Language.Grammar
import TypedLayouts.TypeScript.Language.NumberSet
import TypedLayouts.TypeScript.Language.Precedence
import TypedLayouts.TypeScript.Language.Production
import TypedLayouts.TypeScript.Language.Rule
import TypedLayouts.TypeScript.Language.Rules.Classes
import TypedLayouts.TypeScript.Language.Rules.Declarations
import TypedLayouts.TypeScript.Language.Rules.Expressions
import TypedLayouts.TypeScript.Language.Rules.Functions
import TypedLayouts.TypeScript.Language.Rules.Literals
import TypedLayouts.TypeScript.Language.Rules.Modules
import TypedLayouts.TypeScript.Language.Rules.Patterns
import TypedLayouts.TypeScript.Language.Rules.Statements
import TypedLayouts.TypeScript.Language.Rules.TypeParts
import TypedLayouts.TypeScript.Language.Rules.Types
import TypedLayouts.TypeScript.Language.Token
import TypedLayouts.TypeScript.Printer
import TypedLayouts.TypeScript.Quoted
import TypedLayouts.TypeScript.Reading.Boundary
import TypedLayouts.TypeScript.Reading.Lexeme
import TypedLayouts.TypeScript.Reading.Lexer
import TypedLayouts.TypeScript.Reading.Node
import TypedLayouts.TypeScript.Reading.Parse
import TypedLayouts.TypeScript.Reading.Parser
import TypedLayouts.TypeScript.Reading.Recovery
import TypedLayouts.TypeScript.Reading.Scanner
import TypedLayouts.TypeScript.Reading.Source
import TypedLayouts.TypeScript.Reading.Stack
import TypedLayouts.TypeScript.Syntax
import TypedLayouts.TypeScript.TokenStore
import TypedLayouts.TypeScript.Tree

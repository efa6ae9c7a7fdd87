import SchemaNodes.Checksum
import SchemaNodes.Command.Arguments
import SchemaNodes.Command.Inspect
import SchemaNodes.Command.Lint
import SchemaNodes.Command.Output
import SchemaNodes.Dict
import SchemaNodes.FilePath
import SchemaNodes.Files.Basic
import SchemaNodes.Files.System
import SchemaNodes.Json.Cursor
import SchemaNodes.Json.Decode
import SchemaNodes.Json.Reader
import SchemaNodes.Json.Value
import SchemaNodes.Json.Writer
import SchemaNodes.Lint.Basic
import SchemaNodes.Lint.Directory
import SchemaNodes.Main
import SchemaNodes.Naming.AccessorName
import SchemaNodes.Naming.FuzzyScore
import SchemaNodes.Naming.Inflection
import SchemaNodes.Naming.Settings
import SchemaNodes.Naming.SettingsJson
import SchemaNodes.Naming.Suffix
import SchemaNodes.Naming.Suggestion
import SchemaNodes.Node.Basic
import SchemaNodes.Node.Call
import SchemaNodes.Node.Document
import SchemaNodes.Node.Serializer
import SchemaNodes.Number.Binary64
import SchemaNodes.Number.Shortest
import SchemaNodes.Number.Text
import SchemaNodes.Registry.AccessorTable
import SchemaNodes.Registry.Basic
import SchemaNodes.Registry.Compile
import SchemaNodes.Registry.Error
import SchemaNodes.Schema.Basic
import SchemaNodes.Schema.Format
import SchemaNodes.Schema.JsonText
import SchemaNodes.Schema.Load
import SchemaNodes.Schema.YamlText
import SchemaNodes.Script.Basic
import SchemaNodes.Script.Run
import SchemaNodes.Settings.Basic
import SchemaNodes.Settings.Decode
import SchemaNodes.Settings.Error
import SchemaNodes.Settings.KeyPath
import SchemaNodes.Settings.Load
import SchemaNodes.Settings.Source
import SchemaNodes.Settings.TomlText
import SchemaNodes.Settings.Tree
import SchemaNodes.Sha256
import SchemaNodes.Text.Case
import SchemaNodes.Text.CaseTable
import SchemaNodes.Text.EscapeTable
import SchemaNodes.Text.Quoted
import SchemaNodes.Text.Utf8
import SchemaNodes.Toml.Basic
import SchemaNodes.Toml.Quoted
import SchemaNodes.Toml.Reader
import SchemaNodes.Toml.Scalar
import SchemaNodes.Toml.Table
import SchemaNodes.Toml.Writer
import SchemaNodes.Yaml.CoreScalar
import SchemaNodes.Yaml.Event
import SchemaNodes.Yaml.Reader
import SchemaNodes.Yaml.Scalar
import SchemaNodes.Yaml.Source
import SchemaNodes.Yaml.Token
import SchemaNodes.Yaml.TokenStream
import SchemaNodes.Yaml.Tree
import SchemaNodes.Proofs.Chain
import SchemaNodes.Proofs.Naming.AccessorName
import SchemaNodes.Proofs.Text.Case
import SchemaNodes.Proofs.Naming.LastWord
import SchemaNodes.Proofs.Naming.WordCase
import SchemaNodes.Proofs.Naming.WordTables
import SchemaNodes.Proofs.Naming.IrregularWord
import SchemaNodes.Proofs.Naming.SuffixRule
import SchemaNodes.Proofs.Naming.RegularWord
import SchemaNodes.Proofs.Naming.CompoundFront
import SchemaNodes.Proofs.Registry.Claim
import SchemaNodes.Proofs.Registry.Compiled
import SchemaNodes.Proofs.Registry.Extension
import SchemaNodes.Proofs.Node.Call
import SchemaNodes.Proofs.Node.Operation
import SchemaNodes.Proofs.Node.Reach
import SchemaNodes.Proofs.Node.WellFormed
import SchemaNodes.Proofs.Node.BlockCall
import SchemaNodes.Proofs.Node.Refusal
import SchemaNodes.Proofs.Node.Growth
import SchemaNodes.Proofs.Node.Independence
import SchemaNodes.Proofs.Node.Procedure
import SchemaNodes.Proofs.Node.Alike
import SchemaNodes.Proofs.Node.Simulation
import SchemaNodes.Proofs.Node.Unpacking
import SchemaNodes.Proofs.Node.Extension
import SchemaNodes.Proofs.Registry.Reference
import SchemaNodes.Proofs.Registry.Decompiled
import SchemaNodes.Proofs.Lint.ShadowedAlias
import SchemaNodes.Proofs.Lint.UnknownType
import SchemaNodes.Proofs.Node.Construction
import SchemaNodes.Proofs.Node.ReadingPaths
import SchemaNodes.Proofs.Node.Batch
import SchemaNodes.Proofs.Json.Canonical
import SchemaNodes.Proofs.Json.Tokens
import SchemaNodes.Proofs.Node.Serialization
import SchemaNodes.Proofs.Json.Grammar
import SchemaNodes.Proofs.Json.Writing
import SchemaNodes.Proofs.Schema.Grammar
import SchemaNodes.Proofs.Schema.Text
import SchemaNodes.Proofs.Checksum
import SchemaNodes.Proofs.Schema.RoundTrip
import SchemaNodes.Proofs.Naming.InflectedTwice
import SchemaNodes.Proofs.Naming.KeyCase
import SchemaNodes.Proofs.Registry.CaseAlias
import SchemaNodes.Proofs.Naming.Suggestion
import SchemaNodes.Proofs.Registry.Redirection
import SchemaNodes.Proofs.Node.Suggestion
import SchemaNodes.Proofs.FilePath
import SchemaNodes.Proofs.Files.Tree
import SchemaNodes.Proofs.Lint.Directory
import SchemaNodes.Proofs.Command.Lint

import SqlScope.Calendar
import SqlScope.Cli.Arguments
import SqlScope.Cli.Interface
import SqlScope.Cli.LogFilter
import SqlScope.Cli.Run
import SqlScope.Config.Check
import SqlScope.Config.Load
import SqlScope.Config.Model
import SqlScope.Config.Schema
import SqlScope.Host
import SqlScope.Json
import SqlScope.Main
import SqlScope.Number.Binary64
import SqlScope.Number.Shortest
import SqlScope.Proofs.ChangeReport
import SqlScope.Proofs.Coverage
import SqlScope.Proofs.DuplicateRules
import SqlScope.Proofs.EngineContract
import SqlScope.Proofs.Inlining
import SqlScope.Proofs.InsertRows
import SqlScope.Proofs.Isolation
import SqlScope.Proofs.Lowercase
import SqlScope.Proofs.Outcome
import SqlScope.Proofs.Placement
import SqlScope.Proofs.QualifiedNames
import SqlScope.Proofs.ReadBack.Lexing
import SqlScope.Proofs.ReadBack.Literals
import SqlScope.Proofs.ReadBack.MergedSlot
import SqlScope.Proofs.ReadBack.Operands
import SqlScope.Proofs.ReadBack.Operators
import SqlScope.Proofs.ReadBack.Steps
import SqlScope.Proofs.RowSemantics
import SqlScope.Proofs.RuleBuilding
import SqlScope.Proofs.ScopedText
import SqlScope.Proofs.Slots
import SqlScope.Proofs.Visibility
import SqlScope.Proofs.Whitespace
import SqlScope.Schema
import SqlScope.Scope.Condition
import SqlScope.Scope.Engine
import SqlScope.Scope.Error
import SqlScope.Scope.Filter
import SqlScope.Scope.InsertColumn
import SqlScope.Scope.Literal
import SqlScope.Scope.Log
import SqlScope.Scope.Names
import SqlScope.Scope.Rule
import SqlScope.Scope.Source
import SqlScope.Sql.Dialect
import SqlScope.Sql.Keyword
import SqlScope.Sql.Lexer
import SqlScope.Sql.Parser.Catalog
import SqlScope.Sql.Parser.Core
import SqlScope.Sql.Parser.DataType
import SqlScope.Sql.Parser.Definition
import SqlScope.Sql.Parser.Grammar
import SqlScope.Sql.Parser.Privilege
import SqlScope.Sql.Parser.Session
import SqlScope.Sql.Parser.Statement
import SqlScope.Sql.Parser.Table
import SqlScope.Sql.Printer
import SqlScope.Sql.Syntax
import SqlScope.Sql.Token
import SqlScope.Text.Unicode
import SqlScope.Text.UnicodeData
import SqlScope.Yaml.Decoder
import SqlScope.Yaml.Document
import SqlScope.Yaml.Mark
import SqlScope.Yaml.Parser
import SqlScope.Yaml.Resolve
import SqlScope.Yaml.Scanner

import FieldRules.Binary64.Round
import FieldRules.Binary64.Shortest
import FieldRules.Binary64.Text
import FieldRules.Assoc
import FieldRules.Json.Value
import FieldRules.Json.Write
import FieldRules.Json.Read
import FieldRules.Json.Scalar
import FieldRules.Text.Blank
import FieldRules.Unicode.Runs
import FieldRules.Unicode.Category
import FieldRules.Unicode.Script
import FieldRules.Unicode.Property
import FieldRules.Unicode.CaseFold
import FieldRules.Text.Debug
import FieldRules.Rule.Basic
import FieldRules.Fault
import FieldRules.Rule.Parse
import FieldRules.Path
import FieldRules.Schema
import FieldRules.Message
import FieldRules.Report
import FieldRules.Config
import FieldRules.Context
import FieldRules.Handler
import FieldRules.Unicode.Binary
import FieldRules.Regex.Syntax
import FieldRules.Regex.Class
import FieldRules.Regex.Match
import FieldRules.Regex.Cache
import FieldRules.Rule.Union
import FieldRules.Handler.Params
import FieldRules.Registry
import FieldRules.Chain
import FieldRules.Text.Address
import FieldRules.Check.Param
import FieldRules.Check.Presence
import FieldRules.Check.Compare
import FieldRules.Check.Text
import FieldRules.Check.Number
import FieldRules.Check.Collection
import FieldRules.Calendar.Date
import FieldRules.Calendar.Parse
import FieldRules.Check.Date
import FieldRules.Engine
import FieldRules.Validator
import FieldRules.Proofs.Tally
import FieldRules.Proofs.ChainRun
import FieldRules.Proofs.Grouping
import FieldRules.Proofs.ExceptMaps
import FieldRules.Proofs.AssocInsert
import FieldRules.Proofs.Run
import FieldRules.Proofs.WriteBack
import FieldRules.Proofs.Aborts
import FieldRules.Proofs.AcceptedParams
import FieldRules.Proofs.BuildFaults
import FieldRules.Proofs.NestedReport
import FieldRules.Proofs.SplitText
import FieldRules.Proofs.JsonText
import FieldRules.Proofs.RuleText
import FieldRules.Proofs.ReportShapes
import FieldRules.Proofs.Registries
import FieldRules.Proofs.Bail
import FieldRules.Proofs.WriteOrder
import FieldRules.Proofs.SchemaKeys
import FieldRules.Proofs.SchemaOrder
import FieldRules.Proofs.FuelStable
import FieldRules.Proofs.ReadSize
import FieldRules.Proofs.RenderRead
import FieldRules.Proofs.ChainBuild
import FieldRules.Proofs.UnionRun
import FieldRules.Proofs.PathWrite
import FieldRules.Proofs.PathResolve
import FieldRules.Proofs.NestingSize
import FieldRules.Proofs.Resolution
import FieldRules.Proofs.PresenceRules
import FieldRules.Proofs.ObjectRules
import FieldRules.Proofs.PathAlign
import FieldRules.Proofs.BuiltRules
import FieldRules.Proofs.PatternCache
import FieldRules.Proofs.Messages

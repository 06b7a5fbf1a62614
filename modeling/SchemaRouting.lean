import SchemaRouting.Route.Table
import SchemaRouting.Scripted.Configuring
import SchemaRouting.Scripted.Drafting
import SchemaRouting.Proofs.Rule.RequiredProperties
import SchemaRouting.Proofs.Pipeline.Run
import SchemaRouting.Proofs.Schema.Layout
import SchemaRouting.Proofs.Schema.UnregisteredNames
import SchemaRouting.Proofs.Pipeline.Calls
import SchemaRouting.Proofs.Route.ValidatedCalls
import SchemaRouting.Proofs.Route.Finding
import SchemaRouting.Proofs.Json.Sorted
import SchemaRouting.Proofs.Json.Strings
import SchemaRouting.Proofs.Rule.Distinct
import SchemaRouting.Proofs.Rule.Conformance
import SchemaRouting.Proofs.Rule.Outcome
import SchemaRouting.Proofs.Rule.Idempotence
import SchemaRouting.Proofs.Rule.Leniency
import SchemaRouting.Proofs.Text.Joining
import SchemaRouting.Proofs.Text.Order
import SchemaRouting.Proofs.Text.Decoding
import SchemaRouting.Proofs.Http.MediaTypes
import SchemaRouting.Proofs.Registry.Tree
import SchemaRouting.Proofs.Registry.PathMap
import SchemaRouting.Proofs.Registry.NameOrder
import SchemaRouting.Proofs.Schema.Shape
import SchemaRouting.Proofs.Schema.Compiling
import SchemaRouting.Proofs.Schema.StepOrder
import SchemaRouting.Proofs.Pipeline.Alike
import SchemaRouting.Proofs.Route.Secrecy
import SchemaRouting.Proofs.Path.Joining
import SchemaRouting.Proofs.Path.Matching
import SchemaRouting.Proofs.Route.BodyTypes
import SchemaRouting.Proofs.Route.Mounting
import SchemaRouting.Proofs.Pipeline.Resolution
import SchemaRouting.Proofs.Route.DefaultFactories
import SchemaRouting.Proofs.Route.NamedFactory
import SchemaRouting.Proofs.Path.Extracting
import SchemaRouting.Proofs.Config.Valid
import SchemaRouting.Proofs.Json.Records
import SchemaRouting.Proofs.Schema.DistinctIds
import SchemaRouting.Proofs.Route.MountOrder
import SchemaRouting.Proofs.Route.MountAttempts
import SchemaRouting.Proofs.Route.Running
import SchemaRouting.Proofs.Route.AdmittedBodies
import SchemaRouting.Proofs.Config.Documents
import SchemaRouting.Proofs.Config.Variables
import SchemaRouting.Proofs.Config.Layers
import SchemaRouting.Proofs.Pipeline.Measures
import SchemaRouting.Proofs.Route.Compilations
import SchemaRouting.Proofs.Route.Accounting
import SchemaRouting.Proofs.Route.DefaultAnswers
import SchemaRouting.Proofs.Json.Values
import SchemaRouting.Proofs.Path.Stacking
import SchemaRouting.Proofs.Rule.Documents
import SchemaRouting.Proofs.Rule.Written
import SchemaRouting.Proofs.Rule.Rereading
import SchemaRouting.Proofs.Json.Nesting
import SchemaRouting.Proofs.Schema.Documents
import SchemaRouting.Proofs.Schema.WordedDocuments
import SchemaRouting.Proofs.Json.Texts
import SchemaRouting.Proofs.Json.Writing
import SchemaRouting.Proofs.Schema.Wording
import SchemaRouting.Proofs.Text.Trimming
import SchemaRouting.Proofs.Schema.HandlerNames
import SchemaRouting.Proofs.Schema.NamePatterns
import SchemaRouting.Proofs.Route.RepeatedKeys
import SchemaRouting.Proofs.Config.VariableOrder
import SchemaRouting.Proofs.Pipeline.Principals
import SchemaRouting.Proofs.Path.Lookups
import SchemaRouting.Proofs.Pipeline.HeaderFields
import SchemaRouting.Proofs.Json.Attributes

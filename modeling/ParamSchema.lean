import ParamSchema.Main
import ParamSchema.Document.Encode
import ParamSchema.Files.Tree
import ParamSchema.Schema.Hooks
import ParamSchema.TypeName.Decode
import ParamSchema.Proofs.Document.Mirror
import ParamSchema.Proofs.TypeName.Coercion
import ParamSchema.Proofs.Validation.Blame
import ParamSchema.Proofs.Validation.Hooks
import ParamSchema.Proofs.Validation.Relaxation
import ParamSchema.Proofs.Validation.Renumbering
import ParamSchema.Proofs.Validation.Revalidation
import ParamSchema.Proofs.Validation.Stability
import ParamSchema.Proofs.Validation.Undeclared
import ParamSchema.Proofs.Validation.Places
import ParamSchema.Proofs.Validation.DepthLimit
import ParamSchema.Proofs.Registry.Registrations
import ParamSchema.Proofs.Schema.Framing
import ParamSchema.Proofs.Validation.Finiteness
import ParamSchema.Proofs.Registry.Directories
import ParamSchema.Proofs.Validation.Interchange
import ParamSchema.Proofs.Json.Trees
import ParamSchema.Proofs.Document.Serialisation
import ParamSchema.Proofs.Json.Strings
import ParamSchema.Proofs.Numeral
import ParamSchema.Proofs.Binary64.Layout
import ParamSchema.Proofs.Json.Numbers
import ParamSchema.Proofs.Json.Reading
import ParamSchema.Proofs.CommandLine.Responses
import ParamSchema.Proofs.Document.Inclusions
import ParamSchema.Proofs.Outcome
import ParamSchema.Proofs.Schema.Addresses
import ParamSchema.Proofs.Validation.SharedPath
import ParamSchema.Proofs.Validation.Composition
import ParamSchema.Proofs.Validation.Containers
import ParamSchema.Proofs.Validation.Defences
import ParamSchema.Proofs.CommandLine.SchemaSources
import ParamSchema.Proofs.TypeName.Integers
import ParamSchema.Proofs.CommandLine.Arguments
import ParamSchema.Proofs.Log.Lines
import ParamSchema.Proofs.Path
import ParamSchema.Proofs.TypeName.Table
import ParamSchema.Proofs.CommandLine.OneSource

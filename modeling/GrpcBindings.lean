import GrpcBindings.Disk.FileTree
import GrpcBindings.Main
import GrpcBindings.Options.Json
import GrpcBindings.Proofs.BindingNames
import GrpcBindings.Proofs.CommentIndependence
import GrpcBindings.Proofs.DeclarationNames
import GrpcBindings.Proofs.FileNames
import GrpcBindings.Proofs.ImportResolution
import GrpcBindings.Proofs.Locality
import GrpcBindings.Proofs.MemberKeys
import GrpcBindings.Proofs.ScriptLines
import GrpcBindings.Proofs.Disk.FileTree
import GrpcBindings.Proofs.SinkLimit
import GrpcBindings.Proofs.Confinement
import GrpcBindings.Proofs.ClientCalls
import GrpcBindings.Proofs.DescriptorSet
import GrpcBindings.Proofs.AnySink
import GrpcBindings.Proofs.Indentation
import GrpcBindings.Proofs.Options
import GrpcBindings.Proofs.Text.StringLiteral
import GrpcBindings.Proofs.Literals
import GrpcBindings.Proofs.ImportAliases
import GrpcBindings.Proofs.MessageNesting
import GrpcBindings.Proofs.ParameterInfluence
import GrpcBindings.Proofs.Schema.Comments
import GrpcBindings.Proofs.ReachableMessages
import GrpcBindings.Proofs.Brackets

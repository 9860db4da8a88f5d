import StructForge.Container.Calls
import StructForge.Main
import StructForge.Proofs.Batch.FileContents
import StructForge.Service.Response
import StructForge.Struct.Pairing
import StructForge.Proofs.Struct.Building
import StructForge.Proofs.Struct.Hygiene
import StructForge.Proofs.Container.Elements
import StructForge.Proofs.Container.Entries
import StructForge.Proofs.Live.WholeMembers
import StructForge.Proofs.Struct.FieldSlots
import StructForge.Proofs.Struct.MappingConversion
import StructForge.Proofs.Struct.SequenceConversion
import StructForge.Proofs.Batch.Accounting
import StructForge.Proofs.Struct.BuildFailure
import StructForge.Proofs.Struct.EmissionFailure
import StructForge.Proofs.Files.Failing
import StructForge.Proofs.Batch.Isolation
import StructForge.Proofs.Container.Release
import StructForge.Proofs.Struct.Release
import StructForge.Proofs.Struct.Lifetime
import StructForge.Proofs.Schema.Partition
import StructForge.Proofs.Batch.Frame
import StructForge.Proofs.Batch.Pieces
import StructForge.Proofs.Batch.TemplateUse
import StructForge.Proofs.Batch.Preview
import StructForge.Proofs.Struct.FieldOrder
import StructForge.Proofs.Struct.DefaultValue
import StructForge.Proofs.Struct.Layout
import StructForge.Proofs.Container.OrderedMap
import StructForge.Proofs.Container.FixedStore
import StructForge.Proofs.Discovery.SearchReport
import StructForge.Proofs.Project.Accounting
import StructForge.Proofs.Config.Loading
import StructForge.Proofs.Project.Addressing
import StructForge.Proofs.Files.Storing
import StructForge.Proofs.Batch.Regeneration
import StructForge.Proofs.Service.Agreement
import StructForge.Proofs.Cli.EarlyFailure
import StructForge.Proofs.Batch.Announcement
import StructForge.Proofs.Batch.DropPolicy
import StructForge.Proofs.Cli.Inspection
import StructForge.Proofs.Struct.ImportRequests
import StructForge.Proofs.Config.Root
import StructForge.Proofs.Container.Capacity
import StructForge.Proofs.Struct.ReadingBack
import StructForge.Proofs.Schema.DropExplanation
import StructForge.Proofs.Batch.Confinement
import StructForge.Proofs.Struct.ElementNames
import StructForge.Proofs.Live.Assignment
import StructForge.Proofs.Live.ClassChain
import StructForge.Proofs.Live.Inheritance
import StructForge.Proofs.Config.Naming
import StructForge.Proofs.Live.DescribedNodes
import StructForge.Proofs.Live.Spelling

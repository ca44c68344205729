import SchemaFixtures.Files.Tree
import SchemaFixtures.Fixture.Session
import SchemaFixtures.Main
import SchemaFixtures.Fixture.Script
import SchemaFixtures.Proofs.Fixture.Tree
import SchemaFixtures.Proofs.Fixture.Plan
import SchemaFixtures.Proofs.Fixture.Reading
import SchemaFixtures.Proofs.Fixture.Showing
import SchemaFixtures.Proofs.Fixture.Traversal
import SchemaFixtures.Proofs.Fixture.Writing
import SchemaFixtures.Proofs.Fixture.PrivateScript
import SchemaFixtures.Proofs.Fixture.Frame
import SchemaFixtures.Proofs.Fixture.Mirroring
import SchemaFixtures.Proofs.Fixture.Isolation
import SchemaFixtures.Proofs.Fixture.Prescription
import SchemaFixtures.Proofs.Fixture.Delegation
import SchemaFixtures.Proofs.Fixture.Instantiation
import SchemaFixtures.Proofs.Fixture.Persistence
import SchemaFixtures.Proofs.Fixture.Course
import SchemaFixtures.Proofs.Fixture.Stability
import SchemaFixtures.Proofs.Fixture.Calls
import SchemaFixtures.Proofs.Fixture.Parts
import SchemaFixtures.Proofs.Fixture.Freshness
import SchemaFixtures.Proofs.Fixture.Discipline
import SchemaFixtures.Proofs.Fixture.DisciplinedRun
import SchemaFixtures.Proofs.Fixture.Ledger
import SchemaFixtures.Proofs.Fixture.Development
import SchemaFixtures.Proofs.Fixture.Copying
import SchemaFixtures.Proofs.Fixture.Separation
import SchemaFixtures.Proofs.Fixture.Independence
import SchemaFixtures.Proofs.Fixture.Acyclicity
import SchemaFixtures.Proofs.Fixture.Laziness
import SchemaFixtures.Proofs.Fixture.Discriminator
import SchemaFixtures.Proofs.Fixture.Eligibility
import SchemaFixtures.Proofs.Fixture.Rearrangement
import SchemaFixtures.Proofs.Schema.Gathering
import SchemaFixtures.Proofs.Schema.Merging
import SchemaFixtures.Proofs.Schema.TypeNames
import SchemaFixtures.Proofs.Schema.ExtensionOrder
import SchemaFixtures.Proofs.Text.Trimming
import SchemaFixtures.Proofs.Config.Acceptance
import SchemaFixtures.Proofs.Config.Rereading
import SchemaFixtures.Proofs.Config.Nesting
import SchemaFixtures.Proofs.Files.Writing
import SchemaFixtures.Proofs.Command.Site
import SchemaFixtures.Proofs.Emission.Lines
import SchemaFixtures.Proofs.Emission.Layout
import SchemaFixtures.Proofs.Emission.Defaults
import SchemaFixtures.Proofs.Emission.Properties
import SchemaFixtures.Proofs.Emission.References
import SchemaFixtures.Proofs.Emission.Reader
import SchemaFixtures.Proofs.Emission.Readable
import SchemaFixtures.Proofs.Emission.Evaluation
import SchemaFixtures.Proofs.Emission.Realisation
import SchemaFixtures.Proofs.Emission.Rearrangement
import SchemaFixtures.Proofs.Fixture.Discipline
import SchemaFixtures.Proofs.Fixture.Development
import SchemaFixtures.Proofs.Fixture.Creation
import SchemaFixtures.Proofs.Fixture.Places
import SchemaFixtures.Proofs.Fixture.Exploration
import SchemaFixtures.Proofs.Fixture.Demand
import SchemaFixtures.Proofs.Fixture.Laziness
import SchemaFixtures.Proofs.Command.Stages
import SchemaFixtures.Proofs.Text.Unmarked
import SchemaFixtures.Proofs.Schema.Contents
import SchemaFixtures.Proofs.Sdl.Names
import SchemaFixtures.Proofs.Emission.Printing
import SchemaFixtures.Proofs.Json.Printing
import SchemaFixtures.Proofs.Command.ArgumentTexts
import SchemaFixtures.Proofs.Command.Decoration
import SchemaFixtures.Proofs.Files.Printing
import SchemaFixtures.Proofs.Command.Colors
import SchemaFixtures.Proofs.Fixture.QuoteStyles
import SchemaFixtures.Proofs.Fixture.Drafts
import SchemaFixtures.Proofs.Schema.Idempotence
import SchemaFixtures.Proofs.Schema.Kinds
import SchemaFixtures.Proofs.Fixture.LastingTrees
import SchemaFixtures.Proofs.Fixture.Depths
import SchemaFixtures.Proofs.Json.Members
import SchemaFixtures.Proofs.Fixture.JsonDefaults
import SchemaFixtures.Proofs.Emission.PascalCase
import SchemaFixtures.Proofs.Emission.WrittenFactories
import SchemaFixtures.Proofs.Emission.ImportPath
import SchemaFixtures.Proofs.Command.ColorChoice
import SchemaFixtures.Proofs.Files.Ancestry
import SchemaFixtures.Proofs.Config.Nearest
import SchemaFixtures.Proofs.Command.AddedOption
import SchemaFixtures.Proofs.Command.FoundConfig
import SchemaFixtures.Proofs.Schema.TypeReferences

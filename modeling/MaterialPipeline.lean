import MaterialPipeline.Feature.Template
import MaterialPipeline.History
import MaterialPipeline.Pipeline
import MaterialPipeline.Proofs.Pass.Alone
import MaterialPipeline.Proofs.Frame.Order
import MaterialPipeline.Proofs.Frame.Routing
import MaterialPipeline.Proofs.Frame.Dispatch
import MaterialPipeline.Proofs.Device.Objects
import MaterialPipeline.Proofs.Session.Trades
import MaterialPipeline.Proofs.Material.Owned
import MaterialPipeline.Proofs.Material.Holdings
import MaterialPipeline.Proofs.Storage.Slots
import MaterialPipeline.Proofs.Material.Stock
import MaterialPipeline.Proofs.Material.Ownership
import MaterialPipeline.Proofs.Material.Total
import MaterialPipeline.Proofs.Device.Registers
import MaterialPipeline.Proofs.Frame.Rounds
import MaterialPipeline.Proofs.Material.Renderable
import MaterialPipeline.Proofs.Frame.Strokes
import MaterialPipeline.Proofs.Material.Builds
import MaterialPipeline.Proofs.Frame.Drawn
import MaterialPipeline.Proofs.Frame.Effects
import MaterialPipeline.Proofs.Frame.Batching
import MaterialPipeline.Proofs.Session.Stops
import MaterialPipeline.Proofs.Material.Stops
import MaterialPipeline.Proofs.Material.Answers
import MaterialPipeline.Proofs.Frame.Handles
import MaterialPipeline.Proofs.Frame.Claims
import MaterialPipeline.Proofs.Frame.Tally
import MaterialPipeline.Proofs.Pass.Standing
import MaterialPipeline.Proofs.Material.Samplers
import MaterialPipeline.Proofs.Feature.Constants
import MaterialPipeline.Proofs.Material.Uploads
import MaterialPipeline.Proofs.Material.Contents
import MaterialPipeline.Proofs.Material.Trials
import MaterialPipeline.Proofs.Material.Resets
import MaterialPipeline.Proofs.Material.Changes
import MaterialPipeline.Proofs.Material.Steps
import MaterialPipeline.Proofs.Material.Asking
import MaterialPipeline.Proofs.Material.Configured
import MaterialPipeline.Proofs.Material.Afresh
import MaterialPipeline.Proofs.Material.Outage
import MaterialPipeline.Proofs.Frame.Outage
import MaterialPipeline.Proofs.Pass.Compositing
import MaterialPipeline.Proofs.Frame.Exclusive
import MaterialPipeline.Proofs.Frame.Brackets
import MaterialPipeline.Proofs.Frame.Tenants
import MaterialPipeline.Proofs.Frame.Places
import MaterialPipeline.Proofs.Frame.Returns
import MaterialPipeline.Proofs.Material.Easing
import MaterialPipeline.Proofs.Material.Lending
import MaterialPipeline.Proofs.Frame.Shadow
import MaterialPipeline.Proofs.Material.Membership
import MaterialPipeline.Proofs.Device.Targets
import MaterialPipeline.Proofs.Frame.Targets
import MaterialPipeline.Proofs.Material.Without
import MaterialPipeline.Proofs.Material.Scoped
import MaterialPipeline.Proofs.Material.Motion
import MaterialPipeline.Proofs.Feature.Reads
import MaterialPipeline.Proofs.Feature.Algebra
import MaterialPipeline.Proofs.Feature.Table
import MaterialPipeline.Proofs.Program.Order
import MaterialPipeline.Proofs.Material.Interface
import MaterialPipeline.Proofs.Frame.Sequence
import MaterialPipeline.Proofs.Material.Loading
import MaterialPipeline.Proofs.Material.Hooks
import MaterialPipeline.Proofs.Frame.Gathering
import MaterialPipeline.Proofs.Storage.Refinement
import MaterialPipeline.Proofs.Program.Price
import MaterialPipeline.Proofs.Frame.Offscreen
import MaterialPipeline.Proofs.Storage.Pairs

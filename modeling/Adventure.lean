import Adventure.Main
import Adventure.Proofs.Table
import Adventure.Proofs.Attributes
import Adventure.Proofs.World.Views
import Adventure.Proofs.World.Moves
import Adventure.Proofs.World.Operations
import Adventure.Proofs.World.Exclusive
import Adventure.Proofs.World.Depth
import Adventure.Proofs.World.Consistency
import Adventure.Proofs.World.Setting
import Adventure.Proofs.World.References
import Adventure.Proofs.World.Notes
import Adventure.Proofs.World.Bodies
import Adventure.Proofs.World.Ledger
import Adventure.Proofs.World.Whereabouts
import Adventure.Proofs.World.Rest
import Adventure.Proofs.World.Origins
import Adventure.Proofs.World.Garments
import Adventure.Proofs.World.Weighing
import Adventure.Proofs.World.Burden
import Adventure.Proofs.World.Weights
import Adventure.Proofs.World.Switches
import Adventure.Proofs.World.Things
import Adventure.Proofs.World.EventIndex
import Adventure.Proofs.Text.Words
import Adventure.Proofs.Turn.Changes
import Adventure.Proofs.Turn.Arguments
import Adventure.Proofs.Turn.Handlers
import Adventure.Proofs.Turn.Stages
import Adventure.Proofs.Turn.Effects
import Adventure.Proofs.Turn.Course
import Adventure.Proofs.Turn.Notes
import Adventure.Proofs.Turn.Resuming
import Adventure.Proofs.Turn.Death
import Adventure.Proofs.Turn.Payment
import Adventure.Proofs.Turn.Ownership
import Adventure.Proofs.Turn.Garments
import Adventure.Proofs.Turn.Burden
import Adventure.Proofs.Turn.Firing
import Adventure.Proofs.Turn.Copies
import Adventure.Proofs.Loading.Parts
import Adventure.Proofs.Loading.Worlds
import Adventure.Proofs.Loading.Beginnings
import Adventure.Proofs.Loading.Accounts
import Adventure.Proofs.Loading.Records
import Adventure.Proofs.Loading.Assembly
import Adventure.Proofs.Loading.Completeness
import Adventure.Proofs.Loading.EventReferences
import Adventure.Proofs.Session.Reached
import Adventure.Proofs.Session.Rejection
import Adventure.Proofs.Session.Listing
import Adventure.Proofs.Session.Course
import Adventure.Proofs.Session.Payment
import Adventure.Proofs.Session.Ownership
import Adventure.Proofs.Session.Garments
import Adventure.Proofs.Session.Capacity
import Adventure.Proofs.Session.Switches
import Adventure.Proofs.Session.Closure
import Adventure.Proofs.Session.Waiting
import Adventure.Proofs.Session.Death
import Adventure.Proofs.Session.Refilling
import Adventure.Proofs.World.Insertion
import Adventure.Proofs.Session.Stowing
import Adventure.Proofs.Turn.Slots
import Adventure.Proofs.Turn.Fallbacks
import Adventure.Proofs.Turn.Arrival
import Adventure.Proofs.Session.Narration
import Adventure.Proofs.Turn.Nouns
import Adventure.Proofs.Text.Template
import Adventure.Proofs.Text.Pieces
import Adventure.Proofs.Turn.Narration
import Adventure.Proofs.Turn.Perils
import Adventure.Proofs.Turn.Steps
import Adventure.Proofs.Turn.Immunity
import Adventure.Proofs.Session.Immunity
import Adventure.Proofs.Loading.CommandNames
import Adventure.Proofs.Session.Suggestions
import Adventure.Proofs.Loading.DerivedExits
import Adventure.Proofs.Loading.Placement

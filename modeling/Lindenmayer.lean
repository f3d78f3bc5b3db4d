import Lindenmayer.Brackets
import Lindenmayer.Canvas.Color
import Lindenmayer.Canvas.Drawing
import Lindenmayer.Canvas.Fit
import Lindenmayer.Canvas.Placement
import Lindenmayer.Canvas.Segment
import Lindenmayer.Checkpoint
import Lindenmayer.Config.Basic
import Lindenmayer.Config.Message
import Lindenmayer.Config.Preset
import Lindenmayer.Control.Flags
import Lindenmayer.Control.Handles
import Lindenmayer.Decimal.Basic
import Lindenmayer.Decimal.Binary
import Lindenmayer.Decimal.Shortest
import Lindenmayer.Document.Basic
import Lindenmayer.Document.Config
import Lindenmayer.Document.Drawing
import Lindenmayer.Document.Status
import Lindenmayer.Expansion
import Lindenmayer.Failure
import Lindenmayer.Geometry.BoundingBox
import Lindenmayer.Geometry.Point
import Lindenmayer.Geometry.Scalar
import Lindenmayer.Grammar.Clause
import Lindenmayer.Grammar.Problem
import Lindenmayer.Grammar.RuleTable
import Lindenmayer.Grammar.Validation
import Lindenmayer.Proofs.Brackets
import Lindenmayer.Proofs.Canvas.Margins
import Lindenmayer.Proofs.Canvas.Passes
import Lindenmayer.Proofs.Canvas.Rendering
import Lindenmayer.Proofs.Canvas.Scale
import Lindenmayer.Proofs.Consultation
import Lindenmayer.Proofs.Expansion.Balance
import Lindenmayer.Proofs.Expansion.Growth
import Lindenmayer.Proofs.Expansion.Homomorphism
import Lindenmayer.Proofs.Expansion.Identity
import Lindenmayer.Proofs.Expansion.Interruption
import Lindenmayer.Proofs.Expansion.Limit
import Lindenmayer.Proofs.Expansion.Oversized
import Lindenmayer.Proofs.Geometry.Exact
import Lindenmayer.Proofs.Geometry.Points
import Lindenmayer.Proofs.Grammar.Agreement
import Lindenmayer.Proofs.Grammar.Balance
import Lindenmayer.Proofs.Grammar.Cuts
import Lindenmayer.Proofs.Grammar.Language
import Lindenmayer.Proofs.Grammar.Lines
import Lindenmayer.Proofs.Grammar.Notation
import Lindenmayer.Proofs.Grammar.Table
import Lindenmayer.Proofs.Grammar.ViablePrefix
import Lindenmayer.Proofs.Nesting
import Lindenmayer.Proofs.Render.Course
import Lindenmayer.Proofs.Render.History
import Lindenmayer.Proofs.Render.OnCanvas
import Lindenmayer.Proofs.Render.PathLength
import Lindenmayer.Proofs.Render.Picture
import Lindenmayer.Proofs.Render.Questions
import Lindenmayer.Proofs.Render.Refinement
import Lindenmayer.Proofs.Render.Separators
import Lindenmayer.Proofs.Render.Session
import Lindenmayer.Proofs.Render.StatusStream
import Lindenmayer.Proofs.Render.Stopping
import Lindenmayer.Proofs.Render.Studio
import Lindenmayer.Proofs.Render.Symbols
import Lindenmayer.Proofs.Strays
import Lindenmayer.Proofs.Turtle.Ancestry
import Lindenmayer.Proofs.Turtle.Branches
import Lindenmayer.Proofs.Turtle.ClosedBranch
import Lindenmayer.Proofs.Turtle.Figure
import Lindenmayer.Proofs.Turtle.Follow
import Lindenmayer.Proofs.Turtle.Interruption
import Lindenmayer.Proofs.Turtle.Outcome
import Lindenmayer.Proofs.Watched
import Lindenmayer.Render.Message
import Lindenmayer.Render.Picture
import Lindenmayer.Render.Renderer
import Lindenmayer.Render.Session
import Lindenmayer.Render.Status
import Lindenmayer.Symbol
import Lindenmayer.Text.CodePointRange
import Lindenmayer.Text.Combining
import Lindenmayer.Text.Invisible
import Lindenmayer.Text.Quoted
import Lindenmayer.Turtle.Command
import Lindenmayer.Turtle.Pose
import Lindenmayer.Turtle.Walk

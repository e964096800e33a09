import Draftsman.Main
import Draftsman.Program.World
import Draftsman.Proofs.Agent.Registry
import Draftsman.Proofs.Reply.Heading
import Draftsman.Proofs.Reply.Section
import Draftsman.Proofs.Run.Course
import Draftsman.Proofs.Run.Budget
import Draftsman.Proofs.Run.Conversation
import Draftsman.Proofs.Run.FinalStep
import Draftsman.Proofs.Run.Invented
import Draftsman.Proofs.Run.KeptCall
import Draftsman.Proofs.Run.Cancellation
import Draftsman.Proofs.Diagram.Layers
import Draftsman.Proofs.Run.Transcript
import Draftsman.Proofs.Run.Calls
import Draftsman.Proofs.Provider.Client
import Draftsman.Proofs.Run.Recovery
import Draftsman.Proofs.Run.Drawing
import Draftsman.Proofs.Diagram.Svg
import Draftsman.Proofs.Diagram.Statement
import Draftsman.Proofs.Agent.Callable
import Draftsman.Proofs.Run.Voiced
import Draftsman.Proofs.Reply.Call
import Draftsman.Proofs.Diagram.Boxes
import Draftsman.Proofs.Diagram.Arrow
import Draftsman.Proofs.Diagram.Caption
import Draftsman.Proofs.Diagram.Places
import Draftsman.Proofs.Provider.Conversation
import Draftsman.Proofs.Diagram.Order
import Draftsman.Proofs.Diagram.Chain
import Draftsman.Proofs.Diagram.FreeLabel
import Draftsman.Proofs.Diagram.Ends
import Draftsman.Proofs.Reply.InputForms
import Draftsman.Proofs.Reply.Contents
import Draftsman.Proofs.Reply.Observation
import Draftsman.Proofs.Reply.Answer
import Draftsman.Proofs.Reply.Name
import Draftsman.Proofs.Reply.Spelling
import Draftsman.Proofs.Agent.History
import Draftsman.Proofs.Provider.Keys
import Draftsman.Proofs.Settings.Layers
import Draftsman.Proofs.Diagram.Checked
import Draftsman.Proofs.Reply.Located
import Draftsman.Proofs.Transcript.Report

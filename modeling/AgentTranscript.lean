import AgentTranscript.Json.Reader
import AgentTranscript.Json.Writer
import AgentTranscript.Text.Words
import AgentTranscript.Text.Terminal
import AgentTranscript.Text.Width
import AgentTranscript.Text.Lines
import AgentTranscript.Text.Utf8
import AgentTranscript.Text.Quoted
import AgentTranscript.Json.Shape
import AgentTranscript.Update.Decode
import AgentTranscript.Session.Feed
import AgentTranscript.Message.Encode
import AgentTranscript.Message.Decode
import AgentTranscript.Session.Store
import AgentTranscript.Display.Render
import AgentTranscript.Settings
import AgentTranscript.Main
import AgentTranscript.Proofs.Update.Equality
import AgentTranscript.Proofs.Transcript.Locality
import AgentTranscript.Proofs.Transcript.Checkpoint
import AgentTranscript.Proofs.Session.Store
import AgentTranscript.Proofs.Session.Run
import AgentTranscript.Proofs.Session.Routing
import AgentTranscript.Proofs.Tool.Merge
import AgentTranscript.Proofs.Transcript.Blocks
import AgentTranscript.Proofs.Transcript.Closed
import AgentTranscript.Proofs.Transcript.Timing
import AgentTranscript.Proofs.Transcript.ToolCalls
import AgentTranscript.Proofs.Session.Feed
import AgentTranscript.Proofs.Transcript.OpenTurn
import AgentTranscript.Proofs.Transcript.CurrentAction
import AgentTranscript.Proofs.Transcript.Finish
import AgentTranscript.Proofs.Text.Words
import AgentTranscript.Proofs.Text.Cut
import AgentTranscript.Proofs.Text.Terminal
import AgentTranscript.Proofs.Text.Escapes
import AgentTranscript.Proofs.Text.CutMark
import AgentTranscript.Proofs.Tool.Output
import AgentTranscript.Proofs.Transcript.Inert
import AgentTranscript.Proofs.Transcript.Streams
import AgentTranscript.Proofs.Transcript.UserMessages
import AgentTranscript.Proofs.Session.Intake
import AgentTranscript.Proofs.CommandLine.Isolation
import AgentTranscript.Proofs.Json.Members
import AgentTranscript.Proofs.Json.Shape
import AgentTranscript.Proofs.Json.Reading
import AgentTranscript.Proofs.Json.Scalars
import AgentTranscript.Proofs.Json.Written
import AgentTranscript.Proofs.Message.RoundTrip
import AgentTranscript.Proofs.Tool.Kind
import AgentTranscript.Proofs.Update.Envelope
import AgentTranscript.Proofs.Update.Unknown
import AgentTranscript.Proofs.Update.Spacing
import AgentTranscript.Proofs.Session.State
import AgentTranscript.Proofs.Text.Lines
import AgentTranscript.Proofs.Text.Width
import AgentTranscript.Proofs.Display.Tool
import AgentTranscript.Proofs.Display.Messages
import AgentTranscript.Proofs.Display.LineFeeds
import AgentTranscript.Proofs.CommandLine.Arguments

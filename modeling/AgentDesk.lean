import AgentDesk.Main
import AgentDesk.Proofs.Turn.Requests
import AgentDesk.Proofs.Turn.Restart
import AgentDesk.Proofs.Desk.Queues
import AgentDesk.Proofs.Desk.Cancellation
import AgentDesk.Proofs.Desk.Charges
import AgentDesk.Proofs.Desk.Takers
import AgentDesk.Proofs.Tracker.Ownership
import AgentDesk.Proofs.Tracker.Delivery
import AgentDesk.Proofs.Turn.Streaming
import AgentDesk.Proofs.Anthropic.Agreement
import AgentDesk.Proofs.Store.Interchange
import AgentDesk.Proofs.Message.RoundTrip
import AgentDesk.Proofs.Desk.Errands
import AgentDesk.Proofs.Desk.Calls
import AgentDesk.Desk.Shutdown
import AgentDesk.Proofs.Desk.Registration
import AgentDesk.Proofs.Desk.Shutdown
import AgentDesk.Proofs.Store.Lineage
import AgentDesk.Proofs.Desk.Ceiling
import AgentDesk.Proofs.Desk.RollUp
import AgentDesk.Proofs.Message.Record
import AgentDesk.Proofs.Turn.Abort
import AgentDesk.Proofs.Desk.Attendance
import AgentDesk.Proofs.Desk.ToolRun
import AgentDesk.Proofs.CommandLine.Answers
import AgentDesk.Proofs.CommandLine.Feeding
import AgentDesk.Proofs.Workbench.LineEnds
import AgentDesk.Proofs.Workbench.Write
import AgentDesk.Proofs.Workbench.Places
import AgentDesk.Proofs.Workbench.Guard
import AgentDesk.Proofs.Workbench.Bans
import AgentDesk.Proofs.Anthropic.Conversation
import AgentDesk.Proofs.Store.Frames
import AgentDesk.Proofs.Glob.Braces
import AgentDesk.Proofs.Workbench.Paging
import AgentDesk.Proofs.Workbench.Ranking
import AgentDesk.Proofs.Workbench.Tidying
import AgentDesk.Proofs.Workbench.Download
import AgentDesk.Proofs.Prices
import AgentDesk.Proofs.Rosters

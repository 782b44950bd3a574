import AssistantUI.Build.Flat
import AssistantUI.Build.Plain
import AssistantUI.Chat.Overlap
import AssistantUI.Event.Trial
import AssistantUI.Main
import AssistantUI.State.Watched
import AssistantUI.Proofs.Definition.Reading
import AssistantUI.Proofs.Definition.RoundTrip
import AssistantUI.Proofs.Render.Chain
import AssistantUI.Proofs.Render.Nodes
import AssistantUI.Proofs.Render.Callbacks
import AssistantUI.Proofs.Render.Origin
import AssistantUI.Proofs.Act
import AssistantUI.Proofs.Session.Journal
import AssistantUI.Proofs.Session.Invariant
import AssistantUI.Proofs.Session.Freshness
import AssistantUI.Proofs.Definition.Tolerance
import AssistantUI.Proofs.Session.Lasting
import AssistantUI.Proofs.Session.Silence
import AssistantUI.Proofs.Session.Interaction
import AssistantUI.Proofs.Form.Submission
import AssistantUI.Proofs.Form.Agreement
import AssistantUI.Proofs.Definition.Cut
import AssistantUI.Proofs.Definition.Kinds
import AssistantUI.Proofs.Build.Outline
import AssistantUI.Proofs.Build.Envelope
import AssistantUI.Proofs.Session.Permitted
import AssistantUI.Proofs.Chat.Exchange
import AssistantUI.Proofs.Chat.Mounted
import AssistantUI.Proofs.Chat.Operations
import AssistantUI.Proofs.Session.Single
import AssistantUI.Proofs.Chat.Understanding
import AssistantUI.Proofs.Chat.Submission
import AssistantUI.Proofs.Service.History
import AssistantUI.Proofs.Service.Remote
import AssistantUI.Proofs.Render.InOrder
import AssistantUI.Proofs.Render.Containment
import AssistantUI.Proofs.Render.Splicing
import AssistantUI.Proofs.Render.Dependence
import AssistantUI.Proofs.Session.Handlers
import AssistantUI.Proofs.Reporter
import AssistantUI.Proofs.Definition.Issues
import AssistantUI.Proofs.Render.Issues
import AssistantUI.Proofs.Session.Ledger
import AssistantUI.Proofs.Session.Diagnostics
import AssistantUI.Proofs.Render.Marks
import AssistantUI.Proofs.Render.Elements
import AssistantUI.Proofs.Render.Placeholders
import AssistantUI.Proofs.Render.WellFormed
import AssistantUI.Proofs.Chat.Answered
import AssistantUI.Proofs.State.Merges
import AssistantUI.Proofs.State.Copies
import AssistantUI.Proofs.State.Registrations
import AssistantUI.Proofs.Chat.Pages
import AssistantUI.Proofs.Chat.Loading
import AssistantUI.Proofs.Definition.Depth
import AssistantUI.Proofs.Session.Nesting
import AssistantUI.Proofs.Session.Course
import AssistantUI.Proofs.Session.Invocation
import AssistantUI.Proofs.Definition.Values
import AssistantUI.Proofs.Render.Routes
import AssistantUI.Proofs.Documents.Queries
import AssistantUI.Proofs.Service.Recent
import AssistantUI.Proofs.Service.Responses
import AssistantUI.Proofs.Agent
import AssistantUI.Proofs.Filing
import AssistantUI.Proofs.Render.Tables
import AssistantUI.Proofs.Build.Tables

import Workflow.Answer
import Workflow.Attribute
import Workflow.Checkpoint
import Workflow.CommandLine
import Workflow.CommandLine.Arguments
import Workflow.CommandLine.Help
import Workflow.Condition
import Workflow.Context
import Workflow.Decimal.Double
import Workflow.Decimal.Integer
import Workflow.Decimal.Layout
import Workflow.Decimal.Reading
import Workflow.Decimal.Shortest
import Workflow.Draft
import Workflow.Duration
import Workflow.Error
import Workflow.Event
import Workflow.FileTree
import Workflow.Gate
import Workflow.Graph
import Workflow.Graph.Exchange
import Workflow.Handler
import Workflow.Json
import Workflow.Json.Decoding
import Workflow.Json.Literal
import Workflow.Json.Reader
import Workflow.Label
import Workflow.Lexer
import Workflow.Main
import Workflow.Message
import Workflow.Outcome
import Workflow.Prompt
import Workflow.Proofs.Answers
import Workflow.Proofs.Attributes
import Workflow.Proofs.Backoff
import Workflow.Proofs.Checkpoint.Exchange
import Workflow.Proofs.Checkpoint.Persistence
import Workflow.Proofs.CommandLine
import Workflow.Proofs.Conditions
import Workflow.Proofs.Conditions.Quoted
import Workflow.Proofs.Datum
import Workflow.Proofs.Durations
import Workflow.Proofs.Event.Exchange
import Workflow.Proofs.FileTree
import Workflow.Proofs.Findings
import Workflow.Proofs.Gate
import Workflow.Proofs.Gate.Verdict
import Workflow.Proofs.Graph.Exchange
import Workflow.Proofs.Json.Decoding
import Workflow.Proofs.Json.Flat
import Workflow.Proofs.Json.Grammar
import Workflow.Proofs.Json.Order
import Workflow.Proofs.Json.Reading
import Workflow.Proofs.Json.Tokens
import Workflow.Proofs.Json.Writing
import Workflow.Proofs.Labels
import Workflow.Proofs.Labels.Hyphens
import Workflow.Proofs.Lexer.Lexeme
import Workflow.Proofs.Lexer.Pieces
import Workflow.Proofs.Lexer.Refusals
import Workflow.Proofs.Lexer.Spelling
import Workflow.Proofs.Lexer.Tiling
import Workflow.Proofs.Messages
import Workflow.Proofs.Numerals
import Workflow.Proofs.Reachability
import Workflow.Proofs.Routing
import Workflow.Proofs.Routing.Best
import Workflow.Proofs.Routing.Markers
import Workflow.Proofs.Routing.Order
import Workflow.Proofs.Routing.Precedence
import Workflow.Proofs.Run.Acyclic
import Workflow.Proofs.Run.Attended
import Workflow.Proofs.Run.Checkpoints
import Workflow.Proofs.Run.Frame
import Workflow.Proofs.Run.Gates
import Workflow.Proofs.Run.Limit
import Workflow.Proofs.Run.Lookup
import Workflow.Proofs.Run.Memory
import Workflow.Proofs.Run.Protocol
import Workflow.Proofs.Run.Record
import Workflow.Proofs.Run.RetryBudget
import Workflow.Proofs.Run.Seeding
import Workflow.Proofs.Run.Stages
import Workflow.Proofs.Run.Trail
import Workflow.Proofs.Run.Visit
import Workflow.Proofs.Run.Walk
import Workflow.Proofs.Run.WayBack
import Workflow.Proofs.Runnable
import Workflow.Proofs.Session.Delivery
import Workflow.Proofs.Session.Prompts
import Workflow.Proofs.Source.Arrows
import Workflow.Proofs.Source.Blame
import Workflow.Proofs.Source.Consistency
import Workflow.Proofs.Source.Exactness
import Workflow.Proofs.Source.Foresight
import Workflow.Proofs.Source.Grammar
import Workflow.Proofs.Source.Layout
import Workflow.Proofs.Source.Meaning
import Workflow.Proofs.Source.Places
import Workflow.Proofs.Source.Readers
import Workflow.Proofs.Source.RoundTrip
import Workflow.Proofs.Source.Scoping
import Workflow.Proofs.Source.Writing
import Workflow.Proofs.Splitting
import Workflow.Proofs.Tables
import Workflow.Proofs.Timestamp.Calendar
import Workflow.Proofs.Timestamp.Text
import Workflow.Proofs.Validity
import Workflow.Responder
import Workflow.Retry
import Workflow.Routing
import Workflow.Run
import Workflow.Run.Attended
import Workflow.Run.State
import Workflow.Run.Step
import Workflow.Session
import Workflow.Session.Delivery
import Workflow.Shell.Evaluation
import Workflow.Shell.Script
import Workflow.Source
import Workflow.Statement
import Workflow.Table
import Workflow.Text.Blank
import Workflow.Text.CaseData
import Workflow.Text.Lowercase
import Workflow.Text.Quoted
import Workflow.Text.Search
import Workflow.Text.VisibleData
import Workflow.Timestamp
import Workflow.Token
import Workflow.Validation
import Workflow.Work

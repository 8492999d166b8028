import ResilientChat.Breaker.Basic
import ResilientChat.Breaker.Guard
import ResilientChat.Breaker.Limits
import ResilientChat.Breaker.Metrics
import ResilientChat.Breaker.Phase
import ResilientChat.Breaker.Registry
import ResilientChat.Breaker.Traffic
import ResilientChat.Cache.Key
import ResilientChat.Cache.Store
import ResilientChat.CallFailure
import ResilientChat.Chat.Failure
import ResilientChat.Chat.Redact
import ResilientChat.Chat.Service
import ResilientChat.Chat.Session
import ResilientChat.Completion
import ResilientChat.Config.Conversion
import ResilientChat.Config.Fault
import ResilientChat.Config.Format
import ResilientChat.Config.Ini
import ResilientChat.Config.Json5
import ResilientChat.Config.Load
import ResilientChat.Config.Ron
import ResilientChat.Config.Substitute
import ResilientChat.Config.Toml
import ResilientChat.Config.Tree
import ResilientChat.Config.Yaml
import ResilientChat.Config.Yaml.Block
import ResilientChat.Config.Yaml.Cursor
import ResilientChat.Config.Yaml.Lexer
import ResilientChat.Config.Yaml.Node
import ResilientChat.Config.Yaml.Plain
import ResilientChat.Config.Yaml.Quoted
import ResilientChat.Config.Yaml.Scalar
import ResilientChat.Config.Yaml.Token
import ResilientChat.Context
import ResilientChat.Decimal.Binary
import ResilientChat.Decimal.Layout
import ResilientChat.Decimal.Reading
import ResilientChat.Decimal.Shortest
import ResilientChat.Digest.Sha256
import ResilientChat.Dispatcher
import ResilientChat.Duration
import ResilientChat.Event
import ResilientChat.Fault
import ResilientChat.Http.Body
import ResilientChat.Http.Failure
import ResilientChat.Http.Message
import ResilientChat.Http.Session
import ResilientChat.Http.Site
import ResilientChat.Json.Reader
import ResilientChat.Json.Record
import ResilientChat.Json.Value
import ResilientChat.Json.Variant
import ResilientChat.Json.Writer
import ResilientChat.NameMap
import ResilientChat.Policy
import ResilientChat.Proofs.Breaker.Accounting
import ResilientChat.Proofs.Breaker.Changes
import ResilientChat.Proofs.Breaker.Circuit
import ResilientChat.Proofs.Breaker.Cooldown
import ResilientChat.Proofs.Breaker.InFlight
import ResilientChat.Proofs.Breaker.Passage
import ResilientChat.Proofs.Breaker.ProbeSlot
import ResilientChat.Proofs.Breaker.Run
import ResilientChat.Proofs.Breaker.Single
import ResilientChat.Proofs.Breaker.Sound
import ResilientChat.Proofs.Breaker.Straggler
import ResilientChat.Proofs.Breaker.Tripping
import ResilientChat.Proofs.Cache.Capacity
import ResilientChat.Proofs.Cache.Expiry
import ResilientChat.Proofs.Cache.Key
import ResilientChat.Proofs.Cache.Order
import ResilientChat.Proofs.Cache.Question
import ResilientChat.Proofs.Cache.Shelf
import ResilientChat.Proofs.Cache.Store
import ResilientChat.Proofs.Chat.Answer
import ResilientChat.Proofs.Chat.Apart
import ResilientChat.Proofs.Chat.Persistence
import ResilientChat.Proofs.Chat.Provenance
import ResilientChat.Proofs.Chat.Records
import ResilientChat.Proofs.Chat.Redact
import ResilientChat.Proofs.Chat.Running
import ResilientChat.Proofs.Chat.Skeleton
import ResilientChat.Proofs.Chat.Tools
import ResilientChat.Proofs.Config.Dependencies
import ResilientChat.Proofs.Config.Layers
import ResilientChat.Proofs.Config.Substitution
import ResilientChat.Proofs.Config.Validation
import ResilientChat.Proofs.Decimal.Accuracy
import ResilientChat.Proofs.Decimal.Arithmetic
import ResilientChat.Proofs.Decimal.Nearest
import ResilientChat.Proofs.Decimal.Rounding
import ResilientChat.Proofs.Decimal.Value
import ResilientChat.Proofs.Digest.Terminated
import ResilientChat.Proofs.Dispatcher.Apart
import ResilientChat.Proofs.Dispatcher.Call
import ResilientChat.Proofs.Dispatcher.Lasting
import ResilientChat.Proofs.Dispatcher.Traffic
import ResilientChat.Proofs.Dispatcher.Upkeep
import ResilientChat.Proofs.Http.Asking
import ResilientChat.Proofs.Http.Health
import ResilientChat.Proofs.Http.Lasting
import ResilientChat.Proofs.Http.Refusal
import ResilientChat.Proofs.Http.Status
import ResilientChat.Proofs.Json.Text
import ResilientChat.Proofs.NameMap
import ResilientChat.Proofs.Retry.Cancellation
import ResilientChat.Proofs.Retry.Ceiling
import ResilientChat.Proofs.Retry.Counter
import ResilientChat.Proofs.Retry.Course
import ResilientChat.Proofs.Retry.Exact
import ResilientChat.Proofs.Retry.Formula
import ResilientChat.Proofs.Retry.Growth
import ResilientChat.Proofs.Retry.Jitter
import ResilientChat.Proofs.Retry.Replies
import ResilientChat.Proofs.Retry.Reports
import ResilientChat.Proofs.Text.LowerCase
import ResilientChat.Proofs.Tool.Names
import ResilientChat.Proofs.Tool.Registration
import ResilientChat.RequestId
import ResilientChat.Retry.Backoff
import ResilientChat.Retry.Reply
import ResilientChat.Retry.Run
import ResilientChat.ServiceFault
import ResilientChat.Settings
import ResilientChat.Text.Cased
import ResilientChat.Text.Class
import ResilientChat.Text.Digit
import ResilientChat.Text.LowerCase
import ResilientChat.Text.Name
import ResilientChat.Text.Percent
import ResilientChat.Text.Scan
import ResilientChat.Text.Word
import ResilientChat.Tool
import ResilientChat.ToolResult

import CapacityAgent.Library.Utf8
import CapacityAgent.Text
import CapacityAgent.Messages
import CapacityAgent.Library.KeyedTable
import CapacityAgent.Library.Lines
import CapacityAgent.Library.Newest
import CapacityAgent.Library.RunningMax
import CapacityAgent.Library.Transitions
import CapacityAgent.Library.Redelivery
import CapacityAgent.Library.Connection
import CapacityAgent.Library.SharedConnection
import CapacityAgent.Library.FirstMatch
import CapacityAgent.Library.Select
import CapacityAgent.Library.Gregorian
import CapacityAgent.Library.Json
import CapacityAgent.Store.Schema
import CapacityAgent.Store.ExtraJson
import CapacityAgent.Store.Statements
import CapacityAgent.Store.Ingest
import CapacityAgent.Store.Samples
import CapacityAgent.Store.Queries
import CapacityAgent.Store.Health
import CapacityAgent.Store.Sharing
import CapacityAgent.Store.Redelivery
import CapacityAgent.Store.SeenTimes
import CapacityAgent.Store.ReadQueries
import CapacityAgent.Ipc.NamedPipe
import CapacityAgent.Gpu.Snapshot
import CapacityAgent.Gpu.Probe
import CapacityAgent.Gpu.PollLoop
import CapacityAgent.Gpu.Coverage
import CapacityAgent.Api.Readiness
import CapacityAgent.Api.ServerThread
import CapacityAgent.Host.Agent
import CapacityAgent.Host.Freshness
import CapacityAgent.Host.LastSample
import CapacityAgent.Host.Shutdown
import CapacityAgent.Library.Binary64
import CapacityAgent.CJson.Parse
import CapacityAgent.CJson.Numbers
import CapacityAgent.CJson.Strings
import CapacityAgent.CJson.RoundTrip
import CapacityAgent.CJson.Print
import CapacityAgent.Gpu.Matching
import CapacityAgent.CJson.PrintedNumber
import CapacityAgent.Api.JsonResponse
import CapacityAgent.Ollama.Runtime
import CapacityAgent.Parser.Iso8601
import CapacityAgent.Parser.BridgeMessage
import CapacityAgent.Bridge.Models
import CapacityAgent.Bridge.Time
import CapacityAgent.Bridge.Hardware
import CapacityAgent.Bridge.Program
import CapacityAgent.Bridge.Agreement
import CapacityAgent.Bridge.Catalogue
import CapacityAgent.Store.Isolation
import CapacityAgent.CJson.Cut
import CapacityAgent.Bridge.Disconnect
import CapacityAgent.Library.Lifecycle
import CapacityAgent.Library.Traced
import CapacityAgent.Gpu.Loaders
import CapacityAgent.Gpu.Lifecycle
import CapacityAgent.Store.Machines
import CapacityAgent.Api.GpuSummary
import CapacityAgent.Library.Rounding
import CapacityAgent.Gpu.Thermals
import CapacityAgent.Gpu.Polls
import CapacityAgent.Gpu.FreeVram
import CapacityAgent.Library.RateLimiter
import CapacityAgent.Library.Reordering
import CapacityAgent.Store.SystemSection
import CapacityAgent.Gpu.RateLimit
import CapacityAgent.Gpu.Sentinel
import CapacityAgent.Library.Signed
import CapacityAgent.Parser.Timestamps
import CapacityAgent.Parser.Instants
import CapacityAgent.Library.Checks
import CapacityAgent.Parser.Decoding
import CapacityAgent.Parser.Outputs
import CapacityAgent.Library.JsonText
import CapacityAgent.Library.JsonLexis
import CapacityAgent.CJson.Grammar
import CapacityAgent.Parser.OneObject
import CapacityAgent.Gpu.Queries
import CapacityAgent.Gpu.SampleResults
import CapacityAgent.Bridge.SameSensors
import CapacityAgent.Bridge.Readings
import CapacityAgent.Library.Strtol
import CapacityAgent.Numerals
import CapacityAgent.Api.Parameters
import CapacityAgent.Library.Search
import CapacityAgent.Host.Urls
import CapacityAgent.Ollama.Int64
import CapacityAgent.Library.Cursor
import CapacityAgent.Api.Responses
import CapacityAgent.Api.Completeness
import CapacityAgent.Library.JsonDecode
import CapacityAgent.Library.JsonScalars
import CapacityAgent.CJson.Encoded
import CapacityAgent.Store.FaithfulExtraJson
import CapacityAgent.Library.Paging
import CapacityAgent.Api.HistoryPaging
import CapacityAgent.Library.Civil
import CapacityAgent.Parser.CivilDays
import CapacityAgent.Gpu.Discovery
import CapacityAgent.Host.BaseUrls
import CapacityAgent.Library.Groups
import CapacityAgent.Gpu.Readers
import CapacityAgent.Host.Pipeline
import CapacityAgent.Host.Readings
import CapacityAgent.Library.JsonCompact
import CapacityAgent.CJson.Formatting
import CapacityAgent.CJson.PrintedText
import CapacityAgent.CJson.ParsedText
import CapacityAgent.Parser.TextualMessages
import CapacityAgent.Store.TextColumns
import CapacityAgent.Api.ResponseTexts
import CapacityAgent.Host.ResponseTexts
import CapacityAgent.Store.CatalogLog
import CapacityAgent.Host.Listings
import CapacityAgent.Host.Conversation
import CapacityAgent.Library.JsonMeaning
import CapacityAgent.CJson.Reading
import CapacityAgent.Parser.Fields
import CapacityAgent.Library.Counted
import CapacityAgent.Gpu.Records
import CapacityAgent.Host.Keeping
import CapacityAgent.Ollama.Answers
import CapacityAgent.Host.OllamaAnswers
import CapacityAgent.Host.GpuAnswers

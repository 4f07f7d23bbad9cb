import NpcRuntime.Lib.Saturating
import NpcRuntime.Lib.Table
import NpcRuntime.Lib.Machine
import NpcRuntime.Lib.Text
import NpcRuntime.Lib.Result
import NpcRuntime.Lib.Calls
import NpcRuntime.Lib.Json
import NpcRuntime.Lib.Lists
import NpcRuntime.Lib.Path
import NpcRuntime.Lib.Version
import NpcRuntime.Provider
import NpcRuntime.Turn
import NpcRuntime.Policy
import NpcRuntime.Broker.Types
import NpcRuntime.Broker.Admission
import NpcRuntime.Broker.Operations
import NpcRuntime.Broker.Step
import NpcRuntime.Broker.Ledger
import NpcRuntime.Broker.Residency
import NpcRuntime.Broker.Binding
import NpcRuntime.Broker.Quarantine
import NpcRuntime.Broker.Refusal
import NpcRuntime.Broker.Slots
import NpcRuntime.Broker.Budget
import NpcRuntime.Broker.Queue
import NpcRuntime.Broker.Pressure
import NpcRuntime.Sentence.Segmenter
import NpcRuntime.Sentence.Boundary
import NpcRuntime.Sentence.Partition
import NpcRuntime.Sentence.Chunking
import NpcRuntime.Sentence.HardLimit
import NpcRuntime.Response.Envelope
import NpcRuntime.Response.Delivery
import NpcRuntime.Response.Commit
import NpcRuntime.Response.Decode
import NpcRuntime.Response.Isolation
import NpcRuntime.Response.Scan
import NpcRuntime.Response.Streaming
import NpcRuntime.Response.SpeechFirst
import NpcRuntime.Response.Release
import NpcRuntime.Response.Agreement
import NpcRuntime.Supervisor.Admission
import NpcRuntime.Supervisor.Gate
import NpcRuntime.Supervisor.Handover
import NpcRuntime.Supervisor.Lanes
import NpcRuntime.Supervisor.Outcome
import NpcRuntime.CircuitBreaker
import NpcRuntime.Protocol.Messages
import NpcRuntime.Protocol.Envelope
import NpcRuntime.Protocol.Channel
import NpcRuntime.Packs.Archive
import NpcRuntime.Packs.Manifest
import NpcRuntime.Packs.Catalog
import NpcRuntime.Packs.Measurement
import NpcRuntime.Packs.Governor
import NpcRuntime.Packs.ResidencyTracker
import NpcRuntime.Packs.FailedSwitches
import NpcRuntime.Packs.StorageNames
import NpcRuntime.Packs.MaintenancePlans
import NpcRuntime.Packs.Scheduler
import NpcRuntime.Packs.Queueing
import NpcRuntime.Packs.Accounting
import NpcRuntime.Packs.Selection
import NpcRuntime.Packs.Attestation
import NpcRuntime.Packs.Download
import NpcRuntime.Packs.Manager
import NpcRuntime.Packs.Lifecycle
import NpcRuntime.Packs.MemoryStorage
import NpcRuntime.Packs.Attested
import NpcRuntime.Packs.Activation
import NpcRuntime.Packs.FilesystemStorage
import NpcRuntime.Packs.Pointer
import NpcRuntime.Subtitles.Resolvable
import NpcRuntime.Subtitles.Inheritance
import NpcRuntime.Subtitles.Geometry
import NpcRuntime.Subtitles.Animation
import NpcRuntime.Subtitles.Layout
import NpcRuntime.Identity.TrackLaw
import NpcRuntime.Memory.Leases
import NpcRuntime.Memory.Recommit
import NpcRuntime.Memory.FullText
import NpcRuntime.Memory.Freshness
import NpcRuntime.Memory.EmbeddingQueue
import NpcRuntime.Memory.Context
import NpcRuntime.Memory.Scoped
import NpcRuntime.Memory.Recovery
import NpcRuntime.Packs.Extraction
import NpcRuntime.Media.Flicker
import NpcRuntime.Media.Residual
import NpcRuntime.Media.Overlay
import NpcRuntime.Media.Recovery
import NpcRuntime.Playback.Agreement
import NpcRuntime.Playback.Safety
import NpcRuntime.Playback.RingSafety
import NpcRuntime.Microphone.Agreement
import NpcRuntime.Speech.Reframing
import NpcRuntime.Characters.Chunks
import NpcRuntime.Characters.EncounterLog
import NpcRuntime.Characters.Merges
import NpcRuntime.Characters.Inert
import NpcRuntime.Llm.ToolCalls
import NpcRuntime.Llm.Usage
import NpcRuntime.Diagnostics.CrashMarker
import NpcRuntime.Diagnostics.LogBounds
import NpcRuntime.Packs.Resumption
import NpcRuntime.Recognition.EventLaw
import NpcRuntime.Recognition.WholeUtterance

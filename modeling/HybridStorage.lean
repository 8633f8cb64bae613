import HybridStorage.Dispatch.ScriptedPlant
import HybridStorage.Main
import HybridStorage.Storage.Operation
import HybridStorage.Proofs.Envelope
import HybridStorage.Proofs.Results
import HybridStorage.Proofs.Run
import HybridStorage.Proofs.Redistribution
import HybridStorage.Proofs.Emission
import HybridStorage.Proofs.Battery
import HybridStorage.Proofs.Cycle
import HybridStorage.Proofs.Session
import HybridStorage.Proofs.Powers
import HybridStorage.Proofs.ChargeBounds
import HybridStorage.Proofs.Startup
import HybridStorage.Proofs.Inactivity
import HybridStorage.Proofs.Frame
import HybridStorage.Proofs.Totals
import HybridStorage.Proofs.GridBalance
import HybridStorage.Proofs.GridTarget
import HybridStorage.Proofs.Build
import HybridStorage.Proofs.FailSafe
import HybridStorage.Proofs.Overlap
import HybridStorage.Proofs.Staleness
import HybridStorage.Proofs.Running
import HybridStorage.Proofs.Shares
import HybridStorage.Proofs.Timeline
import HybridStorage.Proofs.Calendar
import HybridStorage.Proofs.Numerals
import HybridStorage.Proofs.Timestamps
import HybridStorage.Proofs.Symbols
import HybridStorage.Proofs.Lines
import HybridStorage.Proofs.Quotes
import HybridStorage.Proofs.ForecastFile
import HybridStorage.Proofs.Isolation
import HybridStorage.Proofs.Requests
import HybridStorage.Proofs.Applications
import HybridStorage.Proofs.Profiles
import HybridStorage.Proofs.Ramps
import HybridStorage.Proofs.Rounding
import HybridStorage.Proofs.Splits
import HybridStorage.Proofs.Headroom
import HybridStorage.Proofs.Verdict
import HybridStorage.Proofs.SetPoints
import HybridStorage.Proofs.Independence
import HybridStorage.Proofs.Order
import HybridStorage.Proofs.Remainder
import HybridStorage.Proofs.Sampling
import HybridStorage.Proofs.Records
import HybridStorage.Proofs.TelemetryFile
import HybridStorage.Proofs.Ticks
import HybridStorage.Proofs.RunningTotal
import HybridStorage.Proofs.Estimate
import HybridStorage.Proofs.Resolution
import HybridStorage.Proofs.Assembly
import HybridStorage.Proofs.Areas
import HybridStorage.Proofs.Agreement

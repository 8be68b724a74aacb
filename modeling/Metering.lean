import Metering.Description
import Metering.Settings.Builder
import Metering.Proofs.Series.Assignment
import Metering.Proofs.Series.CounterSeries
import Metering.Proofs.Series.Difference
import Metering.Proofs.Series.RunningTrend
import Metering.Proofs.Series.TotalCount
import Metering.Proofs.Store
import Metering.Proofs.Frames
import Metering.Proofs.Numbering
import Metering.Proofs.Uniqueness
import Metering.Proofs.Registration
import Metering.Proofs.Shape
import Metering.Proofs.KeyText
import Metering.Proofs.Registry
import Metering.Proofs.Refusal
import Metering.Proofs.Series.Advance
import Metering.Proofs.Series.Fault
import Metering.Proofs.Series.Cutoff
import Metering.Proofs.Erasure
import Metering.Proofs.View
import Metering.Proofs.ViewStep
import Metering.Proofs.Isolation
import Metering.Proofs.Change
import Metering.Proofs.Kinds
import Metering.Proofs.Purity
import Metering.Proofs.Series.Likeness
import Metering.Proofs.Rehydration
import Metering.Proofs.Series.Additive
import Metering.Proofs.Series.PerSample
import Metering.Proofs.Settings.Text
import Metering.Proofs.Series.Bounds
import Metering.Proofs.Series.Substitution
import Metering.Proofs.Series.FloorWidth
import Metering.Proofs.Series.Extremes
import Metering.Proofs.Series.Percentile
import Metering.Proofs.TextNumber
import Metering.Proofs.Series.Mean
import Metering.Proofs.Series.MonthWindows
import Metering.Proofs.Settings.Layering
import Metering.Proofs.PacketSlots

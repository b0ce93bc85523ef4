import ContinuousData.Consumer.Session
import ContinuousData.Dial
import ContinuousData.Gap.FileStore
import ContinuousData.Gap.Journal
import ContinuousData.Manager.Session
import ContinuousData.Proofs.CalendarYears
import ContinuousData.Proofs.PlainText
import ContinuousData.Provider.Session
import ContinuousData.Stream.Reader
import ContinuousData.Text.Hex
import ContinuousData.Proofs.OrdinalTexts
import ContinuousData.Proofs.Results
import ContinuousData.Proofs.SubframeCodec
import ContinuousData.Proofs.FrameCodec
import ContinuousData.Proofs.FrameBoundaries
import ContinuousData.Proofs.DataFrames
import ContinuousData.Proofs.GapHistory
import ContinuousData.Proofs.GapArithmetic
import ContinuousData.Proofs.GapRestoring
import ContinuousData.Proofs.ConsumerMoves
import ContinuousData.Proofs.Handover
import ContinuousData.Proofs.Resynchronization
import ContinuousData.Proofs.Restarts
import ContinuousData.Proofs.Heartbeats
import ContinuousData.Proofs.ControlFrames
import ContinuousData.Proofs.FrameExtents
import ContinuousData.Proofs.BodyFailures
import ContinuousData.Proofs.StreamConservation
import ContinuousData.Proofs.TrueAcknowledgements
import ContinuousData.Proofs.GapOrigins
import ContinuousData.Proofs.ConnectionCourse
import ContinuousData.Proofs.CustomResets
import ContinuousData.Proofs.SettledNumbers
import ContinuousData.Proofs.Reconnections
import ContinuousData.Proofs.IgnoredFrames
import ContinuousData.Proofs.ChecksumBlindness
import ContinuousData.Proofs.Redirections
import ContinuousData.Proofs.ReachableStations
import ContinuousData.Proofs.ProviderMoves
import ContinuousData.Proofs.Farewells
import ContinuousData.Proofs.Responses
import ContinuousData.Proofs.DateSpellings
import ContinuousData.Proofs.DistantTimes
import ContinuousData.Proofs.FramesetNames
import ContinuousData.Proofs.GarbageExtents
import ContinuousData.Proofs.UnalignedChannels
import ContinuousData.Proofs.CheckedDates
import ContinuousData.Proofs.Cursors
import ContinuousData.Proofs.CheckedBodies
import ContinuousData.Proofs.SpentBytes
import ContinuousData.Proofs.BrokenSubframes
import ContinuousData.Proofs.SalvagedParts
import ContinuousData.Proofs.BurstErrors
import ContinuousData.Proofs.AssembledFrames
import ContinuousData.Proofs.GapTimes
import ContinuousData.Proofs.StoredFiles
import ContinuousData.Proofs.StreamEnds
import ContinuousData.Proofs.CalendarDates
import ContinuousData.Proofs.HeededBytes

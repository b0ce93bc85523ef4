import ContinuousData.Duration
import ContinuousData.Endpoint
import ContinuousData.Stream.Splitter

/-! What the data consumer of a station can be told. -/
namespace ContinuousData

structure ConsumerConfig where
  station : String
  endpoint : EndpointSettings := {}
  maxFrameSize : Nat := Splitter.defaultLimit
  linger : Option Duration := some (.ofSeconds 3)
  /-- The protocol expects an acknowledgement at least once a minute. -/
  acknackInterval : Duration := .ofSeconds 55
  /-- A longer silence of the peer ends the connection. -/
  expiryLimit : Duration := .ofSeconds 120
  storeInterval : Duration := .ofSeconds 300
  /-- Gaps that have not changed for this long are given up. -/
  gapExpiration : Option Duration := none
  disposeTimeout : Duration := .ofSeconds 10
  queueCapacity : Nat := 1024
  resetEnabled : Bool := true
  deriving Repr

namespace ConsumerConfig

def check (config : ConsumerConfig) : Except Error Unit := do
  if Text.isBlankText config.station then throw .blankStation
  if config.acknackInterval = 0 then throw .acknackIntervalZero
  if config.expiryLimit ≤ config.acknackInterval then
    throw (.expiryBelowAcknack config.expiryLimit.text config.acknackInterval.text)
  if config.storeInterval = 0 then throw .storeIntervalZero
  if config.queueCapacity = 0 then throw .queueCapacityZero
  if config.maxFrameSize < 64 then throw (.frameSizeLimitTooSmall config.maxFrameSize)

end ConsumerConfig

end ContinuousData

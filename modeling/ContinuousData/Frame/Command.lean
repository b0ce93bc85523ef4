import ContinuousData.Date.Ordinal

/-! The bodies of COMMAND_REQUEST and COMMAND_RESPONSE frames: the channel that a command is about,

```
 0  station (8 characters)
 8  site (5), channel (3), location (2 characters), 2 NUL bytes
20  date (20 characters)
```

and one or two messages, each behind its length. Messages are not aligned. -/
namespace ContinuousData

structure CommandTarget where
  station : String
  site : String
  channel : String
  location : String
  time : Timestamp
  deriving DecidableEq, Repr

namespace CommandTarget

def stationWidth : Nat := 8
def siteWidth : Nat := 5
def channelWidth : Nat := 3
def locationWidth : Nat := 2

def check (target : CommandTarget) : Except Error Unit := do
  if stationWidth < Text.size target.station then
    throw (.targetTooLong "station" target.station stationWidth)
  if siteWidth < Text.size target.site then
    throw (.targetTooLong "site" target.site siteWidth)
  if channelWidth < Text.size target.channel then
    throw (.targetTooLong "channel" target.channel channelWidth)
  if locationWidth < Text.size target.location then
    throw (.targetTooLong "location" target.location locationWidth)

def read : Decoder CommandTarget := do
  let station ← Decoder.text stationWidth
  let site ← Decoder.text siteWidth
  let channel ← Decoder.text channelWidth
  let location ← Decoder.text locationWidth
  Decoder.skip 2
  let time ← OrdinalDate.read
  return { station, site, channel, location, time }

def write (target : CommandTarget) : Except Error Bytes := do
  target.check
  let station ← Encoder.text target.station stationWidth
  let site ← Encoder.text target.site siteWidth
  let channel ← Encoder.text target.channel channelWidth
  let location ← Encoder.text target.location locationWidth
  let time ← OrdinalDate.write target.time
  return station ++ site ++ channel ++ location ++ Bytes.zeros 2 ++ time

end CommandTarget

namespace CommandMessage

def read (field : String) : Decoder String := do
  let message := Text.strip (← Decoder.bytes (← Decoder.length field))
  if message = "" then throw (.blankMessage field)
  return message

def write (field message : String) : Except Error Bytes := do
  if Text.isBlankText message then throw (.blankMessage field)
  if Encoder.maxLength < Text.size message then throw .countTooLarge
  return Encoder.length (Text.size message) ++ Text.encode message

end CommandMessage

structure CommandRequest where
  target : CommandTarget
  command : String
  deriving DecidableEq, Repr

namespace CommandRequest

def read : Decoder CommandRequest := do
  let target ← CommandTarget.read
  let command ← CommandMessage.read "command message"
  return { target, command }

def write (body : CommandRequest) : Except Error Bytes := do
  return (← body.target.write) ++ (← CommandMessage.write "command message" body.command)

end CommandRequest

structure CommandResponse where
  /-- The station in it is the one that responds. -/
  target : CommandTarget
  request : String
  response : String
  deriving DecidableEq, Repr

namespace CommandResponse

def read : Decoder CommandResponse := do
  let target ← CommandTarget.read
  let request ← CommandMessage.read "command request message"
  let response ← CommandMessage.read "command response message"
  return { target, request, response }

def write (body : CommandResponse) : Except Error Bytes := do
  let target ← body.target.write
  let request ← CommandMessage.write "command request message" body.request
  let response ← CommandMessage.write "command response message" body.response
  return target ++ request ++ response

end CommandResponse

end ContinuousData

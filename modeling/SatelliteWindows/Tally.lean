import SatelliteWindows.Payload

/-!
# What is counted

Counts are natural numbers. A count of 64 bits, as it is written in a report, would have to be
raised once a nanosecond for more than five hundred years before it overflowed, so no run tells the
two apart.
-/

namespace SatelliteWindows

/-- Running counts of what a fleet of satellites went through. -/
structure Tally where
  /-- Windows asked for. -/
  opensRequested : Nat := 0
  /-- Live windows brought to the front instead. -/
  reactivations : Nat := 0
  /-- Events dispatched. -/
  eventsDispatched : Nat := 0
  /-- Events held back, counted once for each satellite they are held back for. -/
  eventsBuffered : Nat := 0
  /-- Commands dispatched. -/
  commandsDispatched : Nat := 0
  /-- Commands that a satellite starting up did not get, counted once for each such satellite. -/
  commandsDropped : Nat := 0
  /-- Messages that were not taken. -/
  deliveriesFailed : Nat := 0
  /-- Entries dropped because their window had died. -/
  deadEvicted : Nat := 0
  /-- Openings given up. -/
  openTimeouts : Nat := 0
  deriving DecidableEq, Repr

/-- The counts together with the present numbers of satellites. -/
structure Metrics where
  /-- How many satellites are registered. -/
  active : Nat
  /-- How many satellites are starting up. -/
  buffering : Nat
  /-- The running counts. -/
  tally : Tally
  deriving DecidableEq, Repr

/-- The written form of the metrics. -/
def Metrics.encode (m : Metrics) : Payload :=
  .record [("active_satellites", .int m.active),
    ("buffering_satellites", .int m.buffering),
    ("opens_requested", .int m.tally.opensRequested),
    ("reactivations", .int m.tally.reactivations),
    ("events_dispatched", .int m.tally.eventsDispatched),
    ("events_buffered", .int m.tally.eventsBuffered),
    ("commands_dispatched", .int m.tally.commandsDispatched),
    ("commands_dropped", .int m.tally.commandsDropped),
    ("deliveries_failed", .int m.tally.deliveriesFailed),
    ("dead_handles_evicted", .int m.tally.deadEvicted),
    ("open_timeouts", .int m.tally.openTimeouts)]

end SatelliteWindows

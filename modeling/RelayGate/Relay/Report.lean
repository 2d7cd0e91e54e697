import RelayGate.Relay.Endpoint

namespace RelayGate

structure RelayReport where
  endpoint : String
  status : RelayStatus
  users : UInt32
  bandwidth : UInt32
  packets : UInt64
  uptime : Binary64
deriving DecidableEq

namespace RelayReport

def shape : Json.Shape :=
  ⟨["endpoint_id", "status", "users_connected", "bandwidth_used_mbps", "packets_forwarded",
    "uptime_percent"], 6⟩

def toJson (r : RelayReport) : Json :=
  .record [("endpoint_id", .ofText r.endpoint), ("status", Named.toJson r.status),
    ("users_connected", .ofNat r.users.toNat), ("bandwidth_used_mbps", .ofNat r.bandwidth.toNat),
    ("packets_forwarded", .ofNat r.packets.toNat), ("uptime_percent", .ofBinary64 r.uptime)]

open Json in
def ofJson? (v : Json) : Option RelayReport :=
  match shape.columns v with
  | some [endpoint, status, users, bandwidth, packets, uptime] => do
    return {
      endpoint := ← required text? endpoint
      status := ← required Named.ofJson? status
      users := ← required uint32? users
      bandwidth := ← required uint32? bandwidth
      packets := ← required uint64? packets
      uptime := ← required binary64? uptime }
  | _ => none

end RelayReport

structure OperatorReport where
  gateway : String
  status : String
  users : UInt32
  bandwidth : UInt32
  packets : UInt64
  uptime : Binary64
deriving DecidableEq

namespace OperatorReport

def shape : Json.Shape :=
  ⟨["gateway_id", "status", "users_connected", "bandwidth_used_mbps", "packets_forwarded",
    "uptime_percent"], 6⟩

def toJson (r : OperatorReport) : Json :=
  .record [("gateway_id", .ofText r.gateway), ("status", .ofText r.status),
    ("users_connected", .ofNat r.users.toNat), ("bandwidth_used_mbps", .ofNat r.bandwidth.toNat),
    ("packets_forwarded", .ofNat r.packets.toNat), ("uptime_percent", .ofBinary64 r.uptime)]

open Json in
def ofJson? (v : Json) : Option OperatorReport :=
  match shape.columns v with
  | some [gateway, status, users, bandwidth, packets, uptime] => do
    return {
      gateway := ← required text? gateway
      status := ← required text? status
      users := ← required uint32? users
      bandwidth := ← required uint32? bandwidth
      packets := ← required uint64? packets
      uptime := ← required binary64? uptime }
  | _ => none

end OperatorReport

structure Sample where
  time : UInt64
  endpoint : String
  users : UInt32
  bandwidth : UInt32
  packets : UInt64
  uptime : Binary64
deriving DecidableEq

namespace Sample

def shape : Json.Shape :=
  ⟨["at", "endpoint_id", "users_connected", "bandwidth_used_mbps", "packets_forwarded",
    "uptime_percent"], 6⟩

def toJson (s : Sample) : Json :=
  .record [("at", .ofNat s.time.toNat), ("endpoint_id", .ofText s.endpoint),
    ("users_connected", .ofNat s.users.toNat), ("bandwidth_used_mbps", .ofNat s.bandwidth.toNat),
    ("packets_forwarded", .ofNat s.packets.toNat), ("uptime_percent", .ofBinary64 s.uptime)]

open Json in
def ofJson? (v : Json) : Option Sample :=
  match shape.columns v with
  | some [time, endpoint, users, bandwidth, packets, uptime] => do
    return {
      time := ← required uint64? time
      endpoint := ← required text? endpoint
      users := ← required uint32? users
      bandwidth := ← required uint32? bandwidth
      packets := ← required uint64? packets
      uptime := ← required binary64? uptime }
  | _ => none

end Sample

def RelayReport.sampleAt (r : RelayReport) (time : UInt64) : Sample where
  time := time
  endpoint := r.endpoint
  users := r.users
  bandwidth := r.bandwidth
  packets := r.packets
  uptime := r.uptime

end RelayGate

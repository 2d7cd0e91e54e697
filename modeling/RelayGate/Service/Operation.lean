import RelayGate.Service.Core

namespace RelayGate

inductive Operation where
  | issuePack (r : PackRequest)
  | attestClient (r : AttestRequest)
  | logScan (r : ScanReport)
  | listing
  | challenge (entropy : Bytes)
  | acceptReport (r : OperatorReport)
  | setLoad (endpoint : String) (load : Binary64)
  | upsert (e : Endpoint)
  | advance (millis : UInt64)
  /-- From now on these calls fail, and no others. -/
  | setFaults (f : Faults)

inductive Answer where
  | pack (r : Except Service.Error Pack)
  | outcome (r : Except Service.Error Finding)
  | written (r : Except Service.Error Unit)
  | listing (r : Except Service.Error (List ListingEntry))
  | challenge (text : String)

namespace Deployment

def step (s : Deployment) : Operation → Answer × Deployment
  | .issuePack r => Prod.map .pack id (s.issuePack r)
  | .attestClient r => Prod.map .outcome id (s.attestClient r)
  | .logScan r => Prod.map .written id (s.logScan r)
  | .listing => (.listing s.listing, s)
  | .challenge entropy => (.challenge (challenge entropy), s)
  | .acceptReport r => Prod.map .written id (s.acceptReport r)
  | .setLoad endpoint load => Prod.map .written id (s.setLoad endpoint load)
  | .upsert e => (.written (.ok ()), { s with world := s.world.upsert e })
  | .advance millis => (.written (.ok ()), { s with world := s.world.advance millis })
  | .setFaults f => (.written (.ok ()), { s with world := { s.world with faults := f } })

def run (s : Deployment) : List Operation → List Answer × Deployment
  | [] => ([], s)
  | o :: os =>
    let (a, s) := s.step o
    let (answers, s) := s.run os
    (a :: answers, s)

end Deployment

end RelayGate

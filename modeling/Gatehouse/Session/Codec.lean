import Gatehouse.Json.Record
import Gatehouse.Session.Basic

/-!
# Sessions in JSON

A record of seven fields, all of them required.
-/

namespace Gatehouse.Session

open Json

def names : List String :=
  ["id", "user_id", "role", "csrf_token", "created_at", "last_refreshed_at", "expires_at"]

def ofJson? (v : Json) : Option Session := do
  let fs ← fields? names v
  return {
    id := ← fs.required "id" text?
    userId := ← fs.required "user_id" text?
    role := ← fs.required "role" text?
    csrfToken := ← fs.required "csrf_token" text?
    createdAt := ← fs.required "created_at" instant?
    lastRefreshedAt := ← fs.required "last_refreshed_at" instant?
    expiresAt := ← fs.required "expires_at" instant? }

def toJson (s : Session) : Json :=
  .record [("id", .text s.id), ("user_id", .text s.userId), ("role", .text s.role),
    ("csrf_token", .text s.csrfToken), ("created_at", .instant s.createdAt),
    ("last_refreshed_at", .instant s.lastRefreshedAt), ("expires_at", .instant s.expiresAt)]

end Gatehouse.Session

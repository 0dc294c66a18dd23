import Farado.Api.Handlers
import Farado.Api.Json

/-!
# The handlers of single items

Items are a prototype without a service: what is asked for is made up from the id in the path. It is
the only resource for which an id that is no 64-bit number is caught where it is converted.
-/

namespace Farado.Http

open Answering Handling
open Farado.RestServer (member)

variable (B : Backend) (request : HttpRequest)

namespace ItemsHandler

def invalidId : Bytes := bytes "Invalid item ID"

def extractItemId : Handler Int := do
  let path ← ask (B.library.decode request.path)
  match ← ask (B.library.regexMatch (member "/api/items") path) with
  | some (group :: _) => tryCatch (ask (B.library.stoll group)) fun _ => pure (-1)
  | _ => pure (-1)

/-- The item that there would be. -/
def sampleItem (itemId : Int) : Json :=
  .object [(bytes "id", .number itemId),
    (bytes "caption", .string (bytes "Item " ++ bytes (toString itemId))),
    (bytes "content", .string (bytes "Content of item " ++ bytes (toString itemId))),
    (bytes "stateId", .number 1), (bytes "phaseId", .number 1)]

def handleGetItem : Handler Unit := do
  let itemId ← extractItemId B request
  if itemId ≤ 0 then sendErrorResponse B 400 invalidId
  else reply B statusOk (some (sampleItem itemId))

/-- What an update says it has done. -/
def updatedItem (itemId : Int) (jsonBody : Json) : Json :=
  .object [(bytes "id", .number itemId),
    (bytes "caption", (jsonBody.get? "caption").getD (.string [])),
    (bytes "success", .boolean true)]

def handleUpdateItem : Handler Unit := do
  let itemId ← extractItemId B request
  if itemId ≤ 0 then sendErrorResponse B 400 invalidId
  else
    tryCatch
      (extractJsonThen B request fun task => do
        match ← attempt (get task) with
        | .error e => sendErrorResponse B 400 (bytes "Invalid JSON: " ++ e.what)
        | .ok jsonBody => reply B statusOk (some (updatedItem itemId jsonBody)))
      (invalidRequest B)

/-- Nothing is deleted. -/
def handleDeleteItem : Handler Unit := do
  let itemId ← extractItemId B request
  if itemId ≤ 0 then sendErrorResponse B 400 invalidId
  else reply B statusNoContent none

end ItemsHandler

/-- The server with these handlers. -/
def Backend.withItems : Backend :=
  { B with
    items := fun handler request userId =>
      match handler with
      | .handleGetItem => ItemsHandler.handleGetItem B request
      | .handleUpdateItem => ItemsHandler.handleUpdateItem B request
      | .handleDeleteItem => ItemsHandler.handleDeleteItem B request
      | handler => B.items handler request userId }

end Farado.Http

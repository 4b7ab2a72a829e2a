import DocBinder.Access.Client
import DocBinder.Access.Credentials

/-!
# Access without a network

The remote service as it is seen from a place without a network: credentials are asked for as
always, but no exchange reaches the service.
-/

namespace DocBinder.Access.Offline

open Docs

/-- A world in which nothing can be sent. -/
def world : World Keeper where
  openSession := do
    let _ ← Keeper.credentials
  closeSession := pure ()
  send _ := throw (.foreign "ConnectionError" "no network")
  wait _ := pure ()

/-- The seconds for which an answer is awaited. -/
def timeout : Value :=
  .int 30

/-- A client in such a world. -/
def client : Client Keeper :=
  ⟨world, timeout⟩

/-- The service as a remote. -/
def remote : Remote (Connection Keeper) where
  fetch := client.fetch
  create := client.create
  update documentId requests := do
    let _ ← client.update documentId (requests.map (·.toValue))
  reset := client.reset
  clearTokens := Client.act Keeper.clear
  authenticate := Client.act do
    let _ ← Keeper.authenticate

/-- The start, with an environment and without tokens. -/
def start (environment : String → Option String) : Connection Keeper :=
  ⟨⟨environment, defaultTokenPath, none, none, [], none, [], []⟩, false, []⟩

end DocBinder.Access.Offline

import Enip.Connection.Exchange

/-!
# Runs

A caller does one thing after another with a connection. An `Operation` is one of these things,
`Client.after` is what it makes of the connection, and `Client.run` is what a list of them makes
of it. Callers that share a connection take turns, so that whatever they do is one such list; a
caller with requests of several types is one whose type of requests is their sum.
-/

namespace Enip

/-- Something that a caller does with a connection, with requests of type `α`. -/
inductive Operation (α : Type) where
  | connect
  | write (request : α)
  | read (request : α)
  | execute (request : α)
  | close

namespace Client

variable {ℓ δ α ρ : Type} [Request α ρ]

/-- The connection after an operation, however the operation ended. -/
def after (client : Client ℓ δ) : Operation α → Connection ℓ δ → Connection ℓ δ
  | .connect, connection => (client.connect connection).2
  | .write request, connection => (client.write request connection).2
  | .read request, connection => (client.read request connection).2
  | .execute request, connection => (client.execute request connection).2.2
  | .close, connection => client.close connection

/-- The connection after operations. -/
def run (client : Client ℓ δ) : List (Operation α) → Connection ℓ δ → Connection ℓ δ
  | [], connection => connection
  | operation :: operations, connection => run client operations (client.after operation connection)

end Client

end Enip

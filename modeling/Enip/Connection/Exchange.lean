import Enip.Connection.Lifecycle

/-!
# Requests and replies

`Client.write` and `Client.read` use the link that is open. `Client.execute` does all that a
request needs: it opens a link if none is open, sends the request and receives the reply, and
when the link fails it closes it, waits, and begins again, as often as the settings allow. A
request that is sent over a link opened on its behalf goes out in the session of that link.

A frame that is not the reply asked for is an error at once. A reply too large for the buffer
closes the link as well, for its unread end would be taken for the beginning of the next reply.
-/

namespace Enip

/-- How the execution of a request ends, with a reply of type `ρ`. -/
inductive Outcome (ρ : Type) where
  | done (reply : ρ)
  | failed (error : Error)
  /-- With a wait between attempts that cannot be expressed. -/
  | aborted (overflow : DelayOverflow)
deriving DecidableEq

namespace Client

variable {ℓ δ α ρ : Type} [Request α ρ]

/-- Uses the link that is open. -/
def onLink (connection : Connection ℓ δ)
    (use : ℓ → Connection ℓ δ → Except Error ρ × Connection ℓ δ) :
    Except Error ρ × Connection ℓ δ :=
  match connection.link with
  | none => (.error (.link .notConnected), connection)
  | some handle => use handle connection

/-- Closes the link if the reply was too large for the buffer. -/
def dropOversized (client : Client ℓ δ) :
    Except Error ρ × Connection ℓ δ → Except Error ρ × Connection ℓ δ
  | (.error (.frame (.replyTooLarge size capacity)), connection) =>
    (.error (.frame (.replyTooLarge size capacity)),
      client.close (connection.note (.dropping (.replyTooLarge size capacity))))
  | other => other

/-- Sends a request over the link that is open. -/
def write (client : Client ℓ δ) (request : α) (connection : Connection ℓ δ) :
    Except Error Unit × Connection ℓ δ :=
  onLink connection fun handle => client.transmit handle request

/-- Receives the reply to a request over the link that is open. -/
def read (client : Client ℓ δ) (request : α) (connection : Connection ℓ δ) :
    Except Error ρ × Connection ℓ δ :=
  client.dropOversized (onLink connection fun handle => client.receive handle request)

/-! ## Attempts -/

/-- A request as it is sent after a link was opened: in the session of the link, if that is new. -/
def bound (client : Client ℓ δ) (request : α) (before opened : Connection ℓ δ) : α :=
  if client.binding.handshake ∧ before.link = none then Request.rebind opened.session request
  else request

/-- Tries once to get the reply to a request. The request comes back as it was sent. -/
def attempt (client : Client ℓ δ) (request : α) (connection : Connection ℓ δ) :
    Except Error ρ × α × Connection ℓ δ :=
  match client.connect connection with
  | (.error error, opened) => (.error error, request, opened)
  | (.ok (), opened) =>
    let request := client.bound request connection opened
    let (result, used) := onLink opened fun handle => client.exchange handle request
    (result, request, used)

/-- Tries to get the reply to a request with the attempt of number `attempt`, and with at most
`more` attempts after it. -/
def executeFrom (client : Client ℓ δ) (attempt more : Nat) (request : α)
    (connection : Connection ℓ δ) : Outcome ρ × α × Connection ℓ δ :=
  match client.attempt request connection with
  | (.ok reply, request, connection) => (.done reply, request, connection)
  | (.error (.link fault), request, connection) =>
    let closed := client.close (connection.note (.attemptFailed attempt fault))
    match more with
    | 0 => (.failed (.exhausted attempt fault), request, closed)
    | more + 1 =>
      match client.backoff.wait attempt closed.drawn with
      | .error overflow => (.aborted overflow, request, closed.draw)
      | .ok wait =>
        let warned := closed.draw.note (.retrying wait fault)
        executeFrom client (attempt + 1) more request (warned.sleep wait)
  | (.error error, request, connection) =>
    let (_, settled) := client.dropOversized (ρ := ρ) (.error error, connection)
    (.failed error, request, settled)

/-- Gets the reply to a request. The request comes back in the session in which it was sent. -/
def execute (client : Client ℓ δ) (request : α) (connection : Connection ℓ δ) :
    Outcome ρ × α × Connection ℓ δ :=
  client.executeFrom 1 (client.settings.attempts.toNat - 1) request connection

end Client

end Enip

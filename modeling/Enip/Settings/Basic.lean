import Enip.Duration

/-!
# Settings of a connection

Which device to talk to, and how patient to be. A timeout of zero would wait for ever and a
limit of zero attempts would do nothing, so zero stands for the default in both
(`Settings.timeout`, `Settings.attempts`).
-/

namespace Enip

/-- The settings of a connection. -/
structure Settings where
  address : String
  port : UInt16
  slot : UInt8
  /-- How long opening, sending and receiving may take, in milliseconds. -/
  timeoutMillis : UInt64
  /-- How many attempts are made in all. -/
  retries : UInt32
  /-- The base of the wait between attempts, in milliseconds. -/
  retryDelayMillis : UInt64
deriving DecidableEq

namespace Settings

/-! ## Defaults -/

/-- The port that the encapsulation service has by default. -/
def defaultPort : UInt16 := 0xAF12

/-- The timeout by default, in milliseconds. -/
def defaultTimeoutMillis : UInt64 := 2000

/-- The number of attempts by default. -/
def defaultRetries : UInt32 := 3

/-- The base of the wait between attempts by default, in milliseconds. -/
def defaultRetryDelayMillis : UInt64 := 500

/-- The settings for a device, with defaults for all the rest. -/
def device (address : String) (slot : UInt8) : Settings :=
  { address, slot, port := defaultPort, timeoutMillis := defaultTimeoutMillis,
    retries := defaultRetries, retryDelayMillis := defaultRetryDelayMillis }

/-! ## Changes -/

/-- Whole milliseconds of a duration, or as many as 64 bits hold. -/
def cappedMillis (d : Duration) : UInt64 :=
  if d.millis < 18446744073709551616 then .ofNat d.millis else 18446744073709551615

/-- The settings with another port. -/
def withPort (settings : Settings) (port : UInt16) : Settings := { settings with port }

/-- The settings with another timeout. -/
def withTimeout (settings : Settings) (timeout : Duration) : Settings :=
  { settings with timeoutMillis := cappedMillis timeout }

/-- The settings with another number of attempts. -/
def withRetries (settings : Settings) (retries : UInt32) : Settings := { settings with retries }

/-- The settings with another base of the wait between attempts. -/
def withRetryDelay (settings : Settings) (delay : Duration) : Settings :=
  { settings with retryDelayMillis := cappedMillis delay }

/-! ## What they mean -/

/-- How long opening, sending and receiving may take. -/
def timeout (settings : Settings) : Duration :=
  .ofMillis (if settings.timeoutMillis = 0 then defaultTimeoutMillis else settings.timeoutMillis)

/-- How many attempts are made, at least one. -/
def attempts (settings : Settings) : UInt32 :=
  if settings.retries = 0 then defaultRetries else settings.retries

/-- The base of the wait between attempts. -/
def retryDelay (settings : Settings) : Duration := .ofMillis settings.retryDelayMillis

/-- The address and the port, as messages show them. -/
def endpoint (settings : Settings) : String :=
  settings.address ++ ":" ++ toString settings.port.toNat

end Settings

end Enip

/-
Attempts repeated after faults that may pass. The wait between two attempts
grows by a factor up to a limit. Attempts and waits act on a state of the
caller's choice, so that the number and order of both can be told from it.
-/
import MetaGraph.Decimal.Reader
import MetaGraph.Decode.Shape
import MetaGraph.Rest.Error

namespace MetaGraph

/-- How often and after how long a request is repeated. -/
structure RetryConfig where
  /-- How many attempts there are, the first one included; zero counts as one. -/
  maxAttempts : Nat := 5
  /-- The first wait, in milliseconds. -/
  initialBackoff : Nat := 1000
  maxBackoff : Nat := 10000
  multiplier : Binary64 := Binary64.ofInt 2
deriving DecidableEq, Repr, Inhabited

namespace RetryConfig

/-- A single attempt. -/
def none : RetryConfig := { maxAttempts := 1 }

def shape : Shape RetryConfig :=
  Shape.done mk
    |>.optional "max_attempts" Decoder.u32 5
    |>.optional "initial_backoff_ms" Decoder.u64 1000
    |>.optional "max_backoff_ms" Decoder.u64 10000
    |>.optional "backoff_multiplier" Decoder.binary64 (Binary64.ofInt 2)

def decoder : Decoder RetryConfig := shape.decoder "struct RetryConfig"

def toJson (c : RetryConfig) : Json :=
  .object [
    ("backoff_multiplier", Json.ofBinary64 c.multiplier),
    ("initial_backoff_ms", .ofNat c.initialBackoff),
    ("max_attempts", .ofNat c.maxAttempts),
    ("max_backoff_ms", .ofNat c.maxBackoff)]

/-- How many attempts are made at most. -/
def budget (c : RetryConfig) : Nat := max 1 c.maxAttempts

/-- The wait before the retry of the given number, counted from zero. -/
def backoff (c : RetryConfig) (retry : Nat) : Nat :=
  let grown := (Binary64.ofInt c.initialBackoff).mul (c.multiplier.pow retry)
  ((grown.min (Binary64.ofInt c.maxBackoff)).truncateWithin 0 Decimal.u64Max).toNat

variable {σ α : Type}

/-- One attempt, then up to `left` more, each after a wait, as long as they fail
for a reason that may pass. -/
def attempts (c : RetryConfig) (wait : Nat → σ → σ) (operation : σ → Except RestError α × σ) :
    Nat → Nat → σ → Except RestError α × σ
  | 0, _, s => operation s
  | left + 1, done, s =>
    match operation s with
    | (.ok a, s) => (.ok a, s)
    | (.error e, s) =>
      if e.isTransient then attempts c wait operation left (done + 1) (wait (c.backoff done) s)
      else (.error e, s)

/-- Runs an operation until it succeeds, fails for good, or has used up its attempts. -/
def run (c : RetryConfig) (wait : Nat → σ → σ) (operation : σ → Except RestError α × σ) (s : σ) :
    Except RestError α × σ :=
  c.attempts wait operation (c.budget - 1) 0 s

end RetryConfig

end MetaGraph

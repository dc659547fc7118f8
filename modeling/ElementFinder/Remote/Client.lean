import ElementFinder.Failure
import ElementFinder.Remote.Request

/-!
# Clients of a server

A client answers requests. Its answers may hang on what was asked before; a request takes time, and
whoever waits for the search may cancel it meanwhile.
-/

namespace ElementFinder

/-- One request and its answer: the answer or a failure, the client after it, the moment when it was
there, and whether the search was cancelled meanwhile. -/
structure RoundTrip (σ α : Type) where
  outcome : Except Failure α
  client : σ
  now : Float
  cancels : Bool := false

/-- A client with states of type `σ`: how it answers a request that begins at a moment. -/
structure Client (σ : Type) where
  ask : (r : Request) → σ → Float → RoundTrip σ r.Answer

end ElementFinder

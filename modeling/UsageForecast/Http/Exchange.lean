import UsageForecast.Http.Message

/-!
# Exchanges with servers

An exchange is a computation that asks a server: it yields the requests that
were made, in order, and an outcome.  An exchange that fails makes no further
requests.
-/

namespace UsageForecast.Http

/-- The requests that were made, and what came of them. -/
structure Exchange (ε β : Type) where
  requests : List Request
  outcome : Except ε β

namespace Exchange

variable {ε β γ : Type}

def ofExcept (outcome : Except ε β) : Exchange ε β := ⟨[], outcome⟩

/-- Go on with what came of an exchange, unless it failed. -/
def andThen (exchange : Exchange ε β) (next : β → Exchange ε γ) :
    Exchange ε γ :=
  match exchange.outcome with
  | .error fault => ⟨exchange.requests, .error fault⟩
  | .ok value =>
      let following := next value
      ⟨exchange.requests ++ following.requests, following.outcome⟩

instance : Monad (Exchange ε) where
  pure value := ofExcept (.ok value)
  bind := andThen

/-- Ask a server; the request is recorded where the server is reached. -/
def ask (server : Server) (request : Request) :
    Exchange ε (Option Response) :=
  match server request with
  | none => ofExcept (.ok none)
  | some response => ⟨[request], .ok (some response)⟩

def mapError {δ : Type} (exchange : Exchange ε β) (change : ε → δ) :
    Exchange δ β :=
  ⟨exchange.requests, exchange.outcome.mapError change⟩

/-- Use a value instead of a failure. -/
def orElse (exchange : Exchange ε β) (value : β) : Exchange ε β :=
  ⟨exchange.requests, .ok (exchange.outcome.toOption.getD value)⟩

end Exchange

end UsageForecast.Http

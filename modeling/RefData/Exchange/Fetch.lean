import RefData.Failure
import RefData.Record.Payload
set_option autoImplicit false

namespace RefData

inductive Call where
  | rpc (method : String) (params : List Json)
  | metaRpc (method : String) (params : List Json)
  | get (path : String) (query : List (String × String))
  | post (path : String) (body : Json)
  | put (path : String) (body : Json)
  | delete (path : String)
  | login (fields : List (String × String))

abbrev Reply := Except Failure Json

/-- A computation that asks the backend: it is done, or it makes a call and goes on with the reply.
Nothing is known of the backend here, so that a statement about a computation holds for all of
them. -/
inductive Fetch (α : Type) where
  | done (value : α)
  | ask (call : Call) (next : Reply → Fetch α)

namespace Fetch

variable {α β σ : Type}

def bind (first : Fetch α) (rest : α → Fetch β) : Fetch β :=
  match first with
  | .done value => rest value
  | .ask call next => .ask call fun reply => (next reply).bind rest

instance : Monad Fetch where
  pure := .done
  bind := .bind

@[simp] theorem bind_done (value : α) (rest : α → Fetch β) : (done value).bind rest = rest value :=
  rfl

@[simp] theorem bind_ask (call : Call) (next : Reply → Fetch α) (rest : α → Fetch β) :
    (ask call next).bind rest = ask call fun reply => (next reply).bind rest := rfl

structure Outcome (α σ : Type) where
  value : α
  calls : List Call
  backend : σ

def run (answer : Call → σ → Reply × σ) : Fetch α → σ → Outcome α σ
  | .done value, backend => ⟨value, [], backend⟩
  | .ask call next, backend =>
    let (reply, changed) := answer call backend
    let outcome := (next reply).run answer changed
    { outcome with calls := call :: outcome.calls }

theorem run_bind (answer : Call → σ → Reply × σ) (first : Fetch α) (rest : α → Fetch β)
    (backend : σ) :
    (first.bind rest).run answer backend =
      let a := first.run answer backend
      let b := (rest a.value).run answer a.backend
      ⟨b.value, a.calls ++ b.calls, b.backend⟩ := by
  induction first generalizing backend with
  | done value => simp [run]
  | ask call next ih => simp [run, ih]

end Fetch

abbrev Inquiry := ExceptT Failure Fetch

namespace Inquiry

variable {α : Type}

def call (c : Call) : Inquiry Json := ExceptT.mk (Fetch.ask c .done)

def rpc (method : String) (params : List Json) : Inquiry Json := call (.rpc method params)

def get (path : String) : Inquiry Json := call (.get path [])

def attempt (inquiry : Inquiry α) : Fetch (Except Failure α) := inquiry.run

def orElse (inquiry : Inquiry α) (fallback : α) : Fetch α := do
  match ← inquiry.attempt with
  | .ok value => return value
  | .error _ => return fallback

def fail (reason : Failure) : Inquiry α := ExceptT.mk (.done (.error reason))

def rpcRecords (method : String) (params : List Json) : Inquiry (List Json) := do
  return (← rpc method params).records

def restRecords (path : String) : Inquiry (List Json) := do
  return (← get path).records

def optionalRecords (method : String) (params : List Json) : Fetch (List Json) :=
  (rpcRecords method params).orElse []

end Inquiry

end RefData

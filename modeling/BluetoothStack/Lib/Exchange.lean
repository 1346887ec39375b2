import Mathlib

/-!
# Request and response exchanges

A client sends a request; on each response it either sends the next request, from a new state,
or finishes with a result. `run server client fuel s req` follows such an exchange against a
server that answers every request, for at most `fuel` responses, and returns the requests sent
in order and the result, if the client finished.

`run_finishes` is the rule of total correctness for these loops: an invariant of the client's
state and pending request that every response keeps when the client goes on, with a measure that
goes down each time, and that gives the postcondition when the client finishes, makes a run with
more fuel than the measure finish with a result satisfying it.
-/

namespace Exchange

/-- What a client does with a response: send the next request from a new state, or finish. -/
inductive Next (σ ρ α : Type*) where
  | send (state : σ) (req : ρ)
  | done (result : α)

variable {σ ρ β α : Type*}

/-- The exchange for at most `fuel` responses: the requests sent, the pending one included, and the
result if the client finished. -/
def run (server : ρ → β) (client : σ → β → Next σ ρ α) : Nat → σ → ρ → List ρ × Option α
  | 0, _, req => ([req], none)
  | fuel + 1, s, req =>
    match client s (server req) with
    | .send s' req' =>
      let rest := run server client fuel s' req'
      (req :: rest.1, rest.2)
    | .done a => ([req], some a)

section Run

variable {server : ρ → β} {client : σ → β → Next σ ρ α}

/-- A response on which the client goes on: the request is sent, then the rest of the exchange. -/
theorem run_send {s s' : σ} {req req' : ρ} (h : client s (server req) = .send s' req')
    (fuel : Nat) :
    run server client (fuel + 1) s req =
      (req :: (run server client fuel s' req').1, (run server client fuel s' req').2) := by
  simp only [run, h]

/-- A response on which the client finishes: the request was the last one. -/
theorem run_done {s : σ} {req : ρ} {a : α} (h : client s (server req) = .done a) (fuel : Nat) :
    run server client (fuel + 1) s req = ([req], some a) := by
  simp only [run, h]

/-- Total correctness of an exchange: an invariant kept, with a measure going down, by every
response on which the client goes on, and the postcondition on the response on which it
finishes. -/
theorem run_finishes (Inv : σ → ρ → Prop) (Post : α → Prop) (μ : σ → ρ → Nat)
    (hsend : ∀ s req s' req', Inv s req → client s (server req) = .send s' req' →
      Inv s' req' ∧ μ s' req' < μ s req)
    (hdone : ∀ s req a, Inv s req → client s (server req) = .done a → Post a) :
    ∀ fuel s req, Inv s req → μ s req < fuel →
      ∃ a, (run server client fuel s req).2 = some a ∧ Post a := by
  intro fuel
  -- induction on the fuel: each response the client goes on from uses one unit of it
  induction fuel with
  | zero => intro s req _ hμ; omega
  | succ fuel ih =>
    intro s req hinv hμ
    cases hc : client s (server req) with
    | send s' req' =>
      obtain ⟨hinv', hlt⟩ := hsend s req s' req' hinv hc
      rw [run_send hc]
      exact ih s' req' hinv' (by omega)
    | done a => exact ⟨a, by rw [run_done hc], hdone s req a hinv hc⟩

end Run

end Exchange

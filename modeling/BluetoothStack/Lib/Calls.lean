import Mathlib

/-!
# Calls made one after another

An object whose methods each return a result and the object they leave, or abort (a failed
assertion). `run step s calls` makes the calls in order from `s` and returns the object the last
one leaves, or `none` once one of them aborts.

Two rules cover every run: a property that every call keeps holds after the run (`run_inv`), and
where no call aborts from an object with the property, no run does (`run_isSome`).

`trace` keeps each call's result as well. Two objects whose calls answer alike and leave objects
that again answer alike give the same answers over every run (`trace_rel`): the simulation rule by
which an implementation is shown to behave as the abstract object it stands for.
-/

namespace Calls

variable {σ α ρ : Type*}

/-- The calls `calls` made in order from `s`, their results dropped. -/
def run (step : σ → α → Option (ρ × σ)) (s : σ) : List α → Option σ
  | [] => some s
  | a :: rest => (step s a).bind fun r => run step r.2 rest

section Rules

variable {step : σ → α → Option (ρ × σ)}

/-- A property that every call keeps holds after every run. By induction on the calls. -/
theorem run_inv (P : σ → Prop) (hstep : ∀ {s a r}, P s → step s a = some r → P r.2) :
    ∀ (calls : List α) {s s' : σ}, P s → run step s calls = some s' → P s' := by
  intro calls
  induction calls with
  | nil =>
    intro s s' hs hrun
    cases hrun
    exact hs
  | cons a rest ih =>
    intro s s' hs hrun
    obtain ⟨r, hr, hrest⟩ := Option.bind_eq_some_iff.1 hrun
    exact ih (hstep hs hr) hrest

/-- Where no call aborts from an object with a property that every call keeps, no run aborts. -/
theorem run_isSome (P : σ → Prop) (hstep : ∀ {s a r}, P s → step s a = some r → P r.2)
    (hsome : ∀ {s} (a : α), P s → (step s a).isSome) :
    ∀ (calls : List α) {s : σ}, P s → (run step s calls).isSome := by
  intro calls
  induction calls with
  | nil => intro s _; rfl
  | cons a rest ih =>
    intro s hs
    obtain ⟨r, hr⟩ := Option.isSome_iff_exists.1 (hsome a hs)
    rw [run, hr, Option.bind_some]
    exact ih (hstep hs hr)

end Rules

/-- The calls `calls` made in order from `s`, with the result of each. -/
def trace (step : σ → α → Option (ρ × σ)) (s : σ) : List α → Option (List ρ × σ)
  | [] => some ([], s)
  | a :: rest => (step s a).bind fun r =>
      (trace step r.2 rest).map fun rs => (r.1 :: rs.1, rs.2)

section Simulation

variable {τ β γ δ ε : Type*}

theorem rel_bind {R : β → γ → Prop} {S : δ → ε → Prop} {o₁ : Option β} {o₂ : Option γ}
    (h : Option.Rel R o₁ o₂) {f : β → Option δ} {g : γ → Option ε}
    (hfg : ∀ {x y}, R x y → Option.Rel S (f x) (g y)) : Option.Rel S (o₁.bind f) (o₂.bind g) := by
  cases h with
  | none => exact .none
  | some hxy => exact hfg hxy

theorem rel_map {R : β → γ → Prop} {S : δ → ε → Prop} {o₁ : Option β} {o₂ : Option γ}
    (h : Option.Rel R o₁ o₂) {f : β → δ} {g : γ → ε} (hfg : ∀ {x y}, R x y → S (f x) (g y)) :
    Option.Rel S (o₁.map f) (o₂.map g) := by
  cases h with
  | none => exact .none
  | some hxy => exact .some (hfg hxy)

/-- Results equal and objects related by `R`. -/
def Agree (R : σ → τ → Prop) (r₁ : ρ × σ) (r₂ : ρ × τ) : Prop := r₁.1 = r₂.1 ∧ R r₁.2 r₂.2

variable {step₁ : σ → α → Option (ρ × σ)} {step₂ : τ → α → Option (ρ × τ)}

/-- Where every allowed call on related objects aborts on both sides or returns the same result
and related objects on both, so does every run of allowed calls. By induction on the calls. -/
theorem trace_rel (R : σ → τ → Prop) (ok : α → Prop)
    (hstep : ∀ {s t a}, R s t → ok a → Option.Rel (Agree R) (step₁ s a) (step₂ t a)) :
    ∀ (calls : List α) {s : σ} {t : τ}, R s t → (∀ a ∈ calls, ok a) →
      Option.Rel (Agree R) (trace step₁ s calls) (trace step₂ t calls)
  | [], _, _, h, _ => .some ⟨rfl, h⟩
  | a :: rest, _, _, h, hok => by
    have hrest : ∀ b ∈ rest, ok b := fun b hb => hok b (List.mem_cons_of_mem _ hb)
    refine rel_bind (hstep h (hok a List.mem_cons_self)) fun ⟨hres, hR⟩ => ?_
    refine rel_map (trace_rel R ok hstep rest hR hrest) fun ⟨hres', hR'⟩ => ⟨?_, hR'⟩
    rw [hres, hres']

end Simulation

end Calls

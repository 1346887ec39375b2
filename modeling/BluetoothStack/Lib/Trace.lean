import Mathlib
import BluetoothStack.Lib.Calls

/-!
# Traces of calls

`Calls.trace step s calls` makes the calls in order from `s` and keeps the answer of each. The
rules here are for traces what `run_inv` and `run_isSome` are for runs, with the answers: a
property that every allowed call keeps, and a relation that holds between every allowed call and
its answer, hold over the whole trace (`trace_inv`); where no allowed call aborts, no trace of
allowed calls does (`trace_isSome`); and a call that aborts from every object makes every trace
that contains it abort (`trace_eq_none_of_mem`).

An object made of parts by key, as a table of entries is: `get s k` reads part `k` and
`set s k v` replaces it. `Parts` gives the laws of such a table at every key. A call names the
part it works on, or none (`key`). It is `Local` when it reads and writes that part alone: from
any object that agrees on that part it answers alike, and it leaves the object as it found it but
for that part, which it sets as it would have from the first object.

Over every trace of local calls, the answers of the calls on part `k` and the final state of part
`k` are what those calls alone give, in their order and from the same object (`trace_filter`):
the parts are independent sessions, whatever the calls on other parts between them.
-/

namespace Calls

variable {σ α ρ κ V : Type*}

section Rules

variable {step : σ → α → Option (ρ × σ)}

/-- **The invariant rule for traces.** A property of the object that every allowed call keeps,
and a relation between each allowed call and its answer, hold over every trace of allowed calls:
of the last object and of every call with its answer. By induction on the calls. -/
theorem trace_inv (P : σ → Prop) (ok : α → Prop) (R : α → ρ → Prop)
    (hstep : ∀ {s a r s'}, P s → ok a → step s a = some (r, s') → P s' ∧ R a r) :
    ∀ (calls : List α) {s s' : σ} {rs : List ρ}, P s → (∀ a ∈ calls, ok a) →
      trace step s calls = some (rs, s') → P s' ∧ ∀ x ∈ calls.zip rs, R x.1 x.2 := by
  intro calls
  induction calls with
  | nil =>
    intro s s' rs hs _ htrace
    obtain ⟨rfl, rfl⟩ := Prod.mk.inj (Option.some.inj htrace.symm)
    exact ⟨hs, by simp⟩
  | cons a rest ih =>
    intro s s' rs hs hok htrace
    obtain ⟨⟨r, s₁⟩, hstep₁, hrest⟩ := Option.bind_eq_some_iff.1 htrace
    obtain ⟨⟨rs', s₂⟩, hrest', hrs⟩ := Option.map_eq_some_iff.1 hrest
    obtain ⟨rfl, rfl⟩ := Prod.mk.inj hrs
    obtain ⟨hs₁, hr⟩ := hstep hs (hok a List.mem_cons_self) hstep₁
    obtain ⟨hs', hrs'⟩ := ih hs₁ (fun b hb => hok b (List.mem_cons_of_mem _ hb)) hrest'
    refine ⟨hs', ?_⟩
    rintro x (hx | ⟨_, hx⟩)
    · exact hr
    · exact hrs' x hx

/-- Where no allowed call aborts from an object with a property that every allowed call keeps,
no trace of allowed calls aborts, and the property holds at its end. -/
theorem trace_isSome (P : σ → Prop) (ok : α → Prop)
    (hstep : ∀ {s a}, P s → ok a → ∃ r s', step s a = some (r, s') ∧ P s') :
    ∀ (calls : List α) {s : σ}, P s → (∀ a ∈ calls, ok a) →
      ∃ rs s', trace step s calls = some (rs, s') ∧ P s' := by
  intro calls
  induction calls with
  | nil => intro s hs _; exact ⟨[], s, rfl, hs⟩
  | cons a rest ih =>
    intro s hs hok
    obtain ⟨r, s₁, hstep₁, hs₁⟩ := hstep hs (hok a List.mem_cons_self)
    obtain ⟨rs, s', hrest, hs'⟩ := ih hs₁ fun b hb => hok b (List.mem_cons_of_mem _ hb)
    refine ⟨r :: rs, s', ?_, hs'⟩
    rw [trace, hstep₁, Option.bind_some, hrest, Option.map_some]

/-- A call that aborts from every object makes every trace that contains it abort. -/
theorem trace_eq_none_of_mem {a : α} (habort : ∀ s, step s a = none) :
    ∀ (calls : List α) (s : σ), a ∈ calls → trace step s calls = none := by
  intro calls
  induction calls with
  | nil => intro s ha; cases ha
  | cons b rest ih =>
    intro s ha
    rw [trace]
    rcases List.mem_cons.1 ha with rfl | ha
    · rw [habort, Option.bind_none]
    · cases step s b with
      | none => rfl
      | some r => rw [Option.bind_some, ih r.2 ha, Option.map_none]

/-- A trace that starts with a call of known answer and object goes on from that object. -/
theorem trace_cons_of_step {s s' : σ} {a : α} {r : ρ} (h : step s a = some (r, s'))
    (rest : List α) :
    trace step s (a :: rest) = (trace step s' rest).map fun rs => (r :: rs.1, rs.2) := by
  rw [trace, h, Option.bind_some]

end Rules

/-- The laws of a table of parts: a part reads back as it was set, setting a part leaves the
others, a second setting replaces the first, and setting a part to itself changes nothing. -/
structure Parts (get : σ → κ → V) (set : σ → κ → V → σ) : Prop where
  get_set_self : ∀ s k v, get (set s k v) k = v
  get_set_of_ne : ∀ s {k k'} v, k' ≠ k → get (set s k v) k' = get s k'
  set_set : ∀ s k v v', set (set s k v) k v' = set s k v'
  set_get : ∀ s k, set s k (get s k) = s

/-- A call reads and writes only the part its key names. From `t`, which agrees with `s` on that
part, it answers as from `s` and leaves `t` with the part set as the call from `s` left it; a call
without a key answers alike from every object and leaves it unchanged. -/
def Local (step : σ → α → Option (ρ × σ)) (get : σ → κ → V) (set : σ → κ → V → σ)
    (key : α → Option κ) : Prop :=
  ∀ s t a, (∀ k, key a = some k → get t k = get s k) →
    step t a = (step s a).map fun r => (r.1, (key a).elim t fun k => set t k (get r.2 k))

/-- The answers that the calls on part `k` got, in order: `rs` lists the answers of `calls`. -/
def answersOn [DecidableEq κ] (key : α → Option κ) (k : κ) (calls : List α) (rs : List ρ) :
    List ρ :=
  ((calls.zip rs).filter fun p => key p.1 = some k).map Prod.snd

section Local

variable {step : σ → α → Option (ρ × σ)} {get : σ → κ → V} {set : σ → κ → V → σ}
  {key : α → Option κ}

/-- A local call on another part leaves part `k` as it was. -/
theorem Local.get_of_ne (hp : Parts get set) (hl : Local step get set key) {s s' : σ} {a : α}
    {r : ρ} {k : κ} (hstep : step s a = some (r, s')) (hk : key a ≠ some k) :
    get s' k = get s k := by
  have hself := hl s s a (fun _ _ => rfl)
  rw [hstep, Option.map_some] at hself
  obtain ⟨-, hs'⟩ := Prod.mk.inj (Option.some.inj hself)
  cases hkey : key a with
  | none => rw [hs', hkey, Option.elim_none]
  | some k' =>
    have hne : k ≠ k' := fun h => hk (h ▸ hkey)
    rw [hs', hkey, Option.elim_some, hp.get_set_of_ne s _ hne]

/-- A local call on part `k`, made from an object that agrees on part `k`. -/
theorem Local.step_of_key (hl : Local step get set key) {s t s' : σ} {a : α} {r : ρ} {k : κ}
    (hstep : step s a = some (r, s')) (hk : key a = some k) (hst : get t k = get s k) :
    step t a = some (r, set t k (get s' k)) := by
  have ht := hl s t a fun k' hk' => by
    rw [hk, Option.some.injEq] at hk'
    exact hk' ▸ hst
  rw [ht, hstep, Option.map_some, hk, Option.elim_some]

variable [DecidableEq κ]

/-- **Projection onto a part.** Over a run of local calls from `s`, the calls on part `k` alone,
made from any `t` that agrees with `s` on part `k`, get the answers they got in the run and leave
part `k` as the run left it, and `t` otherwise unchanged. By induction on the calls, with the
agreement on part `k` as the invariant. -/
theorem trace_filter (hp : Parts get set) (hl : Local step get set key) (k : κ) :
    ∀ (calls : List α) {s t s' : σ} {rs : List ρ}, get t k = get s k →
      trace step s calls = some (rs, s') →
      trace step t (calls.filter fun a => key a = some k) =
        some (answersOn key k calls rs, set t k (get s' k)) := by
  intro calls
  induction calls with
  | nil =>
    intro s t s' rs hst hrun
    obtain ⟨rfl, rfl⟩ := Prod.mk.inj (Option.some.inj hrun.symm)
    rw [← hst, hp.set_get]
    rfl
  | cons a rest ih =>
    intro s t s' rs hst hrun
    obtain ⟨⟨r, s₁⟩, hstep, hrest⟩ := Option.bind_eq_some_iff.1 hrun
    obtain ⟨⟨rs', s₂⟩, hrest', hrs⟩ := Option.map_eq_some_iff.1 hrest
    obtain ⟨rfl, rfl⟩ := Prod.mk.inj hrs
    by_cases hk : key a = some k
    · -- a call on part `k`: it is made from `t` as well, and the agreement moves on
      have ht := hl.step_of_key hstep hk hst
      have hagree : get (set t k (get s₁ k)) k = get s₁ k := hp.get_set_self _ _ _
      have ih' := ih hagree hrest'
      rw [hp.set_set] at ih'
      simp only [List.filter_cons, hk, decide_true, if_true, trace, ht, Option.bind_some, ih',
        Option.map_some, answersOn, List.zip_cons_cons, List.map_cons]
    · -- a call on another part: left out, and part `k` of `s` stays what `t` agrees with
      have hs₁ : get s₁ k = get s k := hl.get_of_ne hp hstep hk
      have ih' := ih (hst.trans hs₁.symm) hrest'
      simp only [List.filter_cons, hk, decide_false, Bool.false_eq_true, if_false, ih', answersOn,
        List.zip_cons_cons]

end Local

end Calls

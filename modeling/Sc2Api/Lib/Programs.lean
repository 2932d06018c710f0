import Mathlib.Algebra.Order.Group.Nat
import Mathlib.Data.List.Basic
import Mathlib.Order.Defs.LinearOrder

/-!
# Programs that emit

A program reads an environment, keeps a state, emits a list and may fail. `Keeps` says of one
that it keeps an invariant, emits only what is allowed, fails only as it may and returns what is
expected; `Fails` that it must fail. There is a rule for each construct.
-/

namespace Sc2Api.Lib

def Program (ρ σ ω ε α : Type) : Type := ρ → σ → Except ε (α × σ × List ω)

namespace Program

variable {ρ σ ω ε α β : Type}

instance : Monad (Program ρ σ ω ε) where
  pure a := fun _ s => .ok (a, s, [])
  bind x f := fun env s =>
    match x env s with
    | .error e => .error e
    | .ok (a, s, out) =>
      match f a env s with
      | .error e => .error e
      | .ok (b, s, out') => .ok (b, s, out ++ out')

/-! ## Constructs -/

def ask (f : ρ → α) : Program ρ σ ω ε α := fun env s => .ok (f env, s, [])

def gets (f : σ → α) : Program ρ σ ω ε α := fun _ s => .ok (f s, s, [])

def modify (f : σ → σ) : Program ρ σ ω ε PUnit := fun _ s => .ok (⟨⟩, f s, [])

def emit (o : ω) : Program ρ σ ω ε PUnit := fun _ s => .ok (⟨⟩, s, [o])

def fail (e : ε) : Program ρ σ ω ε α := fun _ _ => .error e

/-- A result that may be an error. -/
def ofExcept : Except ε α → Program ρ σ ω ε α
  | .ok a => pure a
  | .error e => fail e

/-- A conditional that does nothing otherwise. -/
def when (c : Prop) [Decidable c] (x : Program ρ σ ω ε PUnit) : Program ρ σ ω ε PUnit :=
  if c then x else pure ⟨⟩

def forEach (f : β → Program ρ σ ω ε PUnit) : List β → Program ρ σ ω ε PUnit
  | [] => pure ⟨⟩
  | b :: bs => do
    f b
    forEach f bs

/-- A loop that is left at the first turn that returns `true`. -/
def tryEach (f : β → Program ρ σ ω ε Bool) : List β → Program ρ σ ω ε Bool
  | [] => pure false
  | b :: bs => do
    if ← f b then pure true else tryEach f bs

/-- A loop that carries a value. -/
def foldEach (f : α → β → Program ρ σ ω ε α) : α → List β → Program ρ σ ω ε α
  | a, [] => pure a
  | a, b :: bs => do
    let a ← f a b
    foldEach f a bs

def filterEach (f : β → Program ρ σ ω ε Bool) : List β → Program ρ σ ω ε (List β)
  | [] => pure []
  | b :: bs => do
    let keep ← f b
    let rest ← filterEach f bs
    return if keep then b :: rest else rest

/-- A loop that asks for the entries whose value is below the least so far whether they are
accepted, and ends with the last that is. -/
def leastAccepted {𝕜 : Type} [LinearOrder 𝕜] (value : β → 𝕜)
    (accept : β → Program ρ σ ω ε Bool) (bound : 𝕜) (bs : List β) :
    Program ρ σ ω ε (𝕜 × Option β) :=
  foldEach (fun best b => do
    if best.1 ≤ value b then return best
    if ← accept b then return (value b, some b)
    return best) (bound, none) bs

/-! ## What a program keeps -/

/-- An execution from `s` fails only as it may, and otherwise ends in `I`, emits only what is
allowed and returns what is expected. -/
def Leads (env : ρ) (s : σ) (F : ε → Prop) (I : σ → Prop) (P : ω → Prop)
    (x : Program ρ σ ω ε α) (Q : α → Prop) : Prop :=
  (∀ e, x env s = .error e → F e) ∧
    ∀ a s' out, x env s = .ok (a, s', out) → I s' ∧ (∀ o ∈ out, P o) ∧ Q a

def Keeps (env : ρ) (F : ε → Prop) (I : σ → Prop) (P : ω → Prop) (x : Program ρ σ ω ε α)
    (Q : α → Prop) : Prop :=
  ∀ s, I s → Leads env s F I P x Q

section Leads

variable {env : ρ} {s : σ} {F : ε → Prop} {I : σ → Prop} {P : ω → Prop} {x : Program ρ σ ω ε α}
  {Q : α → Prop} {f : α → Program ρ σ ω ε β}

theorem bind_error {e : ε} (h : (x >>= f) env s = .error e) :
    x env s = .error e ∨ ∃ a s' out, x env s = .ok (a, s', out) ∧ f a env s' = .error e := by
  cases hx : x env s with
  | error e' =>
    simp only [bind, hx] at h
    cases h
    exact .inl rfl
  | ok result =>
    obtain ⟨a, s', out⟩ := result
    simp only [bind, hx] at h
    cases hf : f a env s' with
    | error e' =>
      rw [hf] at h
      cases h
      exact .inr ⟨a, s', out, rfl, hf⟩
    | ok result' => rw [hf] at h; cases h

theorem bind_ok {s' : σ} {b : β} {out : List ω} (h : (x >>= f) env s = .ok (b, s', out)) :
    ∃ a s₁ out₁ out₂, x env s = .ok (a, s₁, out₁) ∧ f a env s₁ = .ok (b, s', out₂) ∧
      out = out₁ ++ out₂ := by
  cases hx : x env s with
  | error e' => simp only [bind, hx] at h; cases h
  | ok result =>
    obtain ⟨a, s₁, out₁⟩ := result
    simp only [bind, hx] at h
    cases hf : f a env s₁ with
    | error e' => rw [hf] at h; cases h
    | ok result' =>
      obtain ⟨b', s₂, out₂⟩ := result'
      rw [hf] at h
      cases h
      exact ⟨a, s₁, out₁, out₂, rfl, hf, rfl⟩

theorem bind_of_ok {a : α} {s₁ s₂ : σ} {b : β} {out₁ out₂ : List ω}
    (hx : x env s = .ok (a, s₁, out₁)) (hf : f a env s₁ = .ok (b, s₂, out₂)) :
    (x >>= f) env s = .ok (b, s₂, out₁ ++ out₂) := by
  simp only [bind, hx, hf]

theorem Leads.pure {a : α} (hI : I s) (h : Q a) : Leads env s F I P (pure a) Q := by
  refine ⟨nofun, fun b s' out hrun => ?_⟩
  cases hrun
  exact ⟨hI, nofun, h⟩

/-- What the first program leads to is where the second one starts. -/
theorem Leads.bind {I' : σ → Prop} {R : β → Prop} (hx : Leads env s F I P x Q)
    (hf : ∀ a s', I s' → Q a → Leads env s' F I' P (f a) R) :
    Leads env s F I' P (x >>= f) R := by
  refine ⟨fun e herror => ?_, fun b s' out hrun => ?_⟩
  · rcases bind_error herror with hfirst | ⟨a, s₁, out₁, hfirst, hnext⟩
    · exact hx.1 e hfirst
    · obtain ⟨hs₁, -, ha⟩ := hx.2 a s₁ out₁ hfirst
      exact (hf a s₁ hs₁ ha).1 e hnext
  · obtain ⟨a, s₁, out₁, out₂, hfirst, hnext, rfl⟩ := bind_ok hrun
    obtain ⟨hs₁, hout₁, ha⟩ := hx.2 a s₁ out₁ hfirst
    obtain ⟨hs', hout₂, hb⟩ := (hf a s₁ hs₁ ha).2 b s' out₂ hnext
    refine ⟨hs', fun o ho => ?_, hb⟩
    rcases List.mem_append.1 ho with ho | ho
    · exact hout₁ o ho
    · exact hout₂ o ho

theorem Leads.mono {I' : σ → Prop} {P' : ω → Prop} {Q' : α → Prop}
    (hx : Leads env s F I P x Q) (hI : ∀ s, I s → I' s) (hP : ∀ o, P o → P' o)
    (hQ : ∀ a, Q a → Q' a) : Leads env s F I' P' x Q' := by
  refine ⟨hx.1, fun a s' out hrun => ?_⟩
  obtain ⟨hs', hout, ha⟩ := hx.2 a s' out hrun
  exact ⟨hI s' hs', fun o ho => hP o (hout o ho), hQ a ha⟩

theorem Leads.ask_bind {g : ρ → α} {R : β → Prop} (h : Leads env s F I P (f (g env)) R) :
    Leads env s F I P (Program.ask g >>= f) R := by
  refine Leads.bind (I := (· = s)) (Q := (· = g env)) ⟨nofun, fun a s' out hrun => ?_⟩ ?_
  · cases hrun
    exact ⟨rfl, nofun, rfl⟩
  · rintro a s' rfl rfl
    exact h

theorem Leads.gets_bind {g : σ → α} {R : β → Prop} (h : Leads env s F I P (f (g s)) R) :
    Leads env s F I P (Program.gets g >>= f) R := by
  refine Leads.bind (I := (· = s)) (Q := (· = g s)) ⟨nofun, fun a s' out hrun => ?_⟩ ?_
  · cases hrun
    exact ⟨rfl, nofun, rfl⟩
  · rintro a s' rfl rfl
    exact h

theorem Leads.modify {g : σ → σ} {R : PUnit → Prop} (hI : I (g s)) (hR : R ⟨⟩) :
    Leads env s F I P (Program.modify g) R := by
  refine ⟨nofun, fun a s' out hrun => ?_⟩
  cases hrun
  exact ⟨hI, nofun, hR⟩

theorem Leads.ite {c : Prop} [Decidable c] {y : Program ρ σ ω ε α}
    (hx : c → Leads env s F I P x Q) (hy : ¬c → Leads env s F I P y Q) :
    Leads env s F I P (if c then x else y) Q := by
  split
  · next h => exact hx h
  · next h => exact hy h

end Leads

section Keeps

variable {env : ρ} {F : ε → Prop} {I : σ → Prop} {P : ω → Prop} {x : Program ρ σ ω ε α}
  {Q : α → Prop} {a : α}

theorem Keeps.pure (h : Q a) : Keeps env F I P (pure a) Q := fun _ hs => .pure hs h

theorem Keeps.bind {f : α → Program ρ σ ω ε β} {R : β → Prop} (hx : Keeps env F I P x Q)
    (hf : ∀ a, Q a → Keeps env F I P (f a) R) : Keeps env F I P (x >>= f) R :=
  fun s hs => (hx s hs).bind fun a s' hs' ha => hf a ha s' hs'

theorem Keeps.mono {Q' : α → Prop} (hx : Keeps env F I P x Q) (h : ∀ a, Q a → Q' a) :
    Keeps env F I P x Q' :=
  fun s hs => (hx s hs).mono (fun _ => id) (fun _ => id) h

theorem Keeps.ite {c : Prop} [Decidable c] {y : Program ρ σ ω ε α}
    (hx : c → Keeps env F I P x Q) (hy : ¬c → Keeps env F I P y Q) :
    Keeps env F I P (if c then x else y) Q :=
  fun s hs => .ite (fun h => hx h s hs) fun h => hy h s hs

theorem Keeps.when {c : Prop} [Decidable c] {y : Program ρ σ ω ε PUnit}
    (hy : c → Keeps env F I P y fun _ => True) : Keeps env F I P (when c y) fun _ => True :=
  .ite hy fun _ => .pure trivial

theorem Keeps.ask {f : ρ → α} : Keeps env F I P (ask f) (· = f env) := by
  intro s hs
  refine ⟨nofun, fun a s' out hrun => ?_⟩
  cases hrun
  exact ⟨hs, nofun, rfl⟩

/-- What is read from the environment is known. -/
theorem Keeps.ask_bind {f : ρ → α} {g : α → Program ρ σ ω ε β} {R : β → Prop}
    (h : Keeps env F I P (g (f env)) R) : Keeps env F I P (Program.ask f >>= g) R :=
  Keeps.ask.bind fun _ ha => ha ▸ h

theorem Keeps.gets {f : σ → α} (h : ∀ s, I s → Q (f s)) : Keeps env F I P (gets f) Q := by
  intro s hs
  refine ⟨nofun, fun a s' out hrun => ?_⟩
  cases hrun
  exact ⟨hs, nofun, h s hs⟩

theorem Keeps.modify {f : σ → σ} {Q : PUnit → Prop} (h : ∀ s, I s → I (f s)) (hQ : Q ⟨⟩) :
    Keeps env F I P (modify f) Q := by
  intro s hs
  refine ⟨nofun, fun a s' out hrun => ?_⟩
  cases hrun
  exact ⟨h s hs, nofun, hQ⟩

theorem Keeps.emit {o : ω} {Q : PUnit → Prop} (h : P o) (hQ : Q ⟨⟩) :
    Keeps env F I P (emit o) Q := by
  intro s hs
  refine ⟨nofun, fun a s' out hrun => ?_⟩
  cases hrun
  refine ⟨hs, fun o' ho' => ?_, hQ⟩
  rw [List.mem_singleton.1 ho']
  exact h

/-- What is read of the state is what a state within the invariant has. -/
theorem Keeps.gets_bind {f : σ → α} {g : α → Program ρ σ ω ε β} {R : β → Prop}
    (h : ∀ s, I s → Keeps env F I P (g (f s)) R) : Keeps env F I P (Program.gets f >>= g) R := by
  refine (Keeps.gets (Q := fun a => ∃ s, I s ∧ f s = a) fun s hs => ⟨s, hs, rfl⟩).bind ?_
  rintro a ⟨s, hs, rfl⟩
  exact h s hs

theorem Keeps.modify_bind {f : σ → σ} {x : Program ρ σ ω ε β} {R : β → Prop}
    (h : ∀ s, I s → I (f s)) (hx : Keeps env F I P x R) :
    Keeps env F I P (Program.modify f >>= fun _ => x) R :=
  (Keeps.modify (Q := fun _ => True) h trivial).bind fun _ _ => hx

theorem Keeps.emit_bind {o : ω} {x : Program ρ σ ω ε β} {R : β → Prop} (h : P o)
    (hx : Keeps env F I P x R) : Keeps env F I P (Program.emit o >>= fun _ => x) R :=
  (Keeps.emit (Q := fun _ => True) h trivial).bind fun _ _ => hx

theorem Keeps.fail {e : ε} (h : F e) : Keeps env F I P (fail e) Q := by
  intro s _
  refine ⟨fun e' herror => ?_, nofun⟩
  cases herror
  exact h

theorem Keeps.ofExcept {r : Except ε α} (herror : ∀ e, r = .error e → F e)
    (hok : ∀ a, r = .ok a → Q a) : Keeps env F I P (ofExcept r) Q := by
  cases r with
  | error e => exact .fail (herror e rfl)
  | ok a => exact .pure (hok a rfl)

end Keeps

section Loops

variable {env : ρ} {F : ε → Prop} {I : σ → Prop} {P : ω → Prop} {bs : List β}

theorem Keeps.forEach {f : β → Program ρ σ ω ε PUnit}
    (h : ∀ b ∈ bs, Keeps env F I P (f b) fun _ => True) :
    Keeps env F I P (forEach f bs) fun _ => True := by
  induction bs with
  | nil => exact .pure trivial
  | cons b bs ih =>
    refine (h b List.mem_cons_self).bind fun _ _ => ?_
    exact ih fun b' hb' => h b' (List.mem_cons_of_mem _ hb')

theorem Keeps.tryEach {f : β → Program ρ σ ω ε Bool}
    (h : ∀ b ∈ bs, Keeps env F I P (f b) fun _ => True) :
    Keeps env F I P (tryEach f bs) fun _ => True := by
  induction bs with
  | nil => exact .pure trivial
  | cons b bs ih =>
    refine (h b List.mem_cons_self).bind fun _ _ => .ite (fun _ => .pure trivial) fun _ => ?_
    exact ih fun b' hb' => h b' (List.mem_cons_of_mem _ hb')

/-- What a loop carries is related to the entries it has met. -/
theorem Keeps.foldEach {f : α → β → Program ρ σ ω ε α} {Q : List β → α → Prop} {a : α}
    (ha : Q [] a) (h : ∀ past b later a, bs = past ++ b :: later → Q past a →
      Keeps env F I P (f a b) (Q (past ++ [b]))) :
    Keeps env F I P (foldEach f a bs) (Q bs) := by
  suffices hloop : ∀ (later past : List β) (a : α), past ++ later = bs → Q past a →
      Keeps env F I P (Program.foldEach f a later) (Q bs) from hloop bs [] a rfl ha
  intro later
  induction later with
  | nil =>
    intro past a hsplit hpast
    rw [← hsplit, List.append_nil]
    exact .pure hpast
  | cons b later ih =>
    intro past a hsplit hpast
    refine (h past b later a hsplit.symm hpast).bind fun a' ha' => ?_
    exact ih (past ++ [b]) a' (by rw [← hsplit, List.append_assoc, List.singleton_append]) ha'

/-- What is kept of a list are the entries that pass. -/
theorem Keeps.filterEach {f : β → Program ρ σ ω ε Bool} {R : β → Prop}
    (h : ∀ b ∈ bs, Keeps env F I P (f b) fun keep => keep = true ↔ R b) :
    Keeps env F I P (filterEach f bs) fun kept => ∀ b, b ∈ kept ↔ b ∈ bs ∧ R b := by
  induction bs with
  | nil => exact .pure fun b => iff_of_false List.not_mem_nil fun hb => List.not_mem_nil hb.1
  | cons b bs ih =>
    refine (h b List.mem_cons_self).bind fun keep hkeep => ?_
    refine (ih fun b' hb' => h b' (List.mem_cons_of_mem _ hb')).bind fun rest hrest => ?_
    refine .pure fun b' => ?_
    split
    · next hyes =>
      rw [List.mem_cons, List.mem_cons, hrest, or_and_right]
      refine or_congr_left (iff_self_and.2 fun heq => ?_)
      rw [heq]
      exact hkeep.1 hyes
    · next hno =>
      rw [List.mem_cons, hrest, or_and_right]
      refine (or_iff_right ?_).symm
      rintro ⟨heq, hb'⟩
      rw [heq] at hb'
      exact hno (hkeep.2 hb')

/-- The entry is accepted and has the least value of all that are not refused. -/
structure LeastAccepted {𝕜 : Type} [LinearOrder 𝕜] (value : β → 𝕜) (accepted refused : β → Prop)
    (bound : 𝕜) (bs : List β) (best : 𝕜 × Option β) : Prop where
  refused_of_lt : ∀ b ∈ bs, value b < best.1 → refused b
  of_some : ∀ b, best.2 = some b → b ∈ bs ∧ best.1 = value b ∧ value b < bound ∧ accepted b
  of_none : best.2 = none → best.1 = bound

theorem Keeps.leastAccepted {𝕜 : Type} [LinearOrder 𝕜] {value : β → 𝕜}
    {accept : β → Program ρ σ ω ε Bool} {bound : 𝕜} (accepted refused : β → Prop)
    (h : ∀ b ∈ bs, Keeps env F I P (accept b) fun yes => if yes then accepted b else refused b) :
    Keeps env F I P (leastAccepted value accept bound bs)
      (LeastAccepted value accepted refused bound bs) := by
  refine .foldEach (Q := LeastAccepted value accepted refused bound)
    ⟨nofun, nofun, fun _ => rfl⟩ ?_
  intro past b later best hsplit hbest
  have hmem : b ∈ bs := by rw [hsplit]; exact List.mem_append_right _ List.mem_cons_self
  have hsome : ∀ b', best.2 = some b' → b' ∈ past ++ [b] ∧ best.1 = value b' ∧
      value b' < bound ∧ accepted b' := fun b' hb' =>
    ⟨List.mem_append_left _ (hbest.of_some b' hb').1, (hbest.of_some b' hb').2⟩
  have hbound : best.1 ≤ bound := by
    cases hb : best.2 with
    | none => exact (hbest.of_none hb).le
    | some b' =>
      obtain ⟨-, hvalue, hlt, -⟩ := hbest.of_some b' hb
      exact hvalue ▸ hlt.le
  refine .ite (fun hfar => .pure ⟨?_, hsome, hbest.of_none⟩) fun hnear => ?_
  · -- an entry that is no better than the best is not below it
    intro b' hb' hlt
    rcases List.mem_append.1 hb' with hb' | hb'
    · exact hbest.refused_of_lt b' hb' hlt
    · rw [List.mem_singleton.1 hb'] at hlt
      exact absurd hlt hfar.not_gt
  · have hlt := lt_of_not_ge hnear
    refine (h b hmem).bind fun yes hyes => .ite (fun hyes' => ?_) fun hno => ?_
    · rw [if_pos hyes'] at hyes
      refine .pure ⟨fun b' hb' hlt' => ?_, fun b' hb' => ?_, nofun⟩
      · rcases List.mem_append.1 hb' with hb' | hb'
        · exact hbest.refused_of_lt b' hb' (hlt'.trans hlt)
        · rw [List.mem_singleton.1 hb'] at hlt'
          exact absurd hlt' (lt_irrefl _)
      · cases hb'
        exact ⟨List.mem_append_right _ (List.mem_singleton_self b), rfl, hlt.trans_le hbound, hyes⟩
    · rw [if_neg hno] at hyes
      refine .pure ⟨fun b' hb' hlt' => ?_, hsome, hbest.of_none⟩
      rcases List.mem_append.1 hb' with hb' | hb'
      · exact hbest.refused_of_lt b' hb' hlt'
      · rw [List.mem_singleton.1 hb']
        exact hyes

end Loops

/-! ## What makes a program fail -/

def Fails (env : ρ) (s : σ) (x : Program ρ σ ω ε α) : Prop := ∃ e, x env s = .error e

section Fails

variable {env : ρ} {s : σ} {F : ε → Prop} {I : σ → Prop} {P : ω → Prop} {x : Program ρ σ ω ε α}
  {Q : α → Prop} {f : α → Program ρ σ ω ε β}

theorem Fails.first (h : Fails env s x) : Fails env s (x >>= f) := by
  obtain ⟨e, herror⟩ := h
  exact ⟨e, by simp only [Bind.bind, herror]⟩

/-- What the first program leads to is where the second one fails, if the first does not. -/
theorem Fails.bind (hx : Leads env s F I P x Q)
    (hf : ∀ a s', I s' → Q a → Fails env s' (f a)) : Fails env s (x >>= f) := by
  cases hrun : x env s with
  | error e => exact Fails.first ⟨e, hrun⟩
  | ok result =>
    obtain ⟨a, s', out⟩ := result
    obtain ⟨hs', -, ha⟩ := hx.2 a s' out hrun
    obtain ⟨e, herror⟩ := hf a s' hs' ha
    exact ⟨e, by simp only [Bind.bind, hrun, herror]⟩

theorem Fails.ask_bind {g : ρ → α} (h : Fails env s (f (g env))) :
    Fails env s (Program.ask g >>= f) := by
  obtain ⟨e, herror⟩ := h
  exact ⟨e, by simp only [Bind.bind, Program.ask, herror]⟩

theorem Fails.gets_bind {g : σ → α} (h : Fails env s (f (g s))) :
    Fails env s (Program.gets g >>= f) := by
  obtain ⟨e, herror⟩ := h
  exact ⟨e, by simp only [Bind.bind, Program.gets, herror]⟩

theorem Fails.of_not {c : Prop} [Decidable c] {y : Program ρ σ ω ε α} (hc : ¬c)
    (h : Fails env s y) : Fails env s (if c then x else y) := by
  rw [if_neg hc]
  exact h

/-- A loop fails at an entry at which it must fail, if it has not failed before. -/
theorem Fails.forEach {g : β → Program ρ σ ω ε PUnit} {bs : List β} {b : β} (hb : b ∈ bs)
    (hkeeps : ∀ b ∈ bs, Keeps env F I P (g b) fun _ => True)
    (hfails : ∀ s, I s → Fails env s (g b)) (hs : I s) : Fails env s (forEach g bs) := by
  induction bs generalizing s with
  | nil => exact absurd hb List.not_mem_nil
  | cons b' bs ih =>
    rcases List.mem_cons.1 hb with rfl | hb
    · exact (hfails s hs).first
    · refine Fails.bind (hkeeps b' List.mem_cons_self s hs) fun _ s' hs' _ => ?_
      exact ih hb (fun b'' hb'' => hkeeps b'' (List.mem_cons_of_mem _ hb'')) hs'

end Fails

end Program

end Sc2Api.Lib

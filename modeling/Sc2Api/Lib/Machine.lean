import Mathlib.Data.List.Basic
import Sc2Api.Lib.Lists

/-!
# Machines and their runs

A `Machine` answers every input with a new state and an output. Its runs are
lists of inputs. The rules here turn one fact about a step into a fact about
runs:

* `Machine.invariant`: what every admissible step preserves holds at the end of
  every admissible run;
* `Machine.simulation`: two machines whose steps stay related produce related
  outputs, input by input;
* `Machine.outputs_iff`: what every output says of its input and of the inputs
  before it.

`Along C` says that every input of a run meets the condition `C` at the state in
which it arrives.
-/

namespace Sc2Api.Lib

universe u v w

/-- A deterministic machine with states `σ`, inputs `ι` and outputs `ο`. -/
structure Machine (σ : Type u) (ι : Type v) (ο : Type w) where
  step : σ → ι → σ × ο

namespace Machine

variable {σ σ' : Type u} {ι ι' : Type v} {ο ο' : Type w}

/-- The state after a list of inputs. -/
def final (m : Machine σ ι ο) : σ → List ι → σ
  | s, [] => s
  | s, i :: is => m.final (m.step s i).1 is

/-- The outputs of a list of inputs, one for each input. -/
def outputs (m : Machine σ ι ο) : σ → List ι → List ο
  | _, [] => []
  | s, i :: is => (m.step s i).2 :: m.outputs (m.step s i).1 is

/-- Every input meets `C` at the state in which it arrives. -/
def Along (m : Machine σ ι ο) (C : σ → ι → Prop) : σ → List ι → Prop
  | _, [] => True
  | s, i :: is => C s i ∧ m.Along C (m.step s i).1 is

instance decidableAlong (m : Machine σ ι ο) {C : σ → ι → Prop} [∀ s i, Decidable (C s i)] :
    ∀ (s : σ) (is : List ι), Decidable (m.Along C s is)
  | _, [] => isTrue trivial
  | s, i :: is =>
    have : Decidable (m.Along C (m.step s i).1 is) := m.decidableAlong (m.step s i).1 is
    inferInstanceAs (Decidable (C s i ∧ m.Along C (m.step s i).1 is))

section Equations

variable (m : Machine σ ι ο)

@[simp] theorem final_nil (s : σ) : m.final s [] = s := rfl

@[simp] theorem final_cons (s : σ) (i : ι) (is : List ι) :
    m.final s (i :: is) = m.final (m.step s i).1 is := rfl

@[simp] theorem outputs_nil (s : σ) : m.outputs s [] = [] := rfl

@[simp] theorem outputs_cons (s : σ) (i : ι) (is : List ι) :
    m.outputs s (i :: is) = (m.step s i).2 :: m.outputs (m.step s i).1 is := rfl

@[simp] theorem along_nil (C : σ → ι → Prop) (s : σ) : m.Along C s [] := trivial

@[simp] theorem along_cons (C : σ → ι → Prop) (s : σ) (i : ι) (is : List ι) :
    m.Along C s (i :: is) ↔ C s i ∧ m.Along C (m.step s i).1 is := Iff.rfl

theorem final_append (s : σ) (is js : List ι) :
    m.final s (is ++ js) = m.final (m.final s is) js := by
  induction is generalizing s with
  | nil => rfl
  | cons i is ih => exact ih _

theorem final_concat (s : σ) (is : List ι) (i : ι) :
    m.final s (is ++ [i]) = (m.step (m.final s is) i).1 := m.final_append s is [i]

theorem outputs_append (s : σ) (is js : List ι) :
    m.outputs s (is ++ js) = m.outputs s is ++ m.outputs (m.final s is) js := by
  induction is generalizing s with
  | nil => rfl
  | cons i is ih => simp only [List.cons_append, outputs_cons, final_cons, ih]

theorem along_append (C : σ → ι → Prop) (s : σ) (is js : List ι) :
    m.Along C s (is ++ js) ↔ m.Along C s is ∧ m.Along C (m.final s is) js := by
  induction is generalizing s with
  | nil => simp
  | cons i is ih => simp only [List.cons_append, along_cons, final_cons, ih, and_assoc]

theorem length_outputs (s : σ) (is : List ι) : (m.outputs s is).length = is.length := by
  induction is generalizing s with
  | nil => rfl
  | cons i is ih => simp only [outputs_cons, List.length_cons, ih]

theorem outputs_getElem? (s : σ) (is : List ι) (k : Nat) :
    (m.outputs s is)[k]? = is[k]?.map fun i => (m.step (m.final s (is.take k)) i).2 := by
  induction is generalizing s k with
  | nil => rfl
  | cons i is ih =>
    cases k with
    | zero => rfl
    | succ k => exact ih _ k

end Equations

variable {m : Machine σ ι ο} {m' : Machine σ' ι' ο'}

theorem Along.imp {C D : σ → ι → Prop} (h : ∀ s i, C s i → D s i) {s : σ} {is : List ι}
    (hs : m.Along C s is) : m.Along D s is := by
  induction is generalizing s with
  | nil => trivial
  | cons i is ih => exact ⟨h s i hs.1, ih hs.2⟩

theorem along_of_forall {C : σ → ι → Prop} (h : ∀ s i, C s i) (s : σ) (is : List ι) :
    m.Along C s is := by
  induction is generalizing s with
  | nil => trivial
  | cons i is ih => exact ⟨h s i, ih _⟩

theorem Along.and {C D : σ → ι → Prop} {s : σ} {is : List ι} (hC : m.Along C s is)
    (hD : m.Along D s is) : m.Along (fun s i => C s i ∧ D s i) s is := by
  induction is generalizing s with
  | nil => trivial
  | cons i is ih => exact ⟨⟨hC.1, hD.1⟩, ih hC.2 hD.2⟩

/-- A condition on inputs alone holds along a run when it holds of its inputs. -/
theorem along_of_mem {P : ι → Prop} {is : List ι} (h : ∀ i ∈ is, P i) (s : σ) :
    m.Along (fun _ i => P i) s is := by
  induction is generalizing s with
  | nil => trivial
  | cons i is ih =>
    exact ⟨h i List.mem_cons_self, ih (fun j hj => h j (List.mem_cons_of_mem _ hj)) _⟩

/-- Every input of an admissible run is admissible where it arrives. -/
theorem Along.of_getElem? {C : σ → ι → Prop} {s : σ} {is : List ι} (h : m.Along C s is) {k : Nat}
    {i : ι} (hi : is[k]? = some i) : C (m.final s (is.take k)) i := by
  induction is generalizing s k with
  | nil => cases hi
  | cons j is ih =>
    cases k with
    | zero =>
      cases hi
      exact h.1
    | succ k => exact ih h.2 hi

/-- What every admissible step preserves holds at the end of every admissible run. -/
theorem invariant {I : σ → Prop} {C : σ → ι → Prop}
    (hstep : ∀ s i, I s → C s i → I (m.step s i).1) {s : σ} {is : List ι} (hs : I s)
    (hC : m.Along C s is) : I (m.final s is) := by
  induction is generalizing s with
  | nil => exact hs
  | cons i is ih => exact ih (hstep s i hs hC.1) hC.2

/-- `invariant` for steps that need no condition. -/
theorem invariant' {I : σ → Prop} (hstep : ∀ s i, I s → I (m.step s i).1) {s : σ}
    (is : List ι) (hs : I s) : I (m.final s is) :=
  invariant (C := fun _ _ => True) (fun s i h _ => hstep s i h) hs
    (along_of_forall (fun _ _ => trivial) s is)

/-- An invariant that a step needs may be assumed of every state of the run. -/
theorem Along.strengthen {I : σ → Prop} {C : σ → ι → Prop}
    (hstep : ∀ s i, I s → C s i → I (m.step s i).1) {s : σ} {is : List ι} (hs : I s)
    (hC : m.Along C s is) : m.Along (fun s i => I s ∧ C s i) s is := by
  induction is generalizing s with
  | nil => trivial
  | cons i is ih => exact ⟨⟨hs, hC.1⟩, ih (hstep s i hs hC.1) hC.2⟩

/-- What holds at the end of a run and not at its start begins to hold at some step. -/
theorem exists_step {P : σ → Prop} {s : σ} {is : List ι} (hs : ¬ P s) (hfinal : P (m.final s is)) :
    ∃ before i after, is = before ++ i :: after ∧ ¬ P (m.final s before) ∧
      P (m.step (m.final s before) i).1 := by
  induction is generalizing s with
  | nil => exact absurd hfinal hs
  | cons i is ih =>
    by_cases hstep : P (m.step s i).1
    · exact ⟨[], i, is, rfl, hs, hstep⟩
    · obtain ⟨before, j, after, his, hbefore, hafter⟩ := ih hstep hfinal
      exact ⟨i :: before, j, after, by rw [his]; rfl, hbefore, hafter⟩

/-- When the state says enough of the inputs so far, outputs and inputs can be compared
step by step. -/
theorem outputs_iff_from {R : σ → List ι → Prop} {C : ι → Prop} {P : List ι → ι → ο → Prop}
    {Q : List ι → ι → Prop}
    (hstep : ∀ s past i, R s past → C i →
      R (m.step s i).1 (past ++ [i]) ∧ (P past i (m.step s i).2 ↔ Q past i))
    {s : σ} {past is : List ι} (hs : R s past) (his : ∀ i ∈ is, C i) :
    (∀ k i, is[k]? = some i → ∃ o, (m.outputs s is)[k]? = some o ∧ P (past ++ is.take k) i o) ↔
      ∀ k i, is[k]? = some i → Q (past ++ is.take k) i := by
  induction is generalizing s past with
  | nil => simp
  | cons i is ih =>
    obtain ⟨hR, hPQ⟩ := hstep s past i hs (his i List.mem_cons_self)
    have hrest := ih hR fun j hj => his j (List.mem_cons_of_mem _ hj)
    rw [forall_getElem?_cons, forall_getElem?_cons]
    simpa [hPQ] using fun _ => hrest

/-- `outputs_iff_from` for a whole run. -/
theorem outputs_iff {R : σ → List ι → Prop} {C : ι → Prop} {P : List ι → ι → ο → Prop}
    {Q : List ι → ι → Prop}
    (hstep : ∀ s past i, R s past → C i →
      R (m.step s i).1 (past ++ [i]) ∧ (P past i (m.step s i).2 ↔ Q past i))
    {s : σ} {is : List ι} (hs : R s []) (his : ∀ i ∈ is, C i) :
    (∀ k i, is[k]? = some i → ∃ o, (m.outputs s is)[k]? = some o ∧ P (is.take k) i o) ↔
      ∀ k i, is[k]? = some i → Q (is.take k) i :=
  outputs_iff_from hstep hs his

/-- Related states that answer related inputs with related outputs do so along whole runs. -/
theorem simulation {R : σ → σ' → Prop} {P : ι → ι' → Prop} {Q : ο → ο' → Prop}
    {C : σ → ι → Prop}
    (hstep : ∀ a b i j, R a b → P i j → C a i →
      R (m.step a i).1 (m'.step b j).1 ∧ Q (m.step a i).2 (m'.step b j).2)
    {a : σ} {b : σ'} {is : List ι} {js : List ι'} (hR : R a b) (hP : List.Forall₂ P is js)
    (hC : m.Along C a is) :
    R (m.final a is) (m'.final b js) ∧ List.Forall₂ Q (m.outputs a is) (m'.outputs b js) := by
  induction hP generalizing a b with
  | nil => exact ⟨hR, .nil⟩
  | cons hij _ ih =>
    obtain ⟨hR', hQ⟩ := hstep a b _ _ hR hij hC.1
    obtain ⟨hfinal, houts⟩ := ih hR' hC.2
    exact ⟨hfinal, .cons hQ houts⟩

end Machine

end Sc2Api.Lib

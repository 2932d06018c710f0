import Mathlib.Data.List.Basic

/-!
# Dialogues

What one party of a conversation says and hears, turn by turn. A dialogue is
proper when every answer heard is the answer to the question asked last, and no
answer is heard after a question that was refused. A check is a question asked to
find out whether anybody is there; it does not make up for a refused question.
-/

namespace Sc2Api.Lib

universe u

inductive Turn (α : Type u)
  | asks (question : α)
  | checks (question : α)
  | refused
  | hears (question : α)
  | silence
  deriving DecidableEq, Repr

/-- What may be heard next: nothing, the answer to a question, nothing until another
question is asked. -/
inductive Ear (α : Type u)
  | idle
  | waiting (question : α)
  | refused
  deriving DecidableEq, Repr

namespace Dialogue

variable {α : Type u} [DecidableEq α]

/-- One turn; `none` when something is heard that may not be. -/
def next : Ear α → Turn α → Option (Ear α)
  | _, .asks q => some (.waiting q)
  | .refused, .checks _ => some .refused
  | _, .checks q => some (.waiting q)
  | _, .refused => some .refused
  | .waiting q, .hears q' => if q = q' then some .idle else none
  | _, .hears _ => none
  | .refused, .silence => some .refused
  | _, .silence => some .idle

def run (ear : Ear α) (turns : List (Turn α)) : Option (Ear α) := turns.foldlM next ear

/-- Nothing is heard that may not be, whatever was said before. -/
def Proper (turns : List (Turn α)) : Prop := ∀ ear : Ear α, (run ear turns).isSome

/-- Nothing is heard that may not be, when nothing was asked before. -/
def ProperFrom (ear : Ear α) (turns : List (Turn α)) : Prop := (run ear turns).isSome

instance (ear : Ear α) (turns : List (Turn α)) : Decidable (ProperFrom ear turns) :=
  inferInstanceAs (Decidable (_ = true))

theorem properFrom_nil (ear : Ear α) : ProperFrom ear [] := rfl

theorem properFrom_append {ear : Ear α} {turns turns' : List (Turn α)}
    (h : ProperFrom ear turns) (h' : Proper turns') : ProperFrom ear (turns ++ turns') := by
  obtain ⟨ear', hrun⟩ := Option.isSome_iff_exists.1 h
  unfold ProperFrom run at *
  rw [List.foldlM_append, hrun]
  exact h' ear'

theorem properFrom_cons {ear ear' : Ear α} {turn : Turn α} {turns : List (Turn α)}
    (hnext : next ear turn = some ear') (h : ProperFrom ear' turns) :
    ProperFrom ear (turn :: turns) := by
  unfold ProperFrom run at *
  rw [List.foldlM_cons, hnext]
  exact h

theorem proper_nil : Proper ([] : List (Turn α)) := fun _ => rfl

theorem Proper.append {turns turns' : List (Turn α)} (h : Proper turns) (h' : Proper turns') :
    Proper (turns ++ turns') := fun ear => properFrom_append (h ear) h'

/-- After a question, only its answer may be heard. -/
theorem proper_asks {q : α} {turns : List (Turn α)} (h : ProperFrom (.waiting q) turns) :
    Proper (.asks q :: turns) := fun ear => by
  refine properFrom_cons ?_ h
  cases ear <;> rfl

theorem proper_refused : Proper [(.refused : Turn α)] := fun ear => by cases ear <;> rfl

end Dialogue

end Sc2Api.Lib

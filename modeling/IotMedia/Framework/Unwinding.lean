import IotMedia.Framework.Run

namespace IotMedia.Framework

variable {σ ι ο : Type} {next : σ → ι → σ×ο} {alike : σ → σ → Prop} {s t : σ}

/-- The last state of a machine with outputs, and the outputs at the inputs that are marked. -/
def serve (next : σ → ι → σ×ο) : σ → List (ι×Bool) → σ×List ο
  | s,[] => (s,[])
  | s,x::xs =>
    let rest := serve next (next s x.1).1 xs
    (rest.1,if x.2 then (next s x.1).2::rest.2 else rest.2)

/-- A relation of states that a machine cannot tell apart. -/
structure Unwinding (next : σ → ι → σ×ο) (alike : σ → σ → Prop) : Prop where
  refl : ∀ s,alike s s
  trans : ∀ {s t u},alike s t → alike t u → alike s u
  output : ∀ {s t},alike s t → ∀ i,(next s i).2=(next t i).2
  step : ∀ {s t},alike s t → ∀ i,alike (next s i).1 (next t i).1

theorem serve_append (xs ys : List (ι×Bool)) :
    serve next s (xs++ys)=((serve next (serve next s xs).1 ys).1,
      (serve next s xs).2++(serve next (serve next s xs).1 ys).2) := by
  induction xs generalizing s with
  | nil => rfl
  | cons x xs ih =>
    simp only [List.cons_append,serve,ih]
    split_ifs <;> rfl

namespace Unwinding

/-- Unmarked inputs can be left out of a run if none of them moves it to a state that differs. -/
theorem serve_filter (u : Unwinding next alike) {xs : List (ι×Bool)} (h : alike s t)
    (quiet : Follows (fun s x => x.2=false → alike (next s x.1).1 s)
      (fun s x => (next s x.1).1) s xs) :
    alike (serve next s xs).1 (serve next t (xs.filter Prod.snd)).1 ∧
      (serve next s xs).2=(serve next t (xs.filter Prod.snd)).2 := by
  induction xs generalizing s t with
  | nil => exact ⟨h,rfl⟩
  | cons x xs ih =>
    obtain ⟨i,marked⟩ := x
    cases marked with
    | false => exact ih (u.trans (quiet.1 rfl) h) quiet.2
    | true =>
      obtain ⟨last,outputs⟩ := ih (u.step h i) quiet.2
      refine ⟨last,?_⟩
      change (next s i).2::_=(next t i).2::_
      rw [u.output h i,outputs]

/-- From alike states a run ends in alike states and has the same outputs. -/
theorem serve_alike (u : Unwinding next alike) (h : alike s t) (xs : List (ι×Bool)) :
    alike (serve next s xs).1 (serve next t xs).1 ∧ (serve next s xs).2=(serve next t xs).2 := by
  induction xs generalizing s t with
  | nil => exact ⟨h,rfl⟩
  | cons x xs ih =>
    obtain ⟨last,outputs⟩ := ih (u.step h x.1)
    refine ⟨last,?_⟩
    simp only [serve,u.output h x.1,outputs]

end Unwinding

end IotMedia.Framework

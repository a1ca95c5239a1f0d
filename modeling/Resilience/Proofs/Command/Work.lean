import Resilience.Command.Run
/-! # Parts of commands

A command is put together from parts. Those that only say something leave all else as it is.
-/
namespace Resilience.Command

variable {σ α β : Type}

theorem bind_run {x : Work σ α} {f : α → Work σ β} {a : α} {t t' : Transcript σ}
    (h : x.run.run t = (.ok a, t')) : (x >>= f).run.run t = (f a).run.run t' := by
  rw [ExceptT.run_bind, StateT.run_bind, h]
  rfl

theorem bind_run_error {x : Work σ α} {f : α → Work σ β} {e : Failure} {t t' : Transcript σ}
    (h : x.run.run t = (.error e, t')) : (x >>= f).run.run t = (.error e, t') := by
  rw [ExceptT.run_bind, StateT.run_bind, h]
  rfl

theorem get_run (t : Transcript σ) : (get : Work σ (Transcript σ)).run.run t = (.ok t, t) := rfl

/-- Whatever was written before it, the part says something, does nothing else, and gives this. -/
def Speaks (x : Work σ α) (a : α) : Prop :=
  ∀ t, ∃ messages, x.run.run t = (.ok a, { t with messages := messages })

namespace Speaks

theorem say (line : String) : Speaks (say line : Work σ PUnit) ⟨⟩ := fun _ => ⟨_, rfl⟩

theorem pure (a : α) : Speaks (Pure.pure a : Work σ α) a := fun _ => ⟨_, rfl⟩

theorem bind {x : Work σ α} {f : α → Work σ β} {a : α} {b : β} (hx : Speaks x a)
    (hf : Speaks (f a) b) : Speaks (x >>= f) b := by
  intro t
  obtain ⟨messages, run⟩ := hx t
  obtain ⟨messages', run'⟩ := hf { t with messages := messages }
  exact ⟨messages', (bind_run run).trans run'⟩

theorem each (items : List α) {f : α → PUnit → Work σ (ForInStep PUnit)}
    (hf : ∀ a, Speaks (f a ⟨⟩) (.yield ⟨⟩)) : Speaks (forIn items PUnit.unit f) ⟨⟩ := by
  induction items with
  | nil => exact .pure _
  | cons a items ih =>
    rw [List.forIn_cons]
    exact (hf a).bind ih

end Speaks

/-- The messages about a run are nothing but messages. -/
theorem sayRun_speaks (report : RunReport) : Speaks (sayRun report : Work σ PUnit) ⟨⟩ := by
  refine .bind (.each _ fun w => .bind (.say _) (.bind (.say _) (.pure _))) ?_
  cases report.aborted with
  | none => exact .pure _
  | some reason => exact .say _

end Resilience.Command

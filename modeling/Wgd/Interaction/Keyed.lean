import Mathlib.Logic.Function.Basic

/-! Values under keys, of which no two may clash. -/

set_option autoImplicit false

namespace Wgd.Interaction

variable {K V : Type} {clash : V → V → Prop} {values : K → Option V}

/-- Values under different keys do not clash. -/
def Apart (clash : V → V → Prop) (values : K → Option V) : Prop :=
  ∀ key other value value', values key = some value → values other = some value' → key ≠ other → ¬ clash value value'

theorem Apart.nothing (none : ∀ key, values key = none) : Apart clash values := by
  intro key other value value' there
  rw [none key] at there
  cases there

/-- Among values that do not clash, a clash is with oneself. -/
theorem Apart.same (apart : Apart clash values) {key other : K} {value value' : V} (there : values key = some value)
    (there' : values other = some value') (clashes : clash value value') : key = other := by
  by_contra different
  exact apart key other value value' there there' different clashes

variable [DecidableEq K]

/-- A value is put where it clashes with nothing elsewhere. -/
theorem Apart.put (apart : Apart clash values) (symmetric : ∀ value value', clash value value' → clash value' value)
    {key : K} {value : V} (new : ∀ other value', values other = some value' → other ≠ key → ¬ clash value value') :
    Apart clash (Function.update values key (some value)) := by
  intro first second value₁ value₂ there₁ there₂ different clashes
  by_cases here : first = key
  · subst here
    rw [Function.update_self, Option.some.injEq] at there₁
    rw [Function.update_of_ne different.symm] at there₂
    exact new second value₂ there₂ different.symm (there₁ ▸ clashes)
  · rw [Function.update_of_ne here] at there₁
    by_cases there : second = key
    · subst there
      rw [Function.update_self, Option.some.injEq] at there₂
      exact new first value₁ there₁ here (there₂ ▸ symmetric _ _ clashes)
    · rw [Function.update_of_ne there] at there₂
      exact apart first second value₁ value₂ there₁ there₂ different clashes

theorem Apart.delete (apart : Apart clash values) (key : K) : Apart clash (Function.update values key none) := by
  intro first second value₁ value₂ there₁ there₂ different
  have kept : ∀ other value, Function.update values key none other = some value → values other = some value := by
    intro other value there
    by_cases here : other = key
    · subst here
      simp at there
    · rwa [Function.update_of_ne here] at there
  exact apart first second value₁ value₂ (kept _ _ there₁) (kept _ _ there₂) different

end Wgd.Interaction

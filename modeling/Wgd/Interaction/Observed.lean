import Wgd.Interaction.Footprint

/-! A ghost beside the state: programs whose commands it does not see, and programs
that leave the state to it alone. -/

set_option autoImplicit false

namespace Wgd.Interaction

variable {C : Commands} {S G A B : Type} {env : Environment C S} {observer : G → (op : C.Op) → C.Reply op → G}
  {permits : S → C.Op → Prop} {p : Program C A} {post : A → S → Prop} {state : S} {ghost : G}

/-- A ghost that also sees the state a command is given in. -/
def Environment.sighted (env : Environment C S) (observer : G → S → (op : C.Op) → C.Reply op → G) : Environment C (S × G) :=
  fun config op reply final => env config.1 op reply final.1 ∧ final.2 = observer config.2 config.1 op reply

/-- What is ensured of the state is ensured beside a ghost that sees none of the commands. -/
theorem Ensures.unsighted {observer : G → S → (op : C.Op) → C.Reply op → G}
    (blind : ∀ s op reply, permits s op → observer ghost s op reply = ghost) (ensured : Ensures env permits p post state) :
    Ensures (env.sighted observer) (fun config op => permits config.1 op ∧ config.2 = ghost) p
      (fun result config => post result config.1 ∧ config.2 = ghost) (state, ghost) := by
  induction p generalizing state with
  | done result => exact ⟨ensured, rfl⟩
  | call op next ih =>
    refine ⟨⟨ensured.1, rfl⟩, fun reply after answered => ?_⟩
    obtain ⟨after, ghost'⟩ := after
    obtain ⟨stepped, noted⟩ := answered
    dsimp only at stepped noted
    subst noted
    rw [blind state op reply ensured.1]
    exact ih reply (ensured.2 reply after stepped)

theorem Ensures.unseen (blind : ∀ s op reply, permits s op → observer ghost op reply = ghost)
    (ensured : Ensures env permits p post state) :
    Ensures (env.observe observer) (fun config op => permits config.1 op ∧ config.2 = ghost) p
      (fun result config => post result config.1 ∧ config.2 = ghost) (state, ghost) :=
  @Ensures.unsighted C S G A env permits p post state ghost (fun ghost _ => observer ghost) blind ensured

/-- What the commands alone decide is known of the result too. -/
theorem Ensures.and_issues {allowed : C.Op → Prop} {known : A → Prop} (ensured : Ensures env permits p post state)
    (issues : Issues allowed p known) : Ensures env permits p (fun result s => post result s ∧ known result) state :=
  (ensured.and issues.ensures).relax fun _ _ both => both.1

/-- What every permitted command keeps holds throughout, and may be used at every command. -/
theorem Ensures.holding {inv : S → Prop} (ensured : Ensures env permits p post state)
    (kept : ∀ s op reply after, permits s op → inv s → env s op reply after → inv after) (first : inv state) :
    Ensures env (fun s op => permits s op ∧ inv s) p (fun result s => post result s ∧ inv s) state := by
  induction p generalizing state with
  | done result => exact ⟨ensured, first⟩
  | call op next ih =>
    refine ⟨⟨ensured.1, first⟩, fun reply after answered => ?_⟩
    exact ih reply (ensured.2 reply after answered) (kept _ _ _ _ ensured.1 first answered)

def Handler.sighted {T : Type} (handler : Handler C T) (view : T → S) (observer : G → S → (op : C.Op) → C.Reply op → G) :
    Handler C (T × G) :=
  fun script op => ((handler script.1 op).1, (handler script.1 op).2, observer script.2 (view script.1) op (handler script.1 op).1)

theorem Handler.Faithful.sighted {T : Type} {handler : Handler C T} {view : T → S} (faithful : handler.Faithful view env)
    (observer : G → S → (op : C.Op) → C.Reply op → G) :
    (handler.sighted view observer).Faithful (fun script => (view script.1, script.2)) (env.sighted observer) :=
  fun script op => ⟨faithful script.1 op, rfl⟩

end Wgd.Interaction

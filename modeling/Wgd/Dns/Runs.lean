import Wgd.Dns.Conduct

/-! Runs of one helper on a host that others may change. -/

set_option autoImplicit false

namespace Wgd.Dns

open Wgd.Helper Wgd.Interaction
open Wgd.Routes (routeCommands)

variable {S : Type}

/-- One helper, from its setup to its teardown. Its route commands do not concern
the state. -/
def helperSession (args : HelperArgs) (env : Environment dnsCommands S) (outside : S → S → Prop) :
    Session helperCommands S HelperPhase where
  env := (Environment.idle routeCommands S).both env
  outside := outside
  start := fun phase state after p => after = state ∧ HelperStart args phase p
  abandon := fun _ _ _ => False

/-- The protocol's state stands in a relation to the host's that every command the
protocol allows keeps, and that nobody else breaks. -/
structure Tracks (inputs : MacosReconcileInputs) (protocol : Environment dnsCommands Custodian)
    (env : Environment dnsCommands S) (outside : S → S → Prop) (related : Custodian → S → Prop) : Prop where
  step : ∀ custodian state op reply after, related custodian state → allows inputs custodian op →
    env state op reply after → ∃ next, protocol custodian op reply next ∧ related next after
  others : ∀ custodian state after, related custodian state → outside state after → related custodian after

variable {args : HelperArgs} {inputs : MacosReconcileInputs} {protocol : Environment dnsCommands Custodian}
  {env : Environment dnsCommands S} {outside : S → S → Prop} {related : Custodian → S → Prop}

/-- The relation at some state of the protocol. -/
def Tracked (related : Custodian → S → Prop) (state : S) : Prop := ∃ custodian, related custodian state

/-- The relation at a state of the protocol at which the helper may rest. -/
def TrackedAtRest (args : HelperArgs) (related : Custodian → S → Prop) (phase : HelperPhase) (state : S) : Prop :=
  ∃ custodian, PhaseAtRest args phase custodian ∧ related custodian state

theorem Tracks.after (tracks : Tracks inputs protocol env outside related) {custodian : Custodian} {state after : S}
    (start : related custodian state) (changes : Relation.ReflTransGen outside state after) :
    related custodian after := by
  induction changes with
  | refl => exact start
  | tail _ change ih => exact tracks.others _ _ _ ih change

/-- What a program ensures of the protocol it ensures of the host. -/
theorem Tracks.ensures {A : Type} (tracks : Tracks inputs protocol env outside related) {custodian : Custodian} {state : S}
    (start : related custodian state) {p : HelperProgram A} {post : A → Custodian → Prop}
    (ensured : Ensures ((Environment.idle routeCommands Custodian).both protocol) (helperAllows inputs) p post custodian) :
    Ensures (((Environment.idle routeCommands S).both env).after outside) (always helperCommands (Tracked related)) p
      (fun result after => ∃ custodian, post result custodian ∧ related custodian after) state := by
  apply Ensures.simulated related _ (fun custodian s op relation _ => ⟨custodian, relation⟩) start ensured
  rintro custodian s (op | op) reply after relation allowed ⟨changed, changes, answered⟩
  · cases answered
    exact ⟨custodian, rfl, tracks.after relation changes⟩
  · exact tracks.step custodian changed op reply after (tracks.after relation changes) allowed answered

/-- A relation the helper's commands keep holds throughout its life. -/
theorem Tracks.kept (tracks : Tracks args.inputs (discipline args.inputs) env outside related) :
    (helperSession args env outside).Kept (Tracked related) (TrackedAtRest args related) where
  program := by
    rintro phase state _ p ⟨custodian, atRest, relation⟩ ⟨rfl, started⟩
    exact tracks.ensures relation (helper_follows started atRest)
  moment := fun _ _ ⟨custodian, _, relation⟩ => ⟨custodian, relation⟩
  others := fun _ _ ⟨custodian, relation⟩ change => ⟨custodian, tracks.others _ _ _ relation change⟩
  stable := fun _ _ _ ⟨custodian, atRest, relation⟩ change => ⟨custodian, atRest, tracks.others _ _ _ relation change⟩
  death := fun _ _ _ _ absurd => absurd.elim

end Wgd.Dns

import Wgd.Helper.Lifecycle

/-! The kernel routing table that the route commands read and write. -/

set_option autoImplicit false

namespace Wgd.Routes

open Wgd.Net Wgd.Helper Wgd.Interaction
open Wgd.Dns (dnsCommands)

inductive Target where
  | gateway (address : String)
  | device (name : String)
  deriving DecidableEq, Repr

def MacosRoute.target (route : MacosRoute) : Option Target :=
  match route.gateway, route.interface with
  | some gateway, _ => some (.gateway gateway)
  | none, some device => some (.device device)
  | none, none => none

/-- The entry of a lookup shows this target. -/
def Target.ShownBy (entry : MacosRouteEntry) : Target → Prop
  | .gateway address => entry.gateway = some address
  | .device name => entry.gateway = none ∧ entry.interface = some name

structure Kernel where
  table : Subnet → Option Target
  /-- The entries that are scoped to a device, such as the kernel derives from its addresses. -/
  ifscoped : Subnet → String → Bool

namespace Kernel

def put (kernel : Kernel) (destination : Subnet) (target : Option Target) : Kernel :=
  { kernel with table := Function.update kernel.table destination target }

def setScoped (kernel : Kernel) (destination : Subnet) (device : String) (present : Bool) : Kernel :=
  let devices := Function.update (kernel.ifscoped destination) device present
  { kernel with ifscoped := Function.update kernel.ifscoped destination devices }

@[simp] theorem table_put (kernel : Kernel) (destination : Subnet) (target : Option Target) :
    (kernel.put destination target).table destination = target := Function.update_self _ _ _

theorem table_put_of_ne (kernel : Kernel) {destination place : Subnet} (target : Option Target)
    (different : place ≠ destination) : (kernel.put destination target).table place = kernel.table place :=
  Function.update_of_ne different _ _

@[simp] theorem table_setScoped (kernel : Kernel) (destination : Subnet) (device : String) (present : Bool) :
    (kernel.setScoped destination device present).table = kernel.table := rfl

/-- What `route get` may answer: the entry of the table at the destination wins over
those that are scoped; without one a broader entry may answer. -/
def Answers (kernel : Kernel) (destination : Subnet) (answer : Option MacosRouteEntry) : Prop :=
  match kernel.table destination with
  | some target => ∃ entry, answer = some entry ∧ entry.destination = destination ∧ target.ShownBy entry
  | none => ∀ entry, answer = some entry → entry.destination = destination →
      ∃ device, kernel.ifscoped destination device = true ∧ (Target.device device).ShownBy entry

end Kernel

/-- What each route command answers and does, when nobody else writes the table. Every
write may fail; `getFails` says that lookups may as well. The connected subnets include
those of `attached` whenever they can be read. -/
def kernelEnvironment (getFails : Bool) (attached : List (String × Subnet)) : Environment routeCommands Kernel :=
  fun kernel op reply final => match op, reply with
  | .routeAdd route _ none, .ok created => ∃ destination target, macosRouteDestination route = some destination ∧
      route.target = some target ∧ created = (kernel.table destination).isNone ∧
      final = if created then kernel.put destination (some target) else kernel
  | .routeAdd route _ (some device), .ok _ => ∃ destination, macosRouteDestination route = some destination ∧
      final = kernel.setScoped destination device true
  | .routeDelete route _ none, .ok removed => ∃ destination, macosRouteDestination route = some destination ∧
      removed = (kernel.table destination).isSome ∧ final = kernel.put destination none
  | .routeDelete route _ (some device), .ok _ => ∃ destination, macosRouteDestination route = some destination ∧
      final = kernel.setScoped destination device false
  | .routeGet destination, answer => (getFails = true ∧ answer = none ∨ kernel.Answers destination answer) ∧ final = kernel
  | .macosConnectedSubnetsByDevice _, some connected => attached ⊆ connected ∧ final = kernel
  | _, _ => final = kernel

/-- The commands that add to the table or remove from it. -/
def RouteOp.writesTable : RouteOp → Bool
  | .routeAdd _ _ none | .routeDelete _ _ _ => true
  | _ => false

theorem kernelEnvironment_quiet {getFails : Bool} {attached : List (String × Subnet)} {kernel after : Kernel} {op : RouteOp}
    {reply : op.Reply} (answered : kernelEnvironment getFails attached kernel op reply after)
    (silent : op.writesTable = false) : after.table = kernel.table := by
  cases op with
  | routeDelete => exact nomatch silent
  | routeAdd route kind ifscope =>
    cases ifscope with
    | none => exact nomatch silent
    | some device =>
      cases reply with
      | error error =>
        cases answered
        rfl
      | ok created =>
        obtain ⟨destination, -, rfl⟩ := answered
        rfl
  | routeGet destination =>
    obtain ⟨-, rfl⟩ := answered
    rfl
  | macosConnectedSubnetsByDevice interface =>
    cases reply with
    | none =>
      cases answered
      rfl
    | some connected =>
      obtain ⟨-, rfl⟩ := answered
      rfl
  | getMacosDefaultGateway isIpv6 | ifconfig arguments =>
    cases answered
    rfl

/-- The rule for one command. -/
theorem issue_iff {S : Type} {env : Environment routeCommands S} {permits : S → RouteOp → Prop} {op : RouteOp}
    {post : op.Reply → S → Prop} {state : S} :
    Ensures env permits (issue op) post state ↔ permits state op ∧
      ∀ reply after, env state op reply after → post reply after := Iff.rfl

/-- Runs of one helper whose DNS commands do not concern the state. -/
def routeSession (args : HelperArgs) {S : Type} (env : Environment routeCommands S) :
    Session helperCommands S HelperPhase where
  env := env.both (Environment.idle dnsCommands S)
  outside := fun _ _ => False
  start := fun phase state after p => after = state ∧ HelperStart args phase p
  abandon := fun _ _ _ => False

end Wgd.Routes

import Wgd.Routes.Kernel

/-! Scripted kernels: what the programs do to one fixed routing table can be evaluated. -/

set_option autoImplicit false

namespace Wgd.Routes

open Wgd.Net Wgd.Helper Wgd.Interaction
open Wgd.Dns (DnsOp dnsCommands)

/-- What the system answers to one command beyond the table itself. -/
structure RouteCue where
  /-- The command fails, if it is a write. -/
  fails : Bool
  endpointGateway : Option String

def Target.entry (destination : Subnet) : Target → MacosRouteEntry
  | .gateway address => ⟨destination, none, some address⟩
  | .device name => ⟨destination, some name, none⟩

def answer (attached : List (String × Subnet)) (cue : RouteCue) (kernel : Kernel) (op : RouteOp) : op.Reply × Kernel :=
  match op with
  | .routeAdd route _ none => match cue.fails, macosRouteDestination route, route.target with
    | false, some destination, some target =>
      if (kernel.table destination).isNone then (.ok true, kernel.put destination (some target)) else (.ok false, kernel)
    | _, _, _ => (.error "scripted", kernel)
  | .routeAdd route _ (some device) => match cue.fails, macosRouteDestination route with
    | false, some destination => (.ok true, kernel.setScoped destination device true)
    | _, _ => (.error "scripted", kernel)
  | .routeDelete route _ none => match cue.fails, macosRouteDestination route with
    | false, some destination => (.ok (kernel.table destination).isSome, kernel.put destination none)
    | _, _ => (.error "scripted", kernel)
  | .routeDelete route _ (some device) => match cue.fails, macosRouteDestination route with
    | false, some destination => (.ok (kernel.ifscoped destination device), kernel.setScoped destination device false)
    | _, _ => (.error "scripted", kernel)
  | .routeGet destination => ((kernel.table destination).map (Target.entry destination), kernel)
  | .getMacosDefaultGateway _ => (.ok cue.endpointGateway, kernel)
  | .macosConnectedSubnetsByDevice _ => (some attached, kernel)
  | .ifconfig _ => (.ok (), kernel)

theorem answer_faithful (getFails : Bool) (attached : List (String × Subnet)) (cue : RouteCue) (kernel : Kernel)
    (op : RouteOp) :
    kernelEnvironment getFails attached kernel op (answer attached cue kernel op).1 (answer attached cue kernel op).2 := by
  cases op with
  | routeAdd route kind ifscope =>
    cases ifscope with
    | none =>
      simp only [answer]
      split
      · rename_i destination target _ named shows
        cases held : kernel.table destination with
        | none => exact ⟨destination, target, named, shows, by simp [held], rfl⟩
        | some holder => exact ⟨destination, target, named, shows, by simp [held], rfl⟩
      · rfl
    | some device =>
      simp only [answer]
      split
      · rename_i destination _ named
        exact ⟨destination, named, rfl⟩
      · rfl
  | routeDelete route kind ifscope =>
    cases ifscope with
    | none =>
      simp only [answer]
      split
      · rename_i destination _ named
        exact ⟨destination, named, rfl, rfl⟩
      · rfl
    | some device =>
      simp only [answer]
      split
      · rename_i destination _ named
        exact ⟨destination, named, rfl⟩
      · rfl
  | routeGet destination =>
    refine ⟨.inr ?_, rfl⟩
    simp only [answer, Kernel.Answers]
    cases kernel.table destination with
    | none => exact nofun
    | some target =>
      refine ⟨target.entry destination, rfl, ?_, ?_⟩
      · cases target <;> rfl
      · cases target with
        | gateway address => rfl
        | device name => exact ⟨rfl, rfl⟩
  | macosConnectedSubnetsByDevice interface => exact ⟨List.Subset.refl attached, rfl⟩
  | getMacosDefaultGateway isIpv6 | ifconfig arguments => rfl

/-- A kernel that follows one cue after another. -/
def scripted (attached : List (String × Subnet)) (cues : Nat → RouteCue) : Handler routeCommands (Kernel × Nat) :=
  fun script op => ((answer attached (cues script.2) script.1 op).1,
    (answer attached (cues script.2) script.1 op).2, script.2 + 1)

theorem scripted_faithful (getFails : Bool) (attached : List (String × Subnet)) (cues : Nat → RouteCue) :
    (scripted attached cues).Faithful Prod.fst (kernelEnvironment getFails attached) :=
  fun script op => answer_faithful getFails attached (cues script.2) script.1 op

/-- DNS commands that all work, on a host without services. -/
def dnsWorks : (op : DnsOp) → op.Reply
  | .listNetworkServices | .recordPaths => .ok []
  | .getDnsServers _ | .getSearchDomains _ => .ok none
  | .setDnsServers _ _ | .setSearchDomains _ _ | .writeRecord _ | .removeRecord _ | .ensureWatchSentinel
  | .quarantineRecord _ => .ok ()
  | .flushResolverCache | .keyRemove | .pushService _ | .retainServices _ | .storeFingerprint _
  | .removeStaleRuntimeFiles _ => ()
  | .macosPrimaryService => none
  | .macosConnectedSubnetsByDevice _ => none
  | .readRecord _ => .error "not found"
  | .keyStart _ | .keySetWanted _ | .helperIsLive _ _ _ => false
  | .keyIntact => none
  | .dnsState => ⟨[], .default⟩
  | .loadAllConnections => .ok []

section Helpers

variable {G : Type} (getFails : Bool) (attached : List (String × Subnet)) (cues : Nat → RouteCue)
  (observer : G → (op : RouteOp) → op.Reply → G)

/-- A helper's commands on a scripted kernel under observation. -/
def routeScript : Handler helperCommands ((Kernel × Nat) × G) :=
  ((scripted attached cues).observe observer).both (Handler.fixed dnsWorks : Handler dnsCommands _)

theorem routeScript_faithful :
    (routeScript attached cues observer).Faithful (fun script => (script.1.1, script.2))
      (((kernelEnvironment getFails attached).observe observer).both (Environment.idle dnsCommands (Kernel × G))) := by
  have fixed : (Handler.fixed dnsWorks : Handler dnsCommands ((Kernel × Nat) × G)).Faithful
      (fun script => (script.1.1, script.2)) (.idle dnsCommands (Kernel × G)) := Handler.fixed_faithful _
  exact ((scripted_faithful getFails attached cues).observe observer).both fixed

end Helpers

/-! ### A tunnel whose endpoint is pinned -/

/-- The endpoint 203.0.113.7, through a tunnel that would carry it. -/
def pinnedArgs (allowedIps : List String) : HelperArgs where
  interface := "utun7"
  config := ⟨["10.8.0.2/32"], [], none, allowedIps, .v4 0xcb007107#32⟩
  connectionId := none
  custody := none
  dnsMode := .shadow
  bypassLinks := []

def noRoutes : Kernel := ⟨fun _ => none, fun _ _ => false⟩

def pinnedEndpoint : Subnet := (.v4 0xcb007107#32, 32)

end Wgd.Routes

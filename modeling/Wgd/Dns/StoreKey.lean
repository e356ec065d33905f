import Wgd.Helper.Inputs
import Wgd.Interaction.Rules

/-! The owner of a connection's DNS key in the dynamic store
(`userspace_helper/macos/dns_store_key.rs`): one thread that publishes the key,
withdraws it while it collides with a connected LAN, and republishes it when it
disappears. -/

set_option autoImplicit false

namespace Wgd.Dns

open Wgd.Helper Wgd.Interaction

/-- The dictionary published under the key. -/
structure StoreValue where
  serverAddresses : List String
  supplementalMatchDomains : List String
  supplementalMatchDomainsNoSearch : Nat
  searchOrder : Nat
  deriving DecidableEq, Repr

def searchOrder : Nat := 100000

/-- The calls into SystemConfiguration, on the owner's session and on the plain one
that clears what a previous owner left. -/
inductive StoreOp where
  | set (value : StoreValue)
  | remove
  | get
  | openPlain
  | plainGet
  | plainRemove
  | flushResolverCache

@[reducible] def StoreOp.Reply : StoreOp → Type
  | .set _ | .remove | .get | .openPlain | .plainGet | .plainRemove => Bool
  | .flushResolverCache => Unit

abbrev storeCommands : Commands := ⟨StoreOp, StoreOp.Reply⟩

abbrev StoreProgram (A : Type) := Program storeCommands A

def ask (op : StoreOp) : StoreProgram op.Reply := @Program.command storeCommands op

/-- What the owner thread receives. -/
inductive KeyCommand where
  /-- Publish (`true`) or withdraw (`false`) the key. -/
  | want (wanted : Bool)
  /-- Remove the key, acknowledge and stop. -/
  | remove
  /-- The handle is gone without a teardown. -/
  | disconnected
  deriving DecidableEq, Repr

structure Owner where
  mode : StoreKeyMode
  matchDomain : String
  dnsServers : List String
  wanted : Bool
  published : Bool
  /-- A publish failed; only the poll retries it. -/
  failing : Bool
  deriving DecidableEq, Repr

namespace Owner

def value (owner : Owner) : StoreValue where
  serverAddresses := owner.dnsServers
  supplementalMatchDomains := [owner.matchDomain]
  supplementalMatchDomainsNoSearch := 1
  searchOrder := searchOrder

def flushIfActive (owner : Owner) : StoreProgram Unit :=
  if owner.mode = .active then ask .flushResolverCache else .done ()

def publish (owner : Owner) : StoreProgram Owner := do
  if ← ask (.set owner.value) then
    let owner := { owner with published := true, failing := false }
    owner.flushIfActive
    return owner
  else return { owner with failing := true }

/-- Bring the key in line with what is wanted. A failed publish is left to the poll. -/
def apply (owner : Owner) : StoreProgram Owner := do
  if owner.wanted && !owner.published && !owner.failing then owner.publish
  else if !owner.wanted && owner.published then
    let owner := { owner with published := false }
    if ← ask .remove then owner.flushIfActive
    return owner
  else return owner

/-- Republish the key if it went missing. -/
def check (owner : Owner) : StoreProgram Owner := do
  if !owner.wanted || !owner.published then return owner
  else if ← ask .get then return owner
  else publish { owner with published := false }

def remove (owner : Owner) : StoreProgram Unit := do
  let _ ← ask .remove
  if owner.published then owner.flushIfActive

/-- A key left by a previous owner, which this session could not replace. -/
def removeStale : StoreProgram Unit := do
  if ← ask .openPlain then
    if ← ask .plainGet then
      let _ ← ask .plainRemove

/-- Take the queued commands in; `none` when one of them ends the thread. -/
def drain (owner : Owner) : List KeyCommand → Owner × Bool
  | [] => (owner, true)
  | .want wanted :: rest => drain { owner with wanted := wanted } rest
  | .remove :: _ | .disconnected :: _ => (owner, false)

/-- The thread before its first turn. -/
def begin (owner : Owner) : StoreProgram Owner := do
  removeStale
  owner.apply

/-- Of the failed publishes, only the poll tries one again. -/
def retry (owner : Owner) : StoreProgram Owner :=
  if owner.failing && owner.wanted && !owner.published then owner.publish else .done owner

def poll (owner : Owner) : StoreProgram Owner := do
  let owner ← owner.retry
  owner.check

/-- The thread's work of one turn, once the commands are in. -/
def serve (owner : Owner) (changed due : Bool) : StoreProgram Owner := do
  let owner ← owner.apply
  let owner ← if changed then owner.check else .done owner
  if due then owner.poll else .done owner

/-- One turn of the run loop: the commands that have arrived, whether the store
notified a change, and whether a poll is due. -/
def turn (owner : Owner) (commands : List KeyCommand) (changed due : Bool) : StoreProgram (Option Owner) :=
  if (owner.drain commands).2 then do
    let owner ← (owner.drain commands).1.serve changed due
    return some owner
  else do
    (owner.drain commands).1.remove
    return none

end Owner

/-! ### The store -/

/-- The key's value in the store. A call that fails leaves it as it is. -/
def storeEnvironment : Environment storeCommands (Option StoreValue) := fun key op reply after =>
  match op, reply with
  | .set value, true => after = some value
  | .remove, true | .plainRemove, true => after = none
  | .set _, false | .remove, false | .plainRemove, false | .openPlain, _ | .flushResolverCache, _ => after = key
  | .get, found | .plainGet, found => found = key.isSome ∧ after = key

/-- Somebody else takes the key away. -/
def externalRemoval (_ after : Option StoreValue) : Prop := after = none

/-- The call does what it is asked to. -/
def Succeeds : Option StoreValue → (op : storeCommands.Op) → storeCommands.Reply op → Prop
  | _, .set _, done | _, .remove, done | _, .plainRemove, done | _, .openPlain, done => done = true
  | _, .get, _ | _, .plainGet, _ | _, .flushResolverCache, _ => True

/-- Every command so far, the thread and the key, between two turns. -/
inductive KeyRun (env : Environment storeCommands (Option StoreValue)) (first : Owner) :
    List KeyCommand → Owner → Option StoreValue → Prop where
  | begin {key key' : Option StoreValue} {owner : Owner}
      (begun : Completes (env.after externalRemoval) first.begin key owner key') : KeyRun env first [] owner key'
  | turn {commands arrived : List KeyCommand} {changed due : Bool} {owner owner' : Owner}
      {key key' : Option StoreValue} (before : KeyRun env first commands owner key)
      (turned : Completes (env.after externalRemoval) (owner.turn arrived changed due) key (some owner') key') :
      KeyRun env first (commands ++ arrived) owner' key'
  | removed {commands : List KeyCommand} {owner : Owner} {key : Option StoreValue}
      (before : KeyRun env first commands owner key) : KeyRun env first commands owner none

/-- What the last command asked for. -/
def lastWanted (first : Bool) : List KeyCommand → Bool
  | [] => first
  | .want wanted :: rest => lastWanted wanted rest
  | .remove :: rest | .disconnected :: rest => lastWanted first rest

end Wgd.Dns

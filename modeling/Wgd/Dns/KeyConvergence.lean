import Wgd.Dns.StoreKey

/-! The owner of the dynamic store key brings the key in line with the last command,
as far as it knows what is in the store: a withdrawal the store refuses is
remembered as done. -/

set_option autoImplicit false

namespace Wgd.Dns

open Wgd.Helper Wgd.Interaction

theorem lastWanted_append (first : Bool) (commands arrived : List KeyCommand) :
    lastWanted first (commands ++ arrived) = lastWanted (lastWanted first commands) arrived := by
  induction commands generalizing first with
  | nil => rfl
  | cons command rest ih => cases command <;> exact ih _

theorem Owner.drain_goesOn {owner : Owner} {arrived : List KeyCommand} (goesOn : (owner.drain arrived).2 = true) :
    (owner.drain arrived).1 = { owner with wanted := lastWanted owner.wanted arrived } := by
  induction arrived generalizing owner with
  | nil => rfl
  | cons command rest ih =>
    cases command with
    | want wanted => exact ih goesOn
    | remove => cases goesOn
    | disconnected => cases goesOn

section Rules

variable {env : Environment storeCommands (Option StoreValue)} {key : Option StoreValue}

/-- Every completed run of a program ends so. -/
abbrev Leads {A : Type} (env : Environment storeCommands (Option StoreValue)) (p : StoreProgram A)
    (post : A → Option StoreValue → Prop) (key : Option StoreValue) : Prop :=
  Ensures env (fun _ _ => True) p post key

theorem leads_ask {op : StoreOp} {post : op.Reply → Option StoreValue → Prop}
    (answers : ∀ reply after, env key op reply after → post reply after) : Leads env (ask op) post key :=
  Ensures.command_iff.mpr ⟨trivial, answers⟩

namespace Owner

variable {owner : Owner} {post : Owner → Option StoreValue → Prop}

/-! ### A rule for each step of the owner -/

theorem flush_rule {quiet : Option StoreValue → Prop} (start : quiet key)
    (flushed : ∀ before after, quiet before → env before .flushResolverCache () after → quiet after) :
    Leads env owner.flushIfActive (fun _ => quiet) key := by
  unfold flushIfActive
  split
  · apply leads_ask
    intro _ after answered
    exact flushed key after start answered
  · exact start

theorem publish_rule
    (flushed : ∀ owner before after, post owner before → env before .flushResolverCache () after → post owner after)
    (done : ∀ after, env key (.set owner.value) true after →
      post { owner with published := true, failing := false } after)
    (failed : ∀ after, env key (.set owner.value) false after → post { owner with failing := true } after) :
    Leads env owner.publish post key := by
  unfold publish
  rw [Leads, Ensures.bind_iff]
  apply leads_ask
  intro reply after answered
  cases reply with
  | false => exact failed after answered
  | true => exact Ensures.bind_iff.mpr (flush_rule (done after answered) (flushed _))

theorem apply_rule
    (flushed : ∀ owner before after, post owner before → env before .flushResolverCache () after → post owner after)
    (publishes : owner.wanted = true → owner.published = false → owner.failing = false →
      Leads env owner.publish post key)
    (withdrawn : owner.wanted = false → owner.published = true → ∀ reply after, env key .remove reply after →
      post { owner with published := false } after)
    (settled : (owner.wanted = true → owner.published = true ∨ owner.failing = true) →
      (owner.wanted = false → owner.published = false) → post owner key) :
    Leads env owner.apply post key := by
  unfold apply
  split
  · rename_i due
    simp only [Bool.and_eq_true, Bool.not_eq_true'] at due
    exact publishes due.1.1 due.1.2 due.2
  · rename_i unpublished
    split
    · rename_i due
      simp only [Bool.and_eq_true, Bool.not_eq_true'] at due
      rw [Leads, Ensures.bind_iff]
      apply leads_ask
      intro reply after answered
      have removed := withdrawn due.1 due.2 reply after answered
      cases reply with
      | false => exact removed
      | true => exact Ensures.bind_iff.mpr (flush_rule removed (flushed _))
    · rename_i kept
      apply settled
      · intro wanted
        cases published : owner.published <;> cases failing : owner.failing <;> simp_all
      · intro unwanted
        simpa [unwanted] using kept

theorem check_rule
    (idle : ¬ (owner.wanted = true ∧ owner.published = true) → post owner key)
    (present : owner.wanted = true → owner.published = true → ∀ after, env key .get true after → post owner after)
    (missing : owner.wanted = true → owner.published = true → ∀ after, env key .get false after →
      Leads env (publish { owner with published := false }) post after) :
    Leads env owner.check post key := by
  unfold check
  split
  · rename_i unwatched
    apply idle
    rintro ⟨wanted, published⟩
    simp [wanted, published] at unwatched
  · rename_i watched
    have on : owner.wanted = true ∧ owner.published = true := by simpa using watched
    rw [Leads, Ensures.bind_iff]
    apply leads_ask
    intro reply after answered
    cases reply with
    | false => exact missing on.1 on.2 after answered
    | true => exact present on.1 on.2 after answered

/-- What every step of the thread keeps. -/
structure Keeps (env : Environment storeCommands (Option StoreValue)) (inv : Owner → Option StoreValue → Prop) :
    Prop where
  flushed : ∀ owner before after, inv owner before → env before .flushResolverCache () after → inv owner after
  published : ∀ owner before after, inv owner before → env before (.set owner.value) true after →
    inv { owner with published := true, failing := false } after
  failed : ∀ owner before after, inv owner before → env before (.set owner.value) false after →
    inv { owner with failing := true } after
  withdrawn : ∀ owner before reply after, inv owner before → env before .remove reply after →
    inv { owner with published := false } after
  present : ∀ owner before after, inv owner before → env before .get true after → inv owner after
  missing : ∀ owner before after, inv owner before → env before .get false after →
    inv { owner with published := false } after

variable {inv : Owner → Option StoreValue → Prop}

theorem Keeps.publish (keeps : Keeps env inv) (start : inv owner key) : Leads env owner.publish inv key :=
  publish_rule keeps.flushed (fun after => keeps.published owner key after start)
    fun after => keeps.failed owner key after start

theorem Keeps.apply (keeps : Keeps env inv) (start : inv owner key) : Leads env owner.apply inv key := by
  apply apply_rule keeps.flushed
  · intro _ _ _
    exact keeps.publish start
  · intro _ _ reply after
    exact keeps.withdrawn owner key reply after start
  · intro _ _
    exact start

theorem Keeps.check (keeps : Keeps env inv) (start : inv owner key) : Leads env owner.check inv key := by
  apply check_rule
  · intro _
    exact start
  · intro _ _ after
    exact keeps.present owner key after start
  · intro _ _ after answered
    exact keeps.publish (keeps.missing owner key after start answered)

theorem Keeps.poll (keeps : Keeps env inv) (start : inv owner key) : Leads env owner.poll inv key := by
  unfold Owner.poll retry
  rw [Leads, Ensures.bind_iff]
  split
  · exact (keeps.publish start).mono fun _ _ => keeps.check
  · exact keeps.check start

theorem Keeps.serve (keeps : Keeps env inv) {changed due : Bool} (start : inv owner key) :
    Leads env (owner.serve changed due) inv key := by
  have polled (owner : Owner) (key : Option StoreValue) (kept : inv owner key) :
      Leads env (if due then owner.poll else .done owner) inv key := by
    cases due with
    | false => exact kept
    | true => exact keeps.poll kept
  unfold Owner.serve
  rw [Leads, Ensures.bind_iff]
  refine (keeps.apply start).mono fun applied after kept => ?_
  cases changed with
  | false => exact polled applied after kept
  | true => exact Ensures.bind_iff.mpr ((keeps.check kept).mono polled)

/-! ### What the thread wants -/

theorem keeps_wanted (wanted : Bool) : Keeps env fun owner _ => owner.wanted = wanted where
  flushed _ _ _ same _ := same
  published _ _ _ same _ := same
  failed _ _ _ same _ := same
  withdrawn _ _ _ _ same _ := same
  present _ _ _ same _ := same
  missing _ _ _ same _ := same

/-- A turn that does not end the thread serves what the last command asked for. -/
theorem turn_rule {arrived : List KeyCommand} {changed due : Bool} {post : Owner → Option StoreValue → Prop}
    (served : Leads env ({ owner with wanted := lastWanted owner.wanted arrived }.serve changed due) post key) :
    Leads env (owner.turn arrived changed due)
      (fun result after => ∀ owner', result = some owner' → post owner' after) key := by
  unfold turn
  split
  · rename_i goesOn
    rw [Leads, Ensures.bind_iff, drain_goesOn goesOn]
    refine served.mono fun served after holds => ?_
    intro owner' same
    exact Option.some.inj same ▸ holds
  · rw [Leads, Ensures.bind_iff]
    refine (Ensures.any _ _).mono fun _ after _ => ?_
    intro owner' ended
    cases ended

/-! ### A turn in which every call succeeds -/

abbrev succeeding : Environment storeCommands (Option StoreValue) := storeEnvironment.meeting Succeeds

/-- The key once a thread that wants it has published it, or what is left of it. -/
structure Settled (wanted : Bool) (left : Option StoreValue) (owner : Owner) (key : Option StoreValue) : Prop where
  same : owner.wanted = wanted
  asked : wanted = true → owner.published = true ∨ owner.failing = true
  withdrawn : wanted = false → owner.published = false ∧ key = left

/-- And nothing is missing. -/
structure InPlace (wanted : Bool) (left : Option StoreValue) (owner : Owner) (key : Option StoreValue) : Prop
    extends Settled wanted left owner key where
  present : wanted = true → owner.published = true → key.isSome = true

variable {wanted : Bool} {left : Option StoreValue}

theorem publish_succeeding (left : Option StoreValue) (on : owner.wanted = true) (is_wanted : wanted = true) :
    Leads succeeding owner.publish
      (fun result after => InPlace wanted left result after ∧ result.published = true) key := by
  apply publish_rule
  · rintro result before after kept ⟨_, rfl⟩
    exact kept
  · rintro after ⟨_, rfl⟩
    refine ⟨⟨⟨on.trans is_wanted.symm, fun _ => .inl rfl, ?_⟩, fun _ _ => rfl⟩, rfl⟩
    intro off
    rw [is_wanted] at off
    cases off
  · rintro after ⟨done, _⟩
    cases done

theorem apply_succeeding (on : owner.wanted = wanted) :
    Leads succeeding owner.apply (Settled wanted (if owner.published then none else key)) key := by
  apply apply_rule
  · rintro result before after kept ⟨_, rfl⟩
    exact kept
  · intro is_wanted _ _
    exact (publish_succeeding _ is_wanted (on ▸ is_wanted)).mono fun _ _ settled => settled.1.toSettled
  · rintro unwanted published reply after ⟨rfl, rfl⟩
    refine ⟨on, ?_, ?_⟩
    · intro is_wanted
      rw [← on, unwanted] at is_wanted
      cases is_wanted
    · intro _
      simp [published]
  · intro asked withdrawn
    refine ⟨on, on ▸ asked, ?_⟩
    intro unwanted
    simp [withdrawn (on ▸ unwanted)]

theorem check_succeeding (settled : Settled wanted left owner key) :
    Leads succeeding owner.check
      (fun result after => InPlace wanted left result after ∧
        (owner.published = true → result.published = true)) key := by
  apply check_rule
  · intro idle
    refine ⟨⟨settled, ?_⟩, id⟩
    intro is_wanted published
    exact absurd ⟨settled.same.trans is_wanted, published⟩ idle
  · rintro on published after ⟨_, found, rfl⟩
    exact ⟨⟨settled, fun _ _ => found.symm⟩, id⟩
  · intro on _ after _
    have missing : ({ owner with published := false } : Owner).wanted = true := on
    exact (publish_succeeding left missing (settled.same ▸ on)).mono fun _ _ done => ⟨done.1, fun _ => done.2⟩

theorem poll_succeeding (settled : Settled wanted left owner key) :
    Leads succeeding owner.poll
      (fun result after => InPlace wanted left result after ∧ (wanted = true → result.published = true)) key := by
  unfold poll retry
  rw [Leads, Ensures.bind_iff]
  split
  · rename_i due
    simp only [Bool.and_eq_true] at due
    refine (publish_succeeding left due.1.2 (settled.same ▸ due.1.2)).mono fun retried after done => ?_
    exact (check_succeeding done.1.toSettled).mono fun _ _ checked => ⟨checked.1, fun _ => checked.2 done.2⟩
  · rename_i notDue
    change Leads succeeding owner.check _ key
    refine (check_succeeding settled).mono fun _ _ checked => ⟨checked.1, fun is_wanted => checked.2 ?_⟩
    rcases settled.asked is_wanted with published | failing
    · exact published
    · simpa [failing, settled.same.trans is_wanted] using notDue

/-- After a due turn the key is there if it is wanted; if not, a key is left exactly
where the thread had not recorded it as published. -/
theorem serve_succeeding {changed : Bool} (on : owner.wanted = wanted) :
    Leads succeeding (owner.serve changed true)
      (fun _ after => after.isSome = (wanted || (!owner.published && key.isSome))) key := by
  have polled (served : Owner) (after : Option StoreValue)
      (settled : Settled wanted (if owner.published then none else key) served after) :
      Leads succeeding served.poll (fun _ final => final.isSome = (wanted || (!owner.published && key.isSome))) after := by
    refine (poll_succeeding settled).mono fun result final done => ?_
    cases goal : wanted with
    | true => exact done.1.present goal (done.2 goal)
    | false =>
      rw [(done.1.withdrawn goal).2]
      cases owner.published <;> simp
  unfold serve
  rw [Leads, Ensures.bind_iff]
  refine (apply_succeeding on).mono fun applied after settled => ?_
  cases changed with
  | false => exact polled applied after settled
  | true =>
    refine Ensures.bind_iff.mpr ((check_succeeding settled).mono fun checked later done => ?_)
    exact polled checked later done.1.toSettled

end Owner
end Rules

/-! ### Runs -/

variable {env : Environment storeCommands (Option StoreValue)} {first owner owner' : Owner}
  {commands arrived : List KeyCommand} {key key' : Option StoreValue} {changed : Bool}

theorem KeyRun.wanted (run : KeyRun env first commands owner key) : owner.wanted = lastWanted first.wanted commands := by
  induction run with
  | @begin key key' owner begun =>
    have kept : Leads (env.after externalRemoval) first.begin (fun owner _ => owner.wanted = first.wanted) key := by
      unfold Owner.begin
      rw [Leads, Ensures.bind_iff]
      exact (Ensures.any _ _).mono fun _ _ _ => (Owner.keeps_wanted first.wanted).apply rfl
    exact kept.completes begun
  | @turn commands arrived changed due owner owner' key key' before turned ih =>
    rw [lastWanted_append, ← ih]
    have kept : Leads (env.after externalRemoval) (owner.turn arrived changed due) (fun result _ =>
        ∀ owner', result = some owner' → owner'.wanted = lastWanted owner.wanted arrived) key :=
      Owner.turn_rule ((Owner.keeps_wanted (lastWanted owner.wanted arrived)).serve rfl)
    exact kept.completes turned owner' rfl
  | removed before ih => exact ih

theorem turn_succeeding (turned : Completes Owner.succeeding (owner.turn arrived changed true) key (some owner') key') :
    key'.isSome = (lastWanted owner.wanted arrived || (!owner.published && key.isSome)) := by
  have served : Leads Owner.succeeding (owner.turn arrived changed true) (fun result after => ∀ owner',
      result = some owner' → after.isSome = (lastWanted owner.wanted arrived || (!owner.published && key.isSome))) key :=
    Owner.turn_rule (Owner.serve_succeeding rfl)
  exact served.completes turned owner' rfl

/-- After a turn whose poll is due and whose calls all succeed, the key is present as
the last command asked, except where it asked for none and a key is there that the
thread does not know of. -/
theorem store_key_converges_iff (run : KeyRun storeEnvironment first commands owner key)
    (turned : Completes Owner.succeeding (owner.turn arrived changed true) key (some owner') key') :
    (key'.isSome = true ↔ lastWanted first.wanted (commands ++ arrived) = true) ↔
      (lastWanted first.wanted (commands ++ arrived) = true ∨ owner.published = true ∨ key = none) := by
  rw [lastWanted_append, ← run.wanted, turn_succeeding turned]
  cases lastWanted owner.wanted arrived <;> cases owner.published <;> cases key <;> simp

/-- A removal is never refused. -/
def Removes : Option StoreValue → (op : storeCommands.Op) → storeCommands.Reply op → Prop
  | _, .remove, done | _, .plainRemove, done | _, .openPlain, done => done = true
  | _, .set _, _ | _, .get, _ | _, .plainGet, _ | _, .flushResolverCache, _ => True

abbrev removing : Environment storeCommands (Option StoreValue) :=
  (storeEnvironment.meeting Removes).after externalRemoval

theorem removal_cases {before changed : Option StoreValue} (changes : Relation.ReflTransGen externalRemoval before changed) :
    changed = before ∨ changed = none := by
  induction changes with
  | refl => exact .inl rfl
  | tail _ removed _ => exact .inr removed

/-- Then the thread knows of every key it leaves. -/
theorem Owner.keeps_known : Owner.Keeps removing fun owner key => key.isSome = true → owner.published = true where
  flushed owner before after known answered := by
    obtain ⟨changed, changes, _, rfl⟩ := answered
    rcases removal_cases changes with rfl | rfl
    · exact known
    · simp
  published _ _ _ _ _ _ := rfl
  failed owner before after known answered := by
    obtain ⟨changed, changes, _, rfl⟩ := answered
    rcases removal_cases changes with rfl | rfl
    · exact known
    · simp
  withdrawn owner before reply after known answered := by
    obtain ⟨changed, changes, rfl, rfl⟩ := answered
    simp
  present owner before after known answered := by
    obtain ⟨changed, changes, _, _, rfl⟩ := answered
    rcases removal_cases changes with rfl | rfl
    · exact known
    · simp
  missing owner before after known answered := by
    obtain ⟨changed, changes, _, absent, rfl⟩ := answered
    intro there
    rw [← absent] at there
    cases there

theorem Owner.removeStale_removing : Leads removing Owner.removeStale (fun _ after => after = none) key := by
  unfold Owner.removeStale
  rw [Leads, Ensures.bind_iff]
  apply leads_ask
  rintro opened after ⟨_, _, rfl, _⟩
  rw [if_pos rfl, Ensures.bind_iff]
  apply leads_ask
  rintro found later ⟨changed, changes, _, seen, rfl⟩
  cases found with
  | false => simpa using seen
  | true =>
    rw [if_pos rfl, Ensures.bind_iff]
    apply leads_ask
    rintro removed final ⟨_, _, rfl, rfl⟩
    rfl

/-- Where no removal is refused the key always converges. -/
theorem store_key_converges (run : KeyRun (storeEnvironment.meeting Removes) first commands owner key)
    (turned : Completes Owner.succeeding (owner.turn arrived changed true) key (some owner') key') :
    key'.isSome = lastWanted first.wanted (commands ++ arrived) := by
  have known : key.isSome = true → owner.published = true := by
    clear turned
    induction run with
    | @begin key key' owner begun =>
      have kept : Leads removing first.begin (fun owner key => key.isSome = true → owner.published = true) key := by
        unfold Owner.begin
        rw [Leads, Ensures.bind_iff]
        refine Owner.removeStale_removing.mono fun _ after gone => ?_
        apply Owner.keeps_known.apply
        simp [gone]
      exact kept.completes begun
    | @turn commands arrived changed due owner owner' key key' before turned ih =>
      have kept : Leads removing (owner.turn arrived changed due) (fun result key =>
          ∀ owner', result = some owner' → key.isSome = true → owner'.published = true) key :=
        Owner.turn_rule (Owner.keeps_known.serve ih)
      exact kept.completes turned owner' rfl
    | removed before ih => simp
  rw [lastWanted_append, ← run.wanted, turn_succeeding turned]
  cases there : key.isSome with
  | false => simp
  | true => simp [known there]

/-! ### A withdrawal that fails -/

/-- A store that answers its calls in order, and every later one with success. -/
def storeHandler : Handler storeCommands (Option StoreValue × List Bool) := fun (key, outcomes) op =>
  let outcome := outcomes.headD true
  match op with
  | .set value => (outcome, if outcome then some value else key, outcomes.tail)
  | .remove | .plainRemove => (outcome, if outcome then none else key, outcomes.tail)
  | .openPlain => (outcome, key, outcomes.tail)
  | .get | .plainGet => (key.isSome, key, outcomes)
  | .flushResolverCache => ((), key, outcomes)

theorem storeHandler_faithful : storeHandler.Faithful Prod.fst (storeEnvironment.after externalRemoval) := by
  rintro ⟨key, outcomes⟩ op
  refine ⟨key, .refl, ?_⟩
  cases op with
  | set value => rcases outcomes with _ | ⟨_ | _, rest⟩ <;> rfl
  | remove => rcases outcomes with _ | ⟨_ | _, rest⟩ <;> rfl
  | plainRemove => rcases outcomes with _ | ⟨_ | _, rest⟩ <;> rfl
  | openPlain => rfl
  | get => exact ⟨rfl, rfl⟩
  | plainGet => exact ⟨rfl, rfl⟩
  | flushResolverCache => rfl

/-- A tunnel that starts without a LAN collision. -/
def promotedOwner : Owner := ⟨.active, "", ["10.0.0.1"], true, false, false⟩

def publishedOwner : Owner := { promotedOwner with published := true }

theorem promotedOwner_begins : KeyRun storeEnvironment promotedOwner [] publishedOwner (some promotedOwner.value) :=
  .begin (interpret_completes storeHandler_faithful (none, []) promotedOwner.begin)

theorem removed_key_republished :
    Completes Owner.succeeding (publishedOwner.turn [] false true) none (some publishedOwner) (some promotedOwner.value) := by
  have read : Owner.succeeding none .get false none := ⟨trivial, rfl, rfl⟩
  have set : Owner.succeeding none (.set promotedOwner.value) true (some promotedOwner.value) := ⟨rfl, rfl⟩
  have flushed : Owner.succeeding (some promotedOwner.value) .flushResolverCache () (some promotedOwner.value) :=
    ⟨trivial, rfl⟩
  exact .head (.command read) (.head (.command set) (.head (.command flushed) .refl))

/-- A key that was taken away is back after the next poll. -/
theorem removed_key_restored :
    ((some promotedOwner.value).isSome = true ↔ lastWanted true ([] ++ []) = true) ↔
      (lastWanted true ([] ++ []) = true ∨ publishedOwner.published = true ∨ (none : Option StoreValue) = none) :=
  store_key_converges_iff (.removed promotedOwner_begins) removed_key_republished

/-- The LAN collides, but the store refuses to take the key back. -/
theorem withdrawal_refused : KeyRun storeEnvironment promotedOwner [.want false]
    { promotedOwner with wanted := false } (some promotedOwner.value) :=
  .turn promotedOwner_begins (interpret_completes storeHandler_faithful (some promotedOwner.value, [false])
    (publishedOwner.turn [.want false] false false))

/-- No later poll withdraws it. -/
theorem refused_withdrawal_stays :
    ¬ ∀ first owner owner' commands arrived key key' changed, KeyRun storeEnvironment first commands owner key →
      Completes Owner.succeeding (owner.turn arrived changed true) key (some owner') key' →
      (key'.isSome = true ↔ lastWanted first.wanted (commands ++ arrived) = true) := by
  intro converges
  have still := converges _ _ { promotedOwner with wanted := false } _ [] _ (some promotedOwner.value) false
    withdrawal_refused .refl
  simp [lastWanted] at still

end Wgd.Dns

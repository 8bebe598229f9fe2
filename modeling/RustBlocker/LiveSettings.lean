import RustBlocker.CredentialWrites
import RustBlocker.Restarts

/-!
# Settings that apply live

Five settings run from memory: the networks of the ACL, the mode of a blocked response, the two
sinkhole addresses and the retention of the statistics.  A start reads them from the table; a
request stores the text first and takes the value over afterwards, in two steps that no lock
joins; a replica stores the settings of a snapshot, one by one, and takes nothing over.

* **A task** is a request or a snapshot in progress.  `settingSteps` is the machine of all of
  them, one step of one task at a time.
* **Live** is the property: the running values are those a start would read.
* **Settles** is what keeps it: a text that parses, a value that is taken over while its text is
  still the stored one, a snapshot that brings nothing new.

The invariant is that each setting is live, or that the request which will make it live is still
to take its value over.

The property is about the moments at which nothing is in progress, because between the two steps
of any request the table is ahead of the server, also when the request is alone.  The condition is
about each step as it is taken: it may look at the state before the step and at the step, and at
nothing that comes later.

A sinkhole address or a retention that does not parse is stored all the same.  The server then
goes on with its old value, while a start would begin with the default, and this is one of the
three ways in which the condition can fail; `not_settings_live` has a run for each of them.
Networks and modes are checked before they are stored.

Which texts parse as a network is a parameter.  The example uses a small parser of single
addresses, written as the real one demands them, with the length of the prefix.
-/

namespace RustBlocker

/-! ## The five settings

For each of the five there is a key, a value that the server runs from, and the value that a start
would make of a text.  A missing row is seeded, so a start reads some text in any case. -/

/-- A setting that applies live. -/
inductive LiveSetting where
  | allowedNetworks
  | blockResponseMode
  | sinkholeIpv4
  | sinkholeIpv6
  | statsRetentionDays
deriving DecidableEq, Repr

def LiveSetting.key : LiveSetting → Str
  | allowedNetworks => "allowed_networks".toList
  | blockResponseMode => "block_response_mode".toList
  | sinkholeIpv4 => "sinkhole_ipv4".toList
  | sinkholeIpv6 => "sinkhole_ipv6".toList
  | statsRetentionDays => "stats_retention_days".toList

/-- A value the server runs from.  Networks may not parse, and then a start has none and ends. -/
inductive LiveValue (Net : Type) where
  | networks (acl : Option (Acl Net))
  | mode (mode : BlockResponseMode)
  | ipv4 (address : Ipv4Addr)
  | ipv6 (address : Ipv6Addr)
  | days (days : UInt64)
deriving DecidableEq

section Values

variable {Net : Type} (nets : IpNets Net)

/-- The value a start makes of the text. -/
def startValue (text : Str) : LiveSetting → LiveValue Net
  | .allowedNetworks => .networks (Acl.parse nets text).toOption
  | .blockResponseMode => .mode ((BlockResponseMode.parse text).getD .nxDomain)
  | .sinkholeIpv4 => .ipv4 ((IpAddr.parseIpv4 text).getD 0)
  | .sinkholeIpv6 => .ipv6 ((IpAddr.parseIpv6 text).getD 0)
  | .statsRetentionDays => .days ((Str.parseU64 text).getD 30)

/-- The text is taken over as a value, and not left alone. -/
def Parses (text : Str) : LiveSetting → Prop
  | .sinkholeIpv4 => (IpAddr.parseIpv4 text).isSome
  | .sinkholeIpv6 => (IpAddr.parseIpv6 text).isSome
  | .statsRetentionDays => (Str.parseU64 text).isSome
  | _ => True

/-- The value the server runs from. -/
def WebServer.liveValue (s : WebServer Net) : LiveSetting → LiveValue Net
  | .allowedNetworks => .networks (some s.acl)
  | .blockResponseMode => .mode s.blockResponseMode
  | .sinkholeIpv4 => .ipv4 s.sinkholeIpv4
  | .sinkholeIpv6 => .ipv6 s.sinkholeIpv6
  | .statsRetentionDays => .days s.retentionDays

/-- The settings as a start reads them from the table. -/
def Db.restartSettings (db : Db) : Json := (db.seedDefaults .clear).2.getSettings

/-- **The running values are those a start would read.**  A start seeds the defaults first, so a
row that is missing counts as its default. -/
structure WebServer.Live (s : WebServer Net) : Prop where
  acl : startAcl nets s.db.restartSettings = .ok s.acl
  blockResponseMode : startBlockResponseMode s.db.restartSettings = s.blockResponseMode
  sinkholeIpv4 : startSinkholeIpv4 s.db.restartSettings = s.sinkholeIpv4
  sinkholeIpv6 : startSinkholeIpv6 s.db.restartSettings = s.sinkholeIpv6
  retentionDays : startRetentionDays s.db.restartSettings = s.retentionDays

/-- The text a start reads for the setting. -/
def Db.restartText (db : Db) (setting : LiveSetting) : Str :=
  getSettingString db.restartSettings setting.key

end Values

/-! ## The machine

A request is checked, stored and taken over, in three steps; a snapshot is stored member by
member. `Settles` is the condition on a step. -/

/-- A setting that `update_setting` has accepted, so that its text may be stored. -/
structure AcceptedSetting {Net : Type} (env : ApiEnv Net) where
  key : Str
  value : Str
  parsed : WebServer.SettingValue Net
  accepted : WebServer.parseSetting env key value = .ok parsed

/-- A request or a snapshot in progress, with what it still has to do. -/
inductive SettingTask {Net : Type} (env : ApiEnv Net) where
  /-- A request that is to be stored. -/
  | checked (setting : AcceptedSetting env)
  /-- A request whose value is to be taken over. -/
  | stored (setting : AcceptedSetting env)
  /-- A snapshot, with the members that are still to be stored. -/
  | applying (later : List (Str × Json))

/-- The server and what is in progress.  The tasks have no order; a step names the one it is
about. -/
structure SettingsNode {Net : Type} (env : ApiEnv Net) where
  server : WebServer Net
  tasks : List (SettingTask env) := []

/-- A step of some task.  Any task may be next, so that requests overlap in every way. -/
inductive SettingStep where
  /-- `update_setting` as far as its checks. -/
  | request (peer : Option IpAddr) (key value : Str)
  | persist (task : Nat) (weather : ApiWeather)
  | publish (task : Nat)
  /-- `apply_settings` starts. -/
  | snapshot (data : Json)
  /-- The next member of a snapshot, or its end. -/
  | store (task : Nat) (weather : NodeWeather)

/-- One round of the loop of `apply_settings`; `none` where it panics. -/
def storeMember (weather : ApplyWeather) (entry : Str × Json) (db : Db) : Option Db :=
  if entry.1 ∈ skippedSettings then some db
  else
    match entry.2.asString with
    | none => some db
    | some value =>
        if weather.panics (.setSetting entry.1) then none
        else if (weather.fails (.setSetting entry.1)).isSome then some db
        else some (db.setSetting entry.1 value)

section Machine

variable {Net : Type} (env : ApiEnv Net)

def AcceptedSetting.persisted {env : ApiEnv Net} (setting : AcceptedSetting env) : Str :=
  setting.parsed.persisted setting.value

/-- The steps of the requests and the snapshots. -/
def settingSteps : StateMachine (SettingsNode env) SettingStep where
  init s := s.server.Live env.nets ∧ s.tasks = []
  step s
    | .request peer key value =>
        if s.server.checkAcl env peer then
          match accepted : WebServer.parseSetting env key value with
          | .error _ => some s
          | .ok parsed =>
              some { s with tasks := s.tasks ++ [.checked { key, value, parsed, accepted }] }
        else some s
    | .persist i weather =>
        match s.tasks[i]? with
        | some (.checked setting) =>
            match dbBlocking weather (oneStatement (weather.set setting.key)) with
            | .error _ => some { s with tasks := s.tasks.eraseIdx i }
            | .ok () =>
                some
                  { server :=
                      { s.server with
                        db := s.server.db.setSetting setting.key setting.persisted }
                    tasks := s.tasks.set i (.stored setting) }
        | _ => none
    | .publish i =>
        match s.tasks[i]? with
        | some (.stored setting) =>
            some
              { server := s.server.takeOver setting.key setting.value setting.parsed
                tasks := s.tasks.eraseIdx i }
        | _ => none
    | .snapshot data =>
        match data.asObject with
        | none => some s
        | some members => some { s with tasks := s.tasks ++ [.applying members] }
    | .store i weather =>
        match s.tasks[i]? with
        | some (.applying []) =>
            some
              { server :=
                  { s.server with
                    forwarder := reloadForwarderFromDb weather s.server.db s.server.forwarder }
                tasks := s.tasks.eraseIdx i }
        | some (.applying (entry :: later)) =>
            match storeMember weather.toApplyWeather entry s.server.db with
            | none => some { s with tasks := s.tasks.eraseIdx i }
            | some db =>
                some { server := { s.server with db }, tasks := s.tasks.set i (.applying later) }
        | _ => none

variable {env}

/-- The task is a request that will take over the value of the stored text. -/
def SettingsNode.Settling (s : SettingsNode env) (live : LiveSetting) (task : Nat) : Prop :=
  ∃ setting, s.tasks[task]? = some (.stored setting) ∧ setting.key = live.key ∧
    Parses setting.value live ∧
    startValue env.nets setting.persisted live =
      startValue env.nets (s.server.db.restartText live) live

/-- **What keeps the settings live.** -/
def Settles (s : SettingsNode env) : SettingStep → Prop
  /- The text that is stored can be taken over, or reads as the text that is stored already. -/
  | .persist i weather => ∀ setting live, s.tasks[i]? = some (.checked setting) →
      setting.key = live.key →
        dbBlocking weather (oneStatement (weather.set setting.key)) = .ok () →
        Parses setting.value live ∨
          startValue env.nets setting.persisted live =
            startValue env.nets (s.server.db.restartText live) live
  /- The value that is taken over is that of the stored text, unless the request that stored
  that text is still to take its value over. -/
  | .publish i => ∀ setting live, s.tasks[i]? = some (.stored setting) →
      setting.key = live.key → Parses setting.value live →
        startValue env.nets setting.persisted live =
            startValue env.nets (s.server.db.restartText live) live ∨
          ∃ j, j ≠ i ∧ s.Settling live j
  /- A text of a snapshot reads as the text that is stored already. -/
  | .store i weather => ∀ key value later live,
      s.tasks[i]? = some (.applying ((key, .string value) :: later)) → key = live.key →
        key ∉ skippedSettings → weather.fails (.setSetting key) = none →
          startValue env.nets value live =
            startValue env.nets (s.server.db.restartText live) live
  | _ => True

/-- Nothing is in progress. -/
def SettingsNode.Idle (s : SettingsNode env) : Prop := s.tasks = []

end Machine

/-! ## What a start reads

A start seeds the database before it reads it.  The lemmas reduce what it then reads of one
setting to the row of that setting, and what is live to five equations. -/

section Restart

variable {Net : Type} {nets : IpNets Net}

theorem lookup_seedDefaults_clear (db : Db) (key : Str) :
    (db.seedDefaults .clear).2.settings.lookup key =
      (db.settings.lookup key).or (defaultSettings.lookup key) := by
  obtain ⟨ok, -⟩ := seedSettings_clear defaultSettings db
  rw [← lookup_seedSettings_clear]
  unfold Db.seedDefaults
  generalize Db.seedSettings .clear defaultSettings db = seeded at ok
  obtain ⟨result, after⟩ := seeded
  simp only at ok
  subst ok
  show (Db.seedUpstream .clear after).2.settings.lookup key = _
  rw [Db.settings_seedUpstream]

theorem Db.restartText_eq (db : Db) (live : LiveSetting) :
    db.restartText live =
      ((db.settings.lookup live.key).or (defaultSettings.lookup live.key)).getD [] := by
  have shown : live.key ∉ hiddenSettings := by cases live <;> decide
  have plain : live.key ≠ "cloudflare_api_token".toList := by cases live <;> decide
  unfold Db.restartText Db.restartSettings
  rw [getSettingString_eq _ shown plain, lookup_seedDefaults_clear]

/-- A setting that is stored is the text of its own key. -/
theorem Db.restartText_setSetting (db : Db) (key value : Str) (live : LiveSetting) :
    (db.setSetting key value).restartText live =
      if key = live.key then value else db.restartText live := by
  rw [Db.restartText_eq, Db.restartText_eq]
  show ((((db.settings.insert key value).lookup live.key).or _).getD [] : Str) = _
  by_cases same : key = live.key
  · subst same
    rw [if_pos rfl, AList.lookup_insert]
    rfl
  · rw [if_neg same, AList.lookup_insert_ne (Ne.symm same)]

/-- The settings are live one by one. -/
theorem WebServer.live_iff {s : WebServer Net} :
    s.Live nets ↔ ∀ live, startValue nets (s.db.restartText live) live = s.liveValue live := by
  have networks : startAcl nets s.db.restartSettings = .ok s.acl ↔
      (startAcl nets s.db.restartSettings).toOption = some s.acl := by
    rcases startAcl nets s.db.restartSettings with error | acl
    · exact ⟨fun impossible => (by cases impossible), fun impossible => (by cases impossible)⟩
    · exact ⟨fun same => congrArg some (Except.ok.inj same),
        fun same => congrArg Except.ok (Option.some.inj same)⟩
  constructor
  · rintro ⟨acl, mode, ipv4, ipv6, days⟩ live
    cases live with
    | allowedNetworks => exact congrArg LiveValue.networks (networks.mp acl)
    | blockResponseMode => exact congrArg LiveValue.mode mode
    | sinkholeIpv4 => exact congrArg LiveValue.ipv4 ipv4
    | sinkholeIpv6 => exact congrArg LiveValue.ipv6 ipv6
    | statsRetentionDays => exact congrArg LiveValue.days days
  · intro all
    exact ⟨networks.mpr (LiveValue.networks.inj (all .allowedNetworks)),
      LiveValue.mode.inj (all .blockResponseMode), LiveValue.ipv4.inj (all .sinkholeIpv4),
      LiveValue.ipv6.inj (all .sinkholeIpv6), LiveValue.days.inj (all .statsRetentionDays)⟩

/-- Defaults that are seeded without an error are those seeded without a failing call. -/
theorem seedSettings_of_ok {fails : Plan SeedCall} {defaults : List (Str × Str)} {db : Db}
    (ok : (Db.seedSettings fails defaults db).1 = .ok ()) :
    Db.seedSettings fails defaults db = Db.seedSettings .clear defaults db := by
  induction defaults generalizing db with
  | nil => rfl
  | cons entry later ih =>
      obtain ⟨key, value⟩ := entry
      unfold Db.seedSettings at ok ⊢
      rw [Plan.attempt_clear]
      split at ok
      · cases ok
      · exact ih ok

theorem settings_seedDefaults_of_ok {fails : Plan SeedCall} {db : Db}
    (ok : (db.seedDefaults fails).1 = .ok ()) :
    (db.seedDefaults fails).2.settings =
      (Db.seedSettings .clear defaultSettings db).2.settings := by
  unfold Db.seedDefaults at ok ⊢
  split at ok
  · cases ok
  · split at ok
    · cases ok
    next after seeded =>
      have same := @seedSettings_of_ok fails defaultSettings db (by rw [seeded])
      rw [← same, seeded]
      exact Db.settings_seedUpstream fails after

/-- A database that was seeded reads at the next start as it does now. -/
theorem restartText_of_seeded {fails : Plan SeedCall} {db : Db}
    (ok : (db.seedDefaults fails).1 = .ok ()) (live : LiveSetting) :
    (db.seedDefaults fails).2.restartText live =
      getSettingString (db.seedDefaults fails).2.getSettings live.key := by
  have shown : live.key ∉ hiddenSettings := by cases live <;> decide
  have plain : live.key ≠ "cloudflare_api_token".toList := by cases live <;> decide
  rw [Db.restartText_eq, getSettingString_eq _ shown plain, settings_seedDefaults_of_ok ok,
    lookup_seedSettings_clear, Option.or_assoc, Option.or_self]

/-- **A server that was started runs live.** -/
theorem live_of_runServer {weather : StartWeather} {cli : Cli} {db : Db}
    {config : ServerConfig Net} {s : WebServer Net}
    (starts : runServer nets weather cli db = (.ok config, s.db)) (acl : s.acl = config.acl)
    (mode : s.blockResponseMode = config.blockResponseMode)
    (ipv4 : s.sinkholeIpv4 = config.sinkholeIpv4) (ipv6 : s.sinkholeIpv6 = config.sinkholeIpv6)
    (days : s.retentionDays = config.retentionDays) : s.Live nets := by
  unfold runServer at starts
  split at starts
  · cases (Prod.mk.inj starts).1
  next seeded seeds =>
    split at starts
    · cases (Prod.mk.inj starts).1
    · obtain ⟨made, rfl⟩ := Prod.mk.inj starts
      have ok : (db.seedDefaults weather.seed).1 = .ok () := by rw [seeds]
      have texts := restartText_of_seeded ok
      rw [seeds] at texts
      obtain ⟨dns, -, made⟩ := context_bind_eq_ok.mp made
      obtain ⟨networks, parsed, made⟩ := context_bind_eq_ok.mp made
      obtain ⟨rows, -, made⟩ := context_bind_eq_ok.mp made
      obtain ⟨forwarder, -, made⟩ := context_bind_eq_ok.mp made
      obtain ⟨web, -, made⟩ := context_bind_eq_ok.mp made
      obtain rfl := Except.ok.inj made
      refine WebServer.live_iff.mpr fun live => ?_
      rw [texts]
      cases live with
      | allowedNetworks =>
          show LiveValue.networks (startAcl nets s.db.getSettings).toOption = .networks (some s.acl)
          rw [parsed, acl]
          rfl
      | blockResponseMode => exact congrArg LiveValue.mode mode.symm
      | sinkholeIpv4 => exact congrArg LiveValue.ipv4 ipv4.symm
      | sinkholeIpv6 => exact congrArg LiveValue.ipv6 ipv6.symm
      | statsRetentionDays => exact congrArg LiveValue.days days.symm

end Restart

/-! ## What is taken over

The handler of a setting, case by case: which texts are refused, which are stored and taken over,
and which are stored and left alone. -/

section TakeOver

variable {Net : Type} {env : ApiEnv Net}

/-- **What `update_setting` accepts**: networks and modes that parse, settings that do not apply
live, and any other text as it is. -/
theorem parseSetting_outcome {key value : Str} {parsed : WebServer.SettingValue Net}
    (accepted : WebServer.parseSetting env key value = .ok parsed) :
    (key = LiveSetting.allowedNetworks.key ∧
        ∃ acl, Acl.parse env.nets value = .ok acl ∧ parsed = .acl acl) ∨
      (key = LiveSetting.blockResponseMode.key ∧
        ∃ mode, BlockResponseMode.parse value = some mode ∧ parsed = .responseMode mode) ∨
      ((∀ live : LiveSetting, key ≠ live.key) ∧ ∀ (s : WebServer Net) (live : LiveSetting),
        (s.takeOver key value parsed).liveValue live = s.liveValue live) ∨
      (key ≠ LiveSetting.allowedNetworks.key ∧ key ≠ LiveSetting.blockResponseMode.key ∧
        parsed = .other) := by
  have other : ∀ name ∈ ["forward_strategy".toList, "adaptive_hedge_delay_ms".toList,
      "listen_address".toList, "listen_port".toList], ∀ live : LiveSetting, name ≠ live.key := by
    intro name mem live
    revert name
    cases live <;> decide
  unfold WebServer.parseSetting at accepted
  simp only at accepted
  split_ifs at accepted with strategy mode hedge networks address port
  -- one branch for each key that is checked; the last accepts any text
  · refine Or.inr (Or.inr (Or.inl ⟨strategy ▸ other _ (by simp), ?_⟩))
    split at accepted <;> cases accepted
    intro s live
    cases live <;> rfl
  · refine Or.inr (Or.inl ⟨mode, ?_⟩)
    split at accepted <;> cases accepted
    next chosen read => exact ⟨chosen, read, rfl⟩
  · refine Or.inr (Or.inr (Or.inl ⟨hedge ▸ other _ (by simp), ?_⟩))
    split at accepted <;> cases accepted
    intro s live
    cases live <;> rfl
  · refine Or.inl ⟨networks, ?_⟩
    rcases read : Acl.parse env.nets value with error | acl
    · rw [read] at accepted
      cases accepted
    · rw [read] at accepted
      cases accepted
      exact ⟨acl, rfl, rfl⟩
  · refine Or.inr (Or.inr (Or.inl ⟨address ▸ other _ (by simp), ?_⟩))
    split at accepted <;> cases accepted
    intro s live
    cases live <;> rfl
  · refine Or.inr (Or.inr (Or.inl ⟨port ▸ other _ (by simp), ?_⟩))
    split at accepted <;> cases accepted
    intro s live
    cases live <;> rfl
  · cases accepted
    exact Or.inr (Or.inr (Or.inr ⟨networks, mode, rfl⟩))

theorem LiveSetting.key_injective {live live' : LiveSetting} (same : live.key = live'.key) :
    live = live' := by
  revert same
  cases live <;> cases live' <;> decide

/-- A setting changes no other value. -/
theorem liveValue_takeOver_of_ne (s : WebServer Net) (setting : AcceptedSetting env)
    {live : LiveSetting} (other : setting.key ≠ live.key) :
    (s.takeOver setting.key setting.value setting.parsed).liveValue live = s.liveValue live := by
  rcases parseSetting_outcome setting.accepted with ⟨key, acl, -, parsed⟩ | ⟨key, mode, -, parsed⟩ |
    ⟨-, same⟩ | ⟨-, -, parsed⟩
  · rw [parsed]
    cases live with
    | allowedNetworks => exact absurd key other
    | _ => rfl
  · rw [parsed]
    cases live with
    | blockResponseMode => exact absurd key other
    | _ => rfl
  · exact same s live
  · rw [parsed]
    unfold WebServer.takeOver
    simp only
    -- each branch changes the field of its own key
    split_ifs with ipv4 ipv6 timeout days
    · split
      · cases live with
        | sinkholeIpv4 => exact absurd ipv4 other
        | _ => rfl
      · rfl
    · split
      · cases live with
        | sinkholeIpv6 => exact absurd ipv6 other
        | _ => rfl
      · rfl
    · split
      · cases live <;> rfl
      · rfl
    · split
      · cases live with
        | statsRetentionDays => exact absurd days other
        | _ => rfl
      · rfl
    · rfl

theorem takeOver_sinkholeIpv4 (s : WebServer Net) (value : Str) :
    s.takeOver LiveSetting.sinkholeIpv4.key value .other =
      (IpAddr.parseIpv4 value).elim s fun sinkholeIpv4 => { s with sinkholeIpv4 } := by
  have own : LiveSetting.sinkholeIpv4.key = "sinkhole_ipv4".toList := rfl
  unfold WebServer.takeOver
  simp only
  rw [if_pos own]
  cases IpAddr.parseIpv4 value with
  | none => rfl
  | some address => rfl

theorem takeOver_sinkholeIpv6 (s : WebServer Net) (value : Str) :
    s.takeOver LiveSetting.sinkholeIpv6.key value .other =
      (IpAddr.parseIpv6 value).elim s fun sinkholeIpv6 => { s with sinkholeIpv6 } := by
  have other : LiveSetting.sinkholeIpv6.key ≠ "sinkhole_ipv4".toList := by decide
  have own : LiveSetting.sinkholeIpv6.key = "sinkhole_ipv6".toList := rfl
  unfold WebServer.takeOver
  simp only
  rw [if_neg other, if_pos own]
  cases IpAddr.parseIpv6 value with
  | none => rfl
  | some address => rfl

theorem takeOver_statsRetentionDays (s : WebServer Net) (value : Str) :
    s.takeOver LiveSetting.statsRetentionDays.key value .other =
      (Str.parseU64 value).elim s fun retentionDays => { s with retentionDays } := by
  have ipv4 : LiveSetting.statsRetentionDays.key ≠ "sinkhole_ipv4".toList := by decide
  have ipv6 : LiveSetting.statsRetentionDays.key ≠ "sinkhole_ipv6".toList := by decide
  have timeout : LiveSetting.statsRetentionDays.key ≠ "upstream_timeout_secs".toList := by decide
  have own : LiveSetting.statsRetentionDays.key = "stats_retention_days".toList := rfl
  unfold WebServer.takeOver
  simp only
  rw [if_neg ipv4, if_neg ipv6, if_neg timeout, if_pos own]
  cases Str.parseU64 value with
  | none => rfl
  | some days => rfl

/-- **A setting that parses becomes the value of the text that is stored.** -/
theorem liveValue_takeOver_of_parses (s : WebServer Net) (setting : AcceptedSetting env)
    {live : LiveSetting} (own : setting.key = live.key) (parses : Parses setting.value live) :
    (s.takeOver setting.key setting.value setting.parsed).liveValue live =
      startValue env.nets setting.persisted live := by
  unfold AcceptedSetting.persisted
  rcases parseSetting_outcome setting.accepted with ⟨key, acl, read, parsed⟩ |
    ⟨key, mode, read, parsed⟩ | ⟨unlisted, -⟩ | ⟨networks, mode, parsed⟩
  · obtain rfl := LiveSetting.key_injective (own.symm.trans key)
    rw [parsed]
    show LiveValue.networks (some acl) = .networks (Acl.parse env.nets setting.value).toOption
    rw [read]
    rfl
  · obtain rfl := LiveSetting.key_injective (own.symm.trans key)
    rw [parsed]
    cases mode <;> rfl
  · exact absurd own (unlisted live)
  · rw [parsed]
    cases live with
    | allowedNetworks => exact absurd own networks
    | blockResponseMode => exact absurd own mode
    | sinkholeIpv4 =>
        obtain ⟨address, read⟩ := Option.isSome_iff_exists.mp parses
        rw [own, takeOver_sinkholeIpv4, read]
        show .ipv4 address = LiveValue.ipv4 ((IpAddr.parseIpv4 setting.value).getD 0)
        rw [read]
        rfl
    | sinkholeIpv6 =>
        obtain ⟨address, read⟩ := Option.isSome_iff_exists.mp parses
        rw [own, takeOver_sinkholeIpv6, read]
        show .ipv6 address = LiveValue.ipv6 ((IpAddr.parseIpv6 setting.value).getD 0)
        rw [read]
        rfl
    | statsRetentionDays =>
        obtain ⟨days, read⟩ := Option.isSome_iff_exists.mp parses
        rw [own, takeOver_statsRetentionDays, read]
        show .days days = LiveValue.days ((Str.parseU64 setting.value).getD 30)
        rw [read]
        rfl

/-- A setting that does not parse leaves its value alone. -/
theorem liveValue_takeOver_of_not_parses (s : WebServer Net) (setting : AcceptedSetting env)
    {live : LiveSetting} (own : setting.key = live.key) (text : ¬ Parses setting.value live) :
    (s.takeOver setting.key setting.value setting.parsed).liveValue live = s.liveValue live := by
  rcases parseSetting_outcome setting.accepted with ⟨key, acl, read, parsed⟩ |
    ⟨key, mode, read, parsed⟩ | ⟨unlisted, -⟩ | ⟨networks, mode, parsed⟩
  · obtain rfl := LiveSetting.key_injective (own.symm.trans key)
    exact absurd trivial text
  · obtain rfl := LiveSetting.key_injective (own.symm.trans key)
    exact absurd trivial text
  · exact absurd own (unlisted live)
  · rw [parsed, own]
    cases live with
    | allowedNetworks => exact absurd trivial text
    | blockResponseMode => exact absurd trivial text
    | sinkholeIpv4 =>
        rw [takeOver_sinkholeIpv4, Option.not_isSome_iff_eq_none.mp text]
        rfl
    | sinkholeIpv6 =>
        rw [takeOver_sinkholeIpv6, Option.not_isSome_iff_eq_none.mp text]
        rfl
    | statsRetentionDays =>
        rw [takeOver_statsRetentionDays, Option.not_isSome_iff_eq_none.mp text]
        rfl

end TakeOver

/-! ## One step

Each kind of step has a lemma for what it leaves and one for the invariant.  A task that is still
to take its value over makes up for a setting that is not live, as long as the stored text is its
own. -/

section Steps

variable {Net : Type} {env : ApiEnv Net} {s t : SettingsNode env}

/-- The running value is the one a start would read, of this setting alone. -/
def SettingsNode.LiveAt (s : SettingsNode env) (live : LiveSetting) : Prop :=
  startValue env.nets (s.server.db.restartText live) live = s.server.liveValue live

/-- **The invariant**: each setting is live, or a request is on the way that makes it so. -/
def SettingsNode.Converging (s : SettingsNode env) : Prop :=
  ∀ live, s.LiveAt live ∨ ∃ i, s.Settling live i

/-- A request that settles a setting does so after a step that keeps the task and the reading
of the text. -/
theorem SettingsNode.Settling.transfer {live : LiveSetting} {i j : Nat}
    (settling : s.Settling live i) (task : t.tasks[j]? = s.tasks[i]?)
    (text : startValue env.nets (t.server.db.restartText live) live =
      startValue env.nets (s.server.db.restartText live) live) : t.Settling live j := by
  obtain ⟨setting, here, own, parses, same⟩ := settling
  exact ⟨setting, task.trans here, own, parses, same.trans text.symm⟩

/-- A task other than the one that is taken out stays, perhaps one place earlier. -/
theorem exists_getElem?_eraseIdx {α : Type} (tasks : List α) {i j : Nat} (other : j ≠ i) :
    ∃ j' : Nat, (tasks.eraseIdx i)[j']? = tasks[j]? := by
  rcases Nat.lt_or_gt_of_ne other with before | after
  · exact ⟨j, List.getElem?_eraseIdx_of_lt before⟩
  · refine ⟨j - 1, ?_⟩
    rw [List.getElem?_eraseIdx_of_ge (by omega), Nat.sub_add_cancel (by omega)]

/-- A request that settles a setting is at the stage of its take-over. -/
theorem SettingsNode.Settling.ne_of_not_stored {live : LiveSetting} {i j : Nat}
    (settling : s.Settling live j) {task : SettingTask env} (here : s.tasks[i]? = some task)
    (other : ∀ setting, task ≠ .stored setting) : j ≠ i := by
  rintro rfl
  obtain ⟨setting, there, -⟩ := settling
  exact other setting (Option.some.inj (here.symm.trans there))

/-- A step that keeps the server, and each task up to its place, keeps the invariant. -/
theorem SettingsNode.Converging.of_tasks (converging : s.Converging)
    (server : t.server.db = s.server.db ∧ t.server.liveValue = s.server.liveValue)
    (tasks : ∀ live j, s.Settling live j → ∃ j' : Nat, t.tasks[j']? = s.tasks[j]?) :
    t.Converging := by
  intro live
  rcases converging live with here | ⟨j, settling⟩
  · left
    unfold SettingsNode.LiveAt at here ⊢
    rw [server.1, server.2, here]
  · right
    obtain ⟨j', task⟩ := tasks live j settling
    exact ⟨j', settling.transfer task (by rw [server.1])⟩

/-- What a round of `apply_settings` leaves: the database, or one more setting of the
snapshot. -/
theorem storeMember_eq_some {weather : ApplyWeather} {key : Str} {member : Json} {db db' : Db}
    (stored : storeMember weather (key, member) db = some db') :
    db' = db ∨ ∃ value, member = .string value ∧ key ∉ skippedSettings ∧
      weather.fails (.setSetting key) = none ∧ db' = db.setSetting key value := by
  unfold storeMember at stored
  by_cases skipped : key ∈ skippedSettings
  · rw [if_pos skipped] at stored
    exact Or.inl (Option.some.inj stored).symm
  rw [if_neg skipped] at stored
  rcases read : member.asString with none | value
  · rw [read] at stored
    exact Or.inl (Option.some.inj stored).symm
  rw [read] at stored
  simp only at stored
  split_ifs at stored with panics fails
  · exact Or.inl (Option.some.inj stored).symm
  · refine Or.inr ⟨value, ?_, skipped, by simpa using fails, (Option.some.inj stored).symm⟩
    cases member with
    | string text => exact congrArg Json.string (Option.some.inj read)
    | _ => exact absurd read (by rintro ⟨⟩)

/-- A setting that is stored keeps the invariant of a task list that keeps the requests on
their way, if it reads as the text that was stored. -/
theorem SettingsNode.Converging.of_setSetting (converging : s.Converging) {key value : Str}
    {tasks : List (SettingTask env)}
    (kept : ∀ live j, s.Settling live j → tasks[j]? = s.tasks[j]?) {live : LiveSetting}
    (same : key = live.key →
      startValue env.nets value live = startValue env.nets (s.server.db.restartText live) live) :
    let t : SettingsNode env :=
      { server := { s.server with db := s.server.db.setSetting key value }, tasks }
    t.LiveAt live ∨ ∃ i, t.Settling live i := by
  intro t
  have text : startValue env.nets (t.server.db.restartText live) live =
      startValue env.nets (s.server.db.restartText live) live := by
    rw [Db.restartText_setSetting]
    split
    next own => exact same own
    next => rfl
  rcases converging live with here | ⟨j, settling⟩
  · exact Or.inl (text.trans here)
  · exact Or.inr ⟨j, settling.transfer (kept live j settling) text⟩

/-- What a request leaves once it is checked. -/
theorem step_request {peer : Option IpAddr} {key value : Str}
    (one : (settingSteps env).step s (.request peer key value) = some t) :
    t = s ∨ ∃ setting : AcceptedSetting env, setting.key = key ∧ setting.value = value ∧
      t = { s with tasks := s.tasks ++ [.checked setting] } := by
  unfold settingSteps at one
  simp only at one
  split at one
  · split at one
    · exact Or.inl (Option.some.inj one).symm
    · exact Or.inr ⟨_, rfl, rfl, (Option.some.inj one).symm⟩
  · exact Or.inl (Option.some.inj one).symm

theorem step_snapshot {data : Json}
    (one : (settingSteps env).step s (.snapshot data) = some t) :
    t = s ∨ ∃ members, t = { s with tasks := s.tasks ++ [.applying members] } := by
  unfold settingSteps at one
  simp only at one
  split at one
  · exact Or.inl (Option.some.inj one).symm
  · exact Or.inr ⟨_, (Option.some.inj one).symm⟩

/-- A request is dropped, or its text is stored. -/
theorem step_persist {i : Nat} {weather : ApiWeather}
    (one : (settingSteps env).step s (.persist i weather) = some t) :
    ∃ setting, s.tasks[i]? = some (.checked setting) ∧
      (t = { s with tasks := s.tasks.eraseIdx i } ∨
        dbBlocking weather (oneStatement (weather.set setting.key)) = .ok () ∧
          t =
            { server :=
                { s.server with db := s.server.db.setSetting setting.key setting.persisted }
              tasks := s.tasks.set i (.stored setting) }) := by
  unfold settingSteps at one
  simp only at one
  split at one
  next setting here =>
    refine ⟨setting, here, ?_⟩
    split at one
    · exact Or.inl (Option.some.inj one).symm
    next stores => exact Or.inr ⟨stores, (Option.some.inj one).symm⟩
  · cases one

theorem step_publish {i : Nat} (one : (settingSteps env).step s (.publish i) = some t) :
    ∃ setting, s.tasks[i]? = some (.stored setting) ∧
      t =
        { server := s.server.takeOver setting.key setting.value setting.parsed
          tasks := s.tasks.eraseIdx i } := by
  unfold settingSteps at one
  simp only at one
  split at one
  next setting here => exact ⟨setting, here, (Option.some.inj one).symm⟩
  · cases one

/-- A snapshot ends, with the forwarder reloaded or in a panic, or its next member is stored. -/
theorem step_store {i : Nat} {weather : NodeWeather}
    (one : (settingSteps env).step s (.store i weather) = some t) :
    ∃ members, s.tasks[i]? = some (.applying members) ∧
      ((∃ forwarder, t =
          { server := { s.server with forwarder }, tasks := s.tasks.eraseIdx i }) ∨
        ∃ entry later db, members = entry :: later ∧
          storeMember weather.toApplyWeather entry s.server.db = some db ∧
            t =
              { server := { s.server with db }, tasks := s.tasks.set i (.applying later) }) := by
  unfold settingSteps at one
  simp only at one
  split at one
  next here => exact ⟨[], here, Or.inl ⟨_, (Option.some.inj one).symm⟩⟩
  next entry later here =>
    refine ⟨entry :: later, here, ?_⟩
    split at one
    · exact Or.inl ⟨s.server.forwarder, (Option.some.inj one).symm⟩
    next db stored => exact Or.inr ⟨entry, later, db, rfl, stored, (Option.some.inj one).symm⟩
  · cases one

/-- A task that begins keeps the invariant. -/
theorem SettingsNode.Converging.begin (converging : s.Converging) (begun : SettingTask env) :
    SettingsNode.Converging { s with tasks := s.tasks ++ [begun] } := by
  refine converging.of_tasks ⟨rfl, rfl⟩ fun live j settling => ⟨j, ?_⟩
  obtain ⟨setting, here, -⟩ := settling
  exact List.getElem?_append_left (List.getElem?_eq_some_iff.mp here).1

/-- **A setting that is stored is live, or on its way.** -/
theorem SettingsNode.Converging.persist (converging : s.Converging) {i : Nat}
    {weather : ApiWeather} (settles : Settles s (.persist i weather))
    (one : (settingSteps env).step s (.persist i weather) = some t) : t.Converging := by
  obtain ⟨setting, here, rfl | ⟨stores, rfl⟩⟩ := step_persist one
  · refine converging.of_tasks ⟨rfl, rfl⟩ fun live j settling => ?_
    exact exists_getElem?_eraseIdx s.tasks
      (settling.ne_of_not_stored here fun setting impossible => by cases impossible)
  · intro live
    -- the request itself settles its own setting, unless the text reads as the one before
    by_cases parses : setting.key = live.key ∧ Parses setting.value live
    · obtain ⟨own, parses⟩ := parses
      refine Or.inr ⟨i, setting, List.getElem?_set_self
        (List.getElem?_eq_some_iff.mp here).1, own, parses, ?_⟩
      show _ = startValue env.nets
        ((s.server.db.setSetting setting.key setting.persisted).restartText live) live
      rw [Db.restartText_setSetting, if_pos own]
    · refine converging.of_setSetting (fun live j settling => ?_) fun own => ?_
      · exact List.getElem?_set_ne
          (settling.ne_of_not_stored here fun setting impossible => by cases impossible).symm
      · rcases settles setting live here own stores with taken | same
        · exact absurd ⟨own, taken⟩ parses
        · exact same

/-- **A value that is taken over is live, or another request is on its way.** -/
theorem SettingsNode.Converging.publish (converging : s.Converging) {i : Nat}
    (settles : Settles s (.publish i))
    (one : (settingSteps env).step s (.publish i) = some t) : t.Converging := by
  obtain ⟨setting, here, rfl⟩ := step_publish one
  have db : (s.server.takeOver setting.key setting.value setting.parsed).db = s.server.db :=
    (WebServer.takeOver_db_key _ _ _).1
  intro live
  -- a request that is still to take its value over stays on its way
  have later : ∀ j, j ≠ i → s.Settling live j →
      ∃ j', SettingsNode.Settling
        { server := s.server.takeOver setting.key setting.value setting.parsed
          tasks := s.tasks.eraseIdx i } live j' := by
    intro j other settling
    obtain ⟨j', task⟩ := exists_getElem?_eraseIdx s.tasks other
    exact ⟨j', settling.transfer task (by rw [db])⟩
  by_cases own : setting.key = live.key
  · by_cases parses : Parses setting.value live
    · rcases settles setting live here own parses with same | ⟨j, other, settling⟩
      · left
        show startValue env.nets (Db.restartText (WebServer.takeOver _ _ _ _).db live) live = _
        rw [db, ← same, ← liveValue_takeOver_of_parses s.server setting own parses]
      · exact Or.inr (later j other settling)
    · rcases converging live with stays | ⟨j, settling⟩
      · left
        show startValue env.nets (Db.restartText (WebServer.takeOver _ _ _ _).db live) live =
          (WebServer.takeOver _ _ _ _).liveValue live
        rw [db, liveValue_takeOver_of_not_parses s.server setting own parses]
        exact stays
      · refine Or.inr (later j ?_ settling)
        rintro rfl
        obtain ⟨setting', there, -, taken, -⟩ := settling
        obtain rfl := SettingTask.stored.inj (Option.some.inj (here.symm.trans there))
        exact parses taken
  · rcases converging live with stays | ⟨j, settling⟩
    · left
      show startValue env.nets (Db.restartText (WebServer.takeOver _ _ _ _).db live) live =
        (WebServer.takeOver _ _ _ _).liveValue live
      rw [db, liveValue_takeOver_of_ne s.server setting own]
      exact stays
    · refine Or.inr (later j ?_ settling)
      rintro rfl
      obtain ⟨setting', there, same, -⟩ := settling
      obtain rfl := SettingTask.stored.inj (Option.some.inj (here.symm.trans there))
      exact own same

/-- **A member of a snapshot that reads as before keeps what is live.** -/
theorem SettingsNode.Converging.store (converging : s.Converging) {i : Nat}
    {weather : NodeWeather} (settles : Settles s (.store i weather))
    (one : (settingSteps env).step s (.store i weather) = some t) : t.Converging := by
  obtain ⟨members, here, ⟨forwarder, rfl⟩ | ⟨⟨key, member⟩, later, db, rfl, stored, rfl⟩⟩ :=
    step_store one
  · refine converging.of_tasks ⟨rfl, funext fun live => by cases live <;> rfl⟩
      fun live j settling => ?_
    exact exists_getElem?_eraseIdx s.tasks
      (settling.ne_of_not_stored here fun setting impossible => by cases impossible)
  · have kept : ∀ live j, s.Settling live j →
        (s.tasks.set i (.applying later))[j]? = s.tasks[j]? := by
      intro live j settling
      exact List.getElem?_set_ne
        (settling.ne_of_not_stored here fun setting impossible => by cases impossible).symm
    -- a member that is skipped, no text, or not written leaves the table alone
    rcases storeMember_eq_some stored with rfl | ⟨value, rfl, unskipped, works, rfl⟩
    · exact converging.of_tasks ⟨rfl, rfl⟩ fun live j settling => ⟨j, kept live j settling⟩
    · intro live
      exact converging.of_setSetting kept fun own =>
        settles key value later live here own unskipped works

/-- **One step**: what settles keeps the invariant. -/
theorem SettingsNode.Converging.step (converging : s.Converging) {act : SettingStep}
    (settles : Settles s act) (one : (settingSteps env).step s act = some t) : t.Converging := by
  cases act with
  | request peer key value =>
      obtain rfl | ⟨setting, -, -, rfl⟩ := step_request one
      · exact converging
      · exact converging.begin (.checked setting)
  | persist i weather => exact converging.persist settles one
  | publish i => exact converging.publish settles one
  | snapshot data =>
      obtain rfl | ⟨members, rfl⟩ := step_snapshot one
      · exact converging
      · exact converging.begin (.applying members)
  | store i weather => exact converging.store settles one

theorem converging_of_live (live : s.server.Live env.nets) : s.Converging :=
  fun setting => Or.inl (WebServer.live_iff.mp live setting)

/-- With nothing in progress there is nothing to wait for. -/
theorem SettingsNode.Converging.live (converging : s.Converging) (idle : s.Idle) :
    s.server.Live env.nets := by
  refine WebServer.live_iff.mpr fun live => ?_
  rcases converging live with here | ⟨i, setting, there, -⟩
  · exact here
  · rw [idle] at there
    cases there

end Steps

/-! ## A request and a snapshot on their own

The machine is compared with the handler and with the importer, which run from their beginning to
their end: a run of the steps of one task, with nothing in between, is the function. -/

section Alone

variable {Net : Type} {env : ApiEnv Net}

variable {s : SettingsNode env}

/-- A request that is accepted begins. -/
theorem step_request_of_ok {peer : Option IpAddr} {key value : Str}
    {parsed : WebServer.SettingValue Net} (allowed : s.server.checkAcl env peer = true)
    (accepted : WebServer.parseSetting env key value = .ok parsed) :
    (settingSteps env).step s (.request peer key value) =
      some { s with tasks := s.tasks ++ [.checked { key, value, parsed, accepted }] } := by
  unfold settingSteps
  simp only
  rw [if_pos allowed]
  split
  next error refused =>
    rw [accepted] at refused
    cases refused
  next parsed' accepted' =>
    obtain rfl := Except.ok.inj (accepted.symm.trans accepted')
    rfl

/-- Its text is stored, if the database takes it. -/
theorem step_persist_of_ok {i : Nat} {weather : ApiWeather} (setting : AcceptedSetting env)
    (here : s.tasks[i]? = some (.checked setting))
    (stores : dbBlocking weather (oneStatement (weather.set setting.key)) = .ok ()) :
    (settingSteps env).step s (.persist i weather) =
      some
        { server :=
            { s.server with db := s.server.db.setSetting setting.key setting.persisted }
          tasks := s.tasks.set i (.stored setting) } := by
  unfold settingSteps
  simp only [here]
  rw [stores]

/-- Its value is taken over, and it is done. -/
theorem step_publish_of_stored {i : Nat} (setting : AcceptedSetting env)
    (here : s.tasks[i]? = some (.stored setting)) :
    (settingSteps env).step s (.publish i) =
      some
        { server := s.server.takeOver setting.key setting.value setting.parsed
          tasks := s.tasks.eraseIdx i } := by
  unfold settingSteps
  simp only [here]

/-- **A request that nothing comes between** is `update_setting`. -/
theorem exec_request (s : SettingsNode env) {weather : ApiWeather} {peer : Option IpAddr}
    {key value : Str}
    (answered : (s.server.updateSetting env weather peer key value).1.status = 200) :
    (settingSteps env).exec s
        [.request peer key value, .persist s.tasks.length weather, .publish s.tasks.length] =
      some { s with server := (s.server.updateSetting env weather peer key value).2 } := by
  rcases WebServer.updateSetting_cases key value with ⟨status, error, bad, answer, -⟩ |
    ⟨parsed, body, accepted, allowed, stores, answer⟩
  · rw [answer] at answered
    have status : status = 200 := answered
    omega
  let setting : AcceptedSetting env := { key, value, parsed, accepted }
  let db := s.server.db.setSetting key setting.persisted
  have persists : (settingSteps env).step
      { s with tasks := s.tasks ++ [.checked setting] } (.persist s.tasks.length weather) =
        some { server := { s.server with db }, tasks := s.tasks ++ [.stored setting] } := by
    rw [step_persist_of_ok setting List.getElem?_concat_length stores]
    simp only [List.set_append_right _ _ (Nat.le_refl _), Nat.sub_self, List.set_cons_zero]
    rfl
  have publishes : (settingSteps env).step
      { server := { s.server with db }, tasks := s.tasks ++ [.stored setting] }
        (.publish s.tasks.length) =
          some { s with server := WebServer.takeOver { s.server with db } key value parsed } := by
    rw [step_publish_of_stored setting List.getElem?_concat_length]
    simp only [List.eraseIdx_append_of_length_le (Nat.le_refl _), Nat.sub_self,
      List.eraseIdx_cons_zero, List.append_nil]
    rfl
  rw [StateMachine.exec_cons, step_request_of_ok allowed accepted, Option.bind_some,
    StateMachine.exec_cons, persists, Option.bind_some, StateMachine.exec_cons, publishes, answer]
  rfl

/-- The loop of `apply_settings`, one round at a time. -/
theorem storeSettings_storeMember {weather : ApplyWeather} {entry : Str × Json}
    {later : List (Str × Json)} {db db' : Db} (stored : storeMember weather entry db = some db') :
    (storeSettings weather (entry :: later) db).1 = (storeSettings weather later db').1 := by
  obtain ⟨key, member⟩ := entry
  unfold storeMember at stored
  rw [storeSettings]
  by_cases skipped : key ∈ skippedSettings
  · rw [if_pos skipped] at stored ⊢
    rw [Option.some.inj stored]
  rw [if_neg skipped] at stored ⊢
  rcases read : member.asString with none | value
  · rw [read] at stored
    rw [Option.some.inj stored]
  rw [read] at stored
  simp only at stored ⊢
  split_ifs at stored ⊢ with panics fails
  · rw [Option.some.inj stored]
  · rw [Option.some.inj stored]

/-- A round returns unless its `set_setting` panics. -/
theorem exists_storeMember {weather : NodeWeather} {entry : Str × Json}
    {later : List (Str × Json)} (calm : settingsPanic weather (entry :: later) = false) (db : Db) :
    ∃ db', storeMember weather.toApplyWeather entry db = some db' := by
  have here : (entry.1 ∉ skippedSettings && entry.2.asString.isSome &&
      weather.panics (.setSetting entry.1)) = false :=
    (Bool.or_eq_false_iff.mp (List.any_cons.symm.trans calm)).1
  unfold storeMember
  by_cases skipped : entry.1 ∈ skippedSettings
  · exact ⟨db, if_pos skipped⟩
  rw [if_neg skipped]
  rcases read : entry.2.asString with none | value
  · exact ⟨db, rfl⟩
  have calmed : weather.panics (.setSetting entry.1) = false := by
    simpa [skipped, read] using here
  simp only [calmed]
  split
  next impossible => cases impossible
  split
  · exact ⟨_, rfl⟩
  · exact ⟨_, rfl⟩

theorem exec_store (weather : NodeWeather) (server : WebServer Net)
    (before : List (SettingTask env)) {members : List (Str × Json)}
    (calm : settingsPanic weather members = false) :
    let db := (storeSettings weather.toApplyWeather members server.db).1
    (settingSteps env).exec { server, tasks := before ++ [.applying members] }
        (List.replicate (members.length + 1) (.store before.length weather)) =
      some
        { server :=
            { server with db, forwarder := reloadForwarderFromDb weather db server.forwarder }
          tasks := before } := by
  induction members generalizing server with
  | nil =>
      have ends : (settingSteps env).step { server, tasks := before ++ [.applying []] }
          (.store before.length weather) =
            some
              { server :=
                  { server with
                    forwarder := reloadForwarderFromDb weather server.db server.forwarder }
                tasks := before } := by
        unfold settingSteps
        simp only [List.getElem?_concat_length]
        rw [List.eraseIdx_append_of_length_le (Nat.le_refl _), Nat.sub_self]
        simp only [List.eraseIdx_cons_zero, List.append_nil]
      show (settingSteps env).exec _ [_] = _
      rw [StateMachine.exec_cons, ends]
      rfl
  | cons entry later ih =>
      obtain ⟨db', stored⟩ := exists_storeMember calm server.db
      have stores : (settingSteps env).step
          { server, tasks := before ++ [.applying (entry :: later)] }
            (.store before.length weather) =
              some
                { server := { server with db := db' }
                  tasks := before ++ [.applying later] } := by
        unfold settingSteps
        simp only [List.getElem?_concat_length]
        rw [stored]
        simp only [List.set_append_right _ _ (Nat.le_refl _), Nat.sub_self, List.set_cons_zero]
      have calmLater : settingsPanic weather later = false :=
        (Bool.or_eq_false_iff.mp (List.any_cons.symm.trans calm)).2
      rw [List.length_cons, List.replicate_succ, StateMachine.exec_cons, stores, Option.bind_some]
      refine (ih { server with db := db' } calmLater).trans ?_
      rw [storeSettings_storeMember stored]

/-- **A snapshot that nothing comes between** is the apply of the replica. -/
theorem exec_snapshot (u : CaseTables) (hash : Bytes → UInt64) (weather : NodeWeather)
    (s : SettingsNode env) {data : Json} {members : List (Str × Json)}
    (object : data.asObject = some members) (calm : settingsPanic weather members = false) :
    let node := applySnapshot u hash weather SyncCategory.settings.name data
      { db := s.server.db, forwarder := s.server.forwarder }
    (settingSteps env).exec s
        (.snapshot data ::
          List.replicate (members.length + 1) (.store s.tasks.length weather)) =
      some { s with server := { s.server with db := node.db, forwarder := node.forwarder } } := by
  intro node
  have begins : (settingSteps env).step s (.snapshot data) =
      some { s with tasks := s.tasks ++ [.applying members] } := by
    unfold settingSteps
    simp only [object]
  have applied : node =
      { db := (storeSettings weather.toApplyWeather members s.server.db).1
        forwarder :=
          reloadForwarderFromDb weather
            (storeSettings weather.toApplyWeather members s.server.db).1 s.server.forwarder } := by
    show applySnapshot u hash weather SyncCategory.settings.name data _ = _
    simp only [applySnapshot, applySnapshotBlocking, applySettings,
      SyncCategory.ofName?_name, object, calm]
    rfl
  rw [StateMachine.exec_cons, begins, Option.bind_some, exec_store weather s.server s.tasks calm,
    applied]

end Alone

/-! ## The property

With nothing in progress the invariant leaves only what is live.  The examples are two requests
that overlap and end well, and the three ways in which a run can drift. -/

/-- **Live settings equal stored settings**: in a run whose steps all settle, the server runs from
what a start would read of the table, whenever nothing is in progress. -/
theorem settings_live_of_settles {Net : Type} (env : ApiEnv Net) {s : SettingsNode env}
    {acts : List SettingStep} (start : (settingSteps env).init s)
    (settles : (settingSteps env).StepsMeet Settles s acts) :
    (settingSteps env).Always (fun t => t.Idle → t.server.Live env.nets) s acts :=
  (settingSteps env).always_of_stepsMeet
    (fun _ _ _ converging settles one => converging.step settles one)
    (fun _ converging idle => converging.live idle) (converging_of_live start.1) settles

def newSettingsNode : SettingsNode plainEnv where
  server := newServer

theorem newSettingsNode_init : (settingSteps plainEnv).init newSettingsNode := by
  refine ⟨WebServer.live_iff.mpr fun live => ?_, rfl⟩
  have stored := (@seedDefaults_new {} rfl rfl).1 live.key
  have text : newServer.db.restartText live = (defaultSettings.lookup live.key).getD [] := by
    rw [Db.restartText_eq]
    show (((Db.seedDefaults .clear {}).2.settings.lookup live.key).or _).getD _ = _
    rw [stored, Option.or_self]
  show startValue plainEnv.nets (newServer.db.restartText live) live = newServer.liveValue live
  rw [text]
  cases live <;> decide +kernel

/-- Two requests for the networks that overlap: both are stored before the first value is taken
over, and the values are taken over in the order in which the texts were stored. -/
def overlappingRequests : List SettingStep :=
  [.request none "allowed_networks".toList "192.0.2.1/32".toList,
    .request none "allowed_networks".toList "192.0.2.2/32".toList,
    .persist 0 {}, .persist 1 {}, .publish 0, .publish 0]

/-- The two requests, as they are accepted. -/
def firstAddress : AcceptedSetting plainEnv where
  key := "allowed_networks".toList
  value := "192.0.2.1/32".toList
  parsed := .acl { networks := [.v4 0xC0000201#32] }
  accepted := by rfl

def secondAddress : AcceptedSetting plainEnv where
  key := "allowed_networks".toList
  value := "192.0.2.2/32".toList
  parsed := .acl { networks := [.v4 0xC0000202#32] }
  accepted := by rfl

/-- The first value is taken over while the text of the second is stored already, and the second
request is still to take its own value over. -/
theorem stepsMeet_overlappingRequests :
    (settingSteps plainEnv).StepsMeet Settles newSettingsNode overlappingRequests := by
  have allowed : newServer.checkAcl plainEnv none = true := rfl
  have key {live : LiveSetting} (own : "allowed_networks".toList = live.key) :
      LiveSetting.allowedNetworks = live := LiveSetting.key_injective own
  have text (db : Db) (value : Str) :
      Db.restartText (db.setSetting "allowed_networks".toList value) .allowedNetworks = value := by
    rw [Db.restartText_setSetting]
    exact if_pos rfl
  refine (StateMachine.stepsMeet_cons _
    (step_request_of_ok allowed firstAddress.accepted)).mpr ⟨trivial, ?_⟩
  refine (StateMachine.stepsMeet_cons _
    (step_request_of_ok allowed secondAddress.accepted)).mpr ⟨trivial, ?_⟩
  refine (StateMachine.stepsMeet_cons _
    (step_persist_of_ok firstAddress rfl rfl)).mpr ⟨?_, ?_⟩
  · intro setting live here own _
    obtain rfl := SettingTask.checked.inj (Option.some.inj here)
    obtain rfl := key own
    exact Or.inl trivial
  refine (StateMachine.stepsMeet_cons _
    (step_persist_of_ok secondAddress rfl rfl)).mpr ⟨?_, ?_⟩
  · intro setting live here own _
    obtain rfl := SettingTask.checked.inj (Option.some.inj here)
    obtain rfl := key own
    exact Or.inl trivial
  refine (StateMachine.stepsMeet_cons _
    (step_publish_of_stored firstAddress rfl)).mpr ⟨?_, ?_⟩
  · intro setting live here own _
    obtain rfl := key (SettingTask.stored.inj (Option.some.inj here) ▸ own)
    refine Or.inr ⟨1, by decide, secondAddress, rfl, rfl, trivial, ?_⟩
    exact congrArg (startValue plainEnv.nets · .allowedNetworks) (text _ _).symm
  refine (StateMachine.stepsMeet_cons _
    (step_publish_of_stored secondAddress rfl)).mpr ⟨?_, trivial⟩
  intro setting live here own _
  obtain rfl := SettingTask.stored.inj (Option.some.inj here)
  obtain rfl := key own
  exact Or.inl (congrArg (startValue plainEnv.nets · .allowedNetworks) (text _ _).symm)

/-- What is in progress at the end of a run, and the networks. -/
def networksAfter (acts : List SettingStep) : Option (Nat × List IpAddr) :=
  ((settingSteps plainEnv).exec newSettingsNode acts).map fun t =>
    (t.tasks.length, t.server.acl.networks)

/-- The networks of requests that overlap are those of the next start. -/
theorem settings_live_of_settles_networks :
    networksAfter overlappingRequests = some (0, [.v4 0xC0000202#32]) ∧
      (settingSteps plainEnv).Always (fun t => t.Idle → t.server.Live plainEnv.nets)
        newSettingsNode overlappingRequests :=
  ⟨by decide +kernel, settings_live_of_settles plainEnv newSettingsNode_init
    stepsMeet_overlappingRequests⟩

/-- Two requests that are stored in one order and taken over in the other. -/
def racingRequests : List SettingStep :=
  [.request none "allowed_networks".toList "192.0.2.1/32".toList,
    .request none "allowed_networks".toList "192.0.2.2/32".toList,
    .persist 0 {}, .persist 1 {}, .publish 1, .publish 0]

/-- A snapshot with another mode of a blocked response. -/
def modeSnapshot : List SettingStep :=
  [.snapshot (.object [("block_response_mode".toList, .string "null_ip".toList)]),
    .store 0 {}, .store 0 {}]

/-- An address, and then a text that is none. -/
def strangeSinkhole : List SettingStep :=
  [.request none "sinkhole_ipv4".toList "192.0.2.1".toList, .persist 0 {}, .publish 0,
    .request none "sinkhole_ipv4".toList "nowhere".toList, .persist 0 {}, .publish 0]

/-- The run ends with nothing in progress, and not live. -/
def Drifts (acts : List SettingStep) : Prop :=
  ∃ t, (settingSteps plainEnv).exec newSettingsNode acts = some t ∧ t.Idle ∧
    ¬ t.server.Live plainEnv.nets

/-- The values of a setting at the end of a run: at the next start, and now. -/
def valuesAfter (live : LiveSetting) (acts : List SettingStep) :
    Option (Nat × LiveValue IpAddr × LiveValue IpAddr) :=
  ((settingSteps plainEnv).exec newSettingsNode acts).map fun t =>
    (t.tasks.length, startValue plainEnv.nets (t.server.db.restartText live) live,
      t.server.liveValue live)

theorem drifts_of_valuesAfter {live : LiveSetting} {acts : List SettingStep}
    {later now : LiveValue IpAddr} (values : valuesAfter live acts = some (0, later, now))
    (differ : later ≠ now) : Drifts acts := by
  obtain ⟨t, run, ends⟩ := Option.map_eq_some_iff.mp values
  obtain ⟨idle, ends⟩ := Prod.mk.inj ends
  obtain ⟨restarted, runs⟩ := Prod.mk.inj ends
  refine ⟨t, run, List.length_eq_zero_iff.mp idle, fun isLive => differ ?_⟩
  rw [← restarted, ← runs]
  exact WebServer.live_iff.mp isLive live

/-- **Racing requests, a snapshot and a text that does not parse** leave the server running from
what the next start does not read. -/
theorem not_settings_live :
    (settingSteps plainEnv).init newSettingsNode ∧ Drifts racingRequests ∧ Drifts modeSnapshot ∧
      Drifts strangeSinkhole := by
  refine ⟨newSettingsNode_init, ?_, ?_, ?_⟩
  · have values : valuesAfter .allowedNetworks racingRequests =
        some (0, .networks (some { networks := [.v4 0xC0000202#32] }),
          .networks (some { networks := [.v4 0xC0000201#32] })) := by
      decide +kernel
    exact drifts_of_valuesAfter values (by decide)
  · have values : valuesAfter .blockResponseMode modeSnapshot =
        some (0, .mode .nullIp, .mode .nxDomain) := by
      decide +kernel
    exact drifts_of_valuesAfter values (by decide)
  · have values : valuesAfter .sinkholeIpv4 strangeSinkhole =
        some (0, .ipv4 0, .ipv4 0xC0000201#32) := by
      decide +kernel
    exact drifts_of_valuesAfter values (by decide)


end RustBlocker

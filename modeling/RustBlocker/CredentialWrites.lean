import RustBlocker.Access
import RustBlocker.ListWrites
import RustBlocker.Mirroring
import RustBlocker.Pruning

/-!
# Who writes the credentials

The hash of the password and the session secret are two rows of the settings table, next to the
settings that the web API stores and that a snapshot brings.

* **Frames.**  One lemma for each function that writes the database: it leaves the settings alone.
  What remains are the writers of settings, and each of them but one writes keys of its own or
  skips the two.
* **The one** is `update_setting`: `get_settings` hides the two keys and `apply_settings` skips
  them, but `PUT /api/settings` stores any key.
* **Runs.**  `webServer` is the machine of the running server, with its requests of both kinds,
  the snapshots that are applied to it, and the timed refreshes.

`sameCredentials_iff` is about one request in any state, `keyStored_of_stepsMeet` about runs.

A frame is proved for every route, because the claim is that nothing else writes the two rows.
Most of these proofs are alike, and for that reason the lemmas are stated on the way a handler is
put together: behind a check, after a blocking task, with a setting stored or a source refreshed.
A handler that is added would need a case of its own in one theorem, `handle_sameAccount`, and no
other proof would change.

`Overwrites` is the exact condition under which a request changes a credential although it is no
verified change of the password.  It is stated of the request and the state before it: the request
is admitted, comes from an allowed address, names one of the two keys, gives another text than the
one stored, and the statement that stores it does not fail.
-/

namespace RustBlocker

/-- The two settings that hold credentials. -/
def credentialKeys : List Str := [passwordHashKey, sessionSecretKey]

/-- The stored credentials of two databases are the same. -/
def SameCredentials (db db' : Db) : Prop :=
  ∀ key ∈ credentialKeys, db'.settings.lookup key = db.settings.lookup key

theorem SameCredentials.refl (db : Db) : SameCredentials db db := fun _ _ => rfl

theorem SameCredentials.trans {db db' db'' : Db} (first : SameCredentials db db')
    (second : SameCredentials db' db'') : SameCredentials db db'' :=
  fun key mem => (second key mem).trans (first key mem)

theorem SameCredentials.of_settings {db db' : Db} (same : db'.settings = db.settings) :
    SameCredentials db db' := by
  intro key _
  rw [same]

/-- A setting that is none of the two. -/
theorem SameCredentials.setSetting {key : Str} (other : key ∉ credentialKeys) (db : Db)
    (value : Str) : SameCredentials db (db.setSetting key value) := by
  intro credential mem
  refine AList.lookup_insert_ne ?_
  rintro rfl
  exact other mem

/-! ## The functions that leave the settings alone

The functions of the database one by one, each with the settings of its result.  They write other
tables, and so their lemmas unfold them once and are cited from then on. -/

section Frames

variable {u : CaseTables} {hash : Bytes → UInt64} {db db' : Db} {list : DomainList}

theorem addDomain_settings {fails : Plan AddDomainCall} {domain : Str} {id : Nat}
    (ok : addDomain u fails db list domain = .ok (id, db')) : db'.settings = db.settings := by
  rw [addDomain_eq_ok ok]
  rfl

theorem deleteDomainById_settings (fails : Plan DeleteDomainCall) (db : Db) (list : DomainList)
    (id : Nat) :
    (deleteDomainById fails db list id).1.settings = db.settings := by
  unfold deleteDomainById
  split
  · rfl
  split
  · rfl
  split
  · rfl
  simp only
  split <;> rfl

theorem Db.importAll_settings (domains : List Str) :
    (db.importAll list domains).settings = db.settings := by
  induction domains generalizing db with
  | nil => rfl
  | cons domain rest ih => exact ih

theorem bulkImport_settings {fails : Plan ImportCall} {content : Str}
    {result : DomainImportResult}
    (ok : bulkImport u hash fails db list content = .ok (result, db')) :
    db'.settings = db.settings := by
  rw [(bulkImport_eq_ok ok).1]
  exact Db.importAll_settings _

theorem dbAddRewrite_settings {fails : Plan AddRewriteCall} {lastRowid id : Nat} {domain : Str}
    {ipv4 ipv6 : Option Str}
    (ok : dbAddRewrite u fails lastRowid db domain ipv4 ipv6 = .ok (id, db')) :
    db'.settings = db.settings := by
  obtain ⟨-, ok⟩ := Plan.attempt_bind_eq_ok.mp ok
  obtain ⟨-, ok⟩ := Plan.attempt_bind_eq_ok.mp ok
  cases ok
  rfl

theorem deleteRewriteById_settings (fails : Plan DeleteRewriteCall) (db : Db) (id : Nat) :
    (deleteRewriteById fails db id).1.settings = db.settings := by
  unfold deleteRewriteById
  split
  · rfl
  split
  · rfl
  split <;> rfl

theorem Db.ownAll_settings (db : Db) {sourceId : Nat} (domains : List Str) :
    (db.ownAll sourceId list domains).settings = db.settings := by
  induction domains generalizing db with
  | nil => rfl
  | cons domain rest ih => exact ih _

theorem replaceSourceDomains_settings {fails : Plan RefreshCall} {now content : Str}
    {sourceId count : Nat}
    (ok : replaceSourceDomains fails now db sourceId list content = .ok (count, db')) :
    db'.settings = db.settings := by
  obtain ⟨newList, -, -, rfl⟩ := replaceSourceDomains_eq_ok ok
  exact (db.disown sourceId).ownAll_settings newList

theorem refreshSource_settings (weather : RefreshWeather) (site : Site) (source : DbSource) :
    (refreshSource u hash weather site source).site.db.settings = site.db.settings := by
  have failed : ∀ error, (failRefresh weather site source error).site.db.settings =
      site.db.settings := by
    intro error
    show (if weather.statusFails then site else _ : Site).db.settings = site.db.settings
    split <;> rfl
  unfold refreshSource
  simp only
  split
  · exact failed _
  split
  · exact failed _
  split
  · exact failed _
  next count db ok => exact replaceSourceDomains_settings ok

theorem addSource_settings {fails : Plan AddSourceCall} {url listType : Str} {hours : Int}
    {id : Nat} (ok : addSource fails db url listType hours = .ok (id, db')) :
    db'.settings = db.settings := by
  obtain ⟨-, ok⟩ := Plan.attempt_bind_eq_ok.mp ok
  obtain ⟨-, ok⟩ := Plan.attempt_bind_eq_ok.mp ok
  cases ok
  rfl

theorem deleteSourceWithCleanup_settings (fails : Plan DeleteSourceCall) (leftover : Finset Str)
    (db : Db) (id : Nat) :
    (deleteSourceWithCleanup fails leftover db id).1.settings = db.settings := by
  rcases deleteSourceWithCleanup_cases fails leftover db id with
    nothing | ⟨source, db', -, deleted, rfl | ⟨candidates, rfl⟩⟩
  · rw [nothing]
  · rw [deleted]
    rfl
  · rw [deleted]
    rfl

/-- **No snapshot changes the credentials.** -/
theorem applySnapshot_sameCredentials (weather : ApplyWeather) (category : Str) (data : Json)
    (site : Site) :
    SameCredentials site.db (applySnapshotBlocking u hash weather category data site).site.db := by
  -- a snapshot of the settings skips the credentials
  have skipped : ∀ credential ∈ credentialKeys, credential ∈ skippedSettings := by decide
  have frame := siteFrame_applySnapshotBlocking u hash weather category data site
  exact fun key mem => frame.node key (skipped key mem)

end Frames

/-! ## The handlers that leave the credentials alone

`SameAccount` goes through a handler as the handler goes through its calls.  The last lemma of the
section goes over all the routes, and is where a new route would have to be added. -/

/-- The stored credentials and the session key are the same.  It is reflexive and transitive, so
that it goes through a handler call by call. -/
structure WebServer.SameAccount {Net : Type} (s t : WebServer Net) : Prop where
  credentials : SameCredentials s.db t.db
  key : t.key = s.key

section Handlers

variable {Net : Type} {env : ApiEnv Net} {weather : ApiWeather} {peer : Option IpAddr}
  {s t : WebServer Net}

theorem dbBlocking_eq_ok {α : Type} {result : Except DbError α} {a : α} :
    dbBlocking weather result = .ok a ↔ weather.task = none ∧ result = .ok a := by
  unfold dbBlocking
  split
  next panics => simp [panics]
  next calm =>
    rcases result with error | b
    · simp
    · simp [calm]

namespace WebServer

namespace SameAccount

theorem refl (s : WebServer Net) : SameAccount s s := ⟨.refl _, rfl⟩

theorem trans {r : WebServer Net} (first : SameAccount r s) (second : SameAccount s t) :
    SameAccount r t :=
  ⟨first.credentials.trans second.credentials, second.key.trans first.key⟩

theorem of_settings (same : t.db.settings = s.db.settings) (key : t.key = s.key) :
    SameAccount s t := ⟨.of_settings same, key⟩

/-- The check comes first. -/
theorem guarded {handler : Reply Net} (same : SameAccount s handler.2) :
    SameAccount s (s.guarded env peer handler).2 := by
  unfold WebServer.guarded
  split
  · exact same
  · exact refl s

/-- A setting that is none of the two may be stored. -/
theorem stores (same : SameAccount s t) {key : Str} (other : key ∉ credentialKeys)
    (value : Str) : SameAccount s (t.storeSetting weather key value) := by
  unfold storeSetting
  split
  · exact same.trans ⟨.setSetting other _ _, rfl⟩
  · exact same

theorem reading (body : Json) : SameAccount s (reading weather s body).2 := by
  unfold RustBlocker.reading
  split <;> exact refl s

theorem login (password : Str) : SameAccount s (s.login env weather peer password).2 := by
  refine guarded ?_
  split
  · exact refl s
  split
  · exact of_settings rfl rfl
  simp only
  split
  · exact of_settings rfl rfl
  split
  · exact of_settings rfl rfl
  split
  · split <;> exact of_settings rfl rfl
  · exact of_settings rfl rfl

theorem applyUpdate : SameAccount s (s.applyUpdate env weather peer).2 := by
  refine guarded ?_
  split
  · exact refl s
  · exact refl s
  · exact of_settings rfl rfl

theorem addUpstream (address : Str) (port : Option Nat) :
    SameAccount s (s.addUpstream env weather peer address port).2 := by
  refine guarded ?_
  simp only
  split
  · exact refl s
  split
  · exact refl s
  · exact of_settings rfl rfl

theorem deleteUpstream (id : Int) : SameAccount s (s.deleteUpstream env weather peer id).2 := by
  refine guarded ?_
  split
  · exact of_settings rfl rfl
  · exact refl s

theorem addDomain (list : DomainList) (domain : Str) :
    SameAccount s (s.addDomain env weather peer list domain).2 := by
  refine guarded ?_
  split
  · exact refl s
  next id db ok =>
    obtain ⟨-, added⟩ := dbBlocking_eq_ok.mp ok
    exact of_settings (addDomain_settings added) rfl

theorem deleteDomain (list : DomainList) (id : Int) :
    SameAccount s (s.deleteDomain env weather peer list id).2 := by
  have kept := deleteDomainById_settings weather.delete s.db list id.toNat
  refine guarded ?_
  split
  · exact refl s
  all_goals
    next ok =>
      obtain ⟨-, deleted⟩ := dbBlocking_eq_ok.mp ok
      rw [Except.ok.inj deleted] at kept
      exact of_settings kept rfl

theorem bulkImport (list : DomainList) (content url : Option Str) :
    SameAccount s (s.bulkImport env weather peer list content url).2 := by
  refine guarded ?_
  split
  · exact refl s
  split
  · exact refl s
  split
  · exact refl s
  next result db ok =>
    obtain ⟨-, imported⟩ := dbBlocking_eq_ok.mp ok
    exact of_settings (bulkImport_settings imported) rfl

theorem addRewrite (domain : Str) (ipv4 ipv6 : Option Str) :
    SameAccount s (s.addRewrite env weather peer domain ipv4 ipv6).2 := by
  refine guarded ?_
  split
  · exact refl s
  next id db ok =>
    obtain ⟨-, added⟩ := dbBlocking_eq_ok.mp ok
    exact of_settings (dbAddRewrite_settings added) rfl

theorem deleteRewrite (id : Int) : SameAccount s (s.deleteRewrite env weather peer id).2 := by
  have kept := deleteRewriteById_settings weather.deleteRewrite s.db id.toNat
  refine guarded ?_
  split
  · exact refl s
  all_goals
    next ok =>
      obtain ⟨-, deleted⟩ := dbBlocking_eq_ok.mp ok
      rw [Except.ok.inj deleted] at kept
      exact of_settings kept rfl

/-- A refresh, of a request or of the timer. -/
theorem refreshSource (meets : RefreshWeather) (source : DbSource) :
    SameAccount s (s.refreshSource env meets source).2 :=
  of_settings (refreshSource_settings meets { db := s.db, runtime := s.lists } source) rfl

theorem addSource (url : Str) (listType : Option Str) (hours : Option Int) :
    SameAccount s (s.addSource env weather peer url listType hours).2 := by
  refine guarded ?_
  simp only
  split
  · exact refl s
  next id db ok =>
    obtain ⟨-, added⟩ := dbBlocking_eq_ok.mp ok
    have inserted : SameAccount s { s with db } := of_settings (addSource_settings added) rfl
    exact inserted.trans (refreshSource ..)

theorem refreshOneSource (id : Int) :
    SameAccount s (s.refreshOneSource env weather peer id).2 := by
  refine guarded ?_
  split
  · exact refl s
  · exact refl s
  · exact refreshSource ..

theorem deleteSource (id : Int) : SameAccount s (s.deleteSource env weather peer id).2 := by
  have kept := deleteSourceWithCleanup_settings weather.deleteSource weather.leftover s.db
    id.toNat
  refine guarded ?_
  split
  · exact refl s
  all_goals
    next ok =>
      obtain ⟨-, deleted⟩ := dbBlocking_eq_ok.mp ok
      rw [Except.ok.inj deleted] at kept
      exact of_settings kept rfl

theorem refreshEach (sources : List DbSource) :
    SameAccount s (refreshEach env weather sources s).2 := by
  induction sources generalizing s with
  | nil => exact refl s
  | cons source later ih => exact (refreshSource (weather.refresh source) source).trans ih

theorem refreshAllSources : SameAccount s (s.refreshAllSources env weather peer).2 := by
  refine guarded ?_
  split
  · exact refl s
  · exact refreshEach _

theorem clearStats : SameAccount s (s.clearStats env weather peer).2 := by
  refine guarded ?_
  split
  · exact refl s
  · show SameAccount s (if weather.clears then { s with loggedQueries := [] } else s)
    split
    · exact of_settings rfl rfl
    · exact refl s

theorem putSyncConfig (enabled : Bool) (masterUrl password : Str) (intervalSecs : UInt64) :
    SameAccount s
      (s.putSyncConfig env weather peer enabled masterUrl password intervalSecs).2 := by
  refine guarded ?_
  have enables : "sync_enabled".toList ∉ credentialKeys := by decide
  have master : "sync_master".toList ∉ credentialKeys := by decide
  have interval : "sync_interval_secs".toList ∉ credentialKeys := by decide
  have secret : "sync_password".toList ∉ credentialKeys := by decide
  have stored : SameAccount s (((s.storeSetting weather "sync_enabled".toList
      (if enabled then "true".toList else "false".toList)).storeSetting weather
      "sync_master".toList masterUrl).storeSetting weather
      "sync_interval_secs".toList (decimal intervalSecs.toNat)) :=
    (((refl s).stores enables _).stores master _).stores interval _
  simp only
  split
  · exact stored
  · exact stored.stores secret password

theorem orderCertificate (domain : Str) : SameAccount s (s.orderCertificate weather domain) := by
  have other : "acme_error".toList ∉ credentialKeys := by decide
  have started : SameAccount s (s.storeSetting weather "acme_error".toList []) :=
    (refl s).stores other []
  unfold WebServer.orderCertificate
  simp only
  split
  next certificate _ =>
    have filed : ∀ r : WebServer Net, SameAccount r { r with
        certificates := r.certificates.insert domain certificate } := fun _ => of_settings rfl rfl
    have restarts : ∀ r : WebServer Net, SameAccount r r.scheduleRestart :=
      fun _ => of_settings rfl rfl
    exact ((started.trans (filed _)).stores other []).trans (restarts _)
  next error _ => exact started.stores other error

theorem startOrder (message domain : Str) :
    SameAccount s (s.startOrder env weather peer message domain).2 := by
  refine guarded ?_
  split
  · exact refl s
  split
  · exact refl s
  · exact orderCertificate domain

end SameAccount

/-- **The other handlers leave the account alone**: all but the one that stores a setting and
the one that changes the password. -/
theorem handle_sameAccount {request : ApiRequest}
    (setting : ∀ key value, request.call ≠ .updateSetting key value)
    (change : request.call.changesPassword = false) :
    SameAccount s (s.handle env weather request).2 := by
  obtain ⟨peer, cookie, call⟩ := request
  cases call with
  | updateSetting key value => exact absurd rfl (setting key value)
  | changePassword current new => cases change
  | health | getVersion | authCheck | logout => exact .refl s
  | login password => exact .login password
  | applyUpdate => exact .applyUpdate
  | addUpstream address port => exact .addUpstream address port
  | deleteUpstream id => exact .deleteUpstream id
  | addDomain list domain => exact .addDomain list domain
  | deleteDomain list id => exact .deleteDomain list id
  | bulkImport list content url => exact .bulkImport list content url
  | addRewrite domain ipv4 ipv6 => exact .addRewrite domain ipv4 ipv6
  | deleteRewrite id => exact .deleteRewrite id
  | addSource url listType hours => exact .addSource url listType hours
  | refreshOneSource id => exact .refreshOneSource id
  | deleteSource id => exact .deleteSource id
  | refreshAllSources => exact .refreshAllSources
  | clearStats => exact .clearStats
  | putSyncConfig enabled masterUrl password secs =>
      exact .putSyncConfig enabled masterUrl password secs
  | requestCertificate domain wildcard => exact .startOrder _ domain
  | renewCertificate domain wildcard => exact .startOrder _ domain
  | restartServer => exact .guarded (.of_settings rfl rfl)
  | getSettings | getDomains | getSources | getStats | getQueries | syncManifest =>
      exact .guarded (.reading _)
  | getDnsConcurrency | checkUpdate | getUpstreams | getRewrites | liveQueries | getSyncConfig
  | getSyncStatus | certificateStatus | activityStream | testCloudflareConnection =>
      exact .guarded (.refl s)
  | getQueryTrend days =>
      refine .guarded ?_
      split
      · exact .reading _
      · exact .refl s
  | syncSnapshot category =>
      refine .guarded ?_
      split
      · exact .refl s
      split <;> exact .refl s
  | verifySyncConnection masterUrl password =>
      refine .guarded ?_
      split <;> exact .refl s

/-! ## The two handlers that write them

One of them is meant to, and verifies the current password first.  The other stores any setting,
and the lemmas say when this changes a credential: the key is one of the two, and the text another
one than before. -/

/-- A setting that is taken over changes neither the database nor the key. -/
theorem takeOver_db_key (key value : Str) (parsed : SettingValue Net) :
    (s.takeOver key value parsed).db = s.db ∧ (s.takeOver key value parsed).key = s.key := by
  cases parsed with
  | other =>
      unfold takeOver
      simp only
      split
      · split <;> exact ⟨rfl, rfl⟩
      split
      · split <;> exact ⟨rfl, rfl⟩
      split
      · split <;> exact ⟨rfl, rfl⟩
      split
      · split <;> exact ⟨rfl, rfl⟩
      · exact ⟨rfl, rfl⟩
  | _ => exact ⟨rfl, rfl⟩

/-- The text of a credential is not checked. -/
theorem parseSetting_credential {key : Str} (mem : key ∈ credentialKeys) (value : Str) :
    parseSetting env key value = .ok .other := by
  have apart : key ≠ "forward_strategy".toList ∧ key ≠ "block_response_mode".toList ∧
      key ≠ "adaptive_hedge_delay_ms".toList ∧ key ≠ "allowed_networks".toList ∧
      key ≠ "listen_address".toList ∧ key ≠ "listen_port".toList := by
    revert key
    decide
  obtain ⟨strategy, mode, delay, networks, address, port⟩ := apart
  simp only [parseSetting, if_neg strategy, if_neg mode, if_neg delay, if_neg networks,
    if_neg address, if_neg port]

/-- **`update_setting`** refuses and changes nothing, or stores the text and takes the value
over. -/
theorem updateSetting_cases (key value : Str) :
    (∃ status error, 400 ≤ status ∧
        s.updateSetting env weather peer key value = (failure status error, s) ∧
        ¬ (s.checkAcl env peer = true ∧ (∃ parsed, parseSetting env key value = .ok parsed) ∧
          dbBlocking weather (oneStatement (weather.set key)) = .ok ())) ∨
    ∃ parsed body, parseSetting env key value = .ok parsed ∧ s.checkAcl env peer = true ∧
      dbBlocking weather (oneStatement (weather.set key)) = .ok () ∧
      s.updateSetting env weather peer key value =
        (.ok body, WebServer.takeOver { s with db := s.db.setSetting key (parsed.persisted value) }
          key value parsed) := by
  unfold updateSetting WebServer.guarded
  split
  next allowed =>
    split
    next error refused =>
      refine Or.inl ⟨400, error, by decide, rfl, ?_⟩
      rintro ⟨-, ⟨parsed, accepted⟩, -⟩
      rw [refused] at accepted
      cases accepted
    next parsed accepted =>
      split
      next error fails =>
        refine Or.inl ⟨500, error, by decide, rfl, ?_⟩
        rintro ⟨-, -, stored⟩
        rw [fails] at stored
        cases stored
      next stored => exact Or.inr ⟨parsed, _, accepted, allowed, stored, rfl⟩
  next denied =>
    exact Or.inl ⟨403, _, by decide, rfl, fun passes => denied passes.1⟩

/-- What is done of `PUT /api/settings`. -/
theorem updateSetting_outcome (key value : Str) :
    ((s.updateSetting env weather peer key value).2 = s ∧
      ¬ (s.checkAcl env peer = true ∧ key ∈ credentialKeys ∧ weather.task = none ∧
        oneStatement (weather.set key) = .ok ())) ∨
    ∃ parsed, parseSetting env key value = .ok parsed ∧ s.checkAcl env peer = true ∧
      weather.task = none ∧ oneStatement (weather.set key) = .ok () ∧
      (s.updateSetting env weather peer key value).2 =
        WebServer.takeOver { s with db := s.db.setSetting key (parsed.persisted value) }
          key value parsed := by
  rcases updateSetting_cases key value with ⟨status, error, -, answer, stopped⟩ |
    ⟨parsed, body, accepted, allowed, stored, answer⟩
  · refine Or.inl ⟨by rw [answer], ?_⟩
    rintro ⟨allowed, mem, calm, writes⟩
    exact stopped ⟨allowed, ⟨_, parseSetting_credential mem value⟩,
      dbBlocking_eq_ok.mpr ⟨calm, writes⟩⟩
  · obtain ⟨calm, writes⟩ := dbBlocking_eq_ok.mp stored
    exact Or.inr ⟨parsed, accepted, allowed, calm, writes, by rw [answer]⟩

theorem updateSetting_key (key value : Str) :
    (s.updateSetting env weather peer key value).2.key = s.key := by
  rcases updateSetting_outcome (s := s) key value with ⟨same, -⟩ | ⟨parsed, -, -, -, -, after⟩
  · rw [same]
  · rw [after]
    exact (takeOver_db_key key value parsed).2

/-- **A setting changes the credentials exactly if it is one of the two**, is stored, and has
another value. -/
theorem updateSetting_sameCredentials_iff (key value : Str) :
    SameCredentials s.db (s.updateSetting env weather peer key value).2.db ↔
      ¬ (s.checkAcl env peer = true ∧ key ∈ credentialKeys ∧ weather.task = none ∧
        oneStatement (weather.set key) = .ok () ∧ s.db.settings.lookup key ≠ some value) := by
  rcases updateSetting_outcome (s := s) key value with
    ⟨same, prevented⟩ | ⟨parsed, accepted, allowed, calm, writes, after⟩
  · rw [same]
    refine ⟨?_, fun _ => .refl _⟩
    rintro - ⟨allowed, mem, calm, writes, -⟩
    exact prevented ⟨allowed, mem, calm, writes⟩
  · rw [after, (takeOver_db_key key value parsed).1]
    by_cases mem : key ∈ credentialKeys
    · obtain rfl := Except.ok.inj (accepted.symm.trans (parseSetting_credential mem value))
      constructor
      · rintro same ⟨-, -, -, -, other⟩
        refine other ((same key mem).symm.trans ?_)
        exact AList.lookup_insert _
      · intro kept credential known
        have stored : s.db.settings.lookup key = some value := by
          by_contra other
          exact kept ⟨allowed, mem, calm, writes, other⟩
        by_cases here : credential = key
        · subst here
          exact (AList.lookup_insert _).trans stored.symm
        · exact AList.lookup_insert_ne here
    · refine ⟨fun _ => ?_, fun _ => .setSetting mem _ _⟩
      rintro ⟨-, known, -⟩
      exact mem known

/-- **A change of the password changes nothing, or the current one was verified** and the
key is the stored secret afterwards. -/
theorem changePassword_outcome (current new : Str) :
    (s.changePassword env weather current new).2 = s ∨
    ∃ hash, s.db.settings.lookup passwordHashKey = some hash ∧ env.verify current hash = true ∧
      (s.changePassword env weather current new).2.db.settings.lookup sessionSecretKey =
        some (encodeSecret (s.changePassword env weather current new).2.key) := by
  unfold changePassword
  split
  · exact Or.inl rfl
  split
  · exact Or.inl rfl
  split
  · exact Or.inl rfl
  next currentHash read =>
  split
  · exact Or.inl rfl
  next verified =>
  split
  · exact Or.inl rfl
  next newHash _ =>
  simp only
  rcases written : Db.updateAuthCredentials weather.credentials.fails s.db currentHash newHash
      (encodeSecret weather.credentials.secret) with error | ⟨_ | _, db⟩
  · exact Or.inl rfl
  · exact Or.inl rfl
  · have stored := (Db.updateAuthCredentials_eq_ok_true written).2
    have hash : s.db.settings.lookup passwordHashKey = some currentHash := by
      unfold getSetting Db.getSetting at read
      split at read
      · exact read
      · cases read
    refine Or.inr ⟨currentHash, hash, by simpa using verified, ?_⟩
    simp only
    split <;> exact stored

end WebServer

end Handlers

/-! ## Requests and runs

In a run all requests come one after the other, and snapshots and refreshes between them.  What a
step does to the account is known from the sections above, so the result is an equivalence for a
request and an invariant for a run. -/

/-- What the running server does. -/
inductive ServerAction where
  | request (weather : ApiWeather) (request : ApiRequest)
  | answer (request : Request) (weather : RequestWeather)
  /-- A snapshot is applied, and the forwarder and the rewrite map are what the reload after
  it makes of them. -/
  | replicate (weather : ApplyWeather) (category : Str) (data : Json)
      (forwarder : ParallelForwarder) (rewrites : RewriteMap)
  /-- The timer refreshes a source. -/
  | refresh (meets : RefreshWeather) (source : DbSource)
  /-- Rows of the query log are written, or are too old. -/
  | log (rows : List QueryEntry)

section Service

variable {Net : Type} (env : ApiEnv Net) (weather : ApiWeather) (s : WebServer Net)
  (request : ApiRequest)

namespace WebServer

/-- The request changes the password, and the current one it gives verifies.  It is the one
request that may change the credentials. -/
def VerifiedChange : Prop :=
  ∃ current new hash, request.call = .changePassword current new ∧
    s.db.settings.lookup passwordHashKey = some hash ∧ env.verify current hash = true

/-- The request has a session, comes from an allowed address, and stores another text as one of
the credentials.  A text that is the stored one changes nothing and does not count. -/
def Overwrites : Prop :=
  ∃ key value, request.call = .updateSetting key value ∧
    s.authed env weather request.cookie = true ∧ s.checkAcl env request.peer = true ∧
    key ∈ credentialKeys ∧ weather.task = none ∧ oneStatement (weather.set key) = .ok () ∧
    s.db.settings.lookup key ≠ some value

/-- The session key is the decoded stored secret, so that the next start keeps the sessions. -/
def KeyStored : Prop := (s.db.settings.lookup sessionSecretKey).bind decodeSecret = some s.key

def step (display : Name → Str) : ServerAction → WebServer Net
  | .request weather request => (s.serve env weather request).2
  | .answer request weather =>
      { s with
        toDnsServer := (DnsServer.handleRequest env.nets env.caseTables env.hash display
          s.toDnsServer request weather).1.foldl DnsServer.perform s.toDnsServer }
  | .replicate weather category data forwarder rewrites =>
      let site := (applySnapshotBlocking env.caseTables env.hash weather category data
        { db := s.db, runtime := s.lists }).site
      { s with db := site.db, lists := site.runtime, forwarder, rewrites }
  | .refresh meets source => (s.refreshSource env meets source).2
  | .log loggedQueries => { s with loggedQueries }

end WebServer

/-- The running server, from a start on at which the secret was read or stored.  A start at which
it could be neither has a key that no database has. -/
def webServer (display : Name → Str) : StateMachine (WebServer Net) ServerAction where
  init := WebServer.KeyStored
  step s action := some (s.step env display action)

/-- The action is no request that overwrites a credential. -/
def ServerAction.Keeps : ServerAction → Prop
  | .request weather request => ¬ s.Overwrites env weather request
  | _ => True

end Service

section Kept

variable {Net : Type} {env : ApiEnv Net} {weather : ApiWeather} {s t : WebServer Net}
  {request : ApiRequest} {display : Name → Str}

namespace WebServer

theorem KeyStored.of_sameAccount (stored : s.KeyStored) (same : SameAccount s t) :
    t.KeyStored := by
  have secret := same.credentials sessionSecretKey (by decide)
  rw [KeyStored, secret, same.key]
  exact stored

/-- **What a request does to the account**: nothing, unless it stores a setting, for which it
has a session, or changes the password. -/
theorem serve_cases (env : ApiEnv Net) (weather : ApiWeather) (s : WebServer Net)
    (request : ApiRequest) :
    (SameAccount s (s.serve env weather request).2 ∧
      ∀ key value, request.call = .updateSetting key value →
        s.authed env weather request.cookie = false) ∨
    (∃ key value, request.call = .updateSetting key value ∧
      s.authed env weather request.cookie = true ∧
      (s.serve env weather request).2 =
        (s.updateSetting env weather request.peer key value).2) ∨
    ∃ current new, request.call = .changePassword current new ∧
      (s.serve env weather request).2 = (s.changePassword env weather current new).2 := by
  unfold serve
  split
  next admits =>
    by_cases setting : ∃ key value, request.call = .updateSetting key value
    · obtain ⟨key, value, call⟩ := setting
      have guarded : isPublicPath request.call.path = false := by
        rw [call]
        exact (by decide : isPublicPath ("/api".toList ++ "/settings".toList) = false)
      rw [WebServer.admits, guarded, Bool.false_or] at admits
      exact Or.inr (Or.inl ⟨key, value, call, admits, by simp only [handle, call]⟩)
    cases change : request.call.changesPassword with
    | false =>
        have other : ∀ key value, request.call ≠ .updateSetting key value :=
          fun key value call => setting ⟨key, value, call⟩
        exact Or.inl ⟨handle_sameAccount other change, fun key value call =>
          absurd call (other key value)⟩
    | true =>
        obtain ⟨peer, cookie, call⟩ := request
        cases call with
        | changePassword current new => exact Or.inr (Or.inr ⟨current, new, rfl, rfl⟩)
        | _ => cases change
  next stopped =>
    refine Or.inl ⟨.refl s, fun key value _ => ?_⟩
    by_contra session
    rw [Bool.not_eq_false] at session
    rw [WebServer.admits, session, Bool.or_true] at stopped
    exact stopped rfl

end WebServer

/-- **The stored credentials survive a request exactly if it does not overwrite one of
them**, be it with a session or without, as long as it is no verified change of the
password. -/
theorem sameCredentials_iff (unverified : ¬ s.VerifiedChange env request) :
    SameCredentials s.db (s.serve env weather request).2.db ↔
      ¬ s.Overwrites env weather request := by
  rcases WebServer.serve_cases env weather s request with
    ⟨same, without⟩ | ⟨key, value, call, session, after⟩ | ⟨current, new, call, after⟩
  · refine ⟨?_, fun _ => same.credentials⟩
    rintro - ⟨key, value, call, session, -⟩
    exact absurd session (by simp [without key value call])
  · rw [after, WebServer.updateSetting_sameCredentials_iff]
    refine not_congr ⟨fun overwrites => ⟨key, value, call, session, overwrites⟩, ?_⟩
    rintro ⟨key', value', call', -, overwrites⟩
    obtain ⟨rfl, rfl⟩ := ApiCall.updateSetting.inj (call.symm.trans call')
    exact overwrites
  · rw [after]
    refine ⟨?_, fun _ => ?_⟩
    · rintro - ⟨key, value, setting, -⟩
      cases call.symm.trans setting
    · rcases WebServer.changePassword_outcome (s := s) current new with
        same | ⟨hash, stored, verifies, -⟩
      · exact .of_settings (congrArg (fun t => t.db.settings) same)
      · exact absurd ⟨current, new, hash, call, stored, verifies⟩ unverified

/-- A request that overwrites no credential keeps the key stored. -/
theorem WebServer.KeyStored.serve (stored : s.KeyStored)
    (keeps : ¬ s.Overwrites env weather request) :
    (s.serve env weather request).2.KeyStored := by
  rcases serve_cases env weather s request with
    ⟨same, -⟩ | ⟨key, value, call, session, after⟩ | ⟨current, new, call, after⟩
  · exact stored.of_sameAccount same
  · rw [after]
    refine stored.of_sameAccount ⟨?_, updateSetting_key key value⟩
    refine (updateSetting_sameCredentials_iff key value).mpr fun overwrites => ?_
    exact keeps ⟨key, value, call, session, overwrites⟩
  · rw [after]
    rcases changePassword_outcome (s := s) current new with same | ⟨-, -, -, secret⟩
    · rw [same]
      exact stored
    · rw [KeyStored, secret]
      exact decodeSecret_encodeSecret _

/-- **A step that overwrites no credential keeps the key stored.** -/
theorem WebServer.KeyStored.step (stored : s.KeyStored) {action : ServerAction}
    (keeps : action.Keeps env s) : (s.step env display action).KeyStored := by
  cases action with
  | request weather request => exact stored.serve keeps
  | answer request weather => exact stored
  | replicate weather category data forwarder rewrites =>
      refine stored.of_sameAccount ⟨?_, rfl⟩
      exact applySnapshot_sameCredentials weather category data { db := s.db, runtime := s.lists }
  | refresh meets source => exact stored.of_sameAccount (.refreshSource meets source)
  | log rows => exact stored

/-- **The credentials change with the password only, exactly if no setting overwrites
them.**  Every request that is no verified change of the password keeps the stored hash and
the stored secret iff it does not store another text as one of them; and along every run
without such a request the session key is the decoded stored secret. -/
theorem credentials_kept (env : ApiEnv Net) (display : Name → Str) :
    (∀ (s : WebServer Net) (weather : ApiWeather) (request : ApiRequest),
      ¬ s.VerifiedChange env request →
        (SameCredentials s.db (s.serve env weather request).2.db ↔
          ¬ s.Overwrites env weather request)) ∧
    ∀ (s : WebServer Net) (actions : List ServerAction), s.KeyStored →
      (webServer env display).StepsMeet (fun s action => action.Keeps env s) s actions →
        (webServer env display).Always WebServer.KeyStored s actions := by
  constructor
  · intro s weather request unverified
    exact sameCredentials_iff unverified
  · intro s actions stored meets
    have preserved : ∀ (s : WebServer Net) (action : ServerAction) (t : WebServer Net),
        s.KeyStored → action.Keeps env s →
          (webServer env display).step s action = some t → t.KeyStored := by
      intro s action t stored keeps one
      cases one
      exact stored.step keeps
    exact (webServer env display).always_of_stepsMeet preserved (fun _ stored => stored) stored
      meets

/-! ## A setting that is the password -/

/-- A request of the allowed address, with a session. -/
def allowedRequest (call : ApiCall) : ApiRequest where
  peer := some (.v4 0xC0000201#32)
  cookie := some (createSession appendTag (secretOf 1) 0 sessionMaxAgeSecs)
  call

def retentionRequest : ApiRequest :=
  allowedRequest (.updateSetting "stats_retention_days".toList "7".toList)

theorem not_overwrites_retentionRequest (s : WebServer IpAddr) (weather : ApiWeather) :
    ¬ s.Overwrites plainEnv weather retentionRequest := by
  rintro ⟨key, value, call, -, -, mem, -⟩
  obtain ⟨rfl, -⟩ := ApiCall.updateSetting.inj call
  exact absurd mem (by decide)

theorem credentials_kept_retention :
    SameCredentials oneAddressServer.db
      (oneAddressServer.serve plainEnv strangeWeather retentionRequest).2.db ∧
    (webServer plainEnv plainDisplay).Always WebServer.KeyStored oneAddressServer
      [.request strangeWeather retentionRequest] := by
  have kept := credentials_kept plainEnv plainDisplay
  refine ⟨?_, ?_⟩
  · refine (kept.1 oneAddressServer strangeWeather retentionRequest ?_).mpr
      (not_overwrites_retentionRequest _ _)
    rintro ⟨current, new, hash, call, -⟩
    cases call
  · have stored : (oneAddressServer.db.settings.lookup sessionSecretKey).bind decodeSecret =
        some oneAddressServer.key := by decide +kernel
    refine kept.2 oneAddressServer _ stored ⟨?_, fun _ _ => trivial⟩
    exact not_overwrites_retentionRequest _ _

/-- **A session sets the password without the current one**: the stored hash is the text of
the request. -/
theorem not_credentials_kept_setting :
    let request := allowedRequest (.updateSetting passwordHashKey "second".toList)
    let served := oneAddressServer.serve plainEnv {} request
    oneAddressServer.authed plainEnv {} request.cookie = true ∧
      request.call.changesPassword = false ∧
      served.1.status = 200 ∧
      oneAddressServer.db.settings.lookup passwordHashKey = some "first".toList ∧
      served.2.db.settings.lookup passwordHashKey = some "second".toList := by
  refine ⟨?_, rfl, ?_, ?_, ?_⟩ <;> decide +kernel

end Kept

end RustBlocker

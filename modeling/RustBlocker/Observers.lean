import RustBlocker.Answers

/-!
# What is shown of the secrets

Four settings are secrets.  They stand in the same table as the other settings, and each path that
reads the table has an exclusion list of its own.

* **The settings and their snapshot** leave out three keys and mask the fourth.
* **The manifest** leaves out two of them: the digest of the settings is a digest of the password
  of the synchronisation and of the token of the DNS provider too.
* **The configuration of the synchronisation** shows whether the password is set.
* **The activity log** shows the text of every setting that is saved.

`HidesSecrets` compares two databases that differ in the secrets only, for each of the four
requests that read; `published` is what a saved setting adds to the activity log.

That nothing is told is stated as a comparison of two servers and not as the absence of a text
from an answer: a digest has no secret in it, and yet it tells one secret from another.  The
databases that are compared agree on which secrets are set, because that much is told on purpose,
and two of the requests do.

The result has two halves.  The answers of the requests tell nothing exactly if no secret is set
that the manifest hashes, and the log tells nothing of a secret that is saved exactly if the
request does not get as far as the log: it comes from outside the networks, or its statement
fails.  The hash is assumed to be injective, which is only used to show that something is told.
-/

namespace RustBlocker

/-- The settings that are secrets. -/
def secretSettings : List Str :=
  ["admin_password_hash".toList, "session_secret".toList, "sync_password".toList,
    "cloudflare_api_token".toList]

/-- The secrets that the manifest does not leave out. -/
def hashedSecrets : List Str := secretSettings.filter fun key => !unhashedSettings.contains key

/-! ## The activity log -/

/-- `Severity` -/
inductive Severity where
  | info
  | success
  | warning
  | error
deriving DecidableEq, Repr

/-- `ActivityEntry` -/
structure ActivityEntry where
  opId : Str
  op : Str
  message : Str
  level : Severity
  ts : Int
deriving DecidableEq, Repr

/-- `ActivityLog::info` -/
def ActivityEntry.info (now : Int) (opId op message : Str) : ActivityEntry where
  opId
  op
  message
  level := .info
  ts := now

section Statement

variable {Net : Type} (env : ApiEnv Net) (s : WebServer Net)

/-- What `update_setting` adds to the activity log. -/
def published (weather : ApiWeather) (peer : Option IpAddr) (now : Int) (key value : Str) :
    List ActivityEntry :=
  if s.checkAcl env peer then
    match WebServer.parseSetting env key value with
    | .error _ => []
    | .ok parsed =>
        match dbBlocking weather (oneStatement (weather.set key)) with
        | .error _ => []
        | .ok () =>
            [.info now "settings".toList "Save Settings".toList
              ("Setting saved: ".toList ++ key ++ " = ".toList ++ parsed.persisted value)]
  else []

/-! ## Databases that differ in the secrets -/

/-- Two rows of `settings` with one key, and with one value unless the key is a secret and both
values are set.  That a secret is set may be seen. -/
def SettingAlike (entry entry' : Sigma fun _ : Str => Str) : Prop :=
  entry.1 = entry'.1 ∧
    (entry.2 = entry'.2 ∨ entry.1 ∈ secretSettings ∧ entry.2 ≠ [] ∧ entry'.2 ≠ [])

/-- **The databases differ in the values of the secrets only.**  A secret that is set in one is
set in the other. -/
structure SameButSecrets (db db' : Db) : Prop where
  settings : List.Forall₂ SettingAlike db.settings.entries db'.settings.entries
  rest : { db with settings := db'.settings } = db'

/-- The two servers answer the requests that read the settings alike, whoever asks and whatever
calls fail. -/
structure SameAnswers (s' : WebServer Net) : Prop where
  settings : ∀ weather peer,
    (s.getSettings env weather peer).1 = (s'.getSettings env weather peer).1
  snapshot : ∀ weather peer category,
    (s.syncSnapshot env weather peer category).1 = (s'.syncSnapshot env weather peer category).1
  manifest : ∀ weather peer,
    (s.syncManifest env weather peer).1 = (s'.syncManifest env weather peer).1
  syncConfig : ∀ weather peer,
    (s.getSyncConfig env weather peer).1 = (s'.getSyncConfig env weather peer).1

/-- **No answer tells the secrets of the server** from others: whatever they were, the requests
that read would be answered alike. -/
def HidesSecrets : Prop := ∀ db', SameButSecrets s.db db' → SameAnswers env s { s with db := db' }

end Statement

/-! ## Each reader

The readers one by one.  Each filters the settings by its own list and shows the rest, so that
what differs only in the secrets looks alike if the list has them all. -/

section Readers

variable {db db' : Db}

/-- Rows that are alike look alike through a filter and a view that hide the difference. -/
theorem filter_map_congr {α β : Type} {R : α → α → Prop} {l l' : List α}
    (alike : List.Forall₂ R l l') {p : α → Bool} (same : ∀ x y, R x y → p x = p y) {g : α → β}
    (shown : ∀ x y, R x y → p x = true → g x = g y) :
    (l.filter p).map g = (l'.filter p).map g := by
  induction alike with
  | nil => rfl
  | @cons x y xs ys here later ih =>
      rw [List.filter_cons, List.filter_cons, ← same x y here]
      split
      next open' => rw [List.map_cons, List.map_cons, shown x y here open', ih]
      next => exact ih

/-- A setting is looked up alike. -/
theorem SameButSecrets.lookup (differ : SameButSecrets db db') (key : Str) :
    db.settings.lookup key = db'.settings.lookup key ∨
      key ∈ secretSettings ∧ ∃ value value', db.settings.lookup key = some value ∧
        db'.settings.lookup key = some value' ∧ value ≠ [] ∧ value' ≠ [] := by
  have alike := differ.settings
  unfold AList.lookup
  generalize db.settings.entries = entries at alike ⊢
  generalize db'.settings.entries = entries' at alike ⊢
  induction alike with
  | nil => exact Or.inl rfl
  | @cons x y xs ys here later ih =>
      obtain ⟨name, value⟩ := x
      obtain ⟨name', value'⟩ := y
      obtain ⟨rfl : name = name', values⟩ := here
      by_cases this : key = name
      · subst this
        rw [List.dlookup_cons_eq, List.dlookup_cons_eq]
        rcases values with rfl | ⟨secret, set, set'⟩
        · exact Or.inl rfl
        · exact Or.inr ⟨secret, value, value', rfl, rfl, set, set'⟩
      · rw [List.dlookup_cons_ne _ _ this, List.dlookup_cons_ne _ _ this]
        exact ih

/-- A setting that is not a secret is the same. -/
theorem SameButSecrets.lookup_of_not_mem (differ : SameButSecrets db db') {key : Str}
    (plain : key ∉ secretSettings) : db.settings.lookup key = db'.settings.lookup key := by
  rcases differ.lookup key with same | ⟨secret, -⟩
  · exact same
  · exact absurd secret plain

theorem mem_secretSettings {key : Str} :
    key ∈ secretSettings ↔
      hiddenSettings.contains key = true ∨ key = "cloudflare_api_token".toList := by
  have parts : secretSettings = hiddenSettings ++ ["cloudflare_api_token".toList] := rfl
  rw [List.contains_iff_mem, parts, List.mem_append, List.mem_singleton]

/-- **The settings** are shown alike: three secrets are left out, the fourth is masked. -/
theorem SameButSecrets.getSettings (differ : SameButSecrets db db') :
    db.getSettings = db'.getSettings := by
  unfold Db.getSettings
  congr 1
  refine filter_map_congr differ.settings (fun x y alike => by rw [alike.1]) ?_
  rintro ⟨key, value⟩ ⟨key', value'⟩ ⟨rfl : key = key', values⟩ shown
  have open' : hiddenSettings.contains key = false := by simpa using shown
  show (key, Json.string (if key = _ then _ else value)) =
    (key, Json.string (if key = _ then _ else value'))
  by_cases token : key = "cloudflare_api_token".toList
  · rw [if_pos token, if_pos token]
  · rw [if_neg token, if_neg token]
    rcases values with rfl | ⟨secret, -⟩
    · rfl
    · rcases mem_secretSettings.mp secret with hidden | masked
      · rw [open'] at hidden
        cases hidden
      · exact absurd masked token

/-- **The snapshots** are alike. -/
theorem SameButSecrets.syncSnapshot (differ : SameButSecrets db db') (c : SyncCategory) :
    RustBlocker.syncSnapshot db c = RustBlocker.syncSnapshot db' c := by
  have rest := differ.rest
  cases c with
  | settings => exact differ.getSettings
  | _ =>
      rw [← rest]
      rfl

/-- The manifests agree on every category but the settings. -/
theorem SameButSecrets.hashedLines_of_ne (differ : SameButSecrets db db') {c : SyncCategory}
    (other : c ≠ .settings) : db.hashedLines c = db'.hashedLines c := by
  have rest := differ.rest
  cases c with
  | settings => exact absurd rfl other
  | _ =>
      rw [← rest]
      rfl

/-- They agree on the settings too, if no secret that is hashed is set. -/
theorem SameButSecrets.hashedLines_settings (differ : SameButSecrets db db')
    (unset : ∀ key ∈ hashedSecrets, (db.settings.lookup key).getD [] = []) :
    db.hashedLines .settings = db'.hashedLines .settings := by
  have found : ∀ entry ∈ db.settings.entries, db.settings.lookup entry.1 = some entry.2 :=
    fun entry mem => AList.mem_lookup_iff.mpr mem
  have alike : List.Forall₂ (fun x y => SettingAlike x y ∧
      db.settings.lookup x.1 = some x.2) db.settings.entries db'.settings.entries := by
    refine (List.forall₂_iff_zip.mpr ⟨differ.settings.length_eq, fun {x y} mem => ?_⟩)
    exact ⟨(List.forall₂_iff_zip.mp differ.settings).2 mem, found x (List.of_mem_zip mem).1⟩
  have same := filter_map_congr (p := fun entry => !unhashedSettings.contains entry.1) (g := id)
    alike (fun x y both => by rw [both.1.1]) (by
      rintro ⟨key, value⟩ ⟨key', value'⟩ ⟨⟨rfl : key = key', values⟩, read⟩ shown
      rcases values with rfl | ⟨secret, set, -⟩
      · rfl
      · have empty := unset key (List.mem_filter.mpr ⟨secret, shown⟩)
        rw [read] at empty
        exact absurd empty set)
  rw [List.map_id, List.map_id] at same
  unfold Db.hashedLines
  rw [same]

end Readers

/-! ## A secret that is hashed

The hash is injective, so it is enough that the hashed texts differ.  They do for any two secrets
of different lengths, whatever the other settings are. -/

section Hashed

variable {db : Db} {key value : Str}

theorem length_hashedText (lines : List Str) :
    (hashedText lines).length = (lines.map fun line => line.len + 1).sum := by
  rw [hashedText, List.length_flatMap]
  congr 1
  refine List.map_congr_left fun line _ => ?_
  rw [List.length_append, Str.len]
  rfl

theorem len_append (a b : Str) : Str.len (a ++ b) = a.len + b.len := by
  rw [Str.len, Str.utf8_append, List.length_append]
  rfl

/-- The length of the hashed text of the settings. -/
theorem length_hashedText_settings (db : Db) :
    (hashedText (db.hashedLines .settings)).length =
      ((db.settings.entries.filter fun entry => !unhashedSettings.contains entry.1).map
        fun entry => entry.1.len + entry.2.len + 2).sum := by
  have perm := Str.sortBy_perm Sigma.fst
    (db.settings.entries.filter fun entry => !unhashedSettings.contains entry.1)
  rw [length_hashedText, Db.hashedLines, List.map_map, (perm.map _).sum_eq]
  congr 1
  refine List.map_congr_left fun entry _ => ?_
  have mark : Str.len ('=' :: entry.2) = 1 + entry.2.len := len_append ['='] entry.2
  show Str.len (entry.1 ++ '=' :: entry.2) + 1 = _
  rw [len_append, mark]
  omega

/-- A longer secret makes the hashed text longer. -/
theorem exists_longer (hashed : key ∈ hashedSecrets)
    (stored : db.settings.lookup key = some value) (set : value ≠ []) :
    ∃ db', SameButSecrets db db' ∧
      (hashedText (db.hashedLines .settings)).length <
        (hashedText (db'.hashedLines .settings)).length := by
  obtain ⟨secret, shown⟩ := List.mem_filter.mp hashed
  obtain ⟨before, after, split⟩ := List.append_of_mem (AList.mem_lookup_iff.mp stored)
  have keys : (before ++ ⟨key, 'x' :: value⟩ :: after : List (Sigma fun _ : Str => Str)).keys =
      db.settings.entries.keys := by
    rw [split]
    simp [List.keys]
  have nodup : (before ++ ⟨key, 'x' :: value⟩ :: after :
      List (Sigma fun _ : Str => Str)).NodupKeys := by
    have distinct := db.settings.nodupKeys
    rw [List.NodupKeys] at distinct ⊢
    rwa [keys]
  refine ⟨{ db with settings := ⟨_, nodup⟩ }, ⟨?_, rfl⟩, ?_⟩
  · show List.Forall₂ SettingAlike db.settings.entries (before ++ ⟨key, 'x' :: value⟩ :: after)
    have alike : ∀ entries, List.Forall₂ SettingAlike entries entries :=
      fun entries => List.forall₂_same.mpr fun entry _ => ⟨rfl, Or.inl rfl⟩
    rw [split]
    exact List.rel_append (alike before)
      (.cons ⟨rfl, Or.inr ⟨secret, set, List.cons_ne_nil _ _⟩⟩ (alike after))
  · rw [length_hashedText_settings, length_hashedText_settings, split]
    have longer : Str.len ('x' :: value) = 1 + value.len := len_append ['x'] value
    have one : ∀ (more : List (Sigma fun _ : Str => Str)) (text : Str),
        (List.filter (fun entry => !unhashedSettings.contains entry.1) (⟨key, text⟩ :: more)) =
          ⟨key, text⟩ :: List.filter (fun entry => !unhashedSettings.contains entry.1) more :=
      fun more text => List.filter_cons_of_pos shown
    show _ < (List.map _ (List.filter _ (before ++ ⟨key, 'x' :: value⟩ :: after))).sum
    rw [List.filter_append, List.filter_append, one, one]
    simp only [List.map_append, List.map_cons, List.sum_append, List.sum_cons, longer]
    omega

end Hashed

/-! ## The two halves

The answers hide the secrets if none that is hashed is set, and do not otherwise, by a longer
secret. The activity log shows every text that is saved, secret or not. -/

section Halves

variable {Net : Type} {env : ApiEnv Net}

/-- Handlers with one answer have one answer behind `check_acl`. -/
theorem guarded_congr {s s' : WebServer Net} (acl : s.acl = s'.acl) {peer : Option IpAddr}
    {handler handler' : Reply Net} (same : handler.1 = handler'.1) :
    (s.guarded env peer handler).1 = (s'.guarded env peer handler').1 := by
  have checked : s.checkAcl env peer = s'.checkAcl env peer := by
    unfold WebServer.checkAcl
    rw [acl]
  unfold WebServer.guarded
  rw [checked]
  split
  · exact same
  · rfl

theorem reading_congr (weather : ApiWeather) (s s' : WebServer Net) {body body' : Json}
    (same : body = body') : (reading weather s body).1 = (reading weather s' body').1 := by
  unfold reading
  rw [same]
  split <;> rfl

/-- Servers that differ in the secrets only answer alike if no secret that is hashed is
set. -/
theorem sameAnswers_of_unset {s s' : WebServer Net} (differ : SameButSecrets s.db s'.db)
    (acl : s.acl = s'.acl)
    (unset : ∀ key ∈ hashedSecrets, (s.db.settings.lookup key).getD [] = []) :
    SameAnswers env s s' where
  settings weather peer := guarded_congr acl (reading_congr weather _ _ differ.getSettings)
  snapshot weather peer category := by
    refine guarded_congr acl ?_
    cases dbBlocking weather (oneStatement weather.select) with
    | error error => rfl
    | ok =>
        cases SyncCategory.ofName? category with
        | none => rfl
        | some c => exact congrArg Response.ok (differ.syncSnapshot c)
  manifest weather peer := by
    have digests : ∀ c, RustBlocker.syncManifest env.sha s.db c =
        RustBlocker.syncManifest env.sha s'.db c := by
      intro c
      by_cases which : c = .settings
      -- the one category that hashes secrets: all of them are unset
      · subst which
        rw [RustBlocker.syncManifest, RustBlocker.syncManifest,
          differ.hashedLines_settings unset]
      · rw [RustBlocker.syncManifest, RustBlocker.syncManifest, differ.hashedLines_of_ne which]
    refine guarded_congr acl (reading_congr weather _ _ ?_)
    simp only [digests]
  syncConfig weather peer := by
    have plain : ∀ key ∈ ["sync_enabled".toList, "sync_master".toList,
        "sync_interval_secs".toList], s.getSetting weather key = s'.getSetting weather key := by
      intro key mem
      have open' : ∀ key ∈ ["sync_enabled".toList, "sync_master".toList,
        "sync_interval_secs".toList], key ∉ secretSettings := by decide
      unfold WebServer.getSetting Db.getSetting
      rw [differ.lookup_of_not_mem (open' key mem)]
    -- of the password only whether it is set is answered
    have set : ((s.getSetting weather "sync_password".toList).getD []).isEmpty =
        ((s'.getSetting weather "sync_password".toList).getD []).isEmpty := by
      unfold WebServer.getSetting Db.getSetting
      split
      · rcases differ.lookup "sync_password".toList with same | ⟨-, value, value', read, read',
          nonempty, nonempty'⟩
        · rw [same]
        · rw [read, read', Option.getD_some, Option.getD_some,
            List.isEmpty_eq_false_iff.mpr nonempty, List.isEmpty_eq_false_iff.mpr nonempty']
      · rfl
    unfold WebServer.getSyncConfig
    refine guarded_congr acl (congrArg Response.ok ?_)
    rw [plain "sync_enabled".toList (by decide), plain "sync_master".toList (by decide),
      plain "sync_interval_secs".toList (by decide), set]

/-- **The answers hide the secrets exactly if no secret that the manifest hashes is set.** -/
theorem hidesSecrets_iff (injective : Function.Injective env.sha) (s : WebServer Net) :
    HidesSecrets env s ↔ ∀ key ∈ hashedSecrets, (s.db.settings.lookup key).getD [] = [] := by
  constructor
  · intro hides key hashed
    by_contra set
    obtain ⟨value, stored⟩ : ∃ value, s.db.settings.lookup key = some value := by
      refine Option.ne_none_iff_exists'.mp fun unset => set ?_
      rw [unset]
      rfl
    rw [stored] at set
    obtain ⟨db', differ, longer⟩ := exists_longer hashed stored set
    have same := (hides db' differ).manifest {} none
    -- the digest of the settings is the first member of the manifest
    have bodies : Json.object [("hashes".toList, .object (SyncCategory.all.map fun category =>
          (category.name, .string (RustBlocker.syncManifest env.sha s.db category))))] =
        Json.object [("hashes".toList, .object (SyncCategory.all.map fun category =>
          (category.name, .string (RustBlocker.syncManifest env.sha db' category))))] :=
      congrArg Response.body same
    simp only [Json.object.injEq, List.cons.injEq, Prod.mk.injEq, true_and, and_true,
      SyncCategory.all, List.map_cons, Json.string.injEq] at bodies
    have text := injective bodies.1
    rw [text] at longer
    exact Nat.lt_irrefl _ longer
  · exact fun unset db' differ => sameAnswers_of_unset differ rfl unset

/-- A secret is stored as it is. -/
theorem parseSetting_secret {key : Str} (secret : key ∈ secretSettings) (value : Str) :
    WebServer.parseSetting env key value = .ok .other := by
  simp only [secretSettings, List.mem_cons, List.not_mem_nil, or_false] at secret
  rcases secret with rfl | rfl | rfl | rfl <;> rfl

/-- **A saved secret is published exactly if it is saved.** -/
theorem published_same_iff (s : WebServer Net) (weather : ApiWeather) (peer : Option IpAddr)
    (now : Int) {key : Str} (secret : key ∈ secretSettings) :
    (∀ value value', published env s weather peer now key value =
        published env s weather peer now key value') ↔
      ¬ (s.checkAcl env peer = true ∧ weather.task = none ∧
        oneStatement (weather.set key) = .ok ()) := by
  constructor
  · rintro same ⟨allowed, calm, writes⟩
    have saved : ∀ value, published env s weather peer now key value =
        [.info now "settings".toList "Save Settings".toList
          ("Setting saved: ".toList ++ key ++ " = ".toList ++ value)] := by
      intro value
      unfold published
      rw [if_pos allowed, parseSetting_secret secret, dbBlocking_eq_ok.mpr ⟨calm, writes⟩]
      rfl
    -- two values are published as two texts
    have differ := same "a".toList "b".toList
    rw [saved, saved] at differ
    have message := congrArg ActivityEntry.message (List.cons.inj differ).1
    exact absurd (List.append_cancel_left message) (by decide)
  · intro refused value value'
    have silent : ∀ value, published env s weather peer now key value = [] := by
      intro value
      unfold published
      split
      next allowed =>
        rw [parseSetting_secret secret]
        simp only
        split
        · rfl
        next answered =>
          obtain ⟨calm, writes⟩ := dbBlocking_eq_ok.mp answered
          exact absurd ⟨allowed, calm, writes⟩ refused
      next => rfl
    rw [silent, silent]

end Halves

/-! ## Both halves

The two halves are put together, and are shown at a server with a password of the synchronisation.
-/

/-- **The secrets stay secret exactly if none that the manifest hashes is set and none is
saved.** -/
theorem secrets_hidden_iff {Net : Type} (env : ApiEnv Net)
    (injective : Function.Injective env.sha) (s : WebServer Net) :
    (HidesSecrets env s ↔
        ∀ key ∈ hashedSecrets, (s.db.settings.lookup key).getD [] = []) ∧
      ∀ weather peer now, ∀ key ∈ secretSettings,
        (∀ value value', published env s weather peer now key value =
            published env s weather peer now key value') ↔
          ¬ (s.checkAcl env peer = true ∧ weather.task = none ∧
            oneStatement (weather.set key) = .ok ()) :=
  ⟨hidesSecrets_iff injective s, fun weather peer now _ secret =>
    published_same_iff s weather peer now secret⟩

theorem plainEnv_sha_injective : Function.Injective plainEnv.sha := by
  refine List.map_injective_iff.mpr fun b b' same => ?_
  have value : ∀ b : UInt8, (Char.ofNat b.toNat).toNat = b.toNat := by
    intro b
    have small := b.toNat_lt
    rw [Char.toNat_ofNat, if_pos (Or.inl (by omega))]
  refine UInt8.toNat_inj.mp ?_
  rw [← value b, ← value b', same]

theorem secrets_hidden_iff_oneAddress :
    (HidesSecrets plainEnv oneAddressServer ↔
        ∀ key ∈ hashedSecrets, (oneAddressServer.db.settings.lookup key).getD [] = []) ∧
      ∀ weather peer now, ∀ key ∈ secretSettings,
        (∀ value value', published plainEnv oneAddressServer weather peer now key value =
            published plainEnv oneAddressServer weather peer now key value') ↔
          ¬ (oneAddressServer.checkAcl plainEnv peer = true ∧ weather.task = none ∧
            oneStatement (weather.set key) = .ok ()) :=
  secrets_hidden_iff plainEnv plainEnv_sha_injective oneAddressServer

/-- A server with a password of the synchronisation. -/
def syncedServer (password : Str) : WebServer IpAddr where
  db := ({} : Db).setSetting "sync_password".toList password
  key := []

/-- **Two passwords of the synchronisation**: the digests differ, and so do the entries of the
log when the one or the other is saved. -/
theorem not_secrets_hidden :
    SameButSecrets (syncedServer "one".toList).db (syncedServer "two".toList).db ∧
      syncManifest plainEnv.sha (syncedServer "one".toList).db .settings ≠
        syncManifest plainEnv.sha (syncedServer "two".toList).db .settings ∧
      ¬ HidesSecrets plainEnv (syncedServer "one".toList) ∧
      published plainEnv (syncedServer []) {} none 0 "sync_password".toList "one".toList ≠
        published plainEnv (syncedServer []) {} none 0 "sync_password".toList "two".toList := by
  refine ⟨⟨.cons ⟨rfl, Or.inr ⟨by decide, by decide, by decide⟩⟩ .nil, rfl⟩, by decide,
    fun hides => ?_, by decide⟩
  have unset := (hidesSecrets_iff plainEnv_sha_injective _).mp hides "sync_password".toList
    (by decide)
  revert unset
  decide

end RustBlocker

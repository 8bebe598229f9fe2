import RustBlocker.Startup

/-!
# A new password from the command line

`rustblocker --genpass` makes a password, stores its hash and a new session secret, and prints the
password at the end.

* **Two statements** store the hash and the secret, each committed on its own, and each is read
  back before the command goes on.
* **A command that ends early** has printed no password.  If the hash was stored by then, the old
  password is gone and nobody knows the new one.

`genpass_whole_iff` says when the command does all or nothing.

The failures are independent of each other: a write may fail, be made and not be readable, or be
read back as something else, for the hash and for the secret.  The condition names the ways in
which the command can get past the first write and not to the end, and there are no others.  Of
the library that hashes two things are assumed, that a hash verifies the password it was made of,
and that a new hash or secret is not the stored one; without the second a command could fail in
the middle and leave everything as it was by chance.
-/

namespace RustBlocker

/-- What the command meets: the calls of the database, the random bytes, the hash, and the reads
that check what was stored. -/
structure GenpassWeather where
  dbPath : Str := "rustblocker.db".toList
  seed : Plan SeedCall := .clear
  /-- The result of `generate_password`. -/
  password : Str
  /-- The result of `hash_password`. -/
  hashed : Except Str Str
  /-- The result of `generate_secret`. -/
  secret : Bytes
  /-- How the write of a setting fails. -/
  set : Str → Plan StatementCall := fun _ => .clear
  /-- Which settings can be read back. -/
  reads : Str → Bool := fun _ => true

/-- `set_setting` -/
def Db.trySetSetting (fails : Plan StatementCall) (db : Db) (key value : Str) :
    Except DbError Db := do
  oneStatement fails
  return db.setSetting key value

section Command

variable (weather : GenpassWeather)

/-- The second half of `--genpass`: the session secret. -/
def rotateSecret (db : Db) : Except Str Str × Db :=
  let encodedSecret := encodeSecret weather.secret
  match db.trySetSetting (weather.set sessionSecretKey) sessionSecretKey encodedSecret with
  | .error _ => (.error ("Failed to save session secret to ".toList ++ weather.dbPath), db)
  | .ok db =>
      let storedSecret := db.getSetting (weather.reads sessionSecretKey) sessionSecretKey
      if storedSecret = some encodedSecret then (.ok weather.password, db)
      else
        (.error ("Session secret was not persisted to ".toList ++ weather.dbPath ++
          ". Check file permissions or run as the service user.".toList), db)

/-- `--genpass`: the password that is printed, and the database. -/
def genpass (db : Db) : Except Str Str × Db :=
  match db.seedDefaults weather.seed with
  | (.error _, db) => (.error "Failed to seed defaults".toList, db)
  | (.ok (), db) =>
      match weather.hashed with
      | .error error => (.error ("failed to hash password: ".toList ++ error), db)
      | .ok hash =>
          match db.trySetSetting (weather.set passwordHashKey) passwordHashKey hash with
          | .error _ => (.error ("Failed to save admin password to ".toList ++ weather.dbPath), db)
          | .ok db =>
              let storedHash := db.getSetting (weather.reads passwordHashKey) passwordHashKey
              if storedHash = some hash then rotateSecret weather db
              else
                (.error ("Password hash was not persisted to ".toList ++ weather.dbPath ++
                  ". Check file permissions or run as the service user.".toList), db)

/-- **All or nothing**: a command that fails has left the hash and the secret alone, and one that
succeeds has stored a hash of the printed password and a new secret. -/
def Whole (verify : Str → Str → Bool) (before : Db) : Except Str Str × Db → Prop
  | (.error _, after) =>
      after.settings.lookup passwordHashKey = before.settings.lookup passwordHashKey ∧
        after.settings.lookup sessionSecretKey = before.settings.lookup sessionSecretKey
  | (.ok password, after) =>
      (∃ hash, after.settings.lookup passwordHashKey = some hash ∧ verify password hash = true) ∧
        ∃ secret, after.settings.lookup sessionSecretKey = some secret ∧
          before.settings.lookup sessionSecretKey ≠ some secret

/-- The command gets as far as to store the hash.  From here on the old password is of no use. -/
def StoresHash (db : Db) : Prop :=
  (db.seedDefaults weather.seed).1 = .ok () ∧ (∃ hash, weather.hashed = .ok hash) ∧
    oneStatement (weather.set passwordHashKey) = .ok ()

/-- No step fails after the write of the hash: neither reading it back, nor making and storing the
secret and reading that back. -/
def Completes : Prop :=
  weather.reads passwordHashKey = true ∧ oneStatement (weather.set sessionSecretKey) = .ok () ∧
    weather.reads sessionSecretKey = true

end Command

/-! ## Where it ends

The command is followed to the first call that fails.  There are two cases, before the hash is
stored and after, and each is one lemma. -/

section Ends

variable {weather : GenpassWeather} {db : Db}

theorem trySetSetting_eq_ok {fails : Plan StatementCall} {key value : Str} {db' : Db} :
    db.trySetSetting fails key value = .ok db' ↔
      oneStatement fails = .ok () ∧ db.setSetting key value = db' := by
  unfold Db.trySetSetting
  rcases oneStatement fails with error | ⟨⟩
  · exact ⟨fun impossible => (by cases impossible), fun both => (by cases both.1)⟩
  · exact ⟨fun same => ⟨rfl, Except.ok.inj same⟩, fun both => congrArg Except.ok both.2⟩

/-- What was just stored is read back, unless the read fails. -/
theorem getSetting_setSetting {reads : Bool} {key value : Str} :
    (db.setSetting key value).getSetting reads key = some value ↔ reads = true := by
  unfold Db.getSetting
  rw [Option.ite_none_right_eq_some]
  exact and_iff_left (AList.lookup_insert _)

/-- Seeding does not touch the credentials. -/
theorem lookup_seedDefaults_credential {key : Str} (mem : key ∈ [passwordHashKey, sessionSecretKey])
    (fails : Plan SeedCall) (db : Db) :
    (db.seedDefaults fails).2.settings.lookup key = db.settings.lookup key := by
  refine Db.lookup_seedDefaults_of_not_mem ?_ db
  revert key
  decide

/-- **Before the hash is stored** a failure changes nothing. -/
theorem genpass_of_not_storesHash (early : ¬ StoresHash weather db) :
    ∃ error, genpass weather db = (.error error, (db.seedDefaults weather.seed).2) := by
  unfold genpass
  rcases seeded : db.seedDefaults weather.seed with ⟨error | ⟨⟩, after⟩
  · exact ⟨_, rfl⟩
  · simp only
    cases hashed : weather.hashed with
    | error error => exact ⟨_, rfl⟩
    | ok hash =>
        simp only
        cases written : after.trySetSetting (weather.set passwordHashKey) passwordHashKey hash with
        | error error => exact ⟨_, rfl⟩
        | ok stored =>
            refine absurd ⟨?_, ⟨hash, hashed⟩, (trySetSetting_eq_ok.mp written).1⟩ early
            rw [seeded]

/-- **After the hash is stored** the command goes on with it. -/
theorem genpass_of_storesHash (stores : StoresHash weather db) :
    ∃ hash, weather.hashed = .ok hash ∧
      genpass weather db =
        if weather.reads passwordHashKey = true then
          rotateSecret weather ((db.seedDefaults weather.seed).2.setSetting passwordHashKey hash)
        else
          (.error ("Password hash was not persisted to ".toList ++ weather.dbPath ++
            ". Check file permissions or run as the service user.".toList),
            (db.seedDefaults weather.seed).2.setSetting passwordHashKey hash) := by
  obtain ⟨ok, ⟨hash, hashed⟩, writes⟩ := stores
  refine ⟨hash, hashed, ?_⟩
  unfold genpass
  generalize db.seedDefaults weather.seed = seeded at ok ⊢
  obtain ⟨result, after⟩ := seeded
  simp only at ok
  subst ok
  have written :=
    trySetSetting_eq_ok.mpr ⟨writes, (rfl : after.setSetting passwordHashKey hash = _)⟩
  simp only [hashed, written]
  by_cases reads : weather.reads passwordHashKey = true
  · rw [if_pos (getSetting_setSetting.mpr reads), if_pos reads]
  · rw [if_neg (mt getSetting_setSetting.mp reads), if_neg reads]

/-- The second half ends well exactly if its two steps do. -/
theorem rotateSecret_outcome (db : Db) :
    (oneStatement (weather.set sessionSecretKey) = .ok () ∧
        weather.reads sessionSecretKey = true ∧
        rotateSecret weather db =
          (.ok weather.password, db.setSetting sessionSecretKey (encodeSecret weather.secret))) ∨
      ¬ (oneStatement (weather.set sessionSecretKey) = .ok () ∧
          weather.reads sessionSecretKey = true) ∧
        ∃ error after, rotateSecret weather db = (.error error, after) ∧
          after.settings.lookup passwordHashKey = db.settings.lookup passwordHashKey := by
  unfold rotateSecret
  simp only
  cases written : db.trySetSetting (weather.set sessionSecretKey) sessionSecretKey
      (encodeSecret weather.secret) with
  | error error =>
      refine Or.inr ⟨?_, _, _, rfl, rfl⟩
      rintro ⟨writes, -⟩
      rw [trySetSetting_eq_ok.mpr ⟨writes, rfl⟩] at written
      cases written
  | ok stored =>
      obtain ⟨writes, rfl⟩ := trySetSetting_eq_ok.mp written
      simp only
      by_cases reads : weather.reads sessionSecretKey = true
      · left
        refine ⟨writes, reads, ?_⟩
        rw [if_pos (getSetting_setSetting.mpr reads)]
      · right
        refine ⟨fun both => reads both.2, ?_⟩
        rw [if_neg (mt getSetting_setSetting.mp reads)]
        refine ⟨_, _, rfl, AList.lookup_insert_ne ?_⟩
        decide

end Ends

/-! ## When it is all or nothing

A failure before the hash is stored changes nothing that matters, as what was seeded is no
credential.  After that, only a command that ends well is in order. -/

/-- **The command does all or nothing exactly if no step fails after the hash is stored.**
The hash of a password verifies it, and no hash or secret is made twice. -/
theorem genpass_whole_iff (verify : Str → Str → Bool) (weather : GenpassWeather) (db : Db)
    (verifies : ∀ hash, weather.hashed = .ok hash → verify weather.password hash = true)
    (salted : ∀ hash, weather.hashed = .ok hash →
      db.settings.lookup passwordHashKey ≠ some hash)
    (random : db.settings.lookup sessionSecretKey ≠ some (encodeSecret weather.secret)) :
    Whole verify db (genpass weather db) ↔ (StoresHash weather db → Completes weather) := by
  have hashKept : (db.seedDefaults weather.seed).2.settings.lookup passwordHashKey = _ :=
    lookup_seedDefaults_credential (by decide) weather.seed db
  have secretKept : (db.seedDefaults weather.seed).2.settings.lookup sessionSecretKey = _ :=
    lookup_seedDefaults_credential (by decide) weather.seed db
  by_cases stores : StoresHash weather db
  · obtain ⟨hash, hashed, runs⟩ := genpass_of_storesHash stores
    have replaced : ∀ error after, after.settings.lookup passwordHashKey = some hash →
        ¬ Whole verify db (.error error, after) := by
      intro error after stored whole
      exact salted hash hashed (whole.1.symm.trans stored)
    have stored : ((db.seedDefaults weather.seed).2.setSetting passwordHashKey hash).settings.lookup
        passwordHashKey = some hash := AList.lookup_insert _
    rw [runs]
    -- the hash is stored from here on: what fails now leaves the new password to the old key
    by_cases reads : weather.reads passwordHashKey = true
    · rw [if_pos reads]
      rcases @rotateSecret_outcome weather
          ((db.seedDefaults weather.seed).2.setSetting passwordHashKey hash) with
        ⟨writes, readsBack, ends⟩ | ⟨fails, error, after, ends, same⟩
      · rw [ends]
        refine ⟨fun _ _ => ⟨reads, writes, readsBack⟩, fun _ => ⟨⟨hash, ?_, verifies hash hashed⟩,
          encodeSecret weather.secret, AList.lookup_insert _, random⟩⟩
        exact (AList.lookup_insert_ne (by decide)).trans stored
      · rw [ends]
        refine ⟨fun whole => absurd whole (replaced _ _ (same.trans stored)), fun completes => ?_⟩
        obtain ⟨-, writes, readsBack⟩ := completes stores
        exact absurd ⟨writes, readsBack⟩ fails
    · rw [if_neg reads]
      refine ⟨fun whole => absurd whole (replaced _ _ stored), fun completes => ?_⟩
      exact absurd (completes stores).1 reads
  -- nothing but the defaults was written
  · obtain ⟨error, ends⟩ := genpass_of_not_storesHash stores
    rw [ends]
    exact ⟨fun _ stores' => absurd stores' stores, fun _ => ⟨hashKept, secretKept⟩⟩

/-- An administrator with a password. -/
def oldAccount : Db :=
  (({} : Db).setSetting passwordHashKey "old".toList).setSetting sessionSecretKey "secret".toList

/-- A command whose write of the secret fails. -/
def failingSecret : GenpassWeather where
  password := "new".toList
  hashed := .ok "hash of new".toList
  secret := []
  set key call :=
    if key = sessionSecretKey ∧ call = .statement then some "disk full".toList else none

/-- **The command fails, and the old password is gone.** -/
theorem not_whole_failingSecret :
    (genpass failingSecret oldAccount).1 =
        .error "Failed to save session secret to rustblocker.db".toList ∧
      oldAccount.settings.lookup passwordHashKey = some "old".toList ∧
      (genpass failingSecret oldAccount).2.settings.lookup passwordHashKey =
        some "hash of new".toList ∧
      (genpass failingSecret oldAccount).2.settings.lookup sessionSecretKey =
        some "secret".toList ∧
      ∀ verify, ¬ Whole verify oldAccount (genpass failingSecret oldAccount) := by
  have fails : (genpass failingSecret oldAccount).1 =
      .error "Failed to save session secret to rustblocker.db".toList := by decide +kernel
  have old : oldAccount.settings.lookup passwordHashKey = some "old".toList := by decide
  have new : (genpass failingSecret oldAccount).2.settings.lookup passwordHashKey =
      some "hash of new".toList := by decide +kernel
  refine ⟨fails, old, new, by decide +kernel, fun verify whole => ?_⟩
  generalize genpass failingSecret oldAccount = ends at fails new whole
  obtain ⟨result, after⟩ := ends
  simp only at fails new
  subst fails
  have same := new.symm.trans (whole.1.trans old)
  exact absurd same (by decide)

/-- A command that meets no failure, where a password is its own hash. -/
theorem genpass_whole_iff_clear :
    let weather : GenpassWeather :=
      { password := "new".toList, hashed := .ok "new".toList, secret := [] }
    Whole (fun password hash => password == hash) oldAccount (genpass weather oldAccount) ↔
      (StoresHash weather oldAccount → Completes weather) :=
  genpass_whole_iff _ _ _ (fun hash same => by cases same; decide)
    (fun hash same => by cases same; decide) (by decide)

end RustBlocker

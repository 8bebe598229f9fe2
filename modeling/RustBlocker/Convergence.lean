import RustBlocker.Mirroring
import RustBlocker.SyncLoop

/-!
# A replica and its master

The sync loop of a replica next to a master whose database is edited at any time. No request and
no database call fails, and only the loop writes the database of the replica.

* **Reads at separate moments.**  `sync_manifest` reads one category after the other, outside a
  transaction, so an edit may come between any two of them.  A snapshot is read when it is asked
  for, and applied later.
* **Edits** replace the database of the master by any other.

The hash a replica records is the one of the manifest, while the rows it stores are those of the
snapshot.  When the master has changed in between the two belong to different moments, and when it
then changes back its digest is the recorded one again: the replica holds other rows than the
master and does not notice. `converged_of_settled` gives the conditions on the steps under which
this cannot happen.

## The conditions

`Settled` is asked of each step, in the state before it.  A snapshot is fetched while the master
still has the digest that the manifest gave.  Between an apply and its record the replica has the
new rows already and still the old hash, so that in this time the master must not be at the digest
that is recorded from before.  And the master holds plain rows only, whose texts are free of the
characters that separate them in the digest.  An edit that comes at any other time is allowed, and
edits without end are.

The hash function is injective on digests here.  Without that nothing can be said, since a replica
sees only hashes; the digests themselves are not injective on rows, and that is why rows have to
be plain.  Runs that fail on either side are the subject of `RustBlocker.SyncLoop`.

`Unedited` is the special case that is wanted most: nobody edits the master while a round of the
loop is under way.  Such steps are settled, whatever happened before the round.
-/

namespace RustBlocker

/-- A master and a replica of it, with the answer to the manifest as far as it has been read. -/
structure Mirror where
  master : Db := {}
  /-- The categories of the manifest that have been read so far. -/
  answer : List (Str × Str) := []
  replica : Replica := {}

/-- A step of the master or of the replica.  The master may write anything, at any time. -/
inductive MirrorAction where
  | edit (db : Db)
  /-- `sync_manifest` reads its next category. -/
  | read
  /-- The manifest arrives; `order` is the one in which the map is iterated. -/
  | manifest (order : Reordering (Str × Str))
  /-- The snapshot of the next category is read and arrives. -/
  | snapshot
  | login
  | skip
  | apply
  | record
  | finish (now : Nat)

section Mirror

variable (u : CaseTables) (hash : Bytes → UInt64) (sha : Bytes → Str)

/-- A step of the replica. -/
def Mirror.loop (m : Mirror) (a : LoopAction) : Option Mirror :=
  (m.replica.step u hash a).map fun replica => { m with replica := replica }

/-- One step of the master or of the replica. -/
def Mirror.step (m : Mirror) : MirrorAction → Option Mirror
  | .edit db => some { m with master := db }
  | .read =>
      match m.replica.point, SyncCategory.all[m.answer.length]? with
      | .poll, some c =>
          some { m with answer := m.answer ++ [(c.name, syncManifest sha m.master c)] }
      | _, _ => none
  | .manifest order =>
      if m.answer.length = SyncCategory.all.length then
        { m with answer := [] }.loop u hash (.manifest (some (order.apply m.answer)))
      else none
  | .snapshot =>
      match m.replica.point with
      | .diff ((category, _) :: _) =>
          (SyncCategory.ofName? category).bind fun c =>
            m.loop u hash (.snapshot (some (syncSnapshot m.master c)))
      | _ => none
  | .login => m.loop u hash (.login true)
  | .skip => m.loop u hash .skip
  | .apply => m.loop u hash (.apply {})
  | .record => m.loop u hash .record
  | .finish now => m.loop u hash (.finish now)

/-- **The machine of a master and its replica.** -/
def mirror : StateMachine Mirror MirrorAction where
  init m := (syncLoop u hash).init m.replica ∧ m.answer = []
  step := Mirror.step u hash sha

end Mirror

/-! ## Convergence

The recorded hash says what the replica was told; the digest of the manifest says what the master
has now.  Where they are the same the rows should be the same, and `Settled` is the condition on a
step under which they are. -/

section Convergence

variable (u : CaseTables) (hash : Bytes → UInt64) (sha : Bytes → Str)

/-- **Convergence**: where the recorded hash is the one the manifest has now, the rows of the
replica are the rows of the master.  This is what the loop relies on when it skips a category. -/
def Converged (m : Mirror) : Prop :=
  ∀ c : Mirrored, m.replica.known c.category.name = some (syncManifest sha m.master c.category) →
    SameRows m.replica.site.db m.master c

/-- **A settled step.**  A snapshot is fetched while the master still has the digest
of the manifest; from an apply to its record the master is not at the digest that
is recorded for the category; and the rows of the master stay plain. -/
def Settled (m : Mirror) : MirrorAction → Prop
  | .edit db =>
      (∀ c, db.Plain c) ∧
        ∀ (c : Mirrored) hash' written rest,
          m.replica.point = .record c.category.name hash' written rest →
          m.replica.known c.category.name ≠ some (syncManifest sha db c.category)
  | .snapshot =>
      ∀ (c : Mirrored) hash' rest, m.replica.point = .diff ((c.category.name, hash') :: rest) →
        syncManifest sha m.master c.category = hash'
  | .apply =>
      ∀ (c : Mirrored) hash' data rest,
        m.replica.point = .apply c.category.name hash' data rest →
        m.replica.known c.category.name ≠ some (syncManifest sha m.master c.category)
  | _ => True

/-- What holds of a run whose steps are all settled: the replica hashes to what it
has recorded, to what it fetched, or to what it is about to record. -/
structure Consistent (m : Mirror) : Prop where
  plain : ∀ c, m.master.Plain c
  known : ∀ (c : Mirrored) hash', m.replica.known c.category.name = some hash' →
    (∀ hash'' written rest, m.replica.point ≠ .record c.category.name hash'' written rest) →
    syncManifest sha m.replica.site.db c.category = hash' ∧ m.replica.site.db.Plain c
  fetched : ∀ (c : Mirrored) hash' data rest,
    m.replica.point = .apply c.category.name hash' data rest →
    ∃ db : Db, data = syncSnapshot db c.category ∧
      syncManifest sha db c.category = hash' ∧ db.Plain c
  applied : ∀ (c : Mirrored) hash' written rest,
    m.replica.point = .record c.category.name hash' written rest →
    syncManifest sha m.replica.site.db c.category = hash' ∧ m.replica.site.db.Plain c ∧
      m.replica.known c.category.name ≠ some (syncManifest sha m.master c.category)

/-- **Consistency gives convergence**: one digest, and plain rows on both sides. -/
theorem Consistent.converged {m : Mirror} (injective : Function.Injective sha)
    (consistent : Consistent sha m) : Converged sha m := by
  intro c recorded
  by_cases pending : ∃ hash' written rest,
      m.replica.point = .record c.category.name hash' written rest
  · obtain ⟨hash', written, rest, here⟩ := pending
    exact absurd recorded (consistent.applied c hash' written rest here).2.2
  have away : ∀ hash' written rest,
      m.replica.point ≠ .record c.category.name hash' written rest :=
    fun hash' written rest here => pending ⟨hash', written, rest, here⟩
  obtain ⟨same, plain⟩ := consistent.known c _ recorded away
  exact sameRows_of_syncManifest_eq injective plain (consistent.plain c) same

/-! ## One step

Consistency is the invariant, and it is stronger than convergence: it also speaks of a snapshot
that has been fetched and not applied, and of one that has been applied and not recorded. -/

/-- A point at which no category is between its fetch and its record. -/
def LoopPoint.Idle : LoopPoint → Prop
  | .apply .. | .record .. => False
  | _ => True

/-- The steps between two categories change no row and lead to no apply. -/
theorem Replica.step_idle {r t : Replica} {a : LoopAction}
    (idle : a = .skip ∨ (∃ now, a = .finish now) ∨ (∃ accepted, a = .login accepted) ∨
      ∃ hashes, a = .manifest hashes)
    (step : r.step u hash a = some t) :
    t.site = r.site ∧ (t.known = r.known ∨ t.known = fun _ => none) ∧
      r.point.Idle ∧ t.point.Idle := by
  rcases idle with rfl | ⟨now, rfl⟩ | ⟨accepted, rfl⟩ | ⟨hashes, rfl⟩
  all_goals
    simp only [Replica.step] at step
    split at step
  · next here =>
      split at step
      · cases step
        exact ⟨rfl, Or.inl rfl, by rw [here]; trivial, trivial⟩
      · cases step
  · cases step
  · next here =>
      cases step
      exact ⟨rfl, Or.inl rfl, by rw [here]; trivial, trivial⟩
  · cases step
  · next here =>
      split at step
      · cases step
        exact ⟨rfl, Or.inr rfl, by rw [here]; trivial, trivial⟩
      · cases step
        exact ⟨rfl, Or.inr rfl, by rw [here]; trivial, by rw [here]; trivial⟩
  · cases step
  · next here =>
      cases step
      exact ⟨rfl, Or.inl rfl, by rw [here]; trivial, trivial⟩
  · next here =>
      cases step
      exact ⟨rfl, Or.inl rfl, by rw [here]; trivial, trivial⟩
  · cases step

variable {sha}

/-- Between two categories consistency asks for the recorded hashes only. -/
theorem Consistent.idle {m t : Mirror} (consistent : Consistent sha m)
    (master : t.master = m.master) (site : t.replica.site = m.replica.site)
    (known : t.replica.known = m.replica.known ∨ t.replica.known = fun _ => none)
    (before : m.replica.point.Idle) (after : t.replica.point.Idle) : Consistent sha t where
  plain := by
    rw [master]
    exact consistent.plain
  known := by
    intro c hash' recorded _
    rw [site]
    rcases known with same | unknown
    · rw [same] at recorded
      refine consistent.known c hash' recorded fun _ _ _ here => ?_
      rw [here] at before
      exact before
    · rw [unknown] at recorded
      cases recorded
  fetched := by
    intro c hash' data rest here
    rw [here] at after
    exact after.elim
  applied := by
    intro c hash' written rest here
    rw [here] at after
    exact after.elim

/-- A step of the loop is one of its replica. -/
theorem Mirror.loop_eq_some {m t : Mirror} {a : LoopAction} (step : m.loop u hash a = some t) :
    ∃ replica, m.replica.step u hash a = some replica ∧ t = { m with replica := replica } := by
  obtain ⟨replica, one, rfl⟩ := Option.map_eq_some_iff.mp step
  exact ⟨replica, one, rfl⟩

/-- **A fetch** of a settled master. -/
theorem Consistent.snapshot {m t : Mirror} (consistent : Consistent sha m)
    (settled : Settled sha m .snapshot) (step : m.step u hash sha .snapshot = some t) :
    Consistent sha t := by
  simp only [Mirror.step] at step
  split at step
  next category hash' rest here =>
    obtain ⟨k, known, step⟩ := Option.bind_eq_some_iff.mp step
    obtain ⟨replica, one, rfl⟩ := Mirror.loop_eq_some u hash step
    simp only [Replica.step, here] at one
    split at one
    · cases one
    cases one
    refine ⟨consistent.plain, fun c h recorded _ => ?_, ?_, fun _ _ _ _ there => (by cases there)⟩
    · exact consistent.known c h recorded fun _ _ _ there => by
        rw [here] at there
        cases there
    · intro c h data rest' there
      cases there
      rw [SyncCategory.ofName?_name] at known
      obtain rfl := Option.some.inj known
      exact ⟨m.master, rfl, settled c _ _ here, consistent.plain c⟩
  next => cases step

/-- **An apply**: the replica takes over the digest of what was fetched. -/
theorem Consistent.apply {m t : Mirror} (consistent : Consistent sha m)
    (settled : Settled sha m .apply) (step : m.step u hash sha .apply = some t) :
    Consistent sha t := by
  obtain ⟨replica, one, rfl⟩ := Mirror.loop_eq_some u hash step
  obtain ⟨category, hash', data, rest, here, rfl⟩ := Replica.step_apply u hash one
  refine ⟨consistent.plain, ?_, fun _ _ _ _ there => (by cases there), ?_⟩
  · intro c h recorded away
    have other : category ≠ c.category.name := by
      rintro rfl
      exact away hash' _ rest rfl
    have frame := applySnapshot_frame u hash {} data m.replica.site other
    show syncManifest sha (applySnapshotBlocking ..).site.db _ = h ∧ _
    rw [frame.syncManifest sha, frame.plain]
    exact consistent.known c h recorded fun _ _ _ there => by
      rw [here] at there
      cases there
  · intro c h written rest' there
    cases there
    obtain ⟨db, rfl, digest, plain⟩ := consistent.fetched c _ _ _ here
    refine ⟨?_, plain_mirrored u hash db m.replica.site plain, settled c _ _ _ here⟩
    rw [← digest]
    exact syncManifest_mirrored u hash db m.replica.site sha c

/-- **A record**: the hash that is recorded is the one of the rows. -/
theorem Consistent.record {m t : Mirror} (consistent : Consistent sha m)
    (step : m.step u hash sha .record = some t) : Consistent sha t := by
  obtain ⟨replica, one, rfl⟩ := Mirror.loop_eq_some u hash step
  obtain ⟨category, hash', written, rest, here, rfl⟩ := Replica.step_record u hash one
  refine ⟨consistent.plain, ?_, fun _ _ _ _ there => (by cases there),
    fun _ _ _ _ there => (by cases there)⟩
  intro c h recorded _
  by_cases same : c.category.name = category
  · subst same
    obtain ⟨digest, plain, -⟩ := consistent.applied c hash' written rest here
    have now : some hash' = some h :=
      (Function.update_self c.category.name _ m.replica.known).symm.trans recorded
    exact ⟨digest.trans (Option.some.inj now), plain⟩
  · have old : m.replica.known c.category.name = some h :=
      (Function.update_of_ne same _ m.replica.known).symm.trans recorded
    refine consistent.known c h old fun _ _ _ there => ?_
    rw [here] at there
    cases there
    exact same rfl

/-- **Every settled step keeps consistency.** -/
theorem Consistent.step {m t : Mirror} {a : MirrorAction} (consistent : Consistent sha m)
    (settled : Settled sha m a) (step : m.step u hash sha a = some t) : Consistent sha t := by
  cases a with
  | edit db =>
      cases step
      refine ⟨settled.1, consistent.known, consistent.fetched, fun c h w rest here => ?_⟩
      obtain ⟨digest, plain, -⟩ := consistent.applied c h w rest here
      exact ⟨digest, plain, settled.2 c h w rest here⟩
  | read =>
      simp only [Mirror.step] at step
      split at step
      · cases step
        exact ⟨consistent.plain, consistent.known, consistent.fetched, consistent.applied⟩
      · cases step
  | manifest order =>
      simp only [Mirror.step] at step
      split at step
      · obtain ⟨replica, one, rfl⟩ := Mirror.loop_eq_some u hash step
        obtain ⟨site, known, before, after⟩ :=
          Replica.step_idle u hash (Or.inr (Or.inr (Or.inr ⟨_, rfl⟩))) one
        exact consistent.idle rfl site known before after
      · cases step
  | snapshot => exact consistent.snapshot u hash settled step
  | apply => exact consistent.apply u hash settled step
  | record => exact consistent.record u hash step
  | login =>
      obtain ⟨replica, one, rfl⟩ := Mirror.loop_eq_some u hash step
      obtain ⟨site, known, before, after⟩ :=
        Replica.step_idle u hash (Or.inr (Or.inr (Or.inl ⟨_, rfl⟩))) one
      exact consistent.idle rfl site known before after
  | skip =>
      obtain ⟨replica, one, rfl⟩ := Mirror.loop_eq_some u hash step
      obtain ⟨site, known, before, after⟩ := Replica.step_idle u hash (Or.inl rfl) one
      exact consistent.idle rfl site known before after
  | finish now =>
      obtain ⟨replica, one, rfl⟩ := Mirror.loop_eq_some u hash step
      obtain ⟨site, known, before, after⟩ :=
        Replica.step_idle u hash (Or.inr (Or.inl ⟨_, rfl⟩)) one
      exact consistent.idle rfl site known before after

/-- **Convergence in every state of a settled run.** -/
theorem converged_of_settled (injective : Function.Injective sha) {m : Mirror}
    {acts : List MirrorAction} (started : (mirror u hash sha).init m)
    (plain : ∀ c, m.master.Plain c)
    (settled : (mirror u hash sha).StepsMeet (Settled sha) m acts) :
    (mirror u hash sha).Always (Converged sha) m acts := by
  have start : Consistent sha m := by
    obtain ⟨⟨login, unknown⟩, -⟩ := started
    refine ⟨plain, fun c h recorded _ => ?_, fun c h d r here => ?_, fun c h w r here => ?_⟩
    · rw [unknown] at recorded
      cases recorded
    · rw [login] at here
      cases here
    · rw [login] at here
      cases here
  exact (mirror u hash sha).always_of_stepsMeet
    (fun _ _ _ consistent met step => consistent.step u hash met step)
    (fun _ consistent => consistent.converged sha injective) start settled

/-! ## A master that is left alone

Without an edit on the master every step is settled, since a hash stays current while nobody
changes what it was made of.  The condition of the theorem is therefore met by all runs against a
quiet master. -/

variable (sha) in
/-- The hash of an entry is the digest the master has now, so that recording it would be right. -/
def Current (m : Mirror) (entry : Str × Str) : Prop :=
  ∀ c : SyncCategory, entry.1 = c.name → entry.2 = syncManifest sha m.master c

variable (sha) in
/-- Every hash on its way to a record is current: those of the answer that is under way, those
still to be compared, and that of the snapshot in hand. -/
structure Unedited (m : Mirror) : Prop where
  answer : ∀ entry ∈ m.answer, Current sha m entry
  diff : ∀ rest, m.replica.point = .diff rest → ∀ entry ∈ rest, Current sha m entry
  apply : ∀ category hash' data rest, m.replica.point = .apply category hash' data rest →
    m.replica.known category ≠ some hash' ∧
      ∀ entry ∈ (category, hash') :: rest, Current sha m entry
  record : ∀ category hash' written rest,
    m.replica.point = .record category hash' written rest → ∀ entry ∈ rest, Current sha m entry

/-- Without an edit the next step is settled. -/
theorem Unedited.settled {m : Mirror} {a : MirrorAction} (unedited : Unedited sha m)
    (noEdit : ∀ db, a ≠ .edit db) : Settled sha m a := by
  cases a with
  | edit db => exact absurd rfl (noEdit db)
  | snapshot =>
      intro c hash' rest here
      exact (unedited.diff _ here _ List.mem_cons_self c.category rfl).symm
  | apply =>
      intro c hash' data rest here
      obtain ⟨unknown, current⟩ := unedited.apply _ _ _ _ here
      have now : hash' = _ := current _ List.mem_cons_self c.category rfl
      rwa [← now]
  | _ => trivial

/-! The hashes on their way are those of the point where the loop stands. -/

section OfPoint

variable {m : Mirror} (answer : ∀ entry ∈ m.answer, Current sha m entry)

include answer

theorem unedited_of_idle (idle : m.replica.point = .login ∨ m.replica.point = .poll) :
    Unedited sha m := by
  refine ⟨answer, ?_, ?_, ?_⟩
  all_goals
    rcases idle with here | here
    all_goals
      rw [here]
      intros
      contradiction

theorem unedited_of_diff {rest : List (Str × Str)} (here : m.replica.point = .diff rest)
    (current : ∀ entry ∈ rest, Current sha m entry) : Unedited sha m := by
  refine ⟨answer, fun _ there => ?_, fun _ _ _ _ there => ?_, fun _ _ _ _ there => ?_⟩
  all_goals
    rw [here] at there
    cases there
  exact current

theorem unedited_of_apply {category hash' : Str} {data : Json} {rest : List (Str × Str)}
    (here : m.replica.point = .apply category hash' data rest)
    (unknown : m.replica.known category ≠ some hash')
    (current : ∀ entry ∈ (category, hash') :: rest, Current sha m entry) : Unedited sha m := by
  refine ⟨answer, fun _ there => ?_, fun _ _ _ _ there => ?_, fun _ _ _ _ there => ?_⟩
  all_goals
    rw [here] at there
    cases there
  exact ⟨unknown, current⟩

theorem unedited_of_record {category hash' : Str} {written : Bool} {rest : List (Str × Str)}
    (here : m.replica.point = .record category hash' written rest)
    (current : ∀ entry ∈ rest, Current sha m entry) : Unedited sha m := by
  refine ⟨answer, fun _ there => ?_, fun _ _ _ _ there => ?_, fun _ _ _ _ there => ?_⟩
  all_goals
    rw [here] at there
    cases there
  exact current

end OfPoint

/-- And it leaves the hashes current. -/
theorem Unedited.step {m t : Mirror} {a : MirrorAction} (unedited : Unedited sha m)
    (noEdit : ∀ db, a ≠ .edit db) (step : m.step u hash sha a = some t) : Unedited sha t := by
  cases a with
  | edit db => exact absurd rfl (noEdit db)
  | read =>
      simp only [Mirror.step] at step
      split at step
      next c here _ =>
        cases step
        refine ⟨fun entry mem => ?_, unedited.diff, unedited.apply, unedited.record⟩
        rcases List.mem_append.mp mem with old | new
        · exact unedited.answer entry old
        · obtain rfl := List.mem_singleton.mp new
          intro c' same
          have known := congrArg SyncCategory.ofName? same
          rw [SyncCategory.ofName?_name, SyncCategory.ofName?_name] at known
          rw [Option.some.inj known]
      next => cases step
  | manifest order =>
      simp only [Mirror.step] at step
      split at step
      · obtain ⟨replica, one, rfl⟩ := Mirror.loop_eq_some u hash step
        simp only [Replica.step] at one
        split at one
        next hashes here same =>
          cases one
          cases same
          refine unedited_of_diff (fun _ mem => absurd mem List.not_mem_nil) rfl
            fun entry mem => ?_
          exact unedited.answer entry (order.mem_apply.mp mem)
        next same => cases same
        next => cases one
      · cases step
  | snapshot =>
      simp only [Mirror.step] at step
      split at step
      next category hash' rest here =>
        obtain ⟨k, -, step⟩ := Option.bind_eq_some_iff.mp step
        obtain ⟨replica, one, rfl⟩ := Mirror.loop_eq_some u hash step
        simp only [Replica.step, here] at one
        split at one
        · cases one
        next unknown =>
          cases one
          exact unedited_of_apply unedited.answer rfl unknown (unedited.diff _ here)
      next => cases step
  | login =>
      obtain ⟨replica, one, rfl⟩ := Mirror.loop_eq_some u hash step
      simp only [Replica.step] at one
      split at one
      · cases one
        exact unedited_of_idle unedited.answer (Or.inr rfl)
      · cases one
  | skip =>
      obtain ⟨replica, one, rfl⟩ := Mirror.loop_eq_some u hash step
      simp only [Replica.step] at one
      split at one
      next category hash' rest here =>
        split at one
        · cases one
          refine unedited_of_diff unedited.answer rfl fun entry mem => ?_
          exact unedited.diff _ here entry (List.mem_cons_of_mem _ mem)
        · cases one
      next => cases one
  | apply =>
      obtain ⟨replica, one, rfl⟩ := Mirror.loop_eq_some u hash step
      obtain ⟨category, hash', data, rest, here, rfl⟩ := Replica.step_apply u hash one
      refine unedited_of_record unedited.answer rfl fun entry mem => ?_
      exact (unedited.apply _ _ _ _ here).2 entry (List.mem_cons_of_mem _ mem)
  | record =>
      obtain ⟨replica, one, rfl⟩ := Mirror.loop_eq_some u hash step
      obtain ⟨category, hash', written, rest, here, rfl⟩ := Replica.step_record u hash one
      exact unedited_of_diff unedited.answer rfl (unedited.record _ _ _ _ here)
  | finish now =>
      obtain ⟨replica, one, rfl⟩ := Mirror.loop_eq_some u hash step
      simp only [Replica.step] at one
      split at one
      · cases one
        exact unedited_of_idle unedited.answer (Or.inr rfl)
      · cases one

/-- **A run without edits is settled**, from any point at which the hashes on their way are
current. -/
theorem settled_of_current {m : Mirror} {acts : List MirrorAction} (start : Unedited sha m)
    (noEdit : ∀ db, .edit db ∉ acts) : (mirror u hash sha).StepsMeet (Settled sha) m acts := by
  induction acts generalizing m with
  | nil => trivial
  | cons a rest ih =>
      have here : ∀ db, a ≠ .edit db := fun db same => noEdit db (same ▸ List.mem_cons_self)
      exact ⟨start.settled here, fun t step =>
        ih (start.step u hash here step) fun db mem => noEdit db (List.mem_cons_of_mem _ mem)⟩

/-- Against a master that is left alone a replica always converges. -/
theorem settled_of_unedited {m : Mirror} {acts : List MirrorAction}
    (started : (mirror u hash sha).init m) (noEdit : ∀ db, .edit db ∉ acts) :
    (mirror u hash sha).StepsMeet (Settled sha) m acts := by
  obtain ⟨⟨login, -⟩, answer⟩ := started
  refine settled_of_current u hash (unedited_of_idle ?_ (Or.inl login)) noEdit
  rw [answer]
  exact fun _ mem => absurd mem List.not_mem_nil

end Convergence

/-! ## A master that changes and changes back

The run in which the property fails, and one with an edit in which it holds.  What matters is not
that the master changes but when: between a manifest and the snapshot that is fetched for it. -/

/-- A master whose blocklist is one domain. -/
def listing (domain : Str) : Db := ({} : Db).applyDomains .blocklist [domain]

theorem plain_listing {domain : Str} (oneLine : '\n' ∉ domain) (c : Mirrored) :
    (listing domain).Plain c := by
  cases c with
  | rewrites =>
      intro row mem
      cases mem
  | domains list =>
      intro d mem
      by_cases here : list = .blocklist
      · subst here
        rw [List.mem_singleton.mp (Db.mem_applyDomains.mp mem)]
        exact oneLine
      · rw [listing, Db.applyDomains_domains_of_ne here] at mem
        cases mem

/-- A mirror starts with any database on the master. -/
theorem init_mirror (u : CaseTables) (hash : Bytes → UInt64) (sha : Bytes → Str) (db : Db) :
    (mirror u hash sha).init { master := db } :=
  ⟨⟨rfl, fun _ => rfl⟩, rfl⟩

/-- The manifest is read and its first category mirrored.  Before the snapshot of the
blocklist is read the master changes, and afterwards it changes back. -/
def changedBack : List MirrorAction :=
  [.login] ++ List.replicate 6 .read ++
    [.manifest (.reverse _), .snapshot, .apply, .record, .edit (listing "b.example".toList),
      .snapshot, .apply, .record, .edit (listing "a.example".toList)]

/-- The replica then holds `b.example` under the hash of `a.example`, although no
row of the master was ever other than plain. -/
theorem not_converged_after_change_back :
    (mirror .ascii (fun _ => 0) byteText).init { master := listing "a.example".toList } ∧
      (∀ domain ∈ ["a.example".toList, "b.example".toList], ∀ c, (listing domain).Plain c) ∧
      ∃ t, (mirror .ascii (fun _ => 0) byteText).exec
        { master := listing "a.example".toList } changedBack = some t ∧
          ¬ Converged byteText t := by
  refine ⟨init_mirror _ _ _ _, fun domain mem => plain_listing ?_, ?_⟩
  · have oneLine : ∀ domain ∈ ["a.example".toList, "b.example".toList], '\n' ∉ domain := by
      decide
    exact oneLine domain mem
  have ends : ((mirror .ascii (fun _ => 0) byteText).exec
      { master := listing "a.example".toList } changedBack).map (fun t =>
        (t.replica.known "blocklist".toList, syncManifest byteText t.master (.domains .blocklist),
          (t.replica.site.db.domains .blocklist).values, (t.master.domains .blocklist).values)) =
      some (some "a.example\n".toList, "a.example\n".toList, ["b.example".toList],
        ["a.example".toList]) := by
    decide +kernel
  obtain ⟨t, run, ends⟩ := Option.map_eq_some_iff.mp ends
  simp only [Prod.mk.injEq] at ends
  obtain ⟨known, digest, rows, rows'⟩ := ends
  refine ⟨t, run, fun converged => ?_⟩
  have recorded : t.replica.known (Mirrored.domains .blocklist).category.name =
      some (syncManifest byteText t.master (.domains .blocklist)) := known.trans (by rw [digest])
  have same := converged (.domains .blocklist) recorded
  rw [SameRows, rows, rows'] at same
  exact absurd same (by decide)

/-- Both lists are mirrored, with the manifest of a master that lists `a.example`. -/
def listsMirrored : List MirrorAction :=
  [.login] ++ List.replicate 6 .read ++
    [.manifest (.reverse _), .snapshot, .apply, .record, .snapshot, .apply, .record]

/-- The other categories, and then the next manifest: the blocklist is fetched again. -/
def mirroredAgain : List MirrorAction :=
  (List.replicate 4 [.snapshot, .apply, .record]).flatten ++ [.finish 0] ++
    List.replicate 6 .read ++ [.manifest (.reverse _), .skip, .snapshot, .apply, .record]

/-- The categories that are still to be compared. -/
def LoopPoint.compared : LoopPoint → Option (List (Str × Str))
  | .diff rest => some rest
  | _ => none

theorem LoopPoint.eq_diff {point : LoopPoint} {rest : List (Str × Str)}
    (compared : point.compared = some rest) : point = .diff rest := by
  cases point <;> cases compared
  rfl

/-- An edit of the blocklist after it was recorded, while the replica is still at the other
categories of the manifest, is mirrored with the next one. -/
theorem converged_of_settled_edited :
    let run := listsMirrored ++ .edit (listing "b.example".toList) :: mirroredAgain
    (∃ t, (mirror .ascii (fun _ => 0) byteText).exec
        { master := listing "a.example".toList } run = some t ∧
      (t.replica.site.db.domains .blocklist).values = ["b.example".toList]) ∧
      (mirror .ascii (fun _ => 0) byteText).Always (Converged byteText)
        { master := listing "a.example".toList } run := by
  intro run
  constructor
  · exact Option.map_eq_some_iff.mp (by decide +kernel)
  refine converged_of_settled _ _ byteText_injective (init_mirror _ _ _ _)
    (plain_listing (by decide)) ?_
  have ends : ((mirror .ascii (fun _ => 0) byteText).exec
      { master := listing "a.example".toList } listsMirrored).map (fun t =>
        (t.replica.point.compared, t.answer)) =
      some (some ((SyncCategory.all.reverse.drop 2).map fun c =>
        (c.name, syncManifest byteText (listing "b.example".toList) c)), []) := by
    decide +kernel
  obtain ⟨t, mirrored, ends⟩ := Option.map_eq_some_iff.mp ends
  obtain ⟨compared, answer⟩ := Prod.mk.inj ends
  have here := LoopPoint.eq_diff compared
  refine (StateMachine.stepsMeet_append _ _ mirrored).mpr
    ⟨settled_of_unedited _ _ (init_mirror _ _ _ _) (by simp [listsMirrored]), ?_⟩
  refine (StateMachine.stepsMeet_cons _ rfl).mpr ⟨⟨plain_listing (by decide), ?_⟩, ?_⟩
  · intro c hash' written rest there
    rw [here] at there
    cases there
  -- what is still to be compared was not edited
  refine settled_of_current _ _ (unedited_of_diff ?_ here fun entry mem => ?_)
    (by simp [mirroredAgain])
  · rw [show ({ t with master := _ } : Mirror).answer = t.answer from rfl, answer]
    exact fun _ mem => absurd mem List.not_mem_nil
  · obtain ⟨c, -, rfl⟩ := List.mem_map.mp mem
    intro c' same
    have known := congrArg SyncCategory.ofName? same
    rw [SyncCategory.ofName?_name, SyncCategory.ofName?_name] at known
    rw [Option.some.inj known]

end RustBlocker

import RustBlocker.SourceLists
import RustBlocker.Transactions

/-!
# The outcomes of a refresh

`fetch_source`, and what a refresh of the fetched content leaves behind.  The refresh is one
transaction over four tables, with two guards in front of it:

* **A refused or failed refresh** leaves the tables and the runtime stores as they were.  What
  `refresh_source` may still write is the status of its source.
* **An accepted refresh** leaves the source with the domains of the content, at least ten of them,
  and at least a tenth of what it owned.

The second guard compares products that saturate.  It is exact all the same: the byte limit of a
fetch bounds the number of domains far below the point where the product with a hundred leaves a
`usize`.

What is outside the program is a parameter, `Outside`: what a path, a request and a chunk give,
and the texts of the errors.  Nothing is assumed of it.  The byte limit is the one that
`fetch_source` keeps itself, chunk by chunk, since neither the length that a server announces nor
the one that the metadata of a file give is trusted.

The calls that fail are those of one refresh, a plan over its statements, and a panic of the
blocking task counts as a failure of the transaction.
-/

namespace RustBlocker

/-! ## `fetch_source`

A source is a path or a url.  The bytes are counted as they arrive, so that the limit holds
whatever was announced, and the text is what they decode to. -/

/-- The answer of a web server, whose body comes in chunks and may break off. -/
structure HttpReply where
  /-- The `content-type`, where it is text. -/
  contentType : Option Str := none
  contentLength : Option Nat := none
  chunks : List Bytes
  /-- The error that breaks the body off after these chunks, if one does. -/
  broken : Option Str := none

/-- A file: its bytes, which its metadata count, and the error of reading it. -/
structure SourceFile where
  bytes : Bytes
  unreadable : Option Str := none

/-- What `fetch_source` finds outside the program: files, web servers, and the texts of their
errors. -/
structure Outside where
  /-- A `GET`: the request fails, the status is an error, or there is a reply. -/
  get : Str → Except Str (Except Str HttpReply)
  file : Str → Except Str SourceFile
  /-- The text of a decoding error. -/
  utf8Error : Bytes → Str

/-- `<kind> exceeds <n> byte limit` -/
def exceedsLimit (kind : Str) : Str :=
  kind ++ " exceeds ".toList ++ decimal maxSourceBytes ++ " byte limit".toList

/-- The loop over the chunks of a response. -/
def readChunks (broken : Option Str) : Bytes → List Bytes → Except Str Bytes
  | bytes, [] =>
      match broken with
      | none => .ok bytes
      | some error => .error (withContext "response read failed".toList error)
  | bytes, chunk :: rest =>
      if saturatingAdd bytes.length chunk.length > maxSourceBytes then
        .error (exceedsLimit "response".toList)
      else readChunks broken (bytes ++ chunk) rest

/-- The bytes of a web page. -/
def fetchHttp (reply : HttpReply) : Except Str Bytes :=
  if reply.contentType.any fun value => "text/html".toList.isPrefixOf value.toAsciiLowercase then
    .error "suspicious content type: text/html".toList
  else if reply.contentLength.any fun length => length > maxSourceBytes then
    .error (exceedsLimit "response".toList)
  else readChunks reply.broken [] reply.chunks

/-- The bytes of a file. -/
def fetchFile (file : SourceFile) : Except Str Bytes :=
  if file.bytes.length > maxSourceBytes then .error (exceedsLimit "file".toList)
  else
    match file.unreadable with
    | some error => .error (withContext "file read failed".toList error)
    | none => .ok file.bytes

/-- The bytes of a source. -/
def fetchBytes (outside : Outside) (path : Str) : Except Str Bytes :=
  if "http://".toList.isPrefixOf path || "https://".toList.isPrefixOf path then
    match outside.get path with
    | .error error => .error (withContext "request failed".toList error)
    | .ok (.error error) => .error (withContext "HTTP request failed".toList error)
    | .ok (.ok reply) => fetchHttp reply
  else
    match outside.file path with
    | .error error => .error (withContext "file metadata failed".toList error)
    | .ok file => fetchFile file

/-- `fetch_source`. -/
def fetchSource (outside : Outside) (path : Str) : Except Str Str :=
  match fetchBytes outside path with
  | .error error => .error error
  | .ok bytes =>
      match Str.fromUtf8 bytes with
      | some content => .ok content
      | none => .error (withContext "source is not UTF-8".toList (outside.utf8Error bytes))

theorem length_readChunks {broken : Option Str} {bytes out : Bytes} {chunks : List Bytes}
    (small : bytes.length ≤ maxSourceBytes) (read : readChunks broken bytes chunks = .ok out) :
    out.length ≤ maxSourceBytes := by
  induction chunks generalizing bytes with
  | nil =>
      unfold readChunks at read
      split at read
      · cases read
        exact small
      · cases read
  | cons chunk rest ih =>
      unfold readChunks at read
      split at read
      next => cases read
      next fits =>
        refine ih ?_ read
        rw [List.length_append]
        have : maxSourceBytes < usizeMax := by decide
        rw [saturatingAdd] at fits
        omega

theorem length_fetchBytes {outside : Outside} {path : Str} {bytes : Bytes}
    (fetched : fetchBytes outside path = .ok bytes) : bytes.length ≤ maxSourceBytes := by
  unfold fetchBytes at fetched
  split at fetched
  · split at fetched
    · cases fetched
    · cases fetched
    next reply =>
      unfold fetchHttp at fetched
      split at fetched
      · cases fetched
      split at fetched
      · cases fetched
      exact length_readChunks (Nat.zero_le _) fetched
  · split at fetched
    · cases fetched
    next file =>
      unfold fetchFile at fetched
      split at fetched
      · cases fetched
      next small =>
        split at fetched
        · cases fetched
        · cases fetched
          exact Nat.le_of_not_lt small

/-- **The byte limit**: nothing longer than 64 MiB is fetched. -/
theorem len_fetchSource {outside : Outside} {path content : Str}
    (fetched : fetchSource outside path = .ok content) : content.len ≤ maxSourceBytes := by
  unfold fetchSource at fetched
  split at fetched
  · cases fetched
  next bytes found =>
    split at fetched
    next decoded =>
      cases fetched
      rw [Str.len, Str.fromUtf8_eq_some decoded]
      exact length_fetchBytes found
    next => cases fetched

/-! ## The guards -/

theorem length_contentDomains (content : Str) :
    (contentDomains content).length ≤ content.len + 1 := by
  have lines := Str.length_lines content
  have chars := Str.length_le_len content
  have parsed := List.length_filterMap_le parseDomainLine (Str.lines content)
  show ((Str.lines content).filterMap parseDomainLine).length ≤ _
  omega

/-- The domains of a content that is not refused: each once, and at least ten. -/
theorem parseSourceDomains_spec {content : Str} {domains : List Str}
    (parsed : parseSourceDomains content = .ok domains) :
    domains.Nodup ∧ domains.toFinset = (contentDomains content).toFinset ∧
      minSourceDomains ≤ domains.length := by
  refine ⟨?_, ?_, ?_⟩
  · unfold parseSourceDomains at parsed
    simp only at parsed
    split at parsed
    · cases parsed
    · cases parsed
      exact Str.nodup_dedup_sort _
  · ext domain
    simp only [List.mem_toFinset]
    exact mem_parseSourceDomains parsed
  · unfold parseSourceDomains at parsed
    simp only at parsed
    split at parsed
    next => cases parsed
    next enough =>
      cases parsed
      exact Nat.le_of_not_lt enough

/-- The shrink guard is exact as long as a hundred times the new count fits. -/
theorem le_of_retains {previous count : Nat} (fits : count * 100 < usizeMax)
    (kept : retains previous count = true) (many : 10 ≤ previous) : previous ≤ 10 * count := by
  simp only [retains, saturatingMul, minSourceRetainedPercent, Bool.not_eq_true',
    Bool.and_eq_false_iff, decide_eq_false_iff_not] at kept
  rcases kept with few | kept
  · exact absurd many few
  · have guard := of_decide_eq_false kept
    omega

/-! ## The outcomes

A refresh ends before its commit, and has touched nothing but the status, or it commits.  What a
commit owes the source is `Refilled`. -/

/-- Everything but the status of one source is as it was: the other tables, which
sources there are, and every row but the two status columns of that one. -/
structure OnlyStatus (id : Nat) (db db' : Db) : Prop where
  settings : db'.settings = db.settings
  upstreams : db'.upstreams = db.upstreams
  domains : db'.domains = db.domains
  rewrites : db'.rewrites = db.rewrites
  sourceDomains : db'.sourceDomains = db.sourceDomains
  manualDomains : db'.manualDomains = db.manualDomains
  ids : db'.sources.rows.map Prod.fst = db.sources.rows.map Prod.fst
  others : ∀ id', id' ≠ id → db'.sources.find? id' = db.sources.find? id'
  columns : ∀ row, db.sources.find? id = some row → ∃ lastUpdated lastStatus,
    db'.sources.find? id = some { row with lastUpdated, lastStatus }

theorem OnlyStatus.refl (id : Nat) (db : Db) : OnlyStatus id db db where
  settings := rfl
  upstreams := rfl
  domains := rfl
  rewrites := rfl
  sourceDomains := rfl
  manualDomains := rfl
  ids := rfl
  others := fun _ _ => rfl
  columns := fun row found => ⟨row.lastUpdated, row.lastStatus, found⟩

theorem onlyStatus_updateSourceStatus (db : Db) (now : Str) (id : Nat) (status : Str) :
    OnlyStatus id db (db.updateSourceStatus now id status) where
  settings := rfl
  upstreams := rfl
  domains := rfl
  rewrites := rfl
  sourceDomains := rfl
  manualDomains := rfl
  ids := by
    show (db.sources.rows.map _).map Prod.fst = _
    rw [List.map_map]
    refine List.map_congr_left fun row _ => ?_
    rw [Function.comp_apply]
    split <;> rfl
  others := by
    intro id' differs
    rw [Db.updateSourceStatus, SqlTable.find?_update]
    simp only [differs, if_false, Option.map_id']
  columns := by
    intro row found
    refine ⟨some now, some status, ?_⟩
    rw [Db.updateSourceStatus, SqlTable.find?_update, found, Option.map_some, if_pos rfl]

/-- A refresh that ended before its commit: the runtime stores are the old ones, and of the
database only the status of the source may differ.  The status is written on the way out, by a
statement of its own. -/
structure Untouched (site : Site) (source : DbSource) (after : Site) : Prop where
  runtime : after.runtime = site.runtime
  db : OnlyStatus source.id site.db after.db

theorem untouched_failRefresh (weather : RefreshWeather) (site : Site) (source : DbSource)
    (error : Str) : Untouched site source (failRefresh weather site source error).site := by
  unfold failRefresh
  simp only
  split
  · exact ⟨rfl, .refl _ _⟩
  · exact ⟨rfl, onlyStatus_updateSourceStatus ..⟩

/-- What a refresh owes its source: the domains of the content, each once, at least
ten, and at least a tenth of what it owned if that was ten or more. -/
structure Refilled (before after : Db) (sourceId : Nat) (content : Str) (count : Nat) : Prop where
  owned : after.ownedBy sourceId = (contentDomains content).toFinset
  counted : count = (after.ownedBy sourceId).card
  enough : 10 ≤ count
  retained : 10 ≤ (before.ownedBy sourceId).card → (before.ownedBy sourceId).card ≤ 10 * count

/-- A refresh that succeeds is whole if the content is no longer than a fetch may be. -/
theorem refilled_of_replaced {fails : Plan RefreshCall} {now content : Str} {db db' : Db}
    {sourceId count : Nat} {list : DomainList} (short : content.len ≤ maxSourceBytes)
    (replaced : replaceSourceDomains fails now db sourceId list content = .ok (count, db')) :
    Refilled db db' sourceId content count := by
  obtain ⟨newList, parsed, rfl, rfl⟩ := replaceSourceDomains_eq_ok replaced
  obtain ⟨newList', parsed', kept, -⟩ :=
    (replaceSourceDomains_isOk ..).mp ⟨_, replaced⟩
  rw [parsed] at parsed'
  cases parsed'
  obtain ⟨nodup, same, enough⟩ := parseSourceDomains_spec parsed
  have owned : (db.replaceOwned now sourceId list newList).ownedBy sourceId =
      newList.toFinset := by
    ext domain
    rw [Db.mem_ownedBy, Db.mem_replaceOwned_sourceDomains, List.mem_toFinset]
    simp
  refine ⟨owned.trans same, ?_, enough, le_of_retains ?_ kept⟩
  · rw [owned, List.toFinset_card_of_nodup nodup]
  · -- The domains are among those of the lines, so there are few of them.
    have few : newList.length ≤ (contentDomains content).length := by
      rw [← List.toFinset_card_of_nodup nodup, same]
      exact List.toFinset_card_le _
    have bound := length_contentDomains content
    have limit : (maxSourceBytes + 1) * 100 < usizeMax := by decide
    omega

/-- **A refresh takes effect as a whole or not at all.**  If the transaction of
`replace_source_domains` returns an error, its connection is what it was, tables and
all, and `refresh_source` touches nothing but the status of the source; the same if
the fetch fails.  If it succeeds, the source owns exactly the domains of the fetched
content, at least ten, and at least a tenth of what it owned. -/
theorem refresh_refills_or_leaves (u : CaseTables) (hash : Bytes → UInt64) (outside : Outside)
    (weather : RefreshWeather) (site : Site) (source : DbSource) (leftover : Finset Str) :
    let met := { weather with fetched := fetchSource outside source.url }
    let list := DomainList.ofType source.listType
    let rest : Connection RefreshTables := ⟨{ db := site.db, oldDomains := leftover }, none⟩
    (∀ error, fetchSource outside source.url = .error error →
      Untouched site source (refreshSource u hash met site source).site) ∧
    ∀ content, fetchSource outside source.url = .ok content →
      (∀ error c,
        replaceScript weather.calls weather.now source.id list content rest = (.error error, c) →
        c = rest ∧ Untouched site source (refreshSource u hash met site source).site) ∧
      ∀ count c,
        replaceScript weather.calls weather.now source.id list content rest = (.ok count, c) →
        c.working = none ∧ Refilled site.db c.stored.db source.id content count := by
  intro met list rest
  refine ⟨fun error failed => ?_, fun content fetched => ⟨fun error c ran => ?_,
    fun count c ran => ?_⟩⟩
  · rw [refreshSource]
    simp only [met, failed]
    exact untouched_failRefresh ..
  · obtain ⟨rfl, replaced⟩ := replaceScript_error ran
    refine ⟨rfl, ?_⟩
    rw [refreshSource]
    simp only [met, fetched]
    cases weather.panicked with
    | some panic => exact untouched_failRefresh ..
    | none =>
        simp only [list] at replaced
        simp only [replaced]
        exact untouched_failRefresh ..
  · obtain ⟨db, replaced, rfl⟩ := replaceScript_ok ran
    exact ⟨rfl, refilled_of_replaced (len_fetchSource fetched) replaced⟩

end RustBlocker

import RustBlocker.SourceRefresh

/-!
# The Cloudflare client

The calls of `cloudflare.rs` that an order waits for.  Each sends one request and reads the answer;
everything that goes wrong is an error with a text.  The third call deletes a record; it is made by
a task of its own, which logs what came of it and tells nobody.

* **The zone of a domain** is asked for by name.  The name is made of the domain alone: its
  last two labels, or the whole of it where there are no more.
* **An account** has zones with ids of their own, and its endpoint answers a name with the
  zones that are named so.

`findZoneId_account` says which zone is found, and `findsZone_iff` when it is the right one.
-/

namespace RustBlocker

/-- `Zone` -/
structure Zone where
  id : Str
  name : Str
deriving DecidableEq, Repr

/-- `ZoneListResponse` -/
structure ZoneListResponse where
  result : List Zone
  success : Bool
deriving DecidableEq, Repr

/-- `CreateRecordRequest`, with the zone of its URL. -/
structure CreateRecordRequest where
  zoneId : Str
  type : Str
  name : Str
  content : Str
  ttl : Nat
deriving DecidableEq, Repr

/-- `RecordResponse` -/
structure RecordResponse where
  /-- `result.id` -/
  id : Str
  success : Bool
deriving DecidableEq, Repr

/-- How a request to Cloudflare ends: not at all, or with a status, its reason, the text of the
body, and what the text parses to. -/
inductive CloudflareAnswer (α : Type) where
  | failed
  | answered (status : Nat) (reason : Str) (body : Str) (parsed : Option α)

/-- An answer with a body that parses, and a text for each way to have none. -/
def CloudflareAnswer.decode {α : Type} (unsent unparsed : Str) :
    CloudflareAnswer α → Except Str (Str × α)
  | .failed => .error unsent
  | .answered status reason body parsed =>
      if status / 100 ≠ 2 then
        .error ("Cloudflare API error (".toList ++ decimal status ++ ' ' :: reason ++
          "): ".toList ++ body)
      else
        match parsed with
        | none => .error unparsed
        | some value => .ok (body, value)

/-- The name `find_zone_id` asks for. -/
def baseDomain (domain : Str) : Str :=
  let parts := Str.split '.' domain
  if 2 < parts.length then List.intercalate ['.'] (parts.drop (parts.length - 2)) else domain

/-- `find_zone_id` -/
def findZoneId (zones : Str → CloudflareAnswer ZoneListResponse) (domain : Str) :
    Except Str Str := do
  let (body, zoneList) ← (zones (baseDomain domain)).decode
    "failed to query Cloudflare zones".toList "failed to parse zone list response".toList
  if !zoneList.success then
    .error ("Cloudflare zone lookup failed (success=false): ".toList ++ body)
  else
    match zoneList.result.head? with
    | some zone => .ok zone.id
    | none => .error ("zone not found for domain: ".toList ++ domain)

/-- What `create_txt_record` asks for. -/
def txtRecord (zoneId name value : Str) : CreateRecordRequest :=
  { zoneId, type := "TXT".toList, name, content := value, ttl := 120 }

/-- `create_txt_record` -/
def createTxtRecord (answer : CloudflareAnswer RecordResponse) : Except Str Str := do
  let (_, record) ← answer.decode
    "failed to create TXT record".toList "failed to parse record creation response".toList
  if !record.success then .error "failed to create TXT record".toList else .ok record.id

/-! ## The zones of an account

An account is a list of zones with names.  Cloudflare is asked for zones by their exact name, and
the source asks once, for the last two labels of the domain; the longest zone above the domain is
what it should find. -/

/-- The labels of a name. -/
def labels (name : Str) : List Str := Str.split '.' name

theorem labels_injective : Function.Injective labels := Str.split_injective

/-- The zones of an account; an id is the id of one zone, so that a record is created in the zone
that was found. -/
structure CloudflareAccount where
  zones : List Zone
  ids : (zones.map Zone.id).Nodup

/-- **The endpoint of an account**: the zones that are named exactly so. -/
def CloudflareAccount.list (account : CloudflareAccount) (name : Str) :
    CloudflareAnswer ZoneListResponse :=
  let listed : ZoneListResponse :=
    { result := account.zones.filter fun zone => zone.name == name, success := true }
  .answered 200 "OK".toList [] (some listed)

/-- **The longest zone of a domain**: its labels end those of the domain, and no zone of the
account has more that do. -/
structure LongestZone (account : CloudflareAccount) (domain : Str) (zone : Zone) : Prop where
  here : zone ∈ account.zones
  above : labels zone.name <:+ labels domain
  longest : ∀ other ∈ account.zones, labels other.name <:+ labels domain →
    (labels other.name).length ≤ (labels zone.name).length

section Account

variable {account : CloudflareAccount} {domain : Str}

/-- A domain that some zone is above has a longest one, so that `FindsZone` asks for a zone
wherever there is one. -/
theorem exists_longestZone {zone : Zone} (here : zone ∈ account.zones)
    (above : labels zone.name <:+ labels domain) :
    ∃ longest, LongestZone account domain longest := by
  have candidates : account.zones.filter (fun zone =>
      decide (labels zone.name <:+ labels domain)) ≠ [] :=
    List.ne_nil_of_mem (List.mem_filter.mpr ⟨here, decide_eq_true above⟩)
  obtain ⟨longest, found⟩ := Option.ne_none_iff_exists'.mp fun nothing =>
    candidates
      ((List.argmax_eq_none (f := fun zone : Zone => (labels zone.name).length)).mp nothing)
  have mem := List.mem_filter.mp (List.argmax_mem found)
  refine ⟨longest, mem.1, of_decide_eq_true mem.2, fun other inside higher => ?_⟩
  have listed : other ∈ account.zones.filter fun zone =>
      decide (labels zone.name <:+ labels domain) :=
    List.mem_filter.mpr ⟨inside, decide_eq_true higher⟩
  exact List.le_of_mem_argmax (f := fun zone : Zone => (labels zone.name).length) listed found

/-- Two longest zones have one name. -/
theorem LongestZone.name_eq {zone other : Zone} (longest : LongestZone account domain zone)
    (longest' : LongestZone account domain other) : zone.name = other.name := by
  have lengths : (labels zone.name).length = (labels other.name).length :=
    Nat.le_antisymm (longest'.longest zone longest.here longest.above)
      (longest.longest other longest'.here longest'.above)
  exact labels_injective (List.IsSuffix.eq_of_length
    (List.suffix_of_suffix_length_le longest.above longest'.above lengths.le) lengths)

/-- **The name that is asked for** has the last two labels of the domain, or all of them. -/
theorem labels_baseDomain (domain : Str) :
    labels (baseDomain domain) = (labels domain).drop ((labels domain).length - 2) := by
  unfold baseDomain labels
  extract_lets parts
  by_cases deep : 2 < parts.length
  · rw [if_pos deep]
    refine Str.split_intercalate_of_subset (fun nothing => ?_) (List.drop_subset _ _)
    have lengths := congrArg List.length nothing
    rw [List.length_drop, List.length_nil] at lengths
    omega
  · rw [if_neg deep, Nat.sub_eq_zero_of_le (Nat.le_of_not_lt deep), List.drop_zero]

theorem baseDomain_above (domain : Str) : labels (baseDomain domain) <:+ labels domain := by
  rw [labels_baseDomain]
  exact List.drop_suffix _ _

theorem length_labels_baseDomain (domain : Str) :
    (labels (baseDomain domain)).length = min 2 (labels domain).length := by
  rw [labels_baseDomain, List.length_drop]
  omega

/-- A zone above the domain has the name that is asked for exactly if it has as many labels. -/
theorem name_eq_baseDomain_iff {zone : Zone} (above : labels zone.name <:+ labels domain) :
    zone.name = baseDomain domain ↔
      (labels zone.name).length = min 2 (labels domain).length := by
  rw [← length_labels_baseDomain]
  constructor
  · intro same
    rw [same]
  · intro lengths
    exact labels_injective (List.IsSuffix.eq_of_length
      (List.suffix_of_suffix_length_le above (baseDomain_above domain) lengths.le) lengths)

/-- **What is found**: the first zone of the name that is asked for. -/
theorem findZoneId_account (account : CloudflareAccount) (domain : Str) :
    findZoneId account.list domain =
      (account.zones.find? fun zone => zone.name == baseDomain domain).elim
        (.error ("zone not found for domain: ".toList ++ domain)) fun zone => .ok zone.id := by
  have answer : findZoneId account.list domain =
      (account.zones.filter fun zone => zone.name == baseDomain domain).head?.elim
        (.error ("zone not found for domain: ".toList ++ domain)) fun zone => .ok zone.id := by
    show (match (account.zones.filter fun zone => zone.name == baseDomain domain).head? with
      | some zone => (Except.ok zone.id : Except Str Str)
      | none => Except.error ("zone not found for domain: ".toList ++ domain)) = _
    cases (account.zones.filter fun zone => zone.name == baseDomain domain).head? <;> rfl
  rw [answer, List.head?_filter]

theorem findZoneId_eq_ok {id : Str} (found : findZoneId account.list domain = .ok id) :
    ∃ zone ∈ account.zones, zone.name = baseDomain domain ∧ zone.id = id := by
  rw [findZoneId_account] at found
  rcases first : account.zones.find? fun zone => zone.name == baseDomain domain with _ | zone
  · rw [first] at found
    cases found
  · rw [first] at found
    exact ⟨zone, List.mem_of_find?_eq_some first, by simpa using List.find?_some first,
      Except.ok.inj found⟩

/-- **The right zone is found**: the longest one, and none where there is none. -/
structure FindsZone (account : CloudflareAccount) (domain : Str) : Prop where
  found : ∀ zone, LongestZone account domain zone →
    ∃ same, LongestZone account domain same ∧ findZoneId account.list domain = .ok same.id
  missing : (∀ zone ∈ account.zones, ¬ labels zone.name <:+ labels domain) →
    ∃ error, findZoneId account.list domain = .error error

/-- **The right zone is found** exactly if the longest one has two labels, or all the labels of
a domain that has no more. -/
theorem findsZone_iff : FindsZone account domain ↔
    ∀ zone, LongestZone account domain zone →
      (labels zone.name).length = min 2 (labels domain).length := by
  constructor
  · intro right zone longest
    obtain ⟨same, longest', found⟩ := right.found zone longest
    obtain ⟨named, here, base, id⟩ := findZoneId_eq_ok found
    -- the id that is found is the one of a zone of this name
    obtain rfl : named = same := List.inj_on_of_nodup_map account.ids here longest'.here id
    rw [← name_eq_baseDomain_iff longest.above, longest.name_eq longest']
    exact base
  · intro lengths
    refine ⟨fun zone longest => ?_, fun missing => ?_⟩
    · have base := (name_eq_baseDomain_iff longest.above).mpr (lengths zone longest)
      rcases first : account.zones.find? fun zone => zone.name == baseDomain domain with _ | named
      · have other := List.find?_eq_none.mp first zone longest.here
        exact absurd (beq_iff_eq.mpr base) other
      · have same : named.name = zone.name := by
          rw [base]
          simpa using List.find?_some first
        have found := findZoneId_account account domain
        rw [first] at found
        refine ⟨named, ⟨List.mem_of_find?_eq_some first, ?_, ?_⟩, found⟩
        · rw [same]
          exact longest.above
        · rw [same]
          exact longest.longest
    · rcases found : findZoneId account.list domain with error | id
      · exact ⟨error, rfl⟩
      · obtain ⟨zone, here, base, -⟩ := findZoneId_eq_ok found
        refine absurd ?_ (missing zone here)
        rw [base]
        exact baseDomain_above domain

end Account

end RustBlocker

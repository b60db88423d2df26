import SecretScan.Finding.Basic
import SecretScan.Config.Basic
import SecretScan.Proofs.Json.Fields
import SecretScan.Proofs.Json.Text

/-!
# Findings and configurations are read back

What is written for a finding or a configuration says all of it.
-/

namespace SecretScan

open Json

/-! ## Commits -/

theorem isRecord_commit (c : Commit) : IsRecord c.toJson [("hash", some (.str c.hash)),
    ("author_name", some (.str c.author)), ("author_email", some (.str c.email)),
    ("title", some (.str c.title)), ("line_number", some (.int c.line))] :=
  ⟨_, rfl, .refl _⟩

theorem readAs_commit {c : Commit} (h : c.line < 2 ^ 64) : ReadAs Commit.decode? c.toJson c := by
  intro v' hsame
  obtain ⟨slots, hslots, hall⟩ := (isRecord_commit c).exists_slots (by simp [DistinctNames]) hsame
    _ (List.Subset.refl _)
    [["hash"], ["author_name"], ["author_email"], ["title"], ["line_number"]] (by simp)
  rcases hall with _ | ⟨hhash, _ | ⟨hauthor, _ | ⟨hemail, _ | ⟨htitle, _ | ⟨hline, ⟨⟩⟩⟩⟩⟩⟩
  simp [Commit.decode?, hslots, hhash.required (readAs_str _), hauthor.required (readAs_str _),
    hemail.required (readAs_str _), htitle.required (readAs_str _),
    hline.required (readAs_nat64 h)]

theorem plain_commit {c : Commit} (h : c.line < 2 ^ 64) : Throughout Plain c.toJson := by
  refine (isRecord_commit c).plain (by simp [DistinctNames]) ?_
  simp [plain_str, plain_nat h]

/-! ## Findings -/

/-- The numbers of a finding have 64 bits, and its details are JSON values in order whose numbers
have 64 bits, too. -/
structure Finding.Sound (f : Finding) : Prop where
  position : ∀ n ∈ f.hit.position, n < 2 ^ 64
  line : ∀ n ∈ f.line, n < 2 ^ 64
  commit : ∀ c ∈ f.commit, c.line < 2 ^ 64
  details : Sorted f.hit.details
  ordered : ∀ m ∈ f.hit.details, Throughout Ordered m.2
  plain : ∀ m ∈ f.hit.details, Throughout Plain m.2

namespace Finding

variable {f : Finding}

theorem distinctNames_hit (f : Finding) : DistinctNames f.hit.members := by
  simp [DistinctNames, Hit.members]

theorem readAs_hit (h : f.Sound) {v : Json} (hrecord : IsRecord v f.hit.members) :
    ReadAs Hit.decode? v f.hit := by
  intro v' hsame
  obtain ⟨slots, hslots, hall⟩ := hrecord.exists_slots (distinctNames_hit f) hsame
    f.hit.members (List.Subset.refl _) Hit.fields (by simp [Hit.members, Hit.fields])
  rcases hall with _ | ⟨hdetector, _ | ⟨hvalue, _ | ⟨hverified, _ | ⟨hposition, _ | ⟨hdetails,
    ⟨⟩⟩⟩⟩⟩⟩
  have hdetails : ∀ s, Slot.Holds (if f.hit.details.isEmpty then none else
      some (.ofMembers f.hit.details)) s →
      s.defaulted Document.jsonMap? [] = some f.hit.details := by
    intro s hs
    cases hempty : f.hit.details.isEmpty with
    | true =>
        rw [hempty] at hs
        rw [hs.defaulted_of_none, List.isEmpty_iff.mp hempty]
    | false =>
        rw [hempty] at hs
        exact hs.defaulted (readAs_jsonMap h.details h.ordered)
  simp [Hit.decode?, hslots, Hit.ofSlots?, hdetector.required (readAs_str _),
    hvalue.optional (.ofString? _), hverified.required (readAs_bool _),
    hposition.optional (.ofNat? h.position), hdetails _ ‹_›]

/-- The fields of a finding that are not those of its hit. -/
def ownMembers (f : Finding) : List (String × Option Json) :=
  [("file_path", some (.str f.path)), ("scanner_type", some (.str f.origin.name)),
    ("line_number", f.line.map fun (n : Nat) => .int n),
    ("commit_info", f.commit.map Commit.toJson), ("mask", some (.bool f.masked)),
    ("url", f.url.map .str)]

theorem isRecord_toJson (f : Finding) : IsRecord f.toJson (f.hit.members ++ f.ownMembers) :=
  isRecord_record (f.hit.members ++ f.ownMembers)

theorem distinctNames_members (f : Finding) : DistinctNames (f.hit.members ++ f.ownMembers) := by
  simp [DistinctNames, Hit.members, ownMembers]

theorem plain_details (h : f.Sound) : Throughout Plain (.ofMembers f.hit.details) :=
  plain_ofMembers h.details.distinctNames h.plain

theorem plain_toJson (h : f.Sound) : Throughout Plain f.toJson := by
  refine (isRecord_toJson f).plain (distinctNames_members f) (List.forall_mem_append.mpr ⟨?_, ?_⟩)
  · simp [Hit.members, plain_str, plain_bool, plain_ofString?, plain_ofNat? h.position,
      plain_details h]
  · have hline : ∀ n, f.line = some n → Throughout Plain (.int n) := fun n hn =>
      plain_nat (h.line n hn)
    have hcommit : ∀ c, f.commit = some c → Throughout Plain c.toJson := fun c hc =>
      plain_commit (h.commit c hc)
    simpa [ownMembers, plain_str, plain_bool] using ⟨hline, hcommit⟩

theorem others_ofJsonMembers (members : List (String × Json)) :
    others (Document.ofJsonMembers members) = Document.ofJsonMembers
      (members.filter fun m => !(ownFields.any (·.contains m.1))) := by
  rw [others, Document.ofJsonMembers_eq_map, Document.ofJsonMembers_eq_map, List.filter_map]
  rfl

theorem filter_members (f : Finding) :
    ((f.hit.members ++ f.ownMembers).filter fun m => !(ownFields.any (·.contains m.1))) =
      f.hit.members := by
  simp [Hit.members, ownMembers, ownFields]

theorem readAs_origin (o : Origin) : ReadAs Origin.decode? (.str o.name) o := by
  intro v' hsame
  cases hsame
  cases o <;> rfl

/-- What is left of a finding without its own fields is its hit. -/
theorem decode?_others (h : f.Sound) {members : List (String × Json)}
    (hsame : Same f.toJson (.obj members)) :
    Hit.decode? (.obj (others (Document.ofJsonMembers members))) = some f.hit := by
  obtain ⟨written, heq, hperm⟩ := isRecord_toJson f
  rw [heq] at hsame
  have hsame' := same_filter (fun n => !(ownFields.any (·.contains n))) hsame
  rw [others_ofJsonMembers]
  refine readAs_hit h ⟨_, rfl, ?_⟩ _ hsame'
  rw [← filter_members f, present_filter fun n => !(ownFields.any (·.contains n))]
  exact hperm.filter _

theorem readAs_finding (h : f.Sound) : ReadAs decode? f.toJson f := by
  intro v' hsame
  obtain ⟨slots, hslots, hall⟩ := (isRecord_toJson f).exists_slots (distinctNames_members f) hsame
    f.ownMembers (List.subset_append_right _ _) ownFields
    (by simp [Hit.members, ownMembers, ownFields])
  rcases hall with _ | ⟨hpath, _ | ⟨horigin, _ | ⟨hline, _ | ⟨hcommit, _ | ⟨hmasked, _ | ⟨hurl,
    ⟨⟩⟩⟩⟩⟩⟩⟩
  have hplain := plain_of_same (plain_toJson h) hsame
  obtain ⟨written, heq, -⟩ := isRecord_toJson f
  rw [heq] at hsame
  cases hsame with
  | @obj _ members hnames hvalues =>
      have hfaults : (others (Document.ofJsonMembers members)).any (fun m => m.2.toJson?.isNone) =
          false := by
        rw [others_ofJsonMembers, Document.ofJsonMembers_eq_map, List.any_eq_false]
        intro m hm
        obtain ⟨m', hm', rfl⟩ := List.mem_map.mp hm
        obtain ⟨w, hw, -⟩ := Document.exists_toJson?_ofJson
          ((throughout_obj_iff.mp hplain).2 m' (List.mem_filter.mp hm').1)
        simp [hw]
      have hhit := decode?_others h (heq ▸ Same.obj hnames hvalues)
      rw [Document.ofJson] at hslots
      simp [decode?, Document.ofJson, hfaults, hhit, hslots, hpath.required (readAs_str _),
        horigin.required (readAs_origin _),
        hline.optional (.map fun n hn => ⟨by simp, readAs_nat64 (h.line n hn)⟩),
        hcommit.optional
          (.map fun c hc => ⟨by simp [Commit.toJson], readAs_commit (h.commit c hc)⟩),
        hmasked.required (readAs_bool _), hurl.optional (.map fun u _ => ⟨by simp, readAs_str u⟩)]

end Finding

/-! ## Configurations -/

/-- The limits have as many bits as their types. -/
structure Limits.Sound (l : Limits) : Prop where
  maxOpenFiles : l.maxOpenFiles < 2 ^ 64
  maxPendingLines : l.maxPendingLines < 2 ^ 64
  maxVerifications : l.maxVerifications < 2 ^ 64
  verifyRatePerSecond : l.verifyRatePerSecond < 2 ^ 32
  verifyTimeoutSeconds : l.verifyTimeoutSeconds < 2 ^ 64
  maxFileSize : l.maxFileSize < 2 ^ 64

/-- The numbers of a configuration have as many bits as their types, and named patterns stand in
order. -/
structure Config.Sound (c : Config) : Prop where
  limits : c.limits.Sound
  depth : c.history.depth < 2 ^ 64
  cloneTimeoutSeconds : c.history.cloneTimeoutSeconds < 2 ^ 64
  cacheSize : c.redaction.cacheSize < 2 ^ 64
  patterns : ∀ e ∈ c.detectors, ∀ ps, e.patterns = some (.named ps) → Sorted ps

theorem readAs_patternChoice {p : PatternChoice} (h : ∀ ps, p = .named ps → Sorted ps) :
    ReadAs PatternChoice.decode? p.toJson p := by
  intro v' hsame
  cases p with
  | single pattern =>
      cases hsame
      rfl
  | named patterns =>
      have hread : Document.map? Document.string? (Document.ofJson v') = some patterns :=
        readAs_map (h patterns rfl) (fun e _ => readAs_str e.2) v' hsame
      cases hsame with
      | obj => exact congrArg (Option.map PatternChoice.named) hread

theorem toJson_patternChoice_ne_null (p : PatternChoice) : p.toJson ≠ .null := by
  cases p <;> simp [PatternChoice.toJson, ofMembers]

theorem flat_patternChoice {p : PatternChoice} (h : ∀ ps, p = .named ps → Sorted ps) :
    Flat 1 p.toJson := by
  cases p with
  | single pattern => exact flat_str 1 pattern
  | named patterns =>
      have hsorted := (h patterns rfl).map_snd Json.str
      exact flat_ofMembers hsorted.distinctNames (List.forall_mem_map.mpr fun e _ => flat_str 0 e.2)

theorem readAs_entry {e : CustomEntry} (h : ∀ ps, e.patterns = some (.named ps) → Sorted ps) :
    ReadAs CustomEntry.decode? e.toJson e := by
  intro v' hsame
  obtain ⟨slots, hslots, hall⟩ := exists_slots_ofMembers (by simp [DistinctNames]) hsame
    [["detectorType", "detector_type"], ["keywords"], ["regex"], ["group"]] (by simp)
  rcases hall with _ | ⟨hname, _ | ⟨hkeywords, _ | ⟨hregex, _ | ⟨hgroup, ⟨⟩⟩⟩⟩⟩
  have hkeywords' := hkeywords.optional
    (show Slot.Writes (Document.list? Document.string?) e.keywords _ by
      cases e.keywords with
      | none => exact .null
      | some ks => exact .there (by simp [strings]) (readAs_strings ks))
  have hregex' := hregex.optional
    (show Slot.Writes PatternChoice.decode? e.patterns _ by
      cases hpatterns : e.patterns with
      | none => exact .null
      | some p =>
          exact .there (toJson_patternChoice_ne_null p)
            (readAs_patternChoice fun ps hps => h ps (hps ▸ hpatterns)))
  simp [CustomEntry.decode?, hslots, hname.optional (.ofString? _), hkeywords', hregex',
    hgroup.defaulted (readAs_strings _)]

theorem flat_entry {e : CustomEntry} (h : ∀ ps, e.patterns = some (.named ps) → Sorted ps) :
    Flat 2 e.toJson := by
  refine flat_ofMembers (n := 1) (by simp [DistinctNames]) ?_
  simp only [List.forall_mem_cons]
  refine ⟨flat_ofString? 1 _, ?keywords, ?regex, flat_strings 0 _, List.forall_mem_nil _⟩
  case keywords =>
    cases e.keywords with
    | none => exact flat_null 1
    | some ks => exact flat_strings 0 ks
  case regex =>
    cases hpatterns : e.patterns with
    | none => exact flat_null 1
    | some p => exact flat_patternChoice fun ps hps => h ps (hps ▸ hpatterns)

namespace Config

theorem readAs_exclusions (e : Exclusions) : ReadAs decodeExclusions?
    (.ofMembers [("paths", .strings e.paths), ("extensions", .strings e.extensions)]) e := by
  intro v' hsame
  obtain ⟨slots, hslots, hall⟩ := exists_slots_ofMembers (by simp [DistinctNames]) hsame
    [["paths"], ["extensions"]] (by simp)
  rcases hall with _ | ⟨hpaths, _ | ⟨hextensions, ⟨⟩⟩⟩
  simp [decodeExclusions?, hslots, hpaths.defaulted (readAs_strings _),
    hextensions.defaulted (readAs_strings _)]

theorem readAs_limits {l : Limits} (h : l.Sound) : ReadAs decodeLimits? (.ofMembers
    [("max_open_files", .int l.maxOpenFiles), ("max_pending_lines", .int l.maxPendingLines),
     ("max_verifications", .int l.maxVerifications),
     ("verify_rate_per_second", .int l.verifyRatePerSecond),
     ("verify_timeout_secs", .int l.verifyTimeoutSeconds),
     ("max_file_size", .int l.maxFileSize)]) l := by
  intro v' hsame
  obtain ⟨slots, hslots, hall⟩ := exists_slots_ofMembers (by simp [DistinctNames]) hsame
    [["max_open_files"], ["max_pending_lines"], ["max_verifications"], ["verify_rate_per_second"],
      ["verify_timeout_secs"], ["max_file_size"]] (by simp)
  rcases hall with _ | ⟨hfiles, _ | ⟨hlines, _ | ⟨hverifications, _ | ⟨hrate, _ | ⟨htimeout,
    _ | ⟨hsize, ⟨⟩⟩⟩⟩⟩⟩⟩
  simp [decodeLimits?, hslots, hfiles.defaulted (readAs_nat64 h.maxOpenFiles),
    hlines.defaulted (readAs_nat64 h.maxPendingLines),
    hverifications.defaulted (readAs_nat64 h.maxVerifications),
    hrate.defaulted (readAs_nat32 h.verifyRatePerSecond),
    htimeout.defaulted (readAs_nat64 h.verifyTimeoutSeconds),
    hsize.defaulted (readAs_nat64 h.maxFileSize)]

theorem readAs_history {s : HistorySettings} (hdepth : s.depth < 2 ^ 64)
    (htimeout : s.cloneTimeoutSeconds < 2 ^ 64) : ReadAs decodeHistory? (.ofMembers
      [("depth", .int s.depth), ("upstream_ref", .str s.upstream),
       ("clone_timeout_secs", .int s.cloneTimeoutSeconds)]) s := by
  intro v' hsame
  obtain ⟨slots, hslots, hall⟩ := exists_slots_ofMembers (by simp [DistinctNames]) hsame
    [["depth"], ["upstream_ref"], ["clone_timeout_secs"]] (by simp)
  rcases hall with _ | ⟨hfirst, _ | ⟨hupstream, _ | ⟨hlast, ⟨⟩⟩⟩⟩
  simp [decodeHistory?, hslots, hfirst.defaulted (readAs_nat64 hdepth),
    hupstream.defaulted (readAs_str _), hlast.defaulted (readAs_nat64 htimeout)]

theorem readAs_redaction {s : RedactionSettings} (hsize : s.cacheSize < 2 ^ 64) :
    ReadAs decodeRedaction? (.ofMembers
      [("cache_size", .int s.cacheSize), ("rules_path", .ofString? s.rulesPath)]) s := by
  intro v' hsame
  obtain ⟨slots, hslots, hall⟩ := exists_slots_ofMembers (by simp [DistinctNames]) hsame
    [["cache_size"], ["rules_path"]] (by simp)
  rcases hall with _ | ⟨hcache, _ | ⟨hpath, ⟨⟩⟩⟩
  simp [decodeRedaction?, hslots, hcache.defaulted (readAs_nat64 hsize),
    hpath.optionalOr (.ofString? _)]

theorem readAs_config {c : Config} (h : c.Sound) : ReadAs decode? c.toJson c := by
  intro v' hsame
  obtain ⟨slots, hslots, hall⟩ := exists_slots_ofMembers (by simp [DistinctNames]) hsame
    [["exclude"], ["scan"], ["history"], ["redaction"], ["detectors"]] (by simp)
  rcases hall with _ | ⟨hexclude, _ | ⟨hscan, _ | ⟨hhistory, _ | ⟨hredaction, _ | ⟨hdetectors,
    ⟨⟩⟩⟩⟩⟩⟩
  simp [decode?, hslots, hexclude.defaulted (readAs_exclusions _),
    hscan.defaulted (readAs_limits h.limits),
    hhistory.defaulted (readAs_history h.depth h.cloneTimeoutSeconds),
    hredaction.defaulted (readAs_redaction h.cacheSize),
    hdetectors.defaulted (readAs_list fun e he => readAs_entry (h.patterns e he))]

theorem flat_toJson {c : Config} (h : c.Sound) : Flat 4 c.toJson := by
  have hrate : c.limits.verifyRatePerSecond < 2 ^ 64 :=
    h.limits.verifyRatePerSecond.trans (by decide)
  refine flat_ofMembers (n := 3) (by simp [DistinctNames]) ?_
  simp only [List.forall_mem_cons]
  refine ⟨?exclude, ?scan, ?history, ?redaction, ?detectors, List.forall_mem_nil _⟩
  case exclude =>
    refine flat_ofMembers (n := 2) (by simp [DistinctNames]) ?_
    simp only [List.forall_mem_cons]
    exact ⟨flat_strings 1 _, flat_strings 1 _, List.forall_mem_nil _⟩
  case scan =>
    refine flat_ofMembers (n := 2) (by simp [DistinctNames]) ?_
    simp only [List.forall_mem_cons]
    exact ⟨flat_nat 2 h.limits.maxOpenFiles, flat_nat 2 h.limits.maxPendingLines,
      flat_nat 2 h.limits.maxVerifications, flat_nat 2 hrate,
      flat_nat 2 h.limits.verifyTimeoutSeconds, flat_nat 2 h.limits.maxFileSize,
      List.forall_mem_nil _⟩
  case history =>
    refine flat_ofMembers (n := 2) (by simp [DistinctNames]) ?_
    simp only [List.forall_mem_cons]
    exact ⟨flat_nat 2 h.depth, flat_str 2 _, flat_nat 2 h.cloneTimeoutSeconds,
      List.forall_mem_nil _⟩
  case redaction =>
    refine flat_ofMembers (n := 2) (by simp [DistinctNames]) ?_
    simp only [List.forall_mem_cons]
    exact ⟨flat_nat 2 h.cacheSize, flat_ofString? 2 _, List.forall_mem_nil _⟩
  case detectors =>
    exact flat_arr (List.forall_mem_map.mpr fun e he => flat_entry (h.patterns e he))

end Config

/-! ## Nothing is lost -/

/-- What is written for `a` says all of it. The value of the written form is read as `a`, and so is
every value in which the members of objects stand in another order, also from its text as long as
that does not nest too deep. What was read is written in the same way again. -/
structure Restored {α : Type} (toJson : α → Json) (decode? : Decoder α) (a : α) : Prop where
  value : ∃ v, (Document.ofJson (toJson a)).toJson? = some v ∧ Same (toJson a) v ∧
    decode? (Document.ofJson v) = some a
  read : ∀ v, Same (toJson a) v → decode? (Document.ofJson v) = some a
  again : ∀ v b, Same (toJson a) v → decode? (Document.ofJson v) = some b → toJson b = toJson a
  compact : (toJson a).depth ≤ maxDepth → ∀ v, Same (toJson a) v →
    (readDocument? v.render).bind decode? = some a
  indented : (toJson a).depth ≤ maxDepth → ∀ v, Same (toJson a) v →
    (readDocument? (v.renderIndented 0)).bind decode? = some a

theorem restored_of_readAs {α : Type} {toJson : α → Json} {decode? : Decoder α} {a : α}
    (hplain : Throughout Plain (toJson a)) (hread : ReadAs decode? (toJson a) a) :
    Restored toJson decode? a where
  value := by
    obtain ⟨v, hv, -, hsame⟩ := Document.exists_toJson?_ofJson hplain
    exact ⟨v, hv, hsame, hread v hsame⟩
  read := hread
  again v b hsame hb := by
    obtain rfl := Option.some.inj ((hread v hsame).symm.trans hb)
    rfl
  compact hdepth v hsame := by
    rw [isForm_render.readDocument? (plain_of_same hplain hsame) (depth_le_of_same hsame hdepth)]
    exact hread v hsame
  indented hdepth v hsame := by
    rw [isForm_renderIndented.readDocument? (plain_of_same hplain hsame)
      (depth_le_of_same hsame hdepth)]
    exact hread v hsame

/-- Findings and configurations are read back from what is written for them. Only the details of a
finding can nest too deep for a text. -/
theorem written_form_is_read_back :
    (∀ f : Finding, f.Sound → Restored Finding.toJson Finding.decode? f) ∧
      ∀ c : Config, c.Sound → Restored Config.toJson Config.decode? c ∧
        c.toJson.depth ≤ maxDepth := by
  refine ⟨fun f h => ?_, fun c h => ⟨?_, ?_⟩⟩
  · exact restored_of_readAs (Finding.plain_toJson h) (Finding.readAs_finding h)
  · exact restored_of_readAs (Config.flat_toJson h).plain (Config.readAs_config h)
  · exact (Config.flat_toJson h).depth_le.trans (by decide)

/-- A finding in a commit, without a value and with details that nest. -/
def Finding.withNestedDetails : Finding where
  hit := {
    detector := "Slack"
    value := none
    verified := true
    position := some 18446744073709551615
    details := [("owner", .obj [("id", .int (-7)), ("teams", .arr [.str "a", .null])])] }
  path := "src/app.py"
  origin := .history
  line := none
  commit := some { hash := "0123abc", line := 3 }
  masked := true
  url := none

/-- A configuration with a single pattern, named patterns and a detector without any field. -/
def Config.withNamedPatterns : Config where
  redaction := { rulesPath := some "rules.toml" }
  detectors := [
    { name := some "one", keywords := some ["key"], patterns := some (.single "key-[0-9]+") },
    { patterns := some (.named [("long", "[0-9]\x7b40\x7d"), ("short", "[0-9]+")]),
      groupKeywords := ["id"] },
    {}]

theorem Finding.sound_withNestedDetails : withNestedDetails.Sound where
  position := by simp [withNestedDetails]
  line := nofun
  commit := by simp [withNestedDetails]
  details := List.pairwise_singleton _ _
  ordered := by
    simp only [withNestedDetails, List.forall_mem_cons, throughout_obj_iff, throughout_arr_iff]
    have hmembers : Ordered (.obj [("id", .int (-7)), ("teams", .arr [.str "a", .null])]) := by
      unfold Ordered
      decide
    exact ⟨⟨hmembers, ⟨trivial, nofun⟩,
      ⟨trivial, ⟨trivial, nofun⟩, ⟨trivial, nofun⟩, nofun⟩, nofun⟩, nofun⟩
  plain := by
    simp only [withNestedDetails, List.forall_mem_cons, throughout_obj_iff, throughout_arr_iff]
    have hmembers : Plain (.obj [("id", .int (-7)), ("teams", .arr [.str "a", .null])]) := by
      simp [Plain, DistinctNames]
    exact ⟨⟨hmembers, ⟨⟨by decide, by decide⟩, nofun⟩, ⟨trivial, plain_str "a", plain_null, nofun⟩,
      nofun⟩, nofun⟩

theorem Config.sound_withNamedPatterns : withNamedPatterns.Sound where
  limits := by constructor <;> decide
  depth := by decide
  cloneTimeoutSeconds := by decide
  cacheSize := by decide
  patterns := by
    have hsorted : Sorted [("long", "[0-9]\x7b40\x7d"), ("short", "[0-9]+")] := by decide
    simpa [withNamedPatterns] using hsorted

theorem written_form_is_read_back_at_nested_details :
    Finding.withNestedDetails.Sound ∧ Config.withNamedPatterns.Sound ∧
      Finding.decode? (Document.ofJson Finding.withNestedDetails.toJson) =
        some Finding.withNestedDetails ∧
      (readDocument? (Finding.withNestedDetails.toJson.renderIndented 0)).bind Finding.decode? =
        some Finding.withNestedDetails ∧
      Config.decode? (Document.ofJson Config.withNamedPatterns.toJson) =
        some Config.withNamedPatterns := by
  have hf := written_form_is_read_back.1 _ Finding.sound_withNestedDetails
  have hc := (written_form_is_read_back.2 _ Config.sound_withNamedPatterns).1
  have hsame := same_self (Finding.plain_toJson Finding.sound_withNestedDetails)
  refine ⟨Finding.sound_withNestedDetails, Config.sound_withNamedPatterns, hf.read _ hsame,
    hf.indented (by decide) _ hsame, hc.read _ (same_self ?_)⟩
  exact (Config.flat_toJson Config.sound_withNamedPatterns).plain

end SecretScan

import SecretScan.Checkout.Schedule
import SecretScan.Config.Load
import SecretScan.Proofs.Engine.Traffic
import SecretScan.Proofs.History.Overflow
import SecretScan.Proofs.RoundTrip

/-!
# Limits of a configuration

Three limits of a configuration become numbers of permits: for verifications, for open files, and
for added lines. A configuration is accepted with any limits of 64 bits. Each is raised to one, but
none is lowered, so a run breaks down just if one of the three is beyond the greatest number of
permits.
-/

namespace SecretScan

/-! ## What is accepted -/

namespace Document

variable {d : Document} {n : Nat}

theorem within?_eq_some_iff {low high i : Int} :
    d.within? low high = some i ↔ d = .int i ∧ low ≤ i ∧ i ≤ high := by
  cases d with
  | int k =>
      simp only [within?, Option.ite_none_right_eq_some, Bool.and_eq_true, decide_eq_true_eq,
        Option.some.injEq, int.injEq]
      constructor
      · rintro ⟨hbounds, rfl⟩
        exact ⟨rfl, hbounds⟩
      · rintro ⟨rfl, hbounds⟩
        exact ⟨hbounds, rfl⟩
  | _ => simp [within?]

theorem nat64?_lt (h : d.nat64? = some n) : n < 2 ^ 64 := by
  obtain ⟨i, hi, rfl⟩ := Option.map_eq_some_iff.mp h
  obtain ⟨-, hlow, hhigh⟩ := within?_eq_some_iff.mp hi
  have htop : ((Decimal.twoTo 64 : Nat) : Int) = 2 ^ 64 := by decide
  omega

theorem nat32?_lt (h : d.nat32? = some n) : n < 2 ^ 32 := by
  obtain ⟨i, hi, rfl⟩ := Option.map_eq_some_iff.mp h
  obtain ⟨-, hlow, hhigh⟩ := within?_eq_some_iff.mp hi
  have htop : ((Decimal.twoTo 32 : Nat) : Int) = 2 ^ 32 := by decide
  omega

end Document

theorem Limits.sound_default : ({} : Limits).Sound := by
  constructor <;> decide

theorem Config.sound_of_decodeLimits? {d : Document} {l : Limits} (h : decodeLimits? d = some l) :
    l.Sound := by
  obtain ⟨slots, -, h⟩ := Option.bind_eq_some_iff.mp h
  split at h
  · rename_i openFiles pendingLines verifications rate timeout fileSize
    simp only [Option.bind_eq_bind, Option.bind_eq_some_iff, Option.pure_def,
      Option.some.injEq] at h
    obtain ⟨_, hopen, _, hpending, _, hverifications, _, hrate, _, htimeout, _, hsize, rfl⟩ := h
    have h64 {s : Slot} {base n : Nat} (hfield : s.defaulted Document.nat64? base = some n)
        (hbase : base < 2 ^ 64) : n < 2 ^ 64 :=
      Slot.of_defaulted (P := (· < 2 ^ 64)) hfield (fun _ _ => Document.nat64?_lt) hbase
    have h32 {s : Slot} {base n : Nat} (hfield : s.defaulted Document.nat32? base = some n)
        (hbase : base < 2 ^ 32) : n < 2 ^ 32 :=
      Slot.of_defaulted (P := (· < 2 ^ 32)) hfield (fun _ _ => Document.nat32?_lt) hbase
    exact ⟨h64 hopen (by decide), h64 hpending (by decide), h64 hverifications (by decide),
      h32 hrate (by decide), h64 htimeout (by decide), h64 hsize (by decide)⟩
  · simp at h

theorem Config.sound_limits_of_decode? {d : Document} {c : Config} (h : decode? d = some c) :
    c.limits.Sound := by
  obtain ⟨slots, -, h⟩ := Option.bind_eq_some_iff.mp h
  split at h
  · rename_i exclusions limits history redaction detectors
    simp only [Option.bind_eq_bind, Option.bind_eq_some_iff, Option.pure_def,
      Option.some.injEq] at h
    obtain ⟨_, -, _, hlimits, _, -, _, -, _, -, rfl⟩ := h
    exact Slot.of_defaulted hlimits (fun _ _ => sound_of_decodeLimits?) Limits.sound_default
  · simp at h

/-- Whatever their values, limits are accepted. -/
theorem Limits.Sound.exists_decode? {l : Limits} (h : l.Sound) :
    ∃ d c, Config.decode? d = some c ∧ c.limits = l := by
  have hsound : Config.Sound { limits := l } :=
    ⟨h, show 100 < 2 ^ 64 by decide, show 300 < 2 ^ 64 by decide, show 1000 < 2 ^ 64 by decide,
      nofun⟩
  have hplain := (Config.flat_toJson hsound).plain
  exact ⟨_, _, Config.readAs_config hsound _ (Json.same_self hplain), rfl⟩

/-! ## What becomes of a limit -/

theorem permitsFor_eq_ok_iff {limit permits : Nat} :
    permitsFor limit = .ok permits ↔ limit ≤ maxPermits ∧ permits = max limit 1 := by
  have hone : 1 ≤ maxPermits := by decide
  by_cases hlimit : limit ≤ maxPermits
  · rw [permitsFor_of_le (Nat.max_le.mpr ⟨hlimit, hone⟩)]
    simp [hlimit, eq_comm]
  · rw [permitsFor_of_lt (lt_max_of_lt_left (Nat.not_le.mp hlimit))]
    simp [hlimit]

theorem permitsFor_eq_error_iff {limit : Nat} {f : Failure} :
    permitsFor limit = .error f ↔ maxPermits < limit ∧ f = .permits := by
  have hone : 1 ≤ maxPermits := by decide
  by_cases hlimit : limit ≤ maxPermits
  · rw [permitsFor_of_le (Nat.max_le.mpr ⟨hlimit, hone⟩)]
    simp [hlimit]
  · rw [permitsFor_of_lt (lt_max_of_lt_left (Nat.not_le.mp hlimit))]
    simp [Nat.not_le.mp hlimit, eq_comm]

theorem Gate.ofLimit_eq_error_iff {limit : Nat} {f : Failure} :
    Gate.ofLimit limit = .error f ↔ maxPermits < limit ∧ f = .permits := by
  rw [ofLimit, ← permitsFor_eq_error_iff]
  cases permitsFor limit <;> simp [Except.map]

/-! ## The start of a scan -/

section

variable {o : ScanOptions} {root : String} {found : Except SystemError Entry} {permits : Nat}

namespace Files

/-- With permits, only the root can keep a scan from starting. -/
theorem Progress.start_of_permits (h : permitsFor o.maxOpenFiles = .ok permits) :
    Progress.start o root found ≠ .error .permits ∧
      ∀ s, Progress.start o root found = .ok s → s.free = permits := by
  cases found with
  | error err => simp [start, h]
  | ok entry =>
      cases entry with
      | link target => simp [start, h]
      | file access content => simp [start, h, eq_comm]
      | folder access entries => cases hread : access.read <;> simp [start, h, hread, eq_comm]

theorem Progress.start_eq_permits_iff :
    Progress.start o root found = .error .permits ↔ maxPermits < o.maxOpenFiles := by
  cases hpermits : permitsFor o.maxOpenFiles with
  | error f =>
      obtain ⟨hlimit, rfl⟩ := permitsFor_eq_error_iff.mp hpermits
      simp [start, hpermits, hlimit]
  | ok permits =>
      have hlimit := (permitsFor_eq_ok_iff.mp hpermits).1
      simp [(start_of_permits hpermits).1, hlimit]

theorem scan_eq_permits_iff {e : Engine} {ask : Inquiry Id} :
    (scan e ask o root found).run = .error .permits ↔ maxPermits < o.maxOpenFiles := by
  cases hpermits : permitsFor o.maxOpenFiles with
  | error f =>
      obtain ⟨hlimit, rfl⟩ := permitsFor_eq_error_iff.mp hpermits
      simp [scan, hpermits, hlimit]
  | ok permits =>
      have hlimit := (permitsFor_eq_ok_iff.mp hpermits).1
      cases hwalk : walk o root found <;> simp [scan, hpermits, hwalk, hlimit]

end Files

namespace History

/-- With permits, only the count of lines can break the reader down. -/
theorem readLog_eq_permits_iff (b : Build) (run : Git.Run) :
    readLog b o run = .error .permits ↔ maxPermits < o.maxPendingLines := by
  cases hpermits : permitsFor o.maxPendingLines with
  | error f =>
      obtain ⟨hlimit, rfl⟩ := permitsFor_eq_error_iff.mp hpermits
      simp [readLog, hpermits, hlimit, bind, Except.bind]
  | ok permits =>
      have hlimit := (permitsFor_eq_ok_iff.mp hpermits).1
      refine iff_of_false ?_ (Nat.not_lt.mpr hlimit)
      rw [readLog, hpermits]
      show (DiffParser.new o.exclusions.paths).feedAll? b (Git.linesOf run.output) ≠ _
      by_cases hfits : (DiffParser.new o.exclusions.paths).Fits b (Git.linesOf run.output)
      · rw [DiffParser.feedAll?_of_fits hfits]
        exact nofun
      · rw [DiffParser.feedAll?_of_not_fits hfits]
        exact nofun

theorem scan_eq_permits_iff {b : Build} {e : Engine} {ask : Inquiry Id} {range : Git.Range}
    {run : Except SystemError Git.Run} :
    (scan b e ask o range run).run = .error .permits ↔
      (∃ r, run = .ok r) ∧ maxPermits < o.maxPendingLines := by
  cases run with
  | error err => simp [scan]
  | ok run =>
      rw [← readLog_eq_permits_iff b run]
      cases hread : readLog b o run with
      | error f => simp [scan, hread]
      | ok read => simp [scan, hread]

end History

namespace Checkout.Progress

variable {past : Option Past} {sink : Sink}

theorem logOf_eq_permits_iff :
    logOf o past = .error .permits ↔
      (∃ p ∈ past, ∃ run, p.run = .ok run) ∧ maxPermits < o.maxPendingLines := by
  match past with
  | none => simp [logOf]
  | some ⟨range, .error err⟩ => simp [logOf]
  | some ⟨range, .ok run⟩ =>
      cases hpermits : permitsFor o.maxPendingLines with
      | error f =>
          obtain ⟨hlimit, rfl⟩ := permitsFor_eq_error_iff.mp hpermits
          simp [logOf, hpermits, Except.map, hlimit]
      | ok permits =>
          have hlimit := (permitsFor_eq_ok_iff.mp hpermits).1
          simp [logOf, hpermits, Except.map, hlimit]

/-- The permits for the log of a past are those for the limit. -/
theorem permits_of_logOf {p : Past} {lines : List (List Char)}
    (h : logOf o (some p) = .ok (lines, permits)) : permitsFor o.maxPendingLines = .ok permits := by
  obtain ⟨range, run | run⟩ := p
  · simp [logOf] at h
  · cases hpermits : permitsFor o.maxPendingLines <;> simp_all [logOf, Except.map]

/-- A scan that has begun has read nothing, and all permits are free. -/
theorem start_eq_ok {s : Progress} (h : start o root found past sink = .ok s) :
    permitsFor o.maxOpenFiles = .ok s.files.free ∧
      ∀ p ∈ past, permitsFor o.maxPendingLines = .ok s.free := by
  cases hfiles : permitsFor o.maxOpenFiles with
  | error f => simp [start, hfiles, bind, Except.bind] at h
  | ok permits =>
      cases hlog : logOf o past with
      | error f => simp [start, hfiles, hlog, bind, Except.bind] at h
      | ok log =>
          cases hstart : Files.Progress.start o root found with
          | error f => simp [start, hfiles, hlog, hstart, bind, Except.bind] at h
          | ok files =>
              simp only [start, hfiles, hlog, hstart, bind, Except.bind, pure, Except.pure,
                Except.ok.injEq] at h
              subst h
              constructor
              · rw [(Files.Progress.start_of_permits hfiles).2 files hstart]
              · rintro p rfl
                exact permits_of_logOf hlog

theorem start_eq_permits_iff :
    start o root found past sink = .error .permits ↔
      maxPermits < o.maxOpenFiles ∨
        (∃ p ∈ past, ∃ run, p.run = .ok run) ∧ maxPermits < o.maxPendingLines := by
  cases hfiles : permitsFor o.maxOpenFiles with
  | error f =>
      obtain ⟨hlimit, rfl⟩ := permitsFor_eq_error_iff.mp hfiles
      simp [start, hfiles, bind, Except.bind, hlimit]
  | ok permits =>
      have hlimit := (permitsFor_eq_ok_iff.mp hfiles).1
      rw [← logOf_eq_permits_iff, or_iff_right (Nat.not_lt.mpr hlimit)]
      cases hlog : logOf o past with
      | error f => simp [start, hfiles, hlog, bind, Except.bind]
      | ok log =>
          have hroot : Files.Progress.start o root found ≠ .error .permits :=
            (Files.Progress.start_of_permits hfiles).1
          cases hstart : Files.Progress.start o root found <;>
            simp_all [start, bind, Except.bind, pure, Except.pure]

end Checkout.Progress

end

/-! ## The start of a run -/

namespace Config

/-- What a run begins with: the gate for verifications, and a scan of files and of a past that has
just begun; or what has kept it from that. -/
def start (c : Config) (verify mask : Bool) (root : String) (found : Except SystemError Entry)
    (past : Option Past) (sink : Sink) : Except Failure (Gate × Checkout.Progress) := do
  let gate ← Gate.ofLimit c.limits.maxVerifications
  let progress ← Checkout.Progress.start (.ofConfig c verify mask) root found past sink
  return (gate, progress)

section

variable {c : Config} {verify mask : Bool} {root : String} {found : Except SystemError Entry}
  {past : Option Past} {sink : Sink}

theorem start_eq_permits_iff :
    c.start verify mask root found past sink = .error .permits ↔
      maxPermits < c.limits.maxVerifications ∨ maxPermits < c.limits.maxOpenFiles ∨
        (∃ p ∈ past, ∃ run, p.run = .ok run) ∧ maxPermits < c.limits.maxPendingLines := by
  cases hgate : Gate.ofLimit c.limits.maxVerifications with
  | error f =>
      obtain ⟨hlimit, rfl⟩ := Gate.ofLimit_eq_error_iff.mp hgate
      simp [start, hgate, bind, Except.bind, hlimit]
  | ok gate =>
      have hlimit : ¬ maxPermits < c.limits.maxVerifications := fun hlimit => by
        simp [Gate.ofLimit_eq_error_iff.mpr ⟨hlimit, rfl⟩] at hgate
      have hrest : Checkout.Progress.start (.ofConfig c verify mask) root found past sink =
          .error .permits ↔ _ := Checkout.Progress.start_eq_permits_iff
      rw [or_iff_right hlimit]
      refine Iff.trans ?_ hrest
      cases hstart : Checkout.Progress.start (.ofConfig c verify mask) root found past sink <;>
        simp [start, hgate, hstart, bind, Except.bind, pure, Except.pure]

theorem start_eq_ok {gate : Gate} {s : Checkout.Progress}
    (h : c.start verify mask root found past sink = .ok (gate, s)) :
    Gate.ofLimit c.limits.maxVerifications = .ok gate ∧
      Checkout.Progress.start (.ofConfig c verify mask) root found past sink = .ok s := by
  cases hgate : Gate.ofLimit c.limits.maxVerifications with
  | error f => simp [start, hgate, bind, Except.bind] at h
  | ok gate' =>
      cases hstart : Checkout.Progress.start (.ofConfig c verify mask) root found past sink <;>
        simp_all [start, bind, Except.bind, pure, Except.pure]

end

/-- Limits of any 64 bits are accepted, and a configuration has no others. Each of the three limits
by itself breaks a run down if it is beyond the greatest number of permits; nothing else does. A run
that has begun has as many permits as each limit asks for, and at least one. -/
theorem run_starts_unless_limit_is_beyond_permits {d : Document} {c : Config}
    (haccepted : decode? d = some c) (verify mask : Bool) (root : String)
    (found : Except SystemError Entry) (past : Option Past) (sink : Sink) :
    let o := ScanOptions.ofConfig c verify mask
    (∀ l : Limits, l.Sound → ∃ d' c', decode? d' = some c' ∧ c'.limits = l) ∧ c.limits.Sound ∧
      (Gate.ofLimit c.limits.maxVerifications = .error .permits ↔
        maxPermits < c.limits.maxVerifications) ∧
      (Files.Progress.start o root found = .error .permits ↔
        maxPermits < c.limits.maxOpenFiles) ∧
      (∀ (e : Engine) (ask : Inquiry Id),
        ((Files.scan e ask o root found).run = .error .permits ↔
          maxPermits < c.limits.maxOpenFiles) ∧
        ∀ b range run, (History.scan b e ask o range (.ok run)).run = .error .permits ↔
          maxPermits < c.limits.maxPendingLines) ∧
      (c.start verify mask root found past sink = .error .permits ↔
        maxPermits < c.limits.maxVerifications ∨ maxPermits < c.limits.maxOpenFiles ∨
          (∃ p ∈ past, ∃ run, p.run = .ok run) ∧ maxPermits < c.limits.maxPendingLines) ∧
      ∀ gate s, c.start verify mask root found past sink = .ok (gate, s) →
        gate = ⟨max c.limits.maxVerifications 1, 0⟩ ∧
        s.files.free = max c.limits.maxOpenFiles 1 ∧
        ∀ p ∈ past, s.free = max c.limits.maxPendingLines 1 := by
  intro o
  refine ⟨fun l hl => hl.exists_decode?, sound_limits_of_decode? haccepted,
    Gate.ofLimit_eq_error_iff.trans (and_iff_left rfl), Files.Progress.start_eq_permits_iff, ?_,
    start_eq_permits_iff, ?_⟩
  · intro e ask
    refine ⟨Files.scan_eq_permits_iff, fun b range run => ?_⟩
    exact History.scan_eq_permits_iff.trans (and_iff_right ⟨run, rfl⟩)
  · intro gate s hstart
    obtain ⟨hgate, hscan⟩ := start_eq_ok hstart
    obtain ⟨hfiles, hlines⟩ := Checkout.Progress.start_eq_ok hscan
    exact ⟨(Gate.ofLimit_eq_ok_iff.mp hgate).2, (permitsFor_eq_ok_iff.mp hfiles).2,
      fun p hp => (permitsFor_eq_ok_iff.mp (hlines p hp)).2⟩

/-- The limits that hold without any settings. -/
theorem run_without_settings_starts :
    let past : Option Past := some ⟨.latest 100, .ok ⟨[], [], .exited 0⟩⟩
    ∃ c gate s, decode? (.obj []) = some c ∧
      c.start false false "." (.ok .emptyFolder) past {} = .ok (gate, s) ∧
      gate = ⟨8, 0⟩ ∧ s.files.free = 64 ∧ s.free = 256 := by
  intro past
  have haccepted : decode? (.obj []) = some {} := rfl
  obtain ⟨-, -, -, -, -, -, hstarted⟩ := run_starts_unless_limit_is_beyond_permits haccepted
    false false "." (.ok .emptyFolder) past {}
  obtain ⟨gate, s, hstart⟩ : ∃ gate s, start {} false false "." (.ok .emptyFolder) past {} =
      .ok (gate, s) := ⟨_, _, rfl⟩
  obtain ⟨hgate, hfiles, hlines⟩ := hstarted gate s hstart
  exact ⟨{}, gate, s, haccepted, hstart, hgate, hfiles, hlines _ rfl⟩

/-- Three limits that are accepted, and each of which breaks a run down. -/
theorem limits_of_text_break_run_down :
    let text := "\x7b\"scan\":\x7b\"max_open_files\":2305843009213693952," ++
      "\"max_pending_lines\":2305843009213693952,\"max_verifications\":2305843009213693952\x7d\x7d"
    let limits : Limits :=
      { maxOpenFiles := 2 ^ 61, maxPendingLines := 2 ^ 61, maxVerifications := 2 ^ 61 }
    let c : Config := { limits := limits }
    let run : Git.Run := ⟨[], [], .exited 0⟩
    ofJsonText decode? text.toList = .ok c ∧
      Gate.ofLimit c.limits.maxVerifications = .error .permits ∧
      Files.Progress.start (.ofConfig c false false) "." (.ok .emptyFolder) = .error .permits ∧
      Checkout.Progress.logOf (.ofConfig c false false) (some ⟨.latest 100, .ok run⟩) =
        .error .permits ∧
      c.start false false "." (.ok .emptyFolder) none {} = .error .permits := by
  exact ⟨by decide +kernel, rfl, rfl, rfl, rfl⟩

end Config

end SecretScan

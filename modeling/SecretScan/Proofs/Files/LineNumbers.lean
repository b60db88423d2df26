import SecretScan.Proofs.Detector.Position
import SecretScan.Proofs.Files.Schedule
import SecretScan.Proofs.Text.Decoding

/-!
# Line numbers

The number of a line is counted in the decoded text, whose bytes need not be those on disk. Since
text is decoded line by line, it is the number of a line on disk all the same, and that line by
itself, once it is decoded, has the value in it.
-/

namespace SecretScan.Text

/-! ## The line of a place -/

theorem lineNumberAt_loop (front back : List Char) (line : Nat) :
    lineNumberAt.loop (front ++ back) (byteLength front) line = line + front.count '\n' := by
  induction front generalizing line with
  | nil => cases back <;> simp [lineNumberAt.loop]
  | cons c front ih =>
      have hleft : byteLength (c :: front) - c.utf8Size = byteLength front := by
        rw [byteLength_cons, Nat.add_sub_cancel_left]
      have hpos : byteLength (c :: front) ≠ 0 := by
        have hsize := c.utf8Size_pos
        rw [byteLength_cons]
        omega
      rw [List.cons_append, lineNumberAt.loop, if_neg hpos, hleft, ih]
      by_cases hc : c = '\n'
      · subst hc
        rw [if_pos rfl, List.count_cons_self]
        omega
      · rw [if_neg hc, List.count_cons_of_ne hc]

theorem lineNumberAt_append (front back : List Char) :
    lineNumberAt (front ++ back) (byteLength front) = front.count '\n' + 1 := by
  rw [lineNumberAt, lineNumberAt_loop, Nat.add_comm]

theorem lineStart_zero (text : List Char) : lineStart text 0 = 0 := rfl

theorem lineStart_succ {line : List Char} (hline : '\n' ∉ line) (rest : List Char) (i : Nat) :
    lineStart (line ++ '\n' :: rest) (i + 1) =
      byteLength (line ++ ['\n']) + lineStart rest i := by
  rw [lineStart, List.splitOn_append_cons_self_of_not_mem hline, List.take_succ_cons,
    List.flatMap_cons, byteLength_append (line ++ ['\n']), lineStart]

/-- The first line of a text. -/
theorem head?_splitOn (text : List Char) :
    (text.splitOn '\n')[0]? = some (text.takeWhile (· ≠ '\n')) := by
  induction text using line_induction '\n' with
  | single line hline =>
      have hall : line.takeWhile (· ≠ '\n') = line := by
        refine List.takeWhile_eq_self_iff.mpr fun c hc => ?_
        simpa using fun heq : c = '\n' => hline (heq ▸ hc)
      rw [List.splitOn_eq_singleton hline, hall]
      rfl
  | cut line rest hline _ =>
      have hall : ∀ c ∈ line, decide (c ≠ '\n') = true := fun c hc => by
        simpa using fun heq : c = '\n' => hline (heq ▸ hc)
      rw [List.splitOn_append_cons_self_of_not_mem hline, List.takeWhile_append_of_pos hall]
      simp

/-- The line of a place is what stands between the line feeds around it, and begins where the last
of those before it ends. -/
theorem exists_line_around (front back : List Char) : ∃ before part, front = before ++ part ∧
    ((front ++ back).splitOn '\n')[front.count '\n']? = some (part ++ back.takeWhile (· ≠ '\n')) ∧
    lineStart (front ++ back) (front.count '\n') = byteLength before := by
  induction front using line_induction '\n' with
  | single part hpart =>
      have hall : ∀ c ∈ part, decide (c ≠ '\n') = true := fun c hc => by
        simpa using fun heq : c = '\n' => hpart (heq ▸ hc)
      rw [List.count_eq_zero.mpr hpart, head?_splitOn, List.takeWhile_append_of_pos hall]
      exact ⟨[], part, rfl, rfl, lineStart_zero _⟩
  | cut line rest hline ih =>
      obtain ⟨before, part, hrest, hget, hstart⟩ := ih
      have hcount : (line ++ '\n' :: rest).count '\n' = rest.count '\n' + 1 := by
        rw [List.count_append, List.count_eq_zero.mpr hline, List.count_cons_self, Nat.zero_add]
      refine ⟨line ++ '\n' :: before, part, by simp [hrest], ?_, ?_⟩
      · rw [hcount, List.append_assoc, List.cons_append,
          List.splitOn_append_cons_self_of_not_mem hline, List.getElem?_cons_succ, hget]
      · rw [hcount, List.append_assoc, List.cons_append, lineStart_succ hline, hstart,
          ← byteLength_append, List.append_assoc, List.singleton_append]

theorem exists_trimEnd_append (text : List Char) : ∃ blanks, text = trimEnd text ++ blanks := by
  refine ⟨(text.reverse.takeWhile Unicode.isBlank).reverse, ?_⟩
  rw [trimEnd, ← List.reverse_append, List.takeWhile_append_dropWhile, List.reverse_reverse]

end SecretScan.Text

namespace SecretScan

/-- Does a finding tell the line on disk that its value begins in? The number is that of a line of
the bytes, and that line, decoded by itself, has what stands of the value before its first line
feed, as far behind the beginning of the line as the position says. -/
def Finding.IsInLine (f : Finding) (content : List UInt8) : Prop :=
  ∃ line value position piece, f.line = some line ∧ f.hit.value = some value ∧
    f.hit.position = some position ∧ 1 ≤ line ∧ line ≤ (content.splitOn 0x0A).length ∧
    (content.splitOn 0x0A)[line - 1]? = some piece ∧
    Text.lineStart (Text.Utf8.decodeLossy content) (line - 1) ≤ position ∧
    StandsAt (String.ofList (Text.Utf8.decodeLossy piece))
      (String.ofList (value.toList.takeWhile (· ≠ '\n')))
      (position - Text.lineStart (Text.Utf8.decodeLossy content) (line - 1))

namespace Files

/-! ## Findings in a file -/

/-- A hit in the text of a file, as a finding, tells its line on disk. -/
theorem isInLine_of_marks {path : String} {content : List UInt8} {hit : Hit} {s : Span}
    (hmarks : hit.Marks s) (hwithin : s.Within (textOf content)) :
    (Finding.inFile hit path
      (Text.lineNumberAt (textOf content) (hit.position.getD 0))).IsInLine content := by
  obtain ⟨hvalue, hposition⟩ := hmarks
  obtain ⟨front, back, htext, hstart⟩ := hwithin.split
  obtain ⟨blanks, hblanks⟩ := Text.exists_trimEnd_append (Text.Utf8.decodeLossy content)
  have hdecoded : Text.Utf8.decodeLossy content = front ++ (s.text ++ (back ++ blanks)) := by
    have htrimmed :
        Text.trimEnd (Text.Utf8.decodeLossy content) = front ++ (s.text ++ back) := htext
    rw [hblanks, htrimmed, List.append_assoc, List.append_assoc]
  have hline : Text.lineNumberAt (textOf content) (hit.position.getD 0) = front.count '\n' + 1 := by
    rw [hposition, Option.getD_some, hstart, htext, Text.lineNumberAt_append]
  obtain ⟨before, part, hfront, hget, hbefore⟩ :=
    Text.exists_line_around front (s.text ++ (back ++ blanks))
  rw [← hdecoded] at hget hbefore
  have hpieces := Text.Utf8.splitOn_decodeLossy content
  rw [hpieces, List.getElem?_map, Option.map_eq_some_iff] at hget
  obtain ⟨piece, hpiece, hdecode⟩ := hget
  have hlt := (List.getElem?_eq_some_iff.mp hpiece).1
  have hbytes : Text.byteLength front = Text.byteLength before + Text.byteLength part := by
    rw [hfront, Text.byteLength_append]
  -- The first line of the value is all of it, or ends with the line.
  obtain ⟨more, hmore⟩ : ∃ more, (s.text ++ (back ++ blanks)).takeWhile (· ≠ '\n') =
      s.text.takeWhile (· ≠ '\n') ++ more := by
    rw [List.takeWhile_append]
    split
    · rename_i hall
      have hself : s.text.takeWhile (· ≠ '\n') = s.text :=
        (List.takeWhile_prefix _).eq_of_length hall
      exact ⟨_, by rw [hself]⟩
    · exact ⟨[], (List.append_nil _).symm⟩
  refine ⟨front.count '\n' + 1, _, s.start, piece, congrArg some hline, hvalue, hposition,
    Nat.succ_pos _, hlt, hpiece, ?_, ?_⟩
  · rw [Nat.add_sub_cancel, hbefore, hstart, hbytes]
    exact Nat.le_add_right _ _
  · have hoffset : s.start - Text.lineStart (Text.Utf8.decodeLossy content) (front.count '\n') =
        (String.ofList part).utf8ByteSize := by
      rw [hbefore, hstart, hbytes, Nat.add_sub_cancel_left, Text.utf8ByteSize_ofList]
    rw [Nat.add_sub_cancel, hoffset, hdecode, hmore, String.toList_ofList, String.ofList_append,
      String.ofList_append]
    exact standsAt_append _ _ _

/-- Whatever verification has added to a hit, its value and its position stay where they were. -/
theorem exists_within_of_tried {d : Detector} {verify : Bool} {text : List Char}
    {answers : List (Question × Answer)} {hit : Hit}
    (h : d.Tried verify text answers (some hit)) : ∃ s : Span, s.Within text ∧ hit.Marks s := by
  obtain ⟨plain, hfind, -, hvalue, hposition⟩ := h.exists_plain
  obtain ⟨s, hwithin, hmarks⟩ := Detector.exists_within_of_find? hfind
  exact ⟨s, hwithin, hvalue.trans hmarks.1, hposition.trans hmarks.2⟩

theorem IsFoundIn.isInLine {e : Engine} {verify : Bool} {file : String × List UInt8}
    {found : List Finding} (h : IsFoundIn e verify file found) {f : Finding} (hf : f ∈ found) :
    f.path = file.1 ∧ f.IsInLine file.2 := by
  obtain ⟨s, hreach, -, rfl⟩ := h
  obtain ⟨hit, hhit, rfl⟩ := List.mem_map.mp hf
  obtain ⟨o, ho, hoHit⟩ := List.mem_filterMap.mp hhit
  have htried := Detector.Tried.of_reaches ((Dispatch.of_reaches hreach).1.outcomes o ho)
  rw [hoHit] at htried
  obtain ⟨span, hwithin, hmarks⟩ := exists_within_of_tried htried
  exact ⟨rfl, isInLine_of_marks hmarks hwithin⟩

/-- What was found in several files is in lines of theirs. -/
theorem exists_file_of_mem_flatten {e : Engine} {verify : Bool} {files : List (String × List UInt8)}
    {found : List (List Finding)} (h : List.Forall₂ (IsFoundIn e verify) files found) {f : Finding}
    (hf : f ∈ found.flatten) : ∃ file ∈ files, f.path = file.1 ∧ f.IsInLine file.2 := by
  induction h with
  | nil => exact absurd hf List.not_mem_nil
  | @cons file part files found hfirst _ ih =>
      rcases List.mem_append.mp hf with hhere | hlater
      · exact ⟨file, List.mem_cons_self, hfirst.isInLine hhere⟩
      · obtain ⟨other, hmem, hother⟩ := ih hlater
        exact ⟨other, List.mem_cons_of_mem _ hmem, hother⟩

theorem isInLine_of_mem_findingsInFile {e : Engine} {file : String × List UInt8} {f : Finding}
    (hf : f ∈ findingsInFile e file) : f.path = file.1 ∧ f.IsInLine file.2 := by
  obtain ⟨hit, hhit, rfl⟩ := List.mem_map.mp hf
  obtain ⟨d, -, hfind⟩ := List.mem_filterMap.mp hhit
  obtain ⟨s, hwithin, hmarks⟩ := Detector.exists_within_of_find? hfind
  exact ⟨rfl, isInLine_of_marks hmarks hwithin⟩

/-! ## Whole scans -/

theorem Outcome.file?_eq_some_iff {x : Outcome} {file : String × List UInt8} :
    x.file? = some file ↔ x = .scanned file.1 file.2 := by
  cases x <;> simp [file?, Prod.ext_iff]

namespace Progress

variable {e : Engine} {o : ScanOptions} {root : String} {s t : Progress}

/-- A scan begins with one task, which has neither searched a file nor found anything. -/
theorem accounted_of_start {found : Except SystemError Entry} (h : start o root found = .ok s)
    (e : Engine) (verify : Bool) : s.Accounted e verify := by
  unfold start at h
  split at h
  · exact nomatch h
  · exact nomatch h
  · obtain rfl := Except.ok.inj h
    exact ⟨List.forall_mem_singleton.mpr trivial, [], [], .nil, .refl _, .refl _⟩
  · split at h
    · obtain rfl := Except.ok.inj h
      exact accounted_listing ..
    · exact nomatch h
  · exact nomatch h

theorem Accounted.isInLine {verify : Bool} (h : s.Accounted e verify) {f : Finding}
    (hf : f ∈ s.emitted) :
    ∃ content, .scanned f.path content ∈ s.outcomes ∧ f.IsInLine content := by
  obtain ⟨-, files, found, hfound, hfiles, hemitted⟩ := h
  obtain ⟨file, hfile, hpath, hline⟩ :=
    exists_file_of_mem_flatten hfound (hemitted.subset (List.mem_append_left _ hf))
  obtain ⟨x, hx, hscanned⟩ := List.mem_filterMap.mp
    (hfiles.symm.subset (List.mem_append_left _ hfile))
  obtain rfl := Outcome.file?_eq_some_iff.mp hscanned
  exact ⟨file.2, hpath ▸ hx, hline⟩

/-- A scan that has permits can be brought to its end. -/
theorem exists_isOver (hs : s.Accounted e o.verify)
    (hpermits : 0 < s.free + s.tasks.countP Task.isReading) :
    ∃ t, Relation.ReflTransGen (Next e o root) s t ∧ t.IsOver := by
  induction hn : s.work e using Nat.strongRecOn generalizing s with
  | ind n ih =>
      rcases isOver_or_exists_next e o root hpermits with hover | ⟨t, hnext⟩
      · exact ⟨s, .refl, hover⟩
      · have hlt := hnext.work_lt hs
        have hpermits' := hnext.permits_eq
        obtain ⟨u, hreach, hover⟩ := ih _ (hn ▸ hlt) (hnext.accounted hs) (by omega) rfl
        exact ⟨u, .head hnext hreach, hover⟩

end Progress

/-- Line numbers are those on disk: however the tasks of a scan alternate and whatever the
services answer, each finding is made in a file that was looked through, and tells the line of it
that its value begins in. So it is for a scan of one file after the other. -/
theorem line_numbers_are_those_on_disk (e : Engine) (o : ScanOptions) (root : String)
    (found : Except SystemError Entry) :
    (∀ start s, Progress.start o root found = .ok start →
      Relation.ReflTransGen (Progress.Next e o root) start s → ∀ f ∈ s.emitted,
        ∃ content, .scanned f.path content ∈ s.outcomes ∧ f.IsInLine content) ∧
    (o.verify = false → ∃ result, (∀ {m : Type → Type} [Monad m] [LawfulMonad m] (ask : Inquiry m),
        scan e ask o root found = pure result) ∧
      ∀ s, result = .ok s → ∀ f ∈ s.findings,
        ∃ content, .scanned f.path content ∈ s.outcomes ∧ f.IsInLine content) := by
  refine ⟨fun start s hstart hreach f hf => ?_, fun hoff => ?_⟩
  · have haccounted := Progress.accounted_of_start hstart e o.verify
    exact (Progress.of_reaches hreach haccounted).1.isInLine hf
  · cases hwalk : walk o root found with
    | error err =>
        cases hpermits : permitsFor o.maxOpenFiles with
        | error f =>
            exact ⟨.error f, fun ask => by simp only [scan, hpermits], fun s hs => by cases hs⟩
        | ok permits =>
            exact ⟨.error (.io err), fun ask => by simp only [scan, hpermits, hwalk],
              fun s hs => by cases hs⟩
    | ok outcomes =>
        by_cases hlimit : max o.maxOpenFiles 1 ≤ maxPermits
        · refine ⟨_, fun ask => scan_off e ask hoff hlimit hwalk, fun s hs f hf => ?_⟩
          obtain rfl := Except.ok.inj hs
          obtain ⟨file, hfile, hmem⟩ := List.mem_flatMap.mp hf
          obtain ⟨hpath, hline⟩ := isInLine_of_mem_findingsInFile hmem
          obtain ⟨x, hx, hscanned⟩ := List.mem_filterMap.mp hfile
          obtain rfl := Outcome.file?_eq_some_iff.mp hscanned
          exact ⟨file.2, hpath ▸ hx, hline⟩
        · have hpermits := permitsFor_of_lt (Nat.lt_of_not_le hlimit)
          exact ⟨.error .permits, fun ask => by simp only [scan, hpermits], fun s hs => by cases hs⟩

/-- The second line of a file that is not well-formed text begins at the fifth byte of what it is
read as. -/
theorem line_number_behind_ill_formed_bytes :
    let e := Engine.ofRegistry
      ⟨[.custom ⟨"tok", ["tok"], [⟨"default", .group 1 (Pattern.literal "tok".toList)⟩]⟩]⟩
    let o : ScanOptions := { exclusions := ⟨[], []⟩, maxOpenFiles := 1 }
    let content : List UInt8 := [0xFF, 0x0A] ++ Text.Utf8.encode "tok".toList
    ∃ start s, Progress.start o "a.env" (.ok (.file {} content)) = .ok start ∧
      Relation.ReflTransGen (Progress.Next e o "a.env") start s ∧
      s.emitted.map (fun f => (f.path, f.line, f.hit.position)) = [("a.env", some 2, some 4)] ∧
      ∀ f ∈ s.emitted, ∃ content, .scanned f.path content ∈ s.outcomes ∧ f.IsInLine content := by
  intro e o content
  let start : Progress := { tasks := [.file "a.env" {} content], free := 1 }
  have hstart : Progress.start o "a.env" (.ok (.file {} content)) = .ok start := rfl
  have haccounted := Progress.accounted_of_start hstart e o.verify
  obtain ⟨s, hreach, hover⟩ : ∃ s, Relation.ReflTransGen (Progress.Next e o "a.env") start s ∧
      s.IsOver :=
    Progress.exists_isOver haccounted (by decide)
  refine ⟨start, s, hstart, hreach, ?_,
    (line_numbers_are_those_on_disk e o "a.env" _).1 start s hstart hreach⟩
  obtain ⟨hs, haccount, -⟩ := Progress.of_reaches hreach haccounted
  rw [hover.account_eq] at haccount
  have hfiles : (s.outcomes.filterMap Outcome.file?).Perm [("a.env", content)] :=
    (haccount.filterMap _).trans (.of_eq (by decide +kernel))
  obtain ⟨found, hfound, hemitted⟩ := hs.of_isOver hover hfiles
  have hperm := (hemitted.trans (flatten_perm_of_off hfound)).map
    fun f => (f.path, f.line, f.hit.position)
  exact List.perm_singleton.mp (hperm.trans (.of_eq (by decide +kernel)))

end Files

end SecretScan

import SecretScan.Proofs.Detector.Acceptance
import SecretScan.Proofs.Pattern.Successive
import SecretScan.Proofs.Pattern.Complete
import SecretScan.Proofs.Unicode.CaseFold
import SecretScan.Proofs.Json.Members
import SecretScan.Config.Basic

/-!
# Values behind group keywords

With group keywords a configured pattern counts only where a keyword stands in front of it, in any
case, and no more than a few characters lie between them.
-/

namespace SecretScan

open SecretScan.Unicode

namespace Pattern

variable {c d : Cursor} {text : List Char} {words : List (List Char)}

/-! ## In front of the value -/

/-- A character in any case is one with the same representative. -/
theorem mem_anyCase_iff {c x : Char} : (anyCase c).mem x = true ↔ foldChar x = foldChar c := by
  rw [anyCase, CharSet.foldedIf]
  split
  · have hmem : (CharSet.ignoreCase (.single c)).mem x = true ↔ c ∈ caseVariants x := by
      simp [CharSet.mem, List.any_beq']
    rw [hmem, mem_caseVariants_iff, eq_comm]
  · rename_i hlength
    rw [CharSet.mem, beq_iff_eq]
    refine ⟨fun h => h ▸ rfl, fun h => ?_⟩
    -- Where a character has no variants, it is the only one with its representative.
    have hx : x ∈ caseVariants c := mem_caseVariants_iff.mpr h
    have hc : c ∈ caseVariants c := mem_caseVariants_iff.mpr rfl
    match hvariants : caseVariants c with
    | [] => simp [hvariants] at hc
    | [_] =>
        rw [hvariants] at hx hc
        exact (List.mem_singleton.mp hx).trans (List.mem_singleton.mp hc).symm
    | _ :: _ :: _ => simp [hvariants] at hlength

theorem matches_seqs_cons {p : Pattern} {ps : List Pattern} :
    (seqs (p :: ps)).Matches c d ↔ ∃ m, p.Matches c m ∧ (seqs ps).Matches m d := by
  cases ps with
  | nil => simp [seqs, Matches]
  | cons q ps => rfl

theorem matches_alts_iff {ps : List Pattern} (h : ps ≠ []) :
    (alts ps).Matches c d ↔ ∃ p ∈ ps, p.Matches c d := by
  induction ps with
  | nil => exact absurd rfl h
  | cons p ps ih =>
      cases ps with
      | nil => simp [alts]
      | cons q ps =>
          rw [List.exists_mem_cons_iff, ← ih (List.cons_ne_nil q ps)]
          rfl

/-- A text in any case leads over characters that are folded as its own are. -/
theorem matches_textAnyCase_iff :
    (textAnyCase text).Matches c d ↔ ∃ w, c.Spells w d ∧ w.map foldChar = text.map foldChar := by
  rw [textAnyCase]
  induction text generalizing c with
  | nil =>
      constructor
      · rintro rfl
        exact ⟨[], .refl c, rfl⟩
      · rintro ⟨w, hw, hfold⟩
        obtain rfl := List.map_eq_nil_iff.mp hfold
        exact hw.eq_of_nil
  | cons x text ih =>
      rw [List.map_cons, matches_seqs_cons]
      constructor
      · rintro ⟨m, hfirst, hrest⟩
        obtain ⟨y, hy, hspells⟩ := Cursor.step?_eq_some_iff.mp hfirst
        obtain ⟨w, hw, hfold⟩ := ih.mp hrest
        exact ⟨y :: w, hspells.trans hw, by simp [mem_anyCase_iff.mp hy, hfold]⟩
      · rintro ⟨w, hw, hfold⟩
        obtain ⟨y, w, rfl, hy, hfold⟩ := List.map_eq_cons_iff.mp hfold
        obtain ⟨m, hfirst, hrest⟩ := Cursor.Spells.split (u := [y]) hw
        exact ⟨m, Cursor.step?_eq_some_iff.mpr ⟨y, mem_anyCase_iff.mpr hy, hfirst⟩,
          ih.mpr ⟨w, hrest, hfold⟩⟩

theorem matches_wordsAnyCase_iff (hwords : words ≠ []) : (wordsAnyCase words).Matches c d ↔
    ∃ word ∈ words, ∃ w, c.Spells w d ∧ w.map foldChar = word.map foldChar := by
  rw [wordsAnyCase, matches_alts_iff (by simpa using hwords)]
  simp only [List.mem_map, exists_exists_and_eq_and, matches_textAnyCase_iff]

/-- A gap leads over a few characters, whatever they are. -/
theorem matches_gap_iff :
    gap.Matches c d ↔ ∃ w, c.Spells w d ∧ w.length ≤ CustomDetector.groupWindow := by
  have hany (x : Char) : (CharSet.union .blank (.compl .blank)).mem x = true := by
    simp [CharSet.mem]
  have htakes {w : List Char} (hw : c.Spells w d) :
      gap.Matches c d ↔ w.length ≤ CustomDetector.groupWindow := by
    rw [matches_iff_takes hw, gap, Takes]
    simp [inTurn_set_iff, hany]
  constructor
  · intro h
    obtain ⟨w, hw⟩ := h.spells
    exact ⟨w, hw, (htakes hw).mp h⟩
  · rintro ⟨w, hw, hlength⟩
    exact (htakes hw).mpr hlength

/-! ## Up to the value -/

/-- A run through a sequence comes to its last pattern. -/
theorem exists_run_last {ps : List Pattern} {p : Pattern} {s r : Progress}
    (h : (seqs (ps ++ [p])).run s some = some r) :
    ∃ t : Progress, (seqs ps).Matches s.cursor t.cursor ∧ p.run t some = some r := by
  induction ps generalizing s with
  | nil => exact ⟨s, rfl, h⟩
  | cons q ps ih =>
      have hseq : seqs (q :: (ps ++ [p])) = seq q (seqs (ps ++ [p])) := by
        cases ps <;> rfl
      rw [List.cons_append, hseq, run] at h
      obtain ⟨t, hfirst, ht⟩ := q.sound_run _ _ _ h
      obtain ⟨u, hrest, hu⟩ := ih ht
      exact ⟨u, matches_seqs_cons.mpr ⟨t.cursor, hfirst, hrest⟩, hu⟩

theorem matches_seqs_append {ps qs : List Pattern} :
    (seqs (ps ++ qs)).Matches c d ↔ ∃ m, (seqs ps).Matches c m ∧ (seqs qs).Matches m d := by
  induction ps generalizing c with
  | nil => simp [seqs, Matches]
  | cons p ps ih =>
      simp only [List.cons_append, matches_seqs_cons, ih]
      constructor
      · rintro ⟨m, hm, n, hn, hrest⟩
        exact ⟨n, ⟨m, hm, hn⟩, hrest⟩
      · rintro ⟨n, ⟨m, hm, hn⟩, hrest⟩
        exact ⟨m, hm, n, hn, hrest⟩

variable {front : List Pattern} {q : Pattern} {m : Match}

/-- What is captured last in a sequence is a match of the captured pattern, behind the others. -/
theorem exists_matchAt?_of_seqs
    (h : (seqs (front ++ [.group 1 (q.renumbered (· + 1))])).matchAt? c = some m) :
    ∃ m₁, (seqs front).Matches c m₁.whole.first ∧ q.matchAt? m₁.whole.first = some m₁ ∧
      m.group? 1 = some m₁.whole := by
  obtain ⟨r, hrun, rfl⟩ := Option.map_eq_some_iff.mp h
  obtain ⟨t, hfront, ht⟩ := exists_run_last hrun
  rw [run_group_renumbered] at ht
  obtain ⟨m₁, hm₁, rfl⟩ := Option.map_eq_some_iff.mp ht
  rw [← first_of_matchAt? hm₁] at hfront hm₁
  exact ⟨m₁, hfront, hm₁, rfl⟩

/-- Where a match of the captured pattern stands behind the others, the sequence matches. -/
theorem isSome_matchAt?_of_seqs (hfront : (seqs front).Matches c d)
    (h : q.matchAt? d = some m) :
    ((seqs (front ++ [.group 1 (q.renumbered (· + 1))])).matchAt? c).isSome = true := by
  obtain ⟨e, he⟩ := matchAt?_isSome_iff.mp (Option.isSome_of_mem h)
  refine matchAt?_isSome_iff.mpr ⟨e, matches_seqs_append.mpr ⟨d, hfront, ?_⟩⟩
  rw [← matches_renumbered] at he
  exact he

end Pattern

namespace CustomDetector

open Pattern

variable {groupKeywords : List String} {q : Pattern} {text : List Char} {m : Match}

/-- Is this a match of the pattern in a text which stands behind a group keyword in any case, with
no more than the window between them? -/
def InContext (groupKeywords : List String) (q : Pattern) (text : List Char) (m : Match) : Prop :=
  q.matchAt? m.whole.first = some m ∧ ∃ front keyword word between,
    keyword ∈ trimmedAll groupKeywords ∧ word.map foldChar = keyword.toList.map foldChar ∧
      between.length ≤ groupWindow ∧
        (Cursor.atStart text).Spells (front ++ (word ++ between)) m.whole.first

/-- Is this a match in context of a pattern as it is configured? -/
def MatchesInContext (groupKeywords : List String) (pattern : String) (text : List Char)
    (m : Match) : Prop :=
  ∃ q, parse pattern.toList = .ok q ∧ InContext groupKeywords q text m

theorem matches_context_iff (h : trimmedAll groupKeywords ≠ []) {c d : Cursor} :
    (seqs (context groupKeywords)).Matches c d ↔ ∃ keyword word between,
      keyword ∈ trimmedAll groupKeywords ∧ word.map foldChar = keyword.toList.map foldChar ∧
        between.length ≤ groupWindow ∧ c.Spells (word ++ between) d := by
  have hwords : (trimmedAll groupKeywords).map String.toList ≠ [] := by simpa using h
  have hcontext : context groupKeywords =
      [wordsAnyCase ((trimmedAll groupKeywords).map String.toList), gap] := by
    rw [context]
    split
    · exact absurd ‹_› hwords
    · rfl
  have hpair : (seqs (context groupKeywords)).Matches c d ↔ ∃ e,
      (wordsAnyCase ((trimmedAll groupKeywords).map String.toList)).Matches c e ∧
        gap.Matches e d := by
    rw [hcontext]
    rfl
  simp only [hpair, matches_wordsAnyCase_iff hwords, matches_gap_iff, List.mem_map,
    exists_exists_and_eq_and]
  constructor
  · rintro ⟨e, ⟨keyword, hkeyword, word, hword, hfold⟩, between, hbetween, hlength⟩
    exact ⟨keyword, word, between, hkeyword, hfold, hlength, hword.trans hbetween⟩
  · rintro ⟨keyword, word, between, hkeyword, hfold, hlength, hspells⟩
    obtain ⟨e, hword, hbetween⟩ := hspells.split
    exact ⟨e, ⟨keyword, hkeyword, word, hword, hfold⟩, between, hbetween, hlength⟩

/-- The pattern that is searched for with group keywords. -/
def inContext (groupKeywords : List String) (q : Pattern) : Pattern :=
  seqs (context groupKeywords ++ [.group 1 (q.renumbered (· + 1))])

/-- The capture of what is found is a match of the pattern in context. -/
theorem inContext_of_find? (h : trimmedAll groupKeywords ≠ [])
    (hfind : (inContext groupKeywords q).find? text = some m) :
    ∃ m₁, InContext groupKeywords q text m₁ ∧ m.group? 1 = some m₁.whole := by
  rw [Pattern.find?, findAfter?_eq_findSome?] at hfind
  obtain ⟨c, hc, hmatch⟩ := List.exists_of_findSome?_eq_some hfind
  obtain ⟨front, hfront⟩ := Cursor.mem_places_iff.mp hc
  obtain ⟨m₁, hcontext, hm₁, hgroup⟩ := exists_matchAt?_of_seqs hmatch
  obtain ⟨keyword, word, between, hkeyword, hfold, hlength, hspells⟩ :=
    (matches_context_iff h).mp hcontext
  exact ⟨m₁, ⟨hm₁, front, keyword, word, between, hkeyword, hfold, hlength,
    hfront.trans hspells⟩, hgroup⟩

/-- Where the pattern matches in context, something is found. -/
theorem find?_ne_none_of_inContext (h : trimmedAll groupKeywords ≠ [])
    (hm : InContext groupKeywords q text m) : (inContext groupKeywords q).find? text ≠ none := by
  obtain ⟨hmatch, front, keyword, word, between, hkeyword, hfold, hlength, hspells⟩ := hm
  obtain ⟨c, hfront, hbehind⟩ := hspells.split
  have hsome := isSome_matchAt?_of_seqs
    ((matches_context_iff h).mpr ⟨keyword, word, between, hkeyword, hfold, hlength, hbehind⟩) hmatch
  rw [Pattern.find?, findAfter?_eq_findSome?]
  intro hnone
  have hplace := List.findSome?_eq_none_iff.mp hnone c (Cursor.mem_places_iff.mpr ⟨front, hfront⟩)
  rw [inContext] at hplace
  rw [hplace] at hsome
  cases hsome

/-! ## Variants -/

variable {v : String × String} {w : Variant}

/-- What a variant finds in a text is a match of its configured pattern in context. -/
theorem hitOf?_cases (h : trimmedAll groupKeywords ≠ []) (hvalid : Valid v.2.toList)
    (hw : readVariant groupKeywords v = .ok w) (name : String) (text : List Char) :
    w.name = v.1 ∧
      ((hitOf? name text w = none ∧ w.pattern.occursIn text = false ∧
          ∀ m, ¬ MatchesInContext groupKeywords v.2 text m) ∨
        ∃ m, MatchesInContext groupKeywords v.2 text m ∧ w.pattern.occursIn text = true ∧
          hitOf? name text w =
            some (.found name m.whole.text m.whole.start [("variant", .str v.1)])) := by
  obtain ⟨q, hq, rfl⟩ := readVariant_eq_ok (not_leavesGroup_of_valid hvalid) hw
  refine ⟨rfl, ?_⟩
  change (hitOf? name text ⟨v.1, inContext groupKeywords q⟩ = none ∧
    (inContext groupKeywords q).occursIn text = false ∧ _) ∨
      ∃ m, _ ∧ (inContext groupKeywords q).occursIn text = true ∧
        hitOf? name text ⟨v.1, inContext groupKeywords q⟩ = _
  rw [hitOf?, occursIn]
  cases hfind : (inContext groupKeywords q).find? text with
  | none =>
      refine Or.inl ⟨rfl, rfl, ?_⟩
      rintro m ⟨q', hq', hm⟩
      obtain rfl := Except.ok.inj (hq.symm.trans hq')
      exact find?_ne_none_of_inContext h hm hfind
  | some m =>
      obtain ⟨m₁, hm₁, hgroup⟩ := inContext_of_find? h hfind
      refine Or.inr ⟨m₁, ⟨q, hq, hm₁⟩, rfl, ?_⟩
      rw [Option.bind_some, hgroup]
      rfl

/-- Of several variants in the order of their names the first one counts that matches in context. -/
theorem findSome?_hitOf?_cases {vs : List (String × String)} {ws : List Variant}
    (h : trimmedAll groupKeywords ≠ []) (hvalid : ∀ v ∈ vs, Valid v.2.toList)
    (hsorted : Json.Sorted vs)
    (hread : List.Forall₂ (fun v w => readVariant groupKeywords v = .ok w) vs ws) (name : String)
    (text : List Char) :
    (ws.findSome? (hitOf? name text) = none ∧
        ∀ v ∈ vs, ∀ m, ¬ MatchesInContext groupKeywords v.2 text m) ∨
      ∃ v ∈ vs, ∃ m, MatchesInContext groupKeywords v.2 text m ∧
        (∀ u ∈ vs, u.1 < v.1 → ∀ m', ¬ MatchesInContext groupKeywords u.2 text m') ∧
        ws.findSome? (hitOf? name text) =
          some (.found name m.whole.text m.whole.start [("variant", .str v.1)]) := by
  induction hread with
  | nil => exact Or.inl ⟨rfl, nofun⟩
  | @cons v w vs ws hw hread ih =>
      obtain ⟨hfirst, hrest⟩ := List.pairwise_cons.mp hsorted
      rcases (hitOf?_cases h (hvalid v List.mem_cons_self) hw name text).2 with
        ⟨hnone, -, hnowhere⟩ | ⟨m, hm, -, hhit⟩
      · rw [List.findSome?_cons, hnone]
        rcases ih (fun u hu => hvalid u (List.mem_cons_of_mem _ hu)) hrest with
          ⟨hlater, hall⟩ | ⟨u, hu, m, hm, hbefore, hlater⟩
        · exact Or.inl ⟨hlater, List.forall_mem_cons.mpr ⟨hnowhere, hall⟩⟩
        · refine Or.inr ⟨u, List.mem_cons_of_mem _ hu, m, hm, ?_, hlater⟩
          exact List.forall_mem_cons.mpr ⟨fun _ => hnowhere, hbefore⟩
      · rw [List.findSome?_cons, hhit]
        refine Or.inr ⟨v, List.mem_cons_self, m, hm, ?_, rfl⟩
        refine List.forall_mem_cons.mpr ⟨fun hlt => absurd hlt (lt_irrefl _), fun u hu hlt => ?_⟩
        exact absurd hlt (lt_asymm (hfirst u hu))

theorem exists_of_optional {α : Type} {decode : Decoder α} {slot : Slot} {a : α}
    (h : slot.optional decode = some (some a)) : ∃ doc, decode doc = some a := by
  rw [Slot.optional.eq_def] at h
  split at h
  · cases h
  · cases h
  · cases h
  · rename_i doc _
    obtain ⟨_, hdecode, heq⟩ := Option.map_eq_some_iff.mp h
    exact ⟨doc, Option.some.inj heq ▸ hdecode⟩

theorem sorted_variants_of_patternChoice {doc : Document} {choice : PatternChoice}
    (h : PatternChoice.decode? doc = some choice) : Json.Sorted choice.variants := by
  cases doc with
  | str s =>
      obtain rfl := Option.some.inj h
      exact List.pairwise_singleton _ _
  | obj members =>
      obtain ⟨patterns, hpatterns, rfl⟩ := Option.map_eq_some_iff.mp h
      obtain ⟨entries, -, rfl⟩ := Option.map_eq_some_iff.mp hpatterns
      exact Json.sorted_sortedMembers entries
  | _ => cases h

/-- The patterns of an entry that has been read stand in the order of their names. -/
theorem sorted_variants_of_decode? {doc : Document} {e : CustomEntry} {choice : PatternChoice}
    (h : CustomEntry.decode? doc = some e) (hpatterns : e.patterns = some choice) :
    Json.Sorted choice.variants := by
  obtain ⟨slots, -, hentry⟩ := Option.bind_eq_some_iff.mp h
  split at hentry
  · rename_i name keywords patterns group
    obtain ⟨name, -, hentry⟩ := Option.bind_eq_some_iff.mp hentry
    obtain ⟨keywords, -, hentry⟩ := Option.bind_eq_some_iff.mp hentry
    obtain ⟨read, hread, hentry⟩ := Option.bind_eq_some_iff.mp hentry
    obtain ⟨group, -, hentry⟩ := Option.bind_eq_some_iff.mp hentry
    obtain rfl := Option.some.inj hentry
    obtain rfl : read = some choice := hpatterns
    obtain ⟨_, hchoice⟩ := exists_of_optional hread
    exact sorted_variants_of_patternChoice hchoice
  · cases hentry

/-- With group keywords a variant matches exactly where its pattern does in context, and the first
one in the order of the names that matches gives the value, with its place and the name of the
variant. -/
theorem group_keywords_impose_context (e : CustomEntry) (choice : PatternChoice)
    (d : CustomDetector) (hbuild : build e = .ok d) (hpatterns : e.patterns = some choice)
    (hsorted : Json.Sorted choice.variants) (hgroup : trimmedAll e.groupKeywords ≠ [])
    (hvalid : ∀ v ∈ choice.variants, Valid v.2.toList) (text : List Char) :
    List.Forall₂ (fun v w => w.name = v.1 ∧ (w.pattern.occursIn text = true ↔
        ∃ m, MatchesInContext e.groupKeywords v.2 text m)) choice.variants d.variants ∧
    (d.find? text = none ↔
      ∀ v ∈ choice.variants, ∀ m, ¬ MatchesInContext e.groupKeywords v.2 text m) ∧
    ∀ hit, d.find? text = some hit → ∃ v ∈ choice.variants, ∃ m,
      MatchesInContext e.groupKeywords v.2 text m ∧
      (∀ u ∈ choice.variants, u.1 < v.1 → ∀ m', ¬ MatchesInContext e.groupKeywords u.2 text m') ∧
      hit = .found d.name m.whole.text m.whole.start [("variant", .str v.1)] := by
  obtain ⟨choice', hchoice, hread⟩ := variants_of_build hbuild
  obtain rfl := Option.some.inj (hpatterns.symm.trans hchoice)
  refine ⟨?_, ?_⟩
  · refine ((List.forall₂_and_left _ _).mpr ⟨hvalid, hread⟩).imp fun v w ⟨hv, hw⟩ => ?_
    obtain ⟨hname, ⟨-, hmisses, hnowhere⟩ | ⟨m, hm, hoccurs, -⟩⟩ :=
      hitOf?_cases hgroup hv hw d.name text
    · exact ⟨hname, iff_of_false (Bool.eq_false_iff.mp hmisses) fun ⟨m, hm⟩ => hnowhere m hm⟩
    · exact ⟨hname, iff_of_true hoccurs ⟨m, hm⟩⟩
  · rcases findSome?_hitOf?_cases hgroup hvalid hsorted hread d.name text with
      ⟨hnone, hnowhere⟩ | ⟨v, hv, m, hm, hbefore, hsome⟩
    · refine ⟨iff_of_true hnone hnowhere, fun hit hhit => ?_⟩
      rw [find?, hnone] at hhit
      cases hhit
    · refine ⟨iff_of_false ?_ fun hnowhere => hnowhere v hv m hm, fun hit hhit => ?_⟩
      · rw [find?, hsome]
        exact Option.some_ne_none _
      · rw [find?, hsome] at hhit
        exact ⟨v, hv, m, hm, hbefore, (Option.some.inj hhit).symm⟩

/-- An entry for a digit that stands behind a word. -/
def digitEntry : CustomEntry := { entryOf "[0-9]" with groupKeywords := [" aws "] }

theorem digit_behind_keyword : ∃ m, MatchesInContext [" aws "] "[0-9]" "7 AWS: 1".toList m ∧
    m.whole.text = ['1'] ∧ m.whole.start = 7 := by
  have hvalid : ∀ v ∈ (PatternChoice.single "[0-9]").variants, Valid v.2.toList := by
    intro v hv
    obtain rfl := List.mem_singleton.mp hv
    exact ⟨_, rfl⟩
  have hbuild : build digitEntry = .ok _ := rfl
  obtain ⟨-, -, hfound⟩ := group_keywords_impose_context digitEntry (.single "[0-9]") _ hbuild rfl
    (by decide) (by decide) hvalid "7 AWS: 1".toList
  obtain ⟨v, hv, m, hm, -, hhit⟩ := hfound (.found "sole" ['1'] 7 [("variant", .str "default")]) rfl
  obtain rfl := List.mem_singleton.mp hv
  obtain ⟨-, hvalue, -, hposition, -⟩ := Hit.mk.inj hhit
  exact ⟨m, hm, (String.ofList_injective (Option.some.inj hvalue)).symm,
    (Option.some.inj hposition).symm⟩

end CustomDetector

end SecretScan

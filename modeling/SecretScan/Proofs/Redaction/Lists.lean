import SecretScan.Proofs.Json.Order
import SecretScan.Proofs.Json.Strings
import SecretScan.Proofs.Redaction.Cache
import SecretScan.Proofs.Redaction.Standard

/-!
# Redacting lists of strings

A list of strings is redacted through its compact text, where quotes, backslashes and control
characters are escaped. Rules that stop at marks redact the written form of each string by itself.
It is what the string is redacted to as long as there are no control characters in it: the letters
that stand for those can hide what follows them, or be taken for a part of it.
-/

namespace SecretScan

open ActiveRule

variable {rules : List ActiveRule}

/-! ## Written strings under the rules -/

/-- A text without quotes and backslashes, or the first of them with what stands around it. -/
theorem plain_or_cut (text : List Char) :
    (∀ c ∈ text, c ≠ '"' ∧ c ≠ '\\') ∨ ∃ front x back, text = front ++ x :: back ∧
      (x = '"' ∨ x = '\\') ∧ ∀ c ∈ front, c ≠ '"' ∧ c ≠ '\\' := by
  induction text with
  | nil => exact Or.inl nofun
  | cons c text ih =>
      by_cases hc : c = '"' ∨ c = '\\'
      · exact Or.inr ⟨[], c, text, rfl, hc, nofun⟩
      · have hplain : c ≠ '"' ∧ c ≠ '\\' := not_or.mp hc
        rcases ih with hall | ⟨front, x, back, rfl, hx, hfront⟩
        · exact Or.inl (List.forall_mem_cons.mpr ⟨hplain, hall⟩)
        · exact Or.inr ⟨c :: front, x, back, rfl, hx, List.forall_mem_cons.mpr ⟨hplain, hfront⟩⟩

theorem mem_marks {x : Char} (hx : x = '"' ∨ x = '\\') : x ∈ marks := by
  rcases hx with rfl | rfl <;> decide

namespace Json

theorem goThrough_of_plain {text : List Char} (h : ∀ c ∈ text, c ≠ '"' ∧ c ≠ '\\')
    (escaped : Bool) : goThrough escaped text = some (escaped && text.isEmpty) := by
  induction text generalizing escaped with
  | nil => rw [goThrough, List.isEmpty_nil, Bool.and_true]
  | cons c text ih =>
      obtain ⟨⟨hquote, hback⟩, hrest⟩ := List.forall_mem_cons.mp h
      have hnext : goThrough escaped (c :: text) = goThrough false text := by
        cases escaped with
        | true => rfl
        | false => rw [goThrough, if_neg hquote, beq_eq_false_iff_ne.mpr hback]
      rw [hnext, ih hrest, List.isEmpty_cons, Bool.and_false, Bool.false_and]

/-- Rules that stop at marks leave quotes and backslashes as they follow one another. -/
theorem goThrough_applyAll (h : ∀ r ∈ rules, r.StopsAtMarks) (escaped : Bool) (text : List Char) :
    goThrough escaped (applyAll rules text) = goThrough escaped text := by
  have hplain {part : List Char} (hpart : ∀ c ∈ part, c ≠ '"' ∧ c ≠ '\\') (escaped : Bool) :
      goThrough escaped (applyAll rules part) = goThrough escaped part := by
    have hredacted : ∀ c ∈ applyAll rules part, c ≠ '"' ∧ c ≠ '\\' := by
      intro c hc
      rcases mem_or_isPlain_of_mem_applyAll h hc with hold | hnew
      · exact hpart c hold
      · exact ⟨hnew.1, hnew.2.1⟩
    have hempty : (applyAll rules part).isEmpty = part.isEmpty := by
      cases part with
      | nil => rw [applyAll_nil h]
      | cons c part =>
          have hne := applyAll_ne_nil h (List.cons_ne_nil c part)
          rw [List.isEmpty_cons, List.isEmpty_eq_false_iff.mpr hne]
    rw [goThrough_of_plain hredacted, goThrough_of_plain hpart, hempty]
  -- The induction is on what stands behind the first quote or backslash.
  induction hn : text.length using Nat.strongRecOn generalizing escaped text with
  | ind n ih =>
      rcases plain_or_cut text with hall | ⟨front, x, back, rfl, hx, hfront⟩
      · exact hplain hall escaped
      · have hlt : back.length < n := by
          rw [← hn, List.length_append, List.length_cons]
          omega
        have hmark (e : Bool) :
            goThrough e (x :: applyAll rules back) = goThrough e (x :: back) := by
          cases e with
          | true => exact ih _ hlt false back rfl
          | false =>
              rw [goThrough, goThrough]
              split
              · rfl
              · exact ih _ hlt _ back rfl
        rw [applyAll_cut h (mem_marks hx), goThrough_append, goThrough_append, hplain hfront]
        exact congrArg _ (funext hmark)

theorem escape_of_isPlain {text : List Char} (h : ∀ c ∈ text, IsPlain c) :
    text.flatMap escapeChar = text := by
  induction text with
  | nil => rfl
  | cons c text ih =>
      obtain ⟨⟨hquote, hback, hge⟩, hrest⟩ := List.forall_mem_cons.mp h
      rw [List.flatMap_cons, ih hrest, escapeChar_of_plain hquote hback hge, List.singleton_append]

end Json

namespace ActiveRule

theorem applyAll_bodiesText (h : ∀ r ∈ rules, r.StopsAtMarks) (ws : List (List Char)) :
    applyAll rules (Json.bodiesText ws) = Json.bodiesText (ws.map (applyAll rules)) := by
  have hquote : '"' ∈ marks := by decide
  have hcomma : ',' ∈ marks := by decide
  have hbracket : ']' ∈ marks := by decide
  have hend : applyAll rules [']'] = [']'] := by
    rw [applyAll_mark h hbracket, applyAll_nil h]
  induction ws with
  | nil => exact hend
  | cons w ws ih =>
      cases ws with
      | nil =>
          rw [Json.bodiesText, applyAll_mark h hquote, applyAll_cut h hquote, hend]
          rfl
      | cons v ws =>
          rw [Json.bodiesText_cons_cons, applyAll_mark h hquote, applyAll_cut h hquote,
            applyAll_mark h hcomma, ih]
          rfl

/-- Without control characters, redacting the written form of a string is redacting the string. -/
theorem applyAll_escape (h : ∀ r ∈ rules, r.StopsAtMarks) {text : List Char}
    (htext : ∀ c ∈ text, 32 ≤ c.toNat) :
    applyAll rules (text.flatMap Json.escapeChar) =
      (applyAll rules text).flatMap Json.escapeChar := by
  have hplain {part : List Char} (hpart : ∀ c ∈ part, IsPlain c) :
      applyAll rules (part.flatMap Json.escapeChar) =
        (applyAll rules part).flatMap Json.escapeChar := by
    rw [Json.escape_of_isPlain hpart, Json.escape_of_isPlain]
    intro c hc
    rcases mem_or_isPlain_of_mem_applyAll h hc with hold | hnew
    · exact hpart c hold
    · exact hnew
  induction hn : text.length using Nat.strongRecOn generalizing text with
  | ind n ih =>
      rcases plain_or_cut text with hall | ⟨front, x, back, rfl, hx, hfront⟩
      · exact hplain fun c hc => ⟨(hall c hc).1, (hall c hc).2, htext c hc⟩
      · have hlt : back.length < n := by
          rw [← hn, List.length_append, List.length_cons]
          omega
        have hback := @ih _ hlt back (fun c hc => htext c (by simp [hc])) rfl
        have hpart : ∀ c ∈ front, IsPlain c := fun c hc =>
          ⟨(hfront c hc).1, (hfront c hc).2, htext c (by simp [hc])⟩
        have hescape : Json.escapeChar x = ['\\', x] := by
          rcases hx with rfl | rfl <;> rfl
        have hmark := mem_marks hx
        rw [applyAll_cut h hmark, List.flatMap_append, List.flatMap_append, List.flatMap_cons,
          List.flatMap_cons, hescape, ← hplain hpart, ← hback]
        exact (applyAll_cut h (mem_marks (Or.inr rfl)) _ _).trans
          (congrArg _ (congrArg _ (applyAll_mark h hmark _)))

/-- What the rules make of a string through its written form; none if that can no longer be read. -/
def throughQuotes? (rules : List ActiveRule) (s : String) : Option String :=
  Json.unquote? (applyAll rules (s.toList.flatMap Json.escapeChar))

theorem throughQuotes?_of_no_control (h : ∀ r ∈ rules, r.StopsAtMarks) {s : String}
    (hs : ∀ c ∈ s.toList, 32 ≤ c.toNat) :
    throughQuotes? rules s = some (String.ofList (applyAll rules s.toList)) := by
  rw [throughQuotes?, applyAll_escape h hs, Json.unquote?_escape]

end ActiveRule

/-! ## Redacted lists -/

theorem exists_forall₂_iff {α β : Type} {R : α → β → Prop} {xs : List α} :
    (∃ ys, List.Forall₂ R xs ys) ↔ ∀ x ∈ xs, ∃ y, R x y := by
  induction xs with
  | nil => exact ⟨fun _ => nofun, fun _ => ⟨[], .nil⟩⟩
  | cons x xs ih =>
      rw [List.forall_mem_cons, ← ih]
      constructor
      · rintro ⟨_, hx | ⟨hx, hxs⟩⟩
        exact ⟨⟨_, hx⟩, ⟨_, hxs⟩⟩
      · rintro ⟨⟨y, hx⟩, ⟨ys, hxs⟩⟩
        exact ⟨y :: ys, .cons hx hxs⟩

namespace Redactor

/-- A list of strings is redacted string by string, through their written forms. If one of these can
no longer be read, the whole becomes a text. -/
theorem answerBy_strings (h : ∀ r ∈ rules, r.StopsAtMarks) (ss : List String) :
    answerBy rules (.strings ss) = ((ss.mapM (throughQuotes? rules)).map Json.strings).getD
      (.str (String.ofList (applyAll rules (Json.strings ss).render))) := by
  have hkey : keyOf (.strings ss) = (Json.strings ss).render := rfl
  have hshape (redacted : List Char) : reshape? (.strings ss) redacted = Json.parse? redacted := rfl
  have hbodies : ∀ w ∈ (ss.map fun s => s.toList.flatMap Json.escapeChar).map (applyAll rules),
      Json.IsBody w := by
    simp only [List.mem_map]
    rintro w ⟨body, ⟨s, -, rfl⟩, rfl⟩
    exact (Json.goThrough_applyAll h false _).trans (Json.isBody_escape s.toList)
  have hparse : Json.parse? (applyAll rules (Json.strings ss).render) =
      (ss.mapM (throughQuotes? rules)).map Json.strings := by
    rw [Json.render_strings, applyAll_mark h (by decide), applyAll_bodiesText h,
      Json.parse?_bodies hbodies, List.mapM_map, List.mapM_map]
    rfl
  rw [answerBy, hkey, hshape, hparse]

/-- A list becomes the list of what its strings become in lists by themselves, or no list. -/
theorem answerBy_strings_eq_iff (h : ∀ r ∈ rules, r.StopsAtMarks) {ss ts : List String} :
    answerBy rules (.strings ss) = .strings ts ↔
      List.Forall₂ (fun s t => answerBy rules (.strings [s]) = .strings [t]) ss ts := by
  have hlist (ss ts : List String) : answerBy rules (.strings ss) = .strings ts ↔
      List.Forall₂ (fun s t => throughQuotes? rules s = some t) ss ts := by
    rw [answerBy_strings h, ← mapM_eq_some_iff]
    cases ss.mapM (throughQuotes? rules) with
    | none => simp [Json.strings]
    | some ts' => simp [Json.strings_inj]
  have hsingle (s t : String) : answerBy rules (.strings [s]) = .strings [t] ↔
      throughQuotes? rules s = some t := by
    simp [hlist]
  simp only [hlist ss ts, hsingle]

theorem Faithful.redactText_answer {capacity : Nat} {r : Redactor} (h : Faithful rules capacity r)
    (s : String) : (r.redactText s).2 = String.ofList (applyAll rules s.toList) := by
  have hanswer : (r.redactText s).2 = textOf (r.redact (.str s)).2 := rfl
  rw [hanswer, h.redact_answer]
  rfl

end Redactor

/-- With the standard rules, and whatever was redacted before, a list of strings stays a list just
if each of its strings does so in a list by itself, and becomes the list of its redacted strings
just if the same is true of each of them. Control characters apart, it always does. -/
theorem list_redacted_string_by_string (capacity : Nat) (calls : List RedactionCall)
    (ss : List String) :
    let r := (RedactionCall.runAll (.new RedactionRules.standardActive capacity) calls).1
    ((∃ ts, (r.redact (.strings ss)).2 = .strings ts) ↔
      ∀ s ∈ ss, ∃ t, (r.redact (.strings [s])).2 = .strings [t]) ∧
    ((r.redact (.strings ss)).2 = .strings (ss.map fun s => (r.redactText s).2) ↔
      ∀ s ∈ ss, (r.redact (.strings [s])).2 = .strings [(r.redactText s).2]) ∧
    ((∀ s ∈ ss, ∀ c ∈ s.toList, 32 ≤ c.toNat) →
      (r.redact (.strings ss)).2 = .strings (ss.map fun s => (r.redactText s).2)) := by
  intro r
  have hstops := RedactionRules.standardActive_stopsAtMarks
  have hr : r.Faithful RedactionRules.standardActive capacity :=
    Redactor.faithful_runAll _ capacity calls
  simp only [hr.redact_answer, hr.redactText_answer]
  refine ⟨?_, ?_, fun hplain => ?_⟩
  · exact (exists_congr fun _ => Redactor.answerBy_strings_eq_iff hstops).trans
      exists_forall₂_iff
  · rw [Redactor.answerBy_strings_eq_iff hstops, List.forall₂_map_right_iff, List.forall₂_same]
  · rw [Redactor.answerBy_strings hstops, mapM_eq_some_iff.mpr]
    · rfl
    · rw [List.forall₂_map_right_iff, List.forall₂_same]
      exact fun s hs => throughQuotes?_of_no_control hstops (hplain s hs)

/-- The letter that stands for a line feed in a list keeps the rules from seeing a number behind
it, so that the list shows what the redacted string hides. Before an address it is taken for a
part of it, and what is left is no list. -/
theorem line_feed_shows_number_and_breaks_list :
    let r := Redactor.new RedactionRules.standardActive 1000
    ((r.redact (.strings ["\n123-45-6789"])).2 = .strings ["\n123-45-6789"] ∧
      (r.redactText "\n123-45-6789").2 = "\n[REDACTED_SSN]") ∧
    ((r.redact (.strings ["\na@b.com"])).2 = .str "[\"\\[REDACTED_EMAIL]\"]" ∧
      (r.redactText "\na@b.com").2 = "\n[REDACTED_EMAIL]") ∧
    ¬ ∀ ss, (r.redact (.strings ss)).2 = .strings (ss.map fun s => (r.redactText s).2) := by
  intro r
  have hr : r.Faithful RedactionRules.standardActive 1000 := Redactor.faithful_new _ _
  have hlist := Redactor.answerBy_strings RedactionRules.standardActive_stopsAtMarks
  have happly : ∀ p ∈ [("\n123-45-6789".toList, "\n[REDACTED_SSN]".toList),
      ("\\n123-45-6789".toList, "\\n123-45-6789".toList),
      ("\na@b.com".toList, "\n[REDACTED_EMAIL]".toList),
      ("\\na@b.com".toList, "\\[REDACTED_EMAIL]".toList),
      ("[\"\\na@b.com\"]".toList, "[\"\\[REDACTED_EMAIL]\"]".toList)],
      applyAll RedactionRules.standardActive p.1 = p.2 := by
    rw [RedactionRules.standardActive_eq]
    decide +kernel
  simp only [List.forall_mem_cons] at happly
  obtain ⟨hnumber, hwrittenNumber, haddress, hwrittenAddress, hwhole, -⟩ := happly
  have hshown : (r.redact (.strings ["\n123-45-6789"])).2 = .strings ["\n123-45-6789"] := by
    have hthrough : throughQuotes? RedactionRules.standardActive "\n123-45-6789" =
        some "\n123-45-6789" := by
      have hwritten : "\n123-45-6789".toList.flatMap Json.escapeChar =
          "\\n123-45-6789".toList := by decide
      rw [throughQuotes?, hwritten, hwrittenNumber]
      decide
    rw [hr.redact_answer, hlist, List.mapM_cons, hthrough]
    rfl
  have hhidden : (r.redactText "\n123-45-6789").2 = "\n[REDACTED_SSN]" := by
    rw [hr.redactText_answer, hnumber]
    rfl
  have hbroken : (r.redact (.strings ["\na@b.com"])).2 = .str "[\"\\[REDACTED_EMAIL]\"]" := by
    have hthrough : throughQuotes? RedactionRules.standardActive "\na@b.com" = none := by
      have hwritten : "\na@b.com".toList.flatMap Json.escapeChar = "\\na@b.com".toList := by decide
      rw [throughQuotes?, hwritten, hwrittenAddress]
      decide
    have hrender : (Json.strings ["\na@b.com"]).render = "[\"\\na@b.com\"]".toList := by
      rw [Json.render_strings]
      decide
    rw [hr.redact_answer, hlist, List.mapM_cons, hthrough, hrender, hwhole]
    rfl
  have hhiddenAddress : (r.redactText "\na@b.com").2 = "\n[REDACTED_EMAIL]" := by
    rw [hr.redactText_answer, haddress]
    rfl
  refine ⟨⟨hshown, hhidden⟩, ⟨hbroken, hhiddenAddress⟩, fun h => ?_⟩
  have hsame := (hshown.symm.trans (h _)).trans (congrArg _ (congrArg (· :: []) hhidden))
  exact absurd (Json.strings_inj.mp hsame) (by decide)

end SecretScan

import SecretScan.Proofs.Json.Text
import SecretScan.Proofs.Redaction.Cache
import SecretScan.Proofs.Redaction.Standard

/-!
# What no rule matches

A text in which no rule finds anything is left as it is by all of them. For a value this is a
matter of its compact form, and what was written is read back as the same value. So such a value
is returned unchanged, whatever is in the cache by then.
-/

namespace SecretScan

/-! ## Texts without a match -/

theorem Pattern.replaceAll_of_not_occursIn {p : Pattern} {text : List Char}
    (h : p.occursIn text = false) (replacement : List Char) :
    p.replaceAll replacement text = text := by
  have hfind : p.findAfter? (.atStart text) = none :=
    Option.not_isSome_iff_eq_none.mp (Bool.eq_false_iff.mp h)
  have hnext : p.nextMatch? (.atStart text) none = none := by rw [nextMatch?, hfind]
  have hnone : p.findAll text = [] := by
    rw [findAll, matchesFrom, hnext]
    rfl
  rw [replaceAll, hnone]
  rfl

theorem ActiveRule.applyAll_of_not_occursIn {rules : List ActiveRule} {text : List Char}
    (h : ∀ rule ∈ rules, rule.pattern.occursIn text = false) : applyAll rules text = text := by
  induction rules with
  | nil => rfl
  | cons rule rules ih =>
      obtain ⟨hrule, hrules⟩ := List.forall_mem_cons.mp h
      have hstep : rule.apply text = text := Pattern.replaceAll_of_not_occursIn hrule _
      rw [applyAll, List.foldl_cons, hstep]
      exact ih hrules

/-! ## Values that are written and read back -/

namespace Json

variable {v : Json}

theorem parse?_render (hplain : Throughout Plain v) (hordered : Throughout Ordered v)
    (hdepth : v.depth ≤ maxDepth) : parse? v.render = some v := by
  rw [parse?, isForm_render.readDocument? hplain hdepth, Option.bind_some,
    Document.toJson?_ofJson_of_same hordered (same_self hplain)]

end Json

namespace Redactor

variable {rules : List ActiveRule} {v : Json}

theorem reshape?_keyOf (hplain : Json.Throughout Json.Plain v)
    (hordered : Json.Throughout Json.Ordered v) (hdepth : v.depth ≤ Json.maxDepth) :
    reshape? v (keyOf v) = some v := by
  cases v with
  | str s => rw [keyOf, reshape?, String.ofList_toList]
  | _ => exact Json.parse?_render hplain hordered hdepth

theorem answerBy_of_not_occursIn (hplain : Json.Throughout Json.Plain v)
    (hordered : Json.Throughout Json.Ordered v) (hdepth : v.depth ≤ Json.maxDepth)
    (h : ∀ rule ∈ rules, rule.pattern.occursIn (keyOf v) = false) : answerBy rules v = v := by
  rw [answerBy, ActiveRule.applyAll_of_not_occursIn h, reshape?_keyOf hplain hordered hdepth,
    Option.getD_some]

end Redactor

/-- A value is returned unchanged if no rule matches anywhere in the text that stands for it:
whatever was redacted before, call after call or at the same time. Its numbers are whole and have
64 bits, and it nests no deeper than can be read back. -/
theorem untouched_value_returned (rules : List ActiveRule) (capacity : Nat)
    (calls : List RedactionCall) {v : Json} (hplain : Json.Throughout Json.Plain v)
    (hordered : Json.Throughout Json.Ordered v) (hdepth : v.depth ≤ Json.maxDepth)
    (h : ∀ rule ∈ rules, rule.pattern.occursIn (Redactor.keyOf v) = false) :
    ((RedactionCall.runAll (.new rules capacity) calls).1.redact v).2 = v ∧
    ∀ s, Relation.ReflTransGen Sharing.Next (Sharing.start rules capacity calls) s →
      (s.redactor.redact v).2 = v ∧
      ∀ out ∈ s.returned, out.1.input = v → out.2 = out.1.answer v := by
  have hanswer := Redactor.answerBy_of_not_occursIn hplain hordered hdepth h
  have hstart := Sharing.plain_start rules capacity calls
  refine ⟨?_, fun s hs => ?_⟩
  · have halone := hstart.of_reaches (Sharing.reaches_runAll _ calls [])
    rw [halone.faithful.redact_answer, hanswer]
  · have hs := hstart.of_reaches hs
    refine ⟨by rw [hs.faithful.redact_answer, hanswer], fun out hout hinput => ?_⟩
    rw [hs.returned out hout, RedactionCall.plain_eq, hinput, hanswer]

/-- A value with names, a list, a string with quotes and both ends of the whole numbers, behind a
text that is redacted. -/
theorem untouched_value_returned_settings :
    let calls : List RedactionCall := [.text "mail a@b.com", .value (.int 7)]
    let v : Json := .obj [("limits", .arr [.int (-9223372036854775808), .int 18446744073709551615]),
      ("note", .str "a \"b\"\n"), ("on", .bool true)]
    ((RedactionCall.runAll (.new RedactionRules.standardActive 2) calls).1.redact v).2 = v := by
  intro calls v
  have hplain : Json.Throughout Json.Plain v := by
    have hlimits : Json.Throughout Json.Plain
        (.arr [.int (-9223372036854775808), .int 18446744073709551615]) :=
      Json.throughout_arr_iff.mpr ⟨trivial, by
        simpa using ⟨⟨⟨by decide, by decide⟩, nofun⟩, ⟨⟨by decide, by decide⟩, nofun⟩⟩⟩
    have hnames : Json.Plain v := by
      change List.Nodup ["limits", "note", "on"]
      decide
    exact Json.throughout_obj_iff.mpr ⟨hnames, by
      simpa [v] using ⟨hlimits, Json.plain_str _, Json.plain_bool _⟩⟩
  have hordered : Json.Throughout Json.Ordered v := by
    have hlimits : Json.Throughout Json.Ordered
        (.arr [.int (-9223372036854775808), .int 18446744073709551615]) :=
      Json.throughout_arr_iff.mpr ⟨trivial, by
        simpa using ⟨⟨trivial, nofun⟩, ⟨trivial, nofun⟩⟩⟩
    have hsorted : Json.Ordered v := by
      change List.Pairwise _ _
      decide
    exact Json.throughout_obj_iff.mpr ⟨hsorted, by
      simpa [v] using ⟨hlimits, ⟨trivial, nofun⟩, ⟨trivial, nofun⟩⟩⟩
  have hdepth : v.depth ≤ Json.maxDepth := by decide
  exact (untouched_value_returned _ 2 calls hplain hordered hdepth
    (by rw [RedactionRules.standardActive_eq]; decide +kernel)).1

end SecretScan

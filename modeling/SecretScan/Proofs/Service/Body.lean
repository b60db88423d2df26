import SecretScan.Proofs.Json.Order
import SecretScan.Service.Asking

/-!
# Verdicts in bodies

Two services accept and reject keys by what the body of their response says, in one field that
holds a truth value. One of them is only believed if the body can be read as its answer. The other
is taken to accept a key unless the body can be read and says otherwise.
-/

namespace SecretScan

namespace Document

/-! ## Answers with a verdict -/

/-- What stands under a name in an object. -/
def standing (name : String) (members : List (Option String × Document)) : List Document :=
  (members.filter fun m => m.1 = some name).map (·.2)

/-- A text, or null in its place. -/
inductive IsText : Document → Prop
  | null : IsText .null
  | str (s : String) : IsText (.str s)

/-- A document says `b` in one field, which it has once, and has in others a text at most. It may
also be a list of all these fields in their order. -/
inductive Says (verdict : String) (texts : List String) (b : Bool) : Document → Prop
  | object {members : List (Option String × Document)} (named : ∀ m ∈ members, m.1.isSome = true)
      (said : standing verdict members = [.bool b])
      (others : ∀ name ∈ texts, standing name members = [] ∨
        ∃ d, standing name members = [d] ∧ d.IsText) : Says verdict texts b (.obj members)
  | list {items : List Document} (length : items.length = texts.length)
      (others : ∀ d ∈ items, d.IsText) : Says verdict texts b (.arr (.bool b :: items))

variable {d : Document} {b : Bool} {name verdict : String} {texts : List String} {slot : Slot}
  {members : List (Option String × Document)}

/-- A document does not say two things. -/
theorem Says.unique {b' : Bool} (h : d.Says verdict texts b) (h' : d.Says verdict texts b') :
    b = b' := by
  cases h with
  | object _ hsaid _ =>
      cases h' with
      | object _ hsaid' _ =>
          rw [hsaid] at hsaid'
          simpa using hsaid'
  | list _ _ =>
      cases h'
      rfl

theorem bool?_eq_some_iff : d.bool? = some b ↔ d = .bool b := by
  cases d <;> simp [bool?]

theorem required_eq_some_iff : slot.required bool? = some b ↔ slot = .given (.bool b) := by
  cases slot <;> simp [Slot.required, bool?_eq_some_iff]

theorem isSome_optional_iff : (slot.optional string?).isSome = true ↔
    slot = .absent ∨ ∃ d, slot = .given d ∧ d.IsText := by
  constructor
  · intro h
    cases slot with
    | absent => exact .inl rfl
    | cut => cases h
    | given d =>
        refine .inr ⟨d, rfl, ?_⟩
        cases d with
        | null => exact .null
        | str s => exact .str s
        | _ => cases h
  · rintro (rfl | ⟨d, rfl, hd⟩)
    · rfl
    · cases hd <;> rfl

/-- What a field has follows from what stands under its name. -/
theorem slot?_eq (name : String) (members : List (Option String × Document)) :
    slot? [name] members = match standing name members with
      | [] => some .absent
      | [d] => some (.given d)
      | _ => none := by
  have hname : (fun m : Option String × Document => m.1.any [name].contains) =
      fun m => decide (m.1 = some name) := by
    funext ⟨n, d⟩
    cases n <;> simp
  rw [slot?, standing, hname]
  cases members.filter fun m => decide (m.1 = some name) with
  | nil => rfl
  | cons m rest =>
      cases rest with
      | nil => rfl
      | cons m' rest => rfl

theorem slot?_eq_given_iff : slot? [name] members = some (.given d) ↔
    standing name members = [d] := by
  rw [slot?_eq]
  split <;> simp_all

theorem slot?_eq_absent_iff : slot? [name] members = some .absent ↔
    standing name members = [] := by
  rw [slot?_eq]
  split <;> simp_all

theorem exists_forall₂_iff {α β : Type} {r : α → β → Prop} {q : β → Prop} {xs : List α} :
    (∃ ys, List.Forall₂ r xs ys ∧ ∀ y ∈ ys, q y) ↔ ∀ x ∈ xs, ∃ y, r x y ∧ q y := by
  induction xs with
  | nil => simp
  | cons x xs ih =>
      rw [List.forall_mem_cons, ← ih]
      constructor
      · rintro ⟨ys, hys, hq⟩
        obtain ⟨y, ys, hy, hrest, rfl⟩ := List.forall₂_cons_left_iff.mp hys
        obtain ⟨hfirst, hq⟩ := List.forall_mem_cons.mp hq
        exact ⟨⟨y, hy, hfirst⟩, ys, hrest, hq⟩
      · rintro ⟨⟨y, hy, hfirst⟩, ys, hrest, hq⟩
        exact ⟨y :: ys, .cons hy hrest, List.forall_mem_cons.mpr ⟨hfirst, hq⟩⟩

/-- A field that can be left out has a text at most just if that stands under its name. -/
theorem exists_slot?_iff :
    (∃ s, slot? [name] members = some s ∧ (s.optional string?).isSome = true) ↔
      standing name members = [] ∨ ∃ d, standing name members = [d] ∧ d.IsText := by
  simp only [isSome_optional_iff, ← slot?_eq_given_iff, ← slot?_eq_absent_iff]
  constructor
  · rintro ⟨s, hs, rfl | ⟨d, rfl, hd⟩⟩
    · exact .inl hs
    · exact .inr ⟨d, hs, hd⟩
  · rintro (hs | ⟨d, hs, hd⟩)
    · exact ⟨_, hs, .inl rfl⟩
    · exact ⟨_, hs, .inr ⟨d, rfl, hd⟩⟩

/-- The verdict and the texts are the fields of an object just if it says so under their names. -/
theorem slots?_obj_iff_says :
    (∃ rest, (obj members).slots? ([verdict] :: texts.map fun t => [t]) =
        some (.given (.bool b) :: rest) ∧ ∀ s ∈ rest, (s.optional string?).isSome = true) ↔
      (obj members).Says verdict texts b := by
  simp only [slots?, Option.ite_none_right_eq_some, mapM_eq_some_iff, List.forall₂_cons,
    List.forall₂_map_left_iff, slot?_eq_given_iff, List.all_eq_true]
  constructor
  · rintro ⟨rest, ⟨hnamed, hsaid, hslots⟩, hrest⟩
    refine .object hnamed hsaid fun name hname => ?_
    exact exists_slot?_iff.mp (exists_forall₂_iff.mp ⟨rest, hslots, hrest⟩ name hname)
  · rintro ⟨hnamed, hsaid, hothers⟩
    obtain ⟨rest, hslots, hrest⟩ :=
      exists_forall₂_iff.mpr fun name hname => exists_slot?_iff.mpr (hothers name hname)
    exact ⟨rest, ⟨hnamed, hsaid, hslots⟩, hrest⟩

/-- The verdict and the texts are the fields of a list just if it has them all in their order: what
is cut off the end is not a field that was left out. -/
theorem slots?_arr_iff_says {items : List Document} :
    (∃ rest, (arr items).slots? ([verdict] :: texts.map fun t => [t]) =
        some (.given (.bool b) :: rest) ∧ ∀ s ∈ rest, (s.optional string?).isSome = true) ↔
      (arr items).Says verdict texts b := by
  constructor
  · rintro ⟨rest, hslots, hrest⟩
    obtain ⟨hlength, hslots⟩ := Option.ite_none_left_eq_some.mp hslots
    cases items with
    | nil => cases hslots
    | cons first items =>
        obtain ⟨hfirst, rfl⟩ := List.cons.inj (Option.some.inj hslots)
        obtain rfl := Slot.given.inj hfirst
        obtain ⟨hitems, hcut⟩ := List.forall_mem_append.mp hrest
        have hend : ¬ items.length < texts.length := by
          intro hlt
          cases hcut .cut (List.mem_replicate.mpr ⟨by simp; omega, rfl⟩)
        simp only [List.length_cons, List.length_map] at hlength
        refine .list (by omega) fun d hd => ?_
        obtain habsent | ⟨d', hd', htext⟩ :=
          isSome_optional_iff.mp (hitems _ (List.mem_map_of_mem hd))
        · cases habsent
        · exact Slot.given.inj hd' ▸ htext
  · intro h
    cases h with
    | @list items hlength hothers =>
        refine ⟨items.map .given, by simp [slots?, hlength], fun s hs => ?_⟩
        obtain ⟨d, hd, rfl⟩ := List.mem_map.mp hs
        exact isSome_optional_iff.mpr (.inr ⟨d, rfl, hothers d hd⟩)

/-- The fields of a record are a verdict and texts just if the record says so. -/
theorem slots?_iff_says (verdict : String) (texts : List String) (b : Bool) (d : Document) :
    (∃ rest, d.slots? ([verdict] :: texts.map fun t => [t]) = some (.given (.bool b) :: rest) ∧
        ∀ s ∈ rest, (s.optional string?).isSome = true) ↔ d.Says verdict texts b := by
  cases d with
  | obj members => exact slots?_obj_iff_says
  | arr items => exact slots?_arr_iff_says
  | _ =>
      constructor
      · rintro ⟨rest, hslots, -⟩
        cases hslots
      · intro h
        cases h

theorem length_of_slots? {fields : List (List String)} {slots : List Slot}
    (h : d.slots? fields = some slots) : slots.length = fields.length := by
  cases d with
  | obj members =>
      obtain ⟨-, hslots⟩ := Option.ite_none_right_eq_some.mp h
      exact (mapM_eq_some_iff.mp hslots).length_eq.symm
  | arr items =>
      obtain ⟨hlength, hslots⟩ := Option.ite_none_left_eq_some.mp h
      obtain rfl := Option.some.inj hslots
      simp
      omega
  | _ => cases h

end Document

namespace Service

open Document

variable {d : Document} {b : Bool}

theorem paystackVerdict?_iff_says :
    (∃ v, paystackVerdict? d = some v ∧ v.1 = b) ↔ d.Says "status" ["message"] b := by
  rw [← slots?_iff_says]
  simp only [paystackVerdict?, Option.bind_eq_bind, Option.bind_eq_some_iff]
  constructor
  · rintro ⟨v, ⟨slots, hslots, hread⟩, rfl⟩
    split at hread
    · rename_i status message
      simp only [Option.bind_eq_some_iff, required_eq_some_iff, Option.pure_def,
        Option.some.injEq] at hread
      obtain ⟨b, rfl, _, hmessage, rfl⟩ := hread
      exact ⟨[message], hslots, by simp [hmessage]⟩
    · cases hread
  · rintro ⟨rest, hslots, hrest⟩
    match rest, length_of_slots? hslots with
    | [message], _ =>
        simp only [List.forall_mem_singleton, Option.isSome_iff_exists] at hrest
        obtain ⟨reason, hmessage⟩ := hrest
        exact ⟨(b, reason), ⟨_, hslots, by simp [Slot.required, bool?, hmessage]⟩, rfl⟩

theorem slackVerdict?_iff_says : (∃ v, slackVerdict? d = some v ∧ v.1 = b) ↔
    d.Says "ok" ["error", "team", "user", "team_id"] b := by
  rw [← slots?_iff_says]
  simp only [slackVerdict?, Option.bind_eq_bind, Option.bind_eq_some_iff]
  constructor
  · rintro ⟨v, ⟨slots, hslots, hread⟩, rfl⟩
    split at hread
    · rename_i ok error team user teamId
      simp only [Option.bind_eq_some_iff, required_eq_some_iff, Option.pure_def,
        Option.some.injEq] at hread
      obtain ⟨b, rfl, _, herror, _, hteam, _, huser, _, hteamId, rfl⟩ := hread
      exact ⟨[error, team, user, teamId], hslots, by simp [herror, hteam, huser, hteamId]⟩
    · cases hread
  · rintro ⟨rest, hslots, hrest⟩
    match rest, length_of_slots? hslots with
    | [error, team, user, teamId], _ =>
        simp only [List.forall_mem_cons, Option.isSome_iff_exists] at hrest
        obtain ⟨⟨_, herror⟩, ⟨_, hteam⟩, ⟨_, huser⟩, ⟨_, hteamId⟩, -⟩ := hrest
        refine ⟨?_, ⟨_, hslots, ?eq⟩, ?_⟩
        case eq =>
          simp only [Slot.required, bool?, herror, hteam, huser, hteamId, Option.bind_some]
          rfl
        rfl

/-! ## Judging bodies -/

/-- The field in which a service gives its verdict and the others of its answer, if the verdict is
in the body. -/
def answerFields? : Service → Option (String × List String)
  | paystack => some ("status", ["message"])
  | slack => some ("ok", ["error", "team", "user", "team_id"])
  | _ => none

/-- The body of a response can be read as an answer of the service, and its verdict is `b`. -/
def Answers (s : Service) (b : Bool) (r : HttpResponse) : Prop :=
  ∃ fields ∈ s.answerFields?, ∃ d, r.document? = some d ∧ d.Says fields.1 fields.2 b

/-- Is the key taken to be accepted, or to be rejected? -/
def Gives (valid : Bool) (answer : Answer) : Prop := ∃ v, answer = .ok v ∧ v.valid = valid

variable {r : HttpResponse}

theorem exists_decode?_iff {α : Type} {decode : Decoder α} {q : α → Prop} :
    (∃ a, r.decode? decode = some a ∧ q a) ↔
      ∃ d, r.document? = some d ∧ ∃ a, decode d = some a ∧ q a := by
  simp only [HttpResponse.decode?, Option.bind_eq_some_iff]
  constructor
  · rintro ⟨a, ⟨d, hd, ha⟩, hq⟩
    exact ⟨d, hd, a, ha, hq⟩
  · rintro ⟨d, hd, a, ha, hq⟩
    exact ⟨a, ⟨d, hd, ha⟩, hq⟩

theorem answers_paystack_iff :
    paystack.Answers b r ↔ ∃ v, r.decode? paystackVerdict? = some v ∧ v.1 = b := by
  simp only [Answers, answerFields?, Option.mem_some_iff, exists_eq_left', exists_decode?_iff,
    paystackVerdict?_iff_says]

theorem answers_slack_iff :
    slack.Answers b r ↔ ∃ v, r.decode? slackVerdict? = some v ∧ v.1 = b := by
  simp only [Answers, answerFields?, Option.mem_some_iff, exists_eq_left', exists_decode?_iff,
    slackVerdict?_iff_says]

/-- Slack's verdict is the one in the body. -/
theorem judge_slack (key : String) (hstatus : r.status = 200) :
    (∀ valid, Gives valid (slack.judge key r) ↔ slack.Answers valid r) ∧
      ((∀ b, ¬ slack.Answers b r) →
        slack.judge key r = .error (.validation "Failed to parse Slack API response")) := by
  simp only [answers_slack_iff]
  cases hread : r.decode? slackVerdict? with
  | none => simp [judge, hstatus, hread, Gives]
  | some v =>
      obtain ⟨ok, reason, details⟩ := v
      cases ok <;> simp [judge, hstatus, hread, Gives, acceptedWith, Verdict.accepted,
        Verdict.rejected]

/-- Paystack's verdict is acceptance unless there is another one in the body. -/
theorem judge_paystack (key : String) (hstatus : r.status = 200) :
    (Gives false (paystack.judge key r) ↔ paystack.Answers false r) ∧
      (Gives true (paystack.judge key r) ↔ ¬ paystack.Answers false r) := by
  simp only [answers_paystack_iff]
  cases hread : r.decode? paystackVerdict? with
  | none => simp [judge, hstatus, hread, Gives, acceptedWith, Verdict.accepted]
  | some v =>
      obtain ⟨ok, reason⟩ := v
      cases ok <;> simp [judge, hstatus, hread, Gives, acceptedWith, Verdict.accepted,
        Verdict.rejected]

/-- The one request is answered, and the answer judged. -/
theorem verify_eq {m : Type → Type} [Monad m] [LawfulMonad m] (s : Service) (base key : String)
    (r : HttpResponse) :
    s.verify (m := m) (fun _ => pure (.ok r)) base key = pure (s.judge key r) := by
  simp [verify]

/-- At status 200 Slack accepts or rejects a key just if the body can be read as its answer and
says so; if the body cannot be read, its verdict is left open. Paystack rejects a key if the body
can be read and says so, and accepts it in all other cases, also if the body cannot be read. -/
theorem verdict_of_body_iff {m : Type → Type} [Monad m] [LawfulMonad m] (base key : String)
    (body : List UInt8) :
    let r : HttpResponse := ⟨200, body⟩
    let transport : Transport m := fun _ => pure (.ok r)
    (∃ answer, slack.verify transport base key = pure answer ∧
      (∀ valid, Gives valid answer ↔ slack.Answers valid r) ∧
      ((∀ valid, ¬ slack.Answers valid r) →
        answer = .error (.validation "Failed to parse Slack API response"))) ∧
    ∃ answer, paystack.verify transport base key = pure answer ∧
      (Gives false answer ↔ paystack.Answers false r) ∧
      (Gives true answer ↔ ¬ paystack.Answers false r) := by
  intro r transport
  exact ⟨⟨_, verify_eq slack base key r, judge_slack key rfl⟩, _, verify_eq paystack base key r,
    judge_paystack key rfl⟩

-- The verdict is read though a text beside it, which is skipped, is not UTF-8.
example :
    let body := Text.Utf8.encode "\x7b\"status\":false,\"x\":\"".toList ++
      0xFF :: Text.Utf8.encode "\"\x7d".toList
    (HttpResponse.decode? ⟨200, body⟩ paystackVerdict?).map (·.1) = some false := by
  decide +kernel

/-- A body that is a page, and not the service's answer. -/
def page : HttpResponse := ⟨200, Text.Utf8.encode "<html></html>".toList⟩

theorem not_answers_page (s : Service) (valid : Bool) : ¬ s.Answers valid page := by
  have hpage : page.document? = none := by decide +kernel
  rintro ⟨fields, -, d, hd, -⟩
  rw [hpage] at hd
  cases hd

/-- A page leaves Slack's verdict open, and is Paystack's acceptance. -/
theorem page_is_accepted_by_one_service :
    (slack.verify (m := Id) (fun _ => pure (.ok page)) "http://localhost" "key").run =
        .error (.validation "Failed to parse Slack API response") ∧
      Gives true
        (paystack.verify (m := Id) (fun _ => pure (.ok page)) "http://localhost" "key").run := by
  obtain ⟨⟨answer, hslack, -, hopen⟩, answer', hpaystack, -, haccepts⟩ :=
    verdict_of_body_iff (m := Id) "http://localhost" "key" (Text.Utf8.encode "<html></html>".toList)
  exact ⟨hslack.trans (hopen (not_answers_page slack)),
    (congrArg (Gives true) hpaystack).mpr (haccepts.mpr (not_answers_page paystack false))⟩

/-- A body that says no, but whose reason is no text. -/
def mutteredNo : HttpResponse :=
  ⟨200, Text.Utf8.encode "\x7b\"status\":false,\"message\":0\x7d".toList⟩

theorem not_answers_mutteredNo (valid : Bool) : ¬ paystack.Answers valid mutteredNo := by
  have hno : (mutteredNo.decode? paystackVerdict?).isNone = true := by decide +kernel
  rw [answers_paystack_iff, Option.isNone_iff_eq_none.mp hno]
  rintro ⟨v, hv, -⟩
  cases hv

/-- Neither body can be read as Paystack's answer, and both are taken for acceptance. -/
theorem paystack_believes_what_it_cannot_read :
    let asked (r : HttpResponse) : Answer :=
      (paystack.verify (m := Id) (fun _ => pure (.ok r)) paystack.baseUrl "sk_live_x").run
    (page.document? = none ∧ (∀ valid, ¬ paystack.Answers valid page) ∧ Gives true (asked page)) ∧
    (∀ valid, ¬ paystack.Answers valid mutteredNo) ∧ Gives true (asked mutteredNo) := by
  intro asked
  have hasked (r : HttpResponse) : asked r = paystack.judge "sk_live_x" r :=
    congrArg Id.run (verify_eq paystack paystack.baseUrl "sk_live_x" r)
  refine ⟨⟨by decide +kernel, not_answers_page paystack, ?_⟩, not_answers_mutteredNo, ?_⟩
  · rw [hasked]
    exact (judge_paystack "sk_live_x" rfl).2.mpr (not_answers_page paystack false)
  · rw [hasked]
    exact (judge_paystack "sk_live_x" rfl).2.mpr (not_answers_mutteredNo false)

end Service

end SecretScan

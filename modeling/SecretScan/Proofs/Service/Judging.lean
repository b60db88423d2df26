import SecretScan.Proofs.Service.Body
import SecretScan.Proofs.Text.Decoding
import Mathlib.Tactic.MkIffOfInductiveProp

/-!
# Which responses make a key live

Every service has its own rules for the status of a response, and some look into its body as well.
Put together they come to three kinds of responses, by which a key is accepted, rejected, or asked
about too often. Whatever is of no kind leaves the question open. No response is of two kinds, so
each of them has just one outcome, and none but those of the first kind make a key live.
-/

namespace SecretScan

namespace HttpResponse

/-- Do the bytes of a text stand in the body? -/
def Holds (r : HttpResponse) (text : String) : Prop := Text.Utf8.encode text.toList <:+: r.body

instance (r : HttpResponse) (text : String) : Decidable (r.Holds text) :=
  inferInstanceAs (Decidable (Text.Utf8.encode text.toList <:+: r.body))

/-- That the body need not be well-formed does not matter for a text of seven-bit characters. -/
theorem contains_iff_holds {r : HttpResponse} {text : String}
    (htext : text.toList.all (fun c => 0 < c.toNat && c.toNat < 0x80) = true) :
    r.contains text = true ↔ r.Holds text := by
  have hchars : ∀ c ∈ text.toList, 0 < c.toNat ∧ c.toNat < 0x80 := by
    simpa using htext
  unfold contains HttpResponse.text Holds
  rw [Text.occursIn_iff, Text.Utf8.infix_decodeLossy_text_iff hchars]

end HttpResponse

namespace Service

/-! ## Kinds of responses -/

/-- The responses by which a service accepts a key. -/
@[mk_iff]
inductive Accepts (s : Service) (r : HttpResponse) : Prop
  /-- The request was granted. Where the verdict is in the body it must not be a rejection. -/
  | granted (status : r.status = 200) (slack : s = slack → s.Answers true r)
      (paystack : s = paystack → ¬ s.Answers false r)
  /-- The key is known, but may not do what was asked for. -/
  | forbidden (service : s = stripe ∨ s = sendgrid ∨ s = gitlab) (status : r.status = 403)
  | withoutUser (service : s = github) (status : r.status = 403) (body : ¬ r.Holds "rate limit")
  | outOfQuota (service : s = openai) (status : r.status = 429)
      (body : r.Holds "insufficient_quota")
  | outOfCredit (service : s = anthropic) (status : r.status = 400)
      (body : r.Holds "credit balance")

/-- The responses by which a service rejects a key. -/
@[mk_iff]
inductive Rejects (s : Service) (r : HttpResponse) : Prop
  | unauthorized (service : s ≠ slack) (status : r.status = 401)
  | refused (status : r.status = 200) (body : s.Answers false r)

/-- The responses by which a service tells that it was asked too often. -/
@[mk_iff]
inductive Limits (s : Service) (r : HttpResponse) : Prop
  | tooMany (status : r.status = 429) (body : s = openai → ¬ r.Holds "insufficient_quota")
  | userLimit (service : s = github) (status : r.status = 403) (body : r.Holds "rate limit")

/-- What a service can make of a response: the kind of the response, and the outcome. -/
inductive Judged (s : Service) (r : HttpResponse) : Answer → Prop
  | accepted (kind : s.Accepts r) (details : Details) : Judged s r (.ok (.accepted s.name details))
  | rejected (kind : s.Rejects r) (reason : String) : Judged s r (.ok (.rejected s.name reason))
  | limited (kind : s.Limits r) (detail : String) : Judged s r (.error (.rateLimit detail))
  | leftOpen (accepts : ¬ s.Accepts r) (rejects : ¬ s.Rejects r) (limits : ¬ s.Limits r)
      (detail : String) : Judged s r (.error (.validation detail))

variable {s : Service} {r : HttpResponse}

/-! ## No response is of two kinds -/

theorem not_answers (hs : s.answerFields? = none) (valid : Bool) : ¬ s.Answers valid r := by
  rintro ⟨fields, hfields, -⟩
  rw [hs] at hfields
  cases hfields

theorem Answers.unique {a b : Bool} (ha : s.Answers a r) (hb : s.Answers b r) : a = b := by
  obtain ⟨fields, hfields, d, hd, hsays⟩ := ha
  obtain ⟨fields', hfields', d', hd', hsays'⟩ := hb
  obtain rfl := Option.mem_unique hfields hfields'
  obtain rfl := Option.some.inj (hd.symm.trans hd')
  exact hsays.unique hsays'

theorem Accepts.not_rejects (h : s.Accepts r) : ¬ s.Rejects r := by
  intro hrejects
  cases hrejects with
  | unauthorized hservice hstatus =>
      cases h with
      | outOfCredit _ hstatus' _ => omega
      | _ => omega
  | refused hstatus hbody =>
      cases h with
      | granted _ hslack hpaystack =>
          by_cases hs : s = slack
          · cases (hslack hs).unique hbody
          · by_cases hs' : s = paystack
            · exact hpaystack hs' hbody
            · refine not_answers ?_ false hbody
              cases s <;> first | rfl | contradiction
      | _ => omega

theorem Accepts.not_limits (h : s.Accepts r) : ¬ s.Limits r := by
  intro hlimits
  cases hlimits with
  | tooMany hstatus hbody =>
      cases h with
      | outOfQuota hservice _ hholds => exact hbody hservice hholds
      | _ => omega
  | userLimit hservice hstatus hbody =>
      cases h with
      | forbidden hother _ =>
          subst hservice
          rcases hother with h | h | h <;> cases h
      | withoutUser _ _ hfree => exact hfree hbody
      | _ => omega

theorem Rejects.not_limits (h : s.Rejects r) : ¬ s.Limits r := by
  intro hlimits
  cases hlimits <;> cases h <;> omega

/-! ## Outcomes -/

theorem judged_granted (hstatus : r.status = 200) (hs : s ≠ slack) (hs' : s ≠ paystack)
    (details : Option Details) : s.Judged r (s.acceptedWith details) :=
  .accepted (.granted hstatus (fun h => absurd h hs) fun h => absurd h hs') _

/-- A status that no rule of the service is about. -/
theorem judged_inconclusive (haccepts : ¬ s.Accepts r) (hrejects : ¬ s.Rejects r)
    (huser : r.status = 403 → s ≠ github) : s.Judged r (.error (s.inconclusive r.status)) := by
  by_cases hlimit : r.status = 429
  · rw [inconclusive, if_pos hlimit]
    refine .limited (.tooMany hlimit ?_) _
    intro hs hholds
    exact haccepts (.outOfQuota hs hlimit hholds)
  · have hlimits : ¬ s.Limits r := by
      rintro (⟨hstatus, -⟩ | ⟨hs, hstatus, -⟩)
      · exact hlimit hstatus
      · exact huser hstatus hs
    rw [inconclusive, if_neg hlimit]
    split
    · exact .leftOpen haccepts hrejects hlimits _
    · exact .leftOpen haccepts hrejects hlimits _

/-- Three services go by the status alone. -/
theorem judged_by_status (hs : s = stripe ∨ s = sendgrid ∨ s = gitlab) (details : Option Details)
    (reason : String) : s.Judged r (match r.status with
      | 200 => s.acceptedWith details
      | 403 => s.restricted
      | 401 => .ok (.rejected s.name reason)
      | status => .error (s.inconclusive status)) := by
  split
  · rename_i hstatus
    exact judged_granted hstatus (by grind) (by grind) details
  · rename_i hstatus
    exact .accepted (.forbidden hs hstatus) _
  · rename_i hstatus
    exact .rejected (.unauthorized (by grind) hstatus) reason
  · rename_i h200 h403 h401
    exact judged_inconclusive (by grind [accepts_iff]) (by grind [rejects_iff]) (by grind)

theorem judged_paystack (key : String) (r : HttpResponse) :
    paystack.Judged r (paystack.judge key r) := by
  simp only [judge]
  split
  · rename_i hstatus
    split
    · rename_i reason hread
      have hsays : paystack.Answers false r := answers_paystack_iff.mpr ⟨_, hread, rfl⟩
      exact .rejected (.refused hstatus hsays) _
    · rename_i hread
      have hsilent : ¬ paystack.Answers false r := by
        rw [answers_paystack_iff]
        rintro ⟨⟨b, reason⟩, hv, rfl⟩
        exact hread reason hv
      exact .accepted (.granted hstatus (fun h => by cases h) fun _ => hsilent) _
  · rename_i hstatus
    exact .rejected (.unauthorized (by decide) hstatus) _
  · rename_i h200 h401
    exact judged_inconclusive (by grind [accepts_iff]) (by grind [rejects_iff]) (by grind)

theorem judged_slack (key : String) (r : HttpResponse) : slack.Judged r (slack.judge key r) := by
  simp only [judge]
  by_cases hstatus : r.status = 200
  · rw [if_neg (not_not.mpr hstatus)]
    split
    · rename_i hread
      have hsilent (b : Bool) : ¬ slack.Answers b r := by
        rw [answers_slack_iff, hread]
        rintro ⟨v, hv, -⟩
        cases hv
      refine .leftOpen ?_ ?_ ?_ _
      · grind [accepts_iff]
      · grind [rejects_iff]
      · grind [limits_iff]
    · rename_i reason details hread
      have hsays : slack.Answers true r := answers_slack_iff.mpr ⟨_, hread, rfl⟩
      exact .accepted (.granted hstatus (fun _ => hsays) fun h => by cases h) _
    · rename_i reason details hread
      have hsays : slack.Answers false r := answers_slack_iff.mpr ⟨_, hread, rfl⟩
      exact .rejected (.refused hstatus hsays) _
  · rw [if_pos hstatus]
    exact judged_inconclusive (by grind [accepts_iff]) (by grind [rejects_iff]) (by grind)

theorem judged_github (key : String) (r : HttpResponse) :
    github.Judged r (github.judge key r) := by
  have hholds : r.contains "rate limit" = true ↔ r.Holds "rate limit" :=
    HttpResponse.contains_iff_holds (by decide)
  simp only [judge]
  split
  · rename_i hstatus
    exact judged_granted hstatus (by decide) (by decide) _
  · rename_i hstatus
    exact .rejected (.unauthorized (by decide) hstatus) _
  · rename_i hstatus
    split
    · rename_i hbody
      exact .limited (.userLimit rfl hstatus (hholds.mp hbody)) _
    · rename_i hbody
      exact .accepted (.withoutUser rfl hstatus (mt hholds.mpr hbody)) _
  · rename_i h200 h401 h403
    exact judged_inconclusive (by grind [accepts_iff]) (by grind [rejects_iff]) (by grind)

theorem judged_openai (key : String) (r : HttpResponse) :
    openai.Judged r (openai.judge key r) := by
  have hholds : r.contains "insufficient_quota" = true ↔ r.Holds "insufficient_quota" :=
    HttpResponse.contains_iff_holds (by decide)
  simp only [judge]
  split
  · rename_i hstatus
    exact judged_granted hstatus (by decide) (by decide) _
  · rename_i hstatus
    exact .rejected (.unauthorized (by decide) hstatus) _
  · rename_i hstatus
    split
    · rename_i hbody
      exact .accepted (.outOfQuota rfl hstatus (hholds.mp hbody)) _
    · rename_i hbody
      exact .limited (.tooMany hstatus fun _ => mt hholds.mpr hbody) _
  · rename_i h200 h401 h429
    exact judged_inconclusive (by grind [accepts_iff]) (by grind [rejects_iff]) (by grind)

theorem judged_anthropic (key : String) (r : HttpResponse) :
    anthropic.Judged r (anthropic.judge key r) := by
  have hholds : r.contains "credit balance" = true ↔ r.Holds "credit balance" :=
    HttpResponse.contains_iff_holds (by decide)
  simp only [judge]
  split
  · rename_i hstatus
    exact judged_granted hstatus (by decide) (by decide) _
  · rename_i hstatus
    split
    · rename_i hbody
      exact .accepted (.outOfCredit rfl hstatus (hholds.mp hbody)) _
    · rename_i hbody
      rw [← hstatus]
      exact judged_inconclusive (by grind [accepts_iff]) (by grind [rejects_iff]) (by grind)
  · rename_i hstatus
    exact .rejected (.unauthorized (by decide) hstatus) _
  · rename_i h200 h400 h401
    exact judged_inconclusive (by grind [accepts_iff]) (by grind [rejects_iff]) (by grind)

/-- Every response has an outcome of its kind. -/
theorem judged (s : Service) (key : String) (r : HttpResponse) : s.Judged r (s.judge key r) := by
  cases s with
  | stripe => exact judged_by_status (.inl rfl) _ _
  | paystack => exact judged_paystack key r
  | slack => exact judged_slack key r
  | sendgrid => exact judged_by_status (.inr (.inl rfl)) _ _
  | github => exact judged_github key r
  | gitlab => exact judged_by_status (.inr (.inr rfl)) _ _
  | openai => exact judged_openai key r
  | anthropic => exact judged_anthropic key r

/-! ## Keys that are live -/

namespace Judged

variable {answer : Answer}

theorem gives_true_iff (h : s.Judged r answer) : Gives true answer ↔ s.Accepts r := by
  constructor
  · rintro ⟨v, rfl, hvalid⟩
    cases h with
    | accepted kind _ => exact kind
    | rejected _ _ => cases hvalid
  · intro haccepts
    cases h with
    | accepted _ details => exact ⟨_, rfl, rfl⟩
    | rejected kind _ => exact absurd kind haccepts.not_rejects
    | limited kind _ => exact absurd kind haccepts.not_limits
    | leftOpen accepts _ _ _ => exact absurd haccepts accepts

theorem gives_false_iff (h : s.Judged r answer) : Gives false answer ↔ s.Rejects r := by
  constructor
  · rintro ⟨v, rfl, hvalid⟩
    cases h with
    | accepted _ _ => cases hvalid
    | rejected kind _ => exact kind
  · intro hrejects
    cases h with
    | accepted kind _ => exact absurd hrejects kind.not_rejects
    | rejected _ reason => exact ⟨_, rfl, rfl⟩
    | limited kind _ => exact absurd kind hrejects.not_limits
    | leftOpen _ rejects _ _ => exact absurd hrejects rejects

/-- A rejection has a reason, and no details. -/
theorem eq_rejected (h : s.Judged r answer) (hfalse : Gives false answer) :
    ∃ reason, answer = .ok ⟨false, s.name, some reason, []⟩ := by
  obtain ⟨v, rfl, hvalid⟩ := hfalse
  cases h with
  | accepted _ _ => cases hvalid
  | rejected _ reason => exact ⟨reason, rfl⟩

theorem fails_iff (h : s.Judged r answer) :
    (∃ failure, answer = .error failure) ↔ ¬ s.Accepts r ∧ ¬ s.Rejects r := by
  constructor
  · rintro ⟨failure, rfl⟩
    cases h with
    | limited kind _ => exact ⟨fun h => h.not_limits kind, fun h => h.not_limits kind⟩
    | leftOpen accepts rejects _ _ => exact ⟨accepts, rejects⟩
  · rintro ⟨haccepts, hrejects⟩
    cases h with
    | accepted kind _ => exact absurd kind haccepts
    | rejected kind _ => exact absurd kind hrejects
    | limited _ detail => exact ⟨_, rfl⟩
    | leftOpen _ _ _ detail => exact ⟨_, rfl⟩

theorem rateLimit_iff (h : s.Judged r answer) :
    (∃ detail, answer = .error (.rateLimit detail)) ↔ s.Limits r := by
  constructor
  · rintro ⟨detail, rfl⟩
    cases h with
    | limited kind _ => exact kind
  · intro hlimits
    cases h with
    | accepted kind _ => exact absurd hlimits kind.not_limits
    | rejected kind _ => exact absurd hlimits kind.not_limits
    | limited _ detail => exact ⟨detail, rfl⟩
    | leftOpen _ _ limits _ => exact absurd hlimits limits

end Judged

/-- Whatever the response is, a key counts as live just if it is one by which the service accepts
keys, and as dead just if it is one by which the service rejects them, with a reason then and
without details. All other responses are failures, told to be limits just if they are. With status
200, no body keeps a key from being live that has been sent to a service which does not give its
verdict there. -/
theorem only_accepted_keys_are_live {m : Type → Type} [Monad m] [LawfulMonad m] (s : Service)
    (base key : String) (r : HttpResponse) :
    let transport : Transport m := fun _ => pure (.ok r)
    ∃ answer, s.verify transport base key = pure answer ∧
      (Gives true answer ↔ s.Accepts r) ∧
      (Gives false answer ↔ s.Rejects r) ∧
      (Gives false answer → ∃ reason, answer = .ok ⟨false, s.name, some reason, []⟩) ∧
      ((∃ failure, answer = .error failure) ↔ ¬ s.Accepts r ∧ ¬ s.Rejects r) ∧
      ((∃ detail, answer = .error (.rateLimit detail)) ↔ s.Limits r) ∧
      (s ≠ slack → s ≠ paystack → r.status = 200 → Gives true answer) := by
  intro transport
  have hjudged := judged s key r
  refine ⟨s.judge key r, verify_eq s base key r, hjudged.gives_true_iff, hjudged.gives_false_iff,
    hjudged.eq_rejected, hjudged.fails_iff, hjudged.rateLimit_iff, ?_⟩
  intro hslack hpaystack hstatus
  rw [hjudged.gives_true_iff]
  exact .granted hstatus (fun h => absurd h hslack) fun h => absurd h hpaystack

/-- Too many requests, for want of quota. -/
def outOfQuota : HttpResponse :=
  ⟨429, Text.Utf8.encode "\x7b\"code\":\"insufficient_quota\"\x7d".toList⟩

/-- No key. -/
def unauthorized : HttpResponse := ⟨401, []⟩

/-- A key without quota is live for the service that tells so, and has been asked about too often
for another one. A missing authorization makes a key dead, but not one of Slack's. A page makes it
live. -/
theorem exhausted_quota_is_told_apart :
    let asked (s : Service) (r : HttpResponse) : Answer :=
      (s.verify (m := Id) (fun _ => pure (.ok r)) s.baseUrl "key").run
    Gives true (asked openai outOfQuota) ∧
      (∃ detail, asked sendgrid outOfQuota = .error (.rateLimit detail)) ∧
      (∃ reason, asked stripe unauthorized = .ok ⟨false, "stripe", some reason, []⟩) ∧
      (∃ failure, asked slack unauthorized = .error failure) ∧
      Gives true (asked stripe page) := by
  intro asked
  have hholds : outOfQuota.Holds "insufficient_quota" := by decide +kernel
  obtain ⟨a, ha, hlive, -⟩ :=
    only_accepted_keys_are_live (m := Id) openai openai.baseUrl "key" outOfQuota
  obtain ⟨b, hb, -, -, -, -, hlimited, -⟩ :=
    only_accepted_keys_are_live (m := Id) sendgrid sendgrid.baseUrl "key" outOfQuota
  obtain ⟨c, hc, -, hdead, hreason, -⟩ :=
    only_accepted_keys_are_live (m := Id) stripe stripe.baseUrl "key" unauthorized
  obtain ⟨d, hd, -, -, -, hfails, -⟩ :=
    only_accepted_keys_are_live (m := Id) slack slack.baseUrl "key" unauthorized
  obtain ⟨e, he, -, -, -, -, -, hpage⟩ :=
    only_accepted_keys_are_live (m := Id) stripe stripe.baseUrl "key" page
  obtain rfl : asked openai outOfQuota = a := ha
  obtain rfl : asked sendgrid outOfQuota = b := hb
  obtain rfl : asked stripe unauthorized = c := hc
  obtain rfl : asked slack unauthorized = d := hd
  obtain rfl : asked stripe page = e := he
  refine ⟨hlive.mpr (.outOfQuota rfl rfl hholds), hlimited.mpr (.tooMany rfl nofun),
    hreason (hdead.mpr (.unauthorized (by decide) rfl)), hfails.mpr ⟨?_, ?_⟩,
    hpage (by decide) (by decide) rfl⟩
  · rintro (⟨⟨⟩, -⟩ | ⟨-, ⟨⟩⟩ | ⟨⟨⟩, -⟩ | ⟨⟨⟩, -⟩ | ⟨⟨⟩, -⟩)
  · rintro (⟨hservice, -⟩ | ⟨⟨⟩, -⟩)
    exact hservice rfl

end Service

end SecretScan

import SecretScan.Service.Verdict
import SecretScan.Service.Http
import SecretScan.Text.Lowercase

/-!
# Services that verify keys

Each service has one request that tells whether it accepts a key, and rules by which its response
is judged. A response that is neither acceptance nor rejection leaves the question open, which is
a failure. At status 200 most services accept whatever the body says; only two give their verdict
in the body.
-/

namespace SecretScan

/-- A service that can verify the keys it has issued. -/
inductive Service where
  | stripe
  | paystack
  | slack
  | sendgrid
  | github
  | gitlab
  | openai
  | anthropic
  deriving DecidableEq, Repr

namespace Service

/-- Every service. -/
def all : List Service :=
  [stripe, paystack, slack, sendgrid, github, gitlab, openai, anthropic]

/-- The name of a service, which is also the name of the detector of its keys. -/
def name : Service → String
  | stripe => "stripe"
  | paystack => "paystack"
  | slack => "slack"
  | sendgrid => "sendgrid"
  | github => "github"
  | gitlab => "gitlab"
  | openai => "openai"
  | anthropic => "anthropic"

/-- How the service calls itself in messages. -/
def title : Service → String
  | stripe => "Stripe"
  | paystack => "Paystack"
  | slack => "Slack"
  | sendgrid => "SendGrid"
  | github => "GitHub"
  | gitlab => "GitLab"
  | openai => "OpenAI"
  | anthropic => "Anthropic"

/-- The service of that name, in any case. -/
def named? (name : String) : Option Service :=
  all.find? fun s => s.name == Text.lowered name

/-- Where the service is reached. -/
def baseUrl : Service → String
  | stripe => "https://api.stripe.com"
  | paystack => "https://api.paystack.co"
  | slack => "https://slack.com"
  | sendgrid => "https://api.sendgrid.com"
  | github => "https://api.github.com"
  | gitlab => "https://gitlab.com"
  | openai => "https://api.openai.com"
  | anthropic => "https://api.anthropic.com"

/-- The path of the request. -/
def path : Service → String
  | stripe => "/v1/balance"
  | paystack => "/balance"
  | slack => "/api/auth.test"
  | sendgrid => "/v3/scopes"
  | github => "/user"
  | gitlab => "/api/v4/personal_access_tokens/self"
  | openai => "/v1/models"
  | anthropic => "/v1/models"

/-- The header that carries a key as a bearer token. -/
def bearer (key : String) : String × String := ("Authorization", "Bearer " ++ key)

/-- The headers of the request, the key in one of them. -/
def headers (s : Service) (key : String) : List (String × String) :=
  match s with
  | slack => [bearer key, ("Content-Type", "application/x-www-form-urlencoded")]
  | github => [bearer key, ("User-Agent", "leak-hunter"), ("Accept", "application/vnd.github+json")]
  | gitlab => [("PRIVATE-TOKEN", key)]
  | anthropic => [("x-api-key", key), ("anthropic-version", "2023-06-01")]
  | _ => [bearer key]

/-- The request that asks about a key, at a base address without slashes at its end. -/
def request (s : Service) (base key : String) : HttpRequest :=
  { url := String.ofList (base.toList.reverse.dropWhile (· == '/')).reverse ++ s.path
    headers := s.headers key }

/-! ## Bodies -/

/-- What Stripe tells about an account: whether it is live, and the currencies available. -/
def stripeDetails? : Decoder Details := fun d => do
  match ← d.slots? [["available"], ["livemode"]] with
  | [available, livemode] =>
    let available ← available.optional (Document.list? currency?)
    let livemode ← livemode.optional Document.bool?
    return Details.override (match livemode with | some b => [("livemode", .bool b)] | none => [])
      (match available with | some (c :: _) => [("currency", .str c)] | _ => [])
  | _ => none
where
  currency? : Decoder String := fun d => do
    match ← d.slots? [["currency"]] with
    | [currency] => currency.required Document.string?
    | _ => none

/-- Paystack's verdict, with its reason. -/
def paystackVerdict? : Decoder (Bool × Option String) := fun d => do
  match ← d.slots? [["status"], ["message"]] with
  | [status, message] =>
    return (← status.required Document.bool?, ← message.optional Document.string?)
  | _ => none

/-- Slack's verdict: whether the key is accepted, the reason if not, and details of the account. -/
def slackVerdict? : Decoder (Bool × Option String × Details) := fun d => do
  match ← d.slots? [["ok"], ["error"], ["team"], ["user"], ["team_id"]] with
  | [ok, error, team, user, teamId] =>
    let ok ← ok.required Document.bool?
    let error ← error.optional Document.string?
    let team ← team.optional Document.string?
    let user ← user.optional Document.string?
    let teamId ← teamId.optional Document.string?
    let details := [("team", team), ("user", user), ("team_id", teamId)].filterMap
      fun (n, v) => v.map fun s => (n, Json.str s)
    return (ok, error, Json.sortedMembers details)
  | _ => none

/-- How many scopes SendGrid lists for a key. -/
def sendgridDetails? : Decoder Details := fun d => do
  match ← d.slots? [["scopes"]] with
  | [scopes] =>
    let scopes ← scopes.required (Document.list? Document.string?)
    return [("scope_count", .int scopes.length)]
  | _ => none

/-- The user that GitHub names. -/
def githubDetails? : Decoder Details := fun d => do
  match ← d.slots? [["login"], ["id"], ["type"]] with
  | [login, id, type] =>
    let login ← login.required Document.string?
    let id ← id.required Document.nat64?
    let type ← type.optional Document.string?
    return Json.sortedMembers ([("login", .str login), ("user_id", .int id)] ++
      (match type with | some t => [("type", .str t)] | none => []))
  | _ => none

/-- The name and the scopes of a GitLab token. -/
def gitlabDetails? : Decoder Details := fun d => do
  match ← d.slots? [["name"], ["scopes"]] with
  | [name, scopes] =>
    let name ← name.optional Document.string?
    let scopes ← scopes.defaulted (Document.list? Document.string?) []
    return Json.sortedMembers ((match name with | some n => [("name", .str n)] | none => []) ++
      [("scopes", .str (Text.joined "," scopes))])
  | _ => none

/-- How many models OpenAI lists. -/
def openaiDetails? : Decoder Details := fun d => do
  match ← d.slots? [["data"]] with
  | [data] =>
    let models ← data.required (Document.list? Document.toJson?)
    return [("model_count", .int models.length)]
  | _ => none

/-- How many models Anthropic lists, and the first of them. -/
def anthropicDetails? : Decoder Details := fun d => do
  match ← d.slots? [["data"]] with
  | [data] =>
    let models ← data.optional (Document.list? id?)
    return match models with
      | none => []
      | some ids => [("model_count", Json.int ids.length)] ++
          (match ids with | id :: _ => [("sample_model", .str id)] | [] => [])
  | _ => none
where
  id? : Decoder String := fun d => do
    match ← d.slots? [["id"]] with
    | [id] => id.required Document.string?
    | _ => none

/-! ## Judging responses -/

/-- The failure of a response that is neither acceptance nor rejection. -/
def inconclusive (s : Service) (status : Nat) : Failure :=
  if status = 429 then .rateLimit (s.title ++ " API rate limit exceeded")
  else if 500 ≤ status then
    .validation (s.title ++ " API server error: HTTP " ++ Decimal.ofNat status)
  else .validation (s.title ++ " API returned HTTP " ++ Decimal.ofNat status)

/-- Acceptance with the details that the body gives, none if it cannot be read. -/
def acceptedWith (s : Service) (details : Option Details) : Except Failure Verdict :=
  .ok (.accepted s.name (details.getD []))

/-- Acceptance of a key that may do less than its request asked for. -/
def restricted (s : Service) : Except Failure Verdict :=
  .ok (.accepted s.name [("restricted", .bool true)])

/-- Judges the response to the request about a key. -/
def judge (s : Service) (key : String) (r : HttpResponse) : Except Failure Verdict :=
  match s with
  | stripe =>
    match r.status with
    | 200 => s.acceptedWith (r.decode? stripeDetails?)
    | 403 => s.restricted
    | 401 => .ok (.rejected s.name "Unauthorized - key is invalid or revoked")
    | status => .error (s.inconclusive status)
  | paystack =>
    match r.status with
    | 200 =>
      match r.decode? paystackVerdict? with
      | some (false, reason) => .ok (.rejected s.name (reason.getD "rejected"))
      | _ => s.acceptedWith (some [("live", .bool (Text.startsWith "sk_live_".toList key.toList))])
    | 401 => .ok (.rejected s.name "Invalid key")
    | status => .error (s.inconclusive status)
  | slack =>
    if r.status ≠ 200 then .error (s.inconclusive r.status)
    else
      match r.decode? slackVerdict? with
      | none => .error (.validation "Failed to parse Slack API response")
      | some (true, _, details) => s.acceptedWith (some details)
      | some (false, reason, _) => .ok (.rejected s.name (reason.getD "invalid_auth"))
  | sendgrid =>
    match r.status with
    | 200 => s.acceptedWith (r.decode? sendgridDetails?)
    | 403 => s.restricted
    | 401 => .ok (.rejected s.name "Unauthorized")
    | status => .error (s.inconclusive status)
  | github =>
    match r.status with
    | 200 => s.acceptedWith (r.decode? githubDetails?)
    | 401 => .ok (.rejected s.name "Unauthorized - token is invalid or revoked")
    | 403 =>
      if r.contains "rate limit" then .error (.rateLimit "GitHub API rate limit exceeded")
      else s.restricted
    | status => .error (s.inconclusive status)
  | gitlab =>
    match r.status with
    | 200 => s.acceptedWith (r.decode? gitlabDetails?)
    | 403 => s.restricted
    | 401 => .ok (.rejected s.name "Unauthorized")
    | status => .error (s.inconclusive status)
  | openai =>
    match r.status with
    | 200 => s.acceptedWith (r.decode? openaiDetails?)
    | 401 => .ok (.rejected s.name "Unauthorized - key is invalid or revoked")
    | 429 =>
      if r.contains "insufficient_quota" then
        s.acceptedWith (some [("billing", .str "insufficient_quota")])
      else .error (s.inconclusive 429)
    | status => .error (s.inconclusive status)
  | anthropic =>
    match r.status with
    | 200 => s.acceptedWith (r.decode? anthropicDetails?)
    | 400 =>
      if r.contains "credit balance" then
        s.acceptedWith (some [("billing", .str "credit_balance_too_low")])
      else .error (s.inconclusive 400)
    | 401 => .ok (.rejected s.name "invalid x-api-key")
    | status => .error (s.inconclusive status)

/-- Asks the service about a key: one request, and its response judged. -/
def verify {m : Type → Type} [Monad m] (s : Service) (transport : Transport m) (base key : String) :
    m (Except Failure Verdict) := do
  match ← transport (s.request base key) with
  | .ok response => return s.judge key response
  | .error failure => return .error failure

end Service

/-- A way to ask services about keys. -/
abbrev Inquiry (m : Type → Type) := Service → String → m (Except Failure Verdict)

/-- Asks each service at its own address. -/
def Inquiry.over {m : Type → Type} [Monad m] (transport : Transport m) : Inquiry m :=
  fun s key => s.verify transport s.baseUrl key

end SecretScan

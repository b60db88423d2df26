import SecretScan.Detector.Annotation

/-!
# Built-in detectors

The descriptions of the built-in detectors, in the order in which they are numbered.
-/

namespace SecretScan.Spec

/-- Stripe secret and restricted keys. -/
def stripe : Spec where
  name := "stripe"
  keywords := ["sk_live_", "rk_live_"]
  pattern := r"\b((?:sk|rk)_live_[0-9a-zA-Z]{24})\b"

/-- Paystack secret keys. -/
def paystack : Spec where
  name := "paystack"
  keywords := ["sk_live_", "sk_test_"]
  pattern := r"\b(sk_(?:live|test)_[a-z0-9]{40})\b"

/-- Slack tokens. -/
def slack : Spec where
  name := "slack"
  keywords := ["xoxb-", "xoxp-", "xoxa-", "xoxr-", "xoxs-"]
  pattern := r"\b(xox[baprs]-[0-9a-zA-Z-]{10,72})"

/-- Addresses of Slack webhooks. -/
def slackWebhook : Spec where
  name := "slack_webhook"
  keywords := ["hooks.slack.com"]
  pattern :=
    r"(https://hooks\.slack\.com/services/T[A-Za-z0-9_]{8,12}/B[A-Za-z0-9_]{8,12}/[A-Za-z0-9_]{24})"

/-- SendGrid keys. -/
def sendgrid : Spec where
  name := "sendgrid"
  keywords := ["SG."]
  pattern := r"\b(SG\.[A-Za-z0-9_-]{22}\.[A-Za-z0-9_-]{43})"

/-- Twilio keys, with the account they belong to. -/
def twilio : Spec where
  name := "twilio"
  keywords := ["twilio"]
  pattern := r"\b(SK[0-9a-fA-F]{32})\b"
  second := some ⟨"account_sid", r"\b(AC[0-9a-f]{32})\b", false⟩

/-- GitHub tokens of every kind. -/
def github : Spec where
  name := "github"
  keywords := ["ghp_", "gho_", "ghu_", "ghs_", "ghr_", "github_pat_"]
  pattern := r"\b((?:ghp|gho|ghu|ghs|ghr)_[A-Za-z0-9]{36}|github_pat_[A-Za-z0-9_]{82})\b"
  annotation := some .tokenKind

/-- GitLab personal access tokens. -/
def gitlab : Spec where
  name := "gitlab"
  keywords := ["glpat-"]
  pattern := r"\b(glpat-[A-Za-z0-9_-]{20,})"

/-- AWS access key ids, with the secret key that belongs to them. -/
def aws : Spec where
  name := "aws"
  keywords := ["AKIA", "ASIA"]
  pattern := r"\b((?:AKIA|ASIA)[0-9A-Z]{16})\b"
  second := some ⟨"secret",
    r#"(?i)aws.{0,20}?(?:secret|key).{0,20}?['"=:\s]([A-Za-z0-9/+]{40})(?:[^A-Za-z0-9/+]|$)"#,
      false⟩
  falsePositives := ["EXAMPLE"]

/-- Google API keys. -/
def googleApiKey : Spec where
  name := "google_api_key"
  keywords := ["AIza"]
  pattern := r"\b(AIza[0-9A-Za-z_-]{35})"
  minEntropy := some 3.0

/-- OpenAI keys. -/
def openai : Spec where
  name := "openai"
  keywords := ["sk-proj-", "sk-svcacct-", "T3BlbkFJ"]
  pattern := r"\b(sk-(?:(?:proj|svcacct|admin)-)?[A-Za-z0-9_-]{20,}T3BlbkFJ[A-Za-z0-9_-]{20,})"

/-- Anthropic keys. -/
def anthropic : Spec where
  name := "anthropic"
  keywords := ["sk-ant-"]
  pattern := r"\b(sk-ant-(?:api|admin)\d{2}-[A-Za-z0-9_-]{80,120})"

/-- Addresses of databases that hold a password. -/
def databaseUrl : Spec where
  name := "database_url"
  keywords :=
    ["postgres://", "postgresql://", "mysql://", "mongodb://", "mongodb+srv://", "redis://"]
  pattern :=
    r#"\b((?:postgres(?:ql)?|mysql|mongodb(?:\+srv)?|redis)://[^\s:@/'"]+:[^\s:@/'"]+@[^\s'"<>]+)"#
  falsePositives :=
    ["localhost", "127.0.0.1", "example", "test", "user:password", "username:password"]
  annotation := some .scheme

/-- Headers of private keys. -/
def privateKey : Spec where
  name := "private_key"
  keywords := ["-----BEGIN"]
  pattern :=
    r"(-----BEGIN (?:RSA |DSA |EC |OPENSSH |PGP |ENCRYPTED )?PRIVATE KEY(?: BLOCK)?-----)"

/-- Every built-in detector, in order. -/
def builtin : List Spec :=
  [stripe, paystack, slack, slackWebhook, sendgrid, twilio, github, gitlab, aws, googleApiKey,
   openai, anthropic, databaseUrl, privateKey]

end SecretScan.Spec

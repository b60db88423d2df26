import SecretScan.Detector.Spec

/-!
# Details that follow from a value

What the value of a hit tells about itself.
-/

namespace SecretScan

/-- The kind of a GitHub token. -/
inductive TokenKind where
  | fineGrained
  | classic
  | oauth
  | userToServer
  | serverToServer
  | refresh
  | unknown
  deriving DecidableEq, Repr

namespace TokenKind

/-- The name of a kind. -/
def name : TokenKind → String
  | fineGrained => "fine_grained"
  | classic => "classic"
  | oauth => "oauth"
  | userToServer => "user_to_server"
  | serverToServer => "server_to_server"
  | refresh => "refresh"
  | unknown => "unknown"

/-- The kind of a token, from the characters it begins with. -/
def ofToken (token : List Char) : TokenKind :=
  match token with
  | 'g' :: 'i' :: 't' :: 'h' :: 'u' :: 'b' :: '_' :: 'p' :: 'a' :: 't' :: '_' :: _ => fineGrained
  | 'g' :: 'h' :: 'p' :: '_' :: _ => classic
  | 'g' :: 'h' :: 'o' :: '_' :: _ => oauth
  | 'g' :: 'h' :: 'u' :: '_' :: _ => userToServer
  | 'g' :: 'h' :: 's' :: '_' :: _ => serverToServer
  | 'g' :: 'h' :: 'r' :: '_' :: _ => refresh
  | _ => unknown

end TokenKind

namespace Annotation

/-- The part of an address before `://`, or all of it. -/
def schemeOf (url : List Char) : List Char :=
  loop url []
where
  loop : List Char → List Char → List Char
    | ':' :: '/' :: '/' :: _, taken => taken.reverse
    | c :: rest, taken => loop rest (c :: taken)
    | [], taken => taken.reverse

/-- The kind of a GitHub token, from the letters it begins with. -/
def tokenKind : Annotation where
  details token := [("token_kind", .str (TokenKind.ofToken token).name)]
  inOrder _ := List.pairwise_singleton _ _

/-- The scheme of an address. -/
def scheme : Annotation where
  details url := [("scheme", .str (String.ofList (schemeOf url)))]
  inOrder _ := List.pairwise_singleton _ _

end Annotation

end SecretScan
